import Provisioning.Main
import Provisioning.Target.Bare
import Provisioning.World.Script
import Provisioning.Proofs.Lines
import Provisioning.Proofs.Refusable
import Provisioning.Proofs.Plan
import Provisioning.Proofs.Visits
import Provisioning.Proofs.Ending
import Provisioning.Proofs.FailFast
import Provisioning.Proofs.Lifecycle
import Provisioning.Proofs.Soundness
import Provisioning.Proofs.Settling
import Provisioning.Proofs.Directories
import Provisioning.Proofs.Invocation
import Provisioning.Proofs.ProjectDirectory
import Provisioning.Proofs.Reporting
import Provisioning.Proofs.ShellWords
import Provisioning.Proofs.Exchanges
import Provisioning.Proofs.Bodies
import Provisioning.Proofs.Interruption
import Provisioning.Proofs.Undertaking
import Provisioning.Proofs.Commencing
import Provisioning.Proofs.ExitCodes
import Provisioning.Proofs.InterruptedCommands
import Provisioning.Proofs.LoadFaults
import Provisioning.Proofs.Wrapping
import Provisioning.Proofs.TraceLaws
import Provisioning.Proofs.TargetCalls
import Provisioning.Proofs.Booting
import Provisioning.Proofs.Reachability
import Provisioning.Proofs.Recipes
import Provisioning.Proofs.Overt
import Provisioning.Proofs.Forecast
import Provisioning.Proofs.Rewording
import Provisioning.Proofs.Mirroring
import Provisioning.Proofs.Debugging
import Provisioning.Proofs.ReportingOptions
import Provisioning.Proofs.Errands
import Provisioning.Proofs.Courses
import Provisioning.Proofs.FailurePoints
import Provisioning.Proofs.Blame
import Provisioning.Proofs.SideBySide
import Provisioning.Proofs.Correspondence
import Provisioning.Proofs.PrivilegeErasure
import Provisioning.Proofs.Rebuilding
import Provisioning.Proofs.RecipeDecoding
import Provisioning.Proofs.Reinstallation
import Provisioning.Proofs.Connection
import Provisioning.Proofs.StatusRecords
import Provisioning.Proofs.Paths
import Provisioning.Proofs.BuildCommand
import Provisioning.Proofs.Echoing
import Provisioning.Proofs.Cutting
import Provisioning.Proofs.SmoothRuns
import Provisioning.Proofs.BuiltinRun
import Provisioning.Proofs.Offences
import Provisioning.Proofs.Loading
import Provisioning.Proofs.Walking
import Provisioning.Proofs.Candidates
import Provisioning.Proofs.HomeMarks
import Provisioning.Proofs.WordEndings
import Provisioning.Proofs.Collisions
import Provisioning.Proofs.TerminalReport
import Provisioning.Proofs.FailureTexts
import Provisioning.Proofs.Utterances
import Provisioning.Proofs.SubstepOrder
import Provisioning.Proofs.Bracketing
import Provisioning.Proofs.Searching
import Provisioning.Proofs.Merging
import Provisioning.Proofs.Arranging
import Provisioning.Proofs.Clashes
import Provisioning.Proofs.SortedEntries
import Provisioning.Proofs.Freezing
import Provisioning.Proofs.StepData
import Provisioning.Proofs.Canonical
