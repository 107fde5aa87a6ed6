import Provisioning.CommandLine
import Provisioning.Proofs.Exchanges
import Provisioning.Proofs.Visiting

/-!
What the command `run` hands over. All its lines come from visits to the steps that it was
supplied with, in the target that its options choose; selecting and booting a target, loading a
file and reporting add none.
-/
namespace Provisioning.CommandLine

open Activity

variable {σ : Type}

def farewell : Except Fault Int → List Event
  | .error (.interrupted _) => [.err "\nAborted!\n"]
  | .error (.exiting request) => parting request
  | _ => []

def concluded : Except Fault Int → Except Fault Int
  | .error (.interrupted _) => .ok 1
  | .error (.exiting request) => .ok request.status
  | ended => ended

theorem farewell_of_exception {f : Fault} (h : f.isException = true) :
    farewell (.error f) = [] := by
  cases f with
  | interrupted | exiting => cases h
  | _ => rfl

theorem concluded_of_exception {f : Fault} (h : f.isException = true) :
    concluded (.error f) = .error f := by
  cases f with
  | interrupted | exiting => cases h
  | _ => rfl

theorem depart_apply (f : Fault) (s : σ) :
    (depart f : Activity Event σ Int) s = ⟨farewell (.error f), concluded (.error f), s⟩ := by
  cases f with
  | exiting request => simp [depart, record_bind_apply, farewell, concluded]
  | _ => rfl

theorem execute_apply (u : Surroundings) (w : World σ) (arguments : List String) (s : σ) :
    execute u w arguments s =
      ⟨(dispatch u w arguments s).trace ++ farewell (dispatch u w arguments s).answer,
        concluded (dispatch u w arguments s).answer, (dispatch u w arguments s).after⟩ := by
  unfold execute
  rw [attempt_bind_apply]
  cases (dispatch u w arguments s).answer with
  | ok code => rfl
  | error f => simp only [depart_apply]

theorem written_parting (request : ExitRequest) : Written (parting request) := by
  cases request <;> simp [Written, parting, Event.errLine, Event.isText]

theorem written_farewell (ended : Except Fault Int) : Written (farewell ended) := by
  unfold farewell
  split
  · simp [Written, Event.isText]
  · exact written_parting _
  · exact .nil

/-- The arguments call a command by its name, and its own arguments are accepted. -/
def Invokes (specs : List OptionSpec) (name : String) (arguments : List String) (c : Console)
    (g : Given) : Prop :=
  ∃ p rest, parse [debugOption, helpOption] false arguments = .ok p ∧
    p.given.has helpOption.long = false ∧ p.rest = name :: rest ∧
    c = { debug := p.given.on debugOption.long false } ∧ readCommand specs rest = .accepted g

theorem invokes_of_plain {specs : List OptionSpec} {name : String} {rest : List String} {g : Given}
    (plain : Argument.classify name = .plain name)
    (accepted : readCommand specs rest = .accepted g) :
    Invokes specs name (name :: rest) {} g :=
  ⟨⟨[], name :: rest⟩, rest, by simp [parse, plain], rfl, rfl, rfl, accepted⟩

section Invokes

variable {u : Surroundings} {w : World σ} {c : Console} {name : String} {spec : CommandSpec}
  {action : Given → Activity Event σ Int} {arguments : List String} {g : Given}

theorem not_isEmpty_of_parsed {p : Parsed} {rest : List String}
    (parsed : parse [debugOption, helpOption] false arguments = .ok p)
    (hrest : p.rest = name :: rest) : arguments.isEmpty = false := by
  cases arguments with
  | nil =>
    obtain rfl := Except.ok.inj parsed
    cases hrest
  | cons => rfl

variable (u w c name) in
def called (arguments : List String) : Activity Event σ Int :=
  match command? u w c name with
  | some (spec, action) => runNamed spec action arguments
  | none => unknownCommand u name arguments

variable (u w) in
theorem dispatch_of_parsed {p : Parsed} {rest : List String}
    (parsed : parse [debugOption, helpOption] false arguments = .ok p)
    (hrest : p.rest = name :: rest) :
    dispatch u w arguments =
      if p.given.has helpOption.long then printText (groupHelp u.settings)
      else called u w { debug := p.given.on debugOption.long false } name rest := by
  have given := not_isEmpty_of_parsed parsed hrest
  simp only [dispatch, given, Bool.false_eq_true, if_false, parsed, hrest]
  rfl

theorem called_of_known (known : command? u w c name = some (spec, action)) (rest : List String) :
    called u w c name rest = runNamed spec action rest := by
  simp [called, known]

theorem dispatch_of_invokes (known : command? u w c name = some (spec, action))
    (invokes : Invokes spec.options name arguments c g) : dispatch u w arguments = action g := by
  obtain ⟨p, rest, hp, help, hrest, rfl, accepted⟩ := invokes
  simp [dispatch_of_parsed u w hp hrest, help, called_of_known known, runNamed, accepted]

theorem lines_execute_of_invokes
    (known : command? u w c name = some (spec, action))
    (invokes : Invokes spec.options name arguments c g) (s : σ) :
    lines (execute u w arguments s).trace = lines (action g s).trace := by
  rw [execute_apply, dispatch_of_invokes known invokes, lines_append,
    (written_farewell _).lines_eq, List.append_nil]

end Invokes

theorem follows_handle (c : Console) (f : Fault) :
    Follows (handle c f : Activity Event σ Int) [] := by
  unfold handle
  split
  · exact (follows_record (lines_error _ _ _ _)).bind_quiet fun _ => follows_pure 3
  · exact (follows_record (lines_fault c _ _)).bind_quiet fun _ => follows_pure 1

theorem lines_guarded (c : Console) (expects : Fault → Bool) (x : Activity Event σ Int) (s : σ) :
    lines (guarded c expects x s).trace = lines (x s).trace := by
  refine lines_attempt_bind (fun answer => ?_) s
  cases answer with
  | ok code => exact follows_pure code
  | error f =>
    dsimp only
    split
    · exact (follows_record (lines_info _)).bind_quiet fun _ => follows_pure 130
    · split
      · exact follows_handle c f
      · exact follows_fail f []

section Run

variable (u : Surroundings) (w : World σ) (c : Console)

def builtinOptions (g : Given) (t : Target σ) : Recipe.PipelineOptions where
  projectPath := t.workdir
  installerUrl := .text ((g.text? "--installer-url").getD u.settings.installerUrl)
  skipToolchain := .bool (g.on "--skip-toolchain" false)
  withExample := .bool (g.on "--install-example" false)

def Provides (path : Option Path) (o : Recipe.PipelineOptions) (steps : List Step) : Prop :=
  match path with
  | some p => PipelineFile.loadPath u.files u.place p = .ok steps
  | none => Recipe.builtin u.settings o = .ok steps

def Finds (g : Given) (path : Option Path) : Prop :=
  Discovery.find u.files u.place (g.text? "--pipeline") =
    .ok (match path with
      | some p => .file p
      | none => .builtin)

def VisitsSupplied (g : Given) (chosen : Chosen σ) (v : Visit σ) : Prop :=
  chooseTarget u w (.ofGiven u.settings g) = .ok chosen ∧
    ∃ path steps, Finds u g path ∧ Provides u path (builtinOptions u g chosen.target) steps ∧
      v.step ∈ steps ∧ ∃ s, v.report = v.step.perform u.settings c chosen.target s

section Visiting

variable {Q : Visit σ → Prop}

theorem visiting_withPipelineFile (spec : CommandSpec) (g : Given) (builtinOnly : List String)
    {proceed : Option Path → Activity Event σ Int}
    (proceeds : ∀ path, Finds u g path → (proceed path).Visiting Q) :
    (withPipelineFile u spec g builtinOnly proceed).Visiting Q := by
  refine leaves_require (fun found hfound => ?_) fun _ _ => ⟨[], by simp, rfl⟩
  cases found with
  | builtin => exact proceeds none hfound
  | missing asked =>
    exact ((follows_record (lines_error _ _ _ _)).bind_quiet fun _ => follows_pure 1).visits_nothing
  | ambiguous paths =>
    exact ((follows_record (lines_error _ _ _ _)).bind_quiet fun _ => follows_pure 1).visits_nothing
  | file path =>
    dsimp only
    split
    · exact proceeds (some path) hfound
    · exact ((follows_record rfl).bind_quiet fun _ => follows_pure 2).visits_nothing

end Visiting

theorem follows_prepareTarget (o : TargetChoice) : Follows (prepareTarget u w o) [] := by
  unfold prepareTarget
  cases hchosen : chooseTarget u w o with
  | error cause => exact follows_fail _ []
  | ok chosen =>
    rw [require_bind_of_ok rfl]
    dsimp only
    split
    · split
      · refine (follows_record (lines_info _)).bind_quiet fun _ => ?_
        exact (follows_exchanges _).bind_quiet fun _ => follows_pure chosen.target
      · exact follows_pure chosen.target
    · exact follows_pure chosen.target

theorem ensures_prepareTarget (o : TargetChoice) :
    (prepareTarget u w o).Ensures
      (fun t => ∃ chosen, chooseTarget u w o = .ok chosen ∧ t = chosen.target) fun _ => True := by
  refine leaves_require (fun chosen hchosen => ?_) fun _ _ => trivial
  have ends : (pure chosen.target : Activity Event σ (Target σ)).Ensures
      (fun t => ∃ chosen, chooseTarget u w o = .ok chosen ∧ t = chosen.target) fun _ => True :=
    ensures_pure ⟨chosen, hchosen, rfl⟩
  dsimp only
  split
  · split
    · exact (ensures_record _).bind fun _ _ => (ensures_trivial _).bind fun _ _ => ends
    · exact ends
  · exact ends

theorem visiting_executeSteps (t : Target σ) (steps : List Step) (name : String)
    (printPlan : Bool) :
    (executeSteps u c t steps name printPlan).Visiting fun v =>
      v.step ∈ steps ∧ ∃ s, v.report = v.step.perform u.settings c t s := by
  intro s
  cases made : Pipeline.make (steps.map .step) with
  | error cause =>
    unfold executeSteps
    rw [require_bind_of_error made]
    exact ⟨[], by simp, rfl⟩
  | ok p =>
    have hsteps : p.steps = steps := Pipeline.steps_of_make made
    rw [lines_executeSteps made, ← hsteps]
    exact p.visiting_execute u.settings c t s

theorem follows_stepsAndName (path : Option Path) (o : Recipe.PipelineOptions) :
    Follows (stepsAndName u path o : Activity Event σ _) [] := by
  cases path with
  | some p => exact (follows_conclude _).bind_quiet fun _ => follows_pure _
  | none =>
    unfold stepsAndName
    cases hmade : Recipe.builtin u.settings o with
    | error cause => exact follows_fail _ []
    | ok steps => exact follows_pure _

theorem ensures_stepsAndName (path : Option Path) (o : Recipe.PipelineOptions) :
    (stepsAndName u path o : Activity Event σ _).Ensures (fun r => Provides u path o r.1)
      fun _ => True := by
  cases path with
  | some p => exact leaves_conclude (fun steps hloaded => ensures_pure hloaded) fun _ _ => trivial
  | none => exact leaves_require (fun steps hmade => ensures_pure hmade) fun _ _ => trivial

theorem visiting_run (g : Given) :
    (run u w c g).Visiting fun v => ∃ chosen, VisitsSupplied u w c g chosen v := by
  refine visiting_withPipelineFile u _ g _ fun path found => ?_
  refine Visiting.of_lines ?_ (lines_guarded c _ _)
  refine (follows_prepareTarget u w _).visits_nothing.bind (ensures_prepareTarget u w _) ?_
  intro t ht
  obtain ⟨chosen, hchosen, rfl⟩ := ht
  refine (follows_stepsAndName u path _).visits_nothing.bind (ensures_stepsAndName u path _) ?_
  intro r provides
  obtain ⟨steps, name⟩ := r
  refine Leaves.imp (visiting_executeSteps u c chosen.target steps name _) ?_
  intro tr _ visited
  obtain ⟨vs, hvs, hlines⟩ := visited
  refine ⟨vs, fun v hv => ⟨chosen, hchosen, path, steps, found, provides, hvs v hv⟩, hlines⟩

variable {u w c}

theorem prepareTarget_of_unbooted {o : TargetChoice} {chosen : Chosen σ}
    (hchosen : chooseTarget u w o = .ok chosen) (unbooted : o.boot = false) :
    prepareTarget u w o = pure chosen.target := by
  unfold prepareTarget
  rw [require_bind_of_ok hchosen, unbooted]
  dsimp only
  split <;> rfl

theorem run_of_loaded {g : Given} {path : Path} {chosen : Chosen σ} {steps : List Step}
    (found : Finds u g (some path))
    (plain : builtinOnlyGiven g ["--installer-url", "--skip-toolchain", "--install-example"] = [])
    (hchosen : chooseTarget u w (.ofGiven u.settings g) = .ok chosen)
    (unbooted : (TargetChoice.ofGiven u.settings g).boot = false)
    (loaded : PipelineFile.loadPath u.files u.place path = .ok steps) :
    run u w c g = guarded c (fun f => f.isProvisioning || isLoadFault f)
      (executeSteps u c chosen.target steps path.name (g.on "--print-plan" true)) := by
  unfold run withPipelineFile
  rw [require_bind_of_ok found]
  dsimp only
  rw [plain, prepareTarget_of_unbooted hchosen unbooted, pure_bind_eq]
  simp only [stepsAndName, loaded, conclude_ok, pure_bind_eq]

end Run

theorem candidates_of_sorted {files : FileTree PipelineFile} {place : Place} {present : Bool}
    {names : List String}
    (contained : files.contains place (Path.ofString Discovery.defaultFile) = .ok present)
    (named : (if present then [Discovery.defaultFile] else []) ++ (files.names place.cwd).filter
      (fun n => Discovery.isCandidate n && n != Discovery.defaultFile) = names)
    (sorted : names.Pairwise fun a b => !decide (b < a)) :
    Discovery.candidates files place = .ok (names.map fun n => ⟨"", [n]⟩) := by
  refine Refusable.bind_eq_ok.2 ⟨present, contained, ?_⟩
  -- Sorting by merging does not reduce by itself, not even on a single name.
  dsimp only
  rw [named, List.mergeSort_of_pairwise sorted]
  rfl

def lone (f : PipelineFile) : Surroundings where
  environ := []
  place := ⟨[], []⟩
  files := ⟨[([Discovery.defaultFile], .file f)], by simp, by simp [Node.Loose]⟩
  superuser := some false

def lonePath : Path := ⟨"", [Discovery.defaultFile]⟩

theorem finds_lone (f : PipelineFile) {g : Given} (unasked : g.text? "--pipeline" = none) :
    Finds (lone f) g (some lonePath) := by
  have present : (lone f).files.contains (lone f).place (Path.ofString Discovery.defaultFile) =
      .ok true := rfl
  have found : Discovery.candidates (lone f).files (lone f).place = .ok [lonePath] :=
    candidates_of_sorted present rfl (List.pairwise_singleton _ _)
  rw [Finds, unasked]
  exact Refusable.bind_eq_ok.2 ⟨_, found, rfl⟩

theorem contentAt_lone (f : PipelineFile) :
    PipelineFile.contentAt (lone f).files (lone f).place lonePath = .ok f := by
  let resolved : Path := ⟨"/", [Discovery.defaultFile]⟩
  have expanded : lonePath.expand (lone f).place = .ok lonePath := rfl
  have absolute : (lone f).files.resolve (lone f).place lonePath = .ok resolved := rfl
  have located : (lone f).files.locate (lone f).place resolved =
      .ok (some [Discovery.defaultFile]) := rfl
  have suffix : resolved.suffix = PipelineFile.extension := by cbv
  refine Refusable.bind_eq_ok.2 ⟨_, expanded, Refusable.bind_eq_ok.2 ⟨_, absolute, ?_⟩⟩
  refine Refusable.bind_eq_ok.2 ⟨_, located, ?_⟩
  simp only [suffix, ne_eq, not_true_eq_false, if_false]
  rfl

theorem loadPath_lone (f : PipelineFile) :
    PipelineFile.loadPath (lone f).files (lone f).place lonePath = f.load := by
  rw [PipelineFile.loadPath, contentAt_lone]

end Provisioning.CommandLine
