import Provisioning.FileTree
import Provisioning.Pipeline.Validation
import Provisioning.Fault
import Provisioning.Text.Search

/-!
Pipeline files and how steps are got from one. A file either defines the function `pipeline`, which
is called without arguments and alone decides, or the list `STEPS`. Only a list that holds nothing
but steps is accepted. A path is expanded and resolved before it is looked at, links included; a
directory stands for its main file.
-/
namespace Provisioning

inductive Supply
  | list (entries : List Pipeline.Entry)
  | tuple (entries : List Pipeline.Entry)
  | value (v : Value)

inductive Definition
  | returning (result : Except Fault Supply)
  | raising (f : Fault)
  | requiring (positional keywordOnly : List String)
  | plain (result : Except Fault Supply)

structure PipelineFile where
  raises : Option Fault := none
  steps : Option (Except Fault Supply) := none
  pipeline : Option Definition := none

namespace PipelineFile

structure Globals where
  steps : Option Supply
  pipeline : Option Definition

def run (f : PipelineFile) : Except Fault Globals :=
  match f.raises with
  | some fault => .error fault
  | none => do
    let steps ← match f.steps with
      | none => pure none
      | some made => some <$> made
    match f.pipeline with
    | some (.plain (.error fault)) => .error fault
    | definition => return { steps, pipeline := definition }

def functionName : String := "pipeline"

def call : Definition → Option (Except Fault Supply)
  | .returning result => some result
  | .raising f => some (.error f)
  | .requiring [] [] => some (.ok (.value .null))
  | .requiring [] keywordOnly =>
    some (.error (.refused (.missingArguments functionName false keywordOnly)))
  | .requiring positional _ =>
    some (.error (.refused (.missingArguments functionName true positional)))
  | .plain _ => none

def looksLikeCollision (f : Fault) : Bool :=
  f.kind? = some .type && Text.occursIn "positional argument".toList f.message.toList

def supplied (g : Globals) : Except Fault (Option Supply) :=
  match g.pipeline.bind call with
  | some (.ok v) => .ok (some v)
  | some (.error f) =>
    if looksLikeCollision f then .error (.refused .nameCollision) else .error f
  | none => .ok g.steps

def stepsOf : Option Supply → Except Refusal (List Step)
  | some (.list entries) =>
    match entries.mapM Pipeline.Entry.step? with
    | some steps => .ok steps
    | none => .error .notStepList
  | some (.value (.list [])) => .ok []
  | _ => .error .notStepList

def load (f : PipelineFile) : Except Fault (List Step) := do
  match stepsOf (← supplied (← f.run)) with
  | .ok steps => .ok steps
  | .error cause => .error (.refused cause)

def extension : String := ".py"

def mainFile : String := "__main__.py"

def contentAt (files : FileTree PipelineFile) (place : Place) (path : Path) :
    Except Refusal PipelineFile := do
  let p ← files.resolve place (← path.expand place)
  match ← files.locate place p with
  | none => .error (.fileMissing p.toString)
  | some spot =>
    if p.suffix ≠ extension then .error (.notAPipelineFile p.name)
    else match files.node? spot, files.node? (spot ++ [mainFile]) with
      | some (.file content), _ | _, some (.file content) => return content
      | _, _ => .error (.directoryLoaded p.toString)

def loadPath (files : FileTree PipelineFile) (place : Place) (path : Path) :
    Except Fault (List Step) :=
  match contentAt files place path with
  | .error cause => .error (.refused cause)
  | .ok content => content.load

end PipelineFile
end Provisioning
