import Provisioning.PipelineFile

/-!
Finding the pipeline file to use: the one that was asked for, with its extension added if need be,
or else the only candidate in the current directory. A candidate is an entry whose name ends as the
name of the default file does.
-/
namespace Provisioning.Discovery

def defaultFile : String := "vmbuild_pipeline.py"

def nameEnding : String := "_pipeline.py"

inductive Found
  | builtin
  | file (path : Path)
  | missing (asked : String)
  | ambiguous (paths : List Path)

def isCandidate (name : String) : Bool :=
  nameEnding.toList.isSuffixOf name.toList

/-- The candidates in the current directory by name, the default file among them once. -/
def candidates (files : FileTree PipelineFile) (place : Place) : Except Refusal (List Path) := do
  let default := Path.ofString defaultFile
  let first := if ← files.contains place default then [defaultFile] else []
  let others := (files.names place.cwd).filter fun n => isCandidate n && n != defaultFile
  return ((first ++ others).mergeSort fun a b => !(b < a)).map fun n => ⟨"", [n]⟩

/-- The path that an argument asks for: itself if it exists or has the extension, or else the same
with the extension added. -/
def askedPath (files : FileTree PipelineFile) (place : Place) (asked : String) :
    Except Refusal Path := do
  let p := Path.ofString asked
  if (← files.contains place p) || p.suffix = PipelineFile.extension then return p
  else return Path.ofString (p.toString ++ PipelineFile.extension)

def find (files : FileTree PipelineFile) (place : Place) (asked : Option String) :
    Except Refusal Found := do
  match asked with
  | none | some "" =>
    match ← candidates files place with
    | [] => return .builtin
    | [p] => return .file p
    | several => return .ambiguous several
  | some a =>
    let p ← askedPath files place a
    if ← files.contains place p then return .file p else return .missing a

end Provisioning.Discovery
