import Provisioning.Step

/-!
Which lists of entries make a pipeline. The entries are gone through once; at each the checks are,
in this order, that it is a step, that its name is new, that its kind is known, and that a shell
step has instructions. The first check that fails gives the refusal.
-/
namespace Provisioning.Pipeline

inductive Entry
  | step (s : Step)
  | other (v : Value)

def Entry.step? : Entry → Option Step
  | .step s => some s
  | .other _ => none

def checkStep (seen : List String) (s : Step) : Except Refusal Unit :=
  if seen.contains s.name then .error (.duplicateStep s.name)
  else match StepKind.ofWord? s.kind with
    | none => .error (.unknownKind s.name s.kind)
    | some .shell =>
      if s.run.isEmpty then .error (.noInstructions s.name) else .ok ()
    | some _ => .ok ()

def validateFrom (seen : List String) : List Entry → Except Refusal (List Step)
  | [] => .ok []
  | .other v :: _ => .error (.notAStep v.typeName)
  | .step s :: rest => do
    checkStep seen s
    return s :: (← validateFrom (seen ++ [s.name]) rest)

def validate (entries : List Entry) : Except Refusal (List Step) :=
  if entries.isEmpty then .error .emptyPipeline else validateFrom [] entries

end Provisioning.Pipeline
