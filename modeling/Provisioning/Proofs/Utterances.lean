import Provisioning.Proofs.Rewording
import Provisioning.Proofs.TargetCalls

/-!
What the body of a step can leave in a trace: what passes between it and the target, remarks on the
second output stream, and what announces a substep or a tool that is there already. No such event
is the header of a step or tells of its success, and only the announcement of a tool can look like
the report of a failure.
-/
namespace Provisioning

open Activity

variable {σ α β : Type}

inductive Event.Inner : Event → Prop
  | exchanged (e : Exchange) : Inner (.exchanged e)
  | asked (answer : Except Fault Bool) : Inner (.asked answer)
  | ran (line : String) (answer : Except Fault Int) : Inner (.ran line answer)
  | remark (text : String) : Inner (.err text)
  | substep (name command : String) : Inner (outLine ("  ▶ " ++ name ++ ": " ++ command))
  | tool (name target : String) :
      Inner (outLine (name ++ " already present in " ++ target ++
        "; re-running installer to update"))

namespace Event.Inner

variable {e : Event}

theorem ne_outLine_of_ends {name target text : String} {x : Char}
    (last : text.toList.getLast? = some x) (other : x ≠ 'e') :
    outLine (name ++ " already present in " ++ target ++ "; re-running installer to update") ≠
      outLine text := by
  intro h
  have htext := congrArg String.toList (String.append_left_inj _ |>.1 (Event.out.inj h))
  have hlast := congrArg List.getLast? htext
  rw [last, String.toList_append, List.getLast?_append] at hlast
  exact other (Option.some.inj hlast).symm

theorem not_mem_stepHeader (h : e.Inner) (name privilege : String) :
    e ∉ Console.stepHeader name privilege := by
  intro hmem
  have he := List.mem_singleton.1 hmem
  cases h with
  | substep =>
    have htext := congrArg String.toList (Event.out.inj he)
    simp at htext
  | tool =>
    have hlast : ("\nSTEP: " ++ name ++ " [" ++ privilege ++ "]").toList.getLast? = some ']' := by
      rw [String.toList_append, List.getLast?_append]
      rfl
    exact ne_outLine_of_ends hlast (by decide) he
  | exchanged | asked | ran | remark => cases he

theorem not_mem_success (h : e.Inner) : e ∉ Console.success := by
  intro hmem
  have he := List.mem_singleton.1 hmem
  cases h with
  | substep =>
    have htext := congrArg String.toList (Event.out.inj he)
    simp at htext
  | tool =>
    have hlast : "STATUS: success".toList.getLast? = some 's' := rfl
    exact ne_outLine_of_ends hlast (by decide) he
  | exchanged | asked | ran | remark => cases he

theorem tellsOfTool (h : e.Inner) (opens : e.OpensReport) : e.TellsOfTool := by
  cases h with
  | substep name command =>
    exact absurd opens (Console.unreported_substep name command _ List.mem_cons_self)
  | tool name target => exact ⟨name, target, rfl⟩
  | exchanged | asked | ran | remark =>
    obtain ⟨_, h⟩ := opens
    cases h

end Event.Inner

def Activity.Indoors (x : Activity Event σ α) : Prop := x.Leaves fun tr _ => ∀ e ∈ tr, e.Inner

namespace Activity

theorem indoors_pure (a : α) : (pure a : Activity Event σ α).Indoors := fun _ _ h => nomatch h

theorem indoors_fail (f : Fault) : (fail f : Activity Event σ α).Indoors := fun _ _ h => nomatch h

theorem indoors_record {entries : List Event} (h : ∀ e ∈ entries, e.Inner) :
    (record entries : Activity Event σ Unit).Indoors := fun _ => h

theorem indoors_require (r : Except Refusal α) : (require r : Activity Event σ α).Indoors := by
  cases r with
  | ok a => exact indoors_pure a
  | error cause => exact indoors_fail _

theorem Indoors.bind {x : Activity Event σ α} {f : α → Activity Event σ β} (hx : x.Indoors)
    (hf : ∀ a, (f a).Indoors) : (x >>= f).Indoors :=
  Leaves.bind hx hf (fun _ _ h => h) fun _ _ _ _ h h' => List.forall_mem_append.2 ⟨h, h'⟩

end Activity

section Bodies

variable (settings : Settings) (c : Console) (t : Target σ)

theorem inner_noted (es : List Exchange) {e : Event} (h : e.Inner) :
    ∀ e' ∈ es.map Event.exchanged ++ [e], e'.Inner :=
  List.forall_mem_append.2
    ⟨List.forall_mem_map.2 fun x _ => .exchanged x, List.forall_mem_singleton.2 h⟩

theorem Target.indoors_checkAvailable : t.checkAvailable.Indoors := by
  intro w
  rw [t.trace_checkAvailable]
  exact inner_noted _ (.asked _)

theorem Target.indoors_run (x : String) (p : Privilege) (d : Option String) :
    (t.run x p d).Indoors := by
  intro w
  rw [t.run_apply]
  exact inner_noted _ (.ran _ _)

theorem Console.inner_debugLine (message : String) : ∀ e ∈ c.debugLine message, e.Inner := by
  unfold debugLine
  split
  · exact List.forall_mem_singleton.2 (.remark _)
  · exact fun _ he => nomatch he

theorem paired_indoors : Paired c c t fun x _ => x.Indoors where
  giving := indoors_pure
  failing _ _ := indoors_fail _
  announcing _ := indoors_record (List.forall_mem_singleton.2 (.tool _ _))
  showing name command := indoors_record (List.forall_mem_singleton.2 (.substep name command))
  remarking message := indoors_record (c.inner_debugLine message)
  running x p cwd := t.indoors_checkAvailable.bind fun _ =>
    (indoors_record (c.inner_debugLine _)).bind fun _ => t.indoors_run x p cwd
  probing _ _ p := (indoors_require _).bind fun command =>
    t.indoors_checkAvailable.bind fun _ => (t.indoors_run command p _).bind fun _ => indoors_pure _
  following hx hf := hx.bind hf

theorem Step.indoors_perform (s : Step) : (s.perform settings c t).Indoors :=
  s.perform_paired (paired_indoors c t) settings

end Bodies
end Provisioning
