import Provisioning.Proofs.Booting
import Provisioning.Proofs.Rewording
import Provisioning.Proofs.SideBySide

/-!
Two activities side by side, from one state of the same outside world. They mirror each other if
they come to the same answer and leave the world in the same state, so that whatever follows meets
the same world, and if their traces differ in wording only. Bodies of steps, and with them whole
executions, mirror each other on any two consoles.
-/
namespace Provisioning

open Activity

variable {σ α β : Type} {debug debug' : Bool}

instance (debug debug' : Bool) : Composes (Reworded debug debug') where
  nil := .of_unreported .nil
  append := .append

abbrev Mirrors (debug debug' : Bool) (x x' : Activity Event σ α) : Prop :=
  Relates (Reworded debug debug') Eq x x'

theorem mirrors_refl {x : Activity Event σ α} (h : x.Leaves fun tr _ => Unreported tr) :
    Mirrors debug debug' x x :=
  relates_refl fun s => .of_unreported (h s)

namespace Target

variable {t : Target σ}

structure Speaks (t : Target σ) : Prop where
  question : t.available.Ensures (fun _ => True) Fault.Speaks
  line (x : String) : (t.perform x).Ensures (fun _ => True) Fault.Speaks

theorem speaks_unavailable (target reason : String) : (Fault.unavailable target reason).Speaks := by
  intro _
  change "environment '" ++ target ++ "' unavailable: " ++ reason ≠ ""
  simp

theorem unreported_checkAvailable (t : Target σ) :
    t.checkAvailable.Leaves fun tr _ => Unreported tr := by
  intro w
  rw [t.trace_checkAvailable]
  exact .noted _ (by simp)

theorem unreported_handOver (t : Target σ) (line : String) :
    (t.handOver line).Leaves fun tr _ => Unreported tr := by
  intro w
  rw [t.trace_handOver]
  exact .noted _ (by simp)

namespace Speaks

variable (speaks : t.Speaks)

include speaks

theorem checkAvailable : t.checkAvailable.Ensures (fun _ => True) Fault.Speaks := by
  have asked : t.isAvailable.Ensures (fun _ => True) Fault.Speaks :=
    speaks.question.of_answer t.answer_isAvailable
  refine asked.bind fun available _ => ?_
  cases available with
  | true => exact ensures_pure trivial
  | false => exact ensures_fail (speaks_unavailable _ _)

theorem handOver (line : String) : (t.handOver line).Ensures (fun _ => True) Fault.Speaks :=
  (speaks.line line).of_answer (t.answer_handOver line)

theorem paired (c c' : Console) :
    Paired c c' t fun x x' => Mirrors c.debug c'.debug x x' ∧
      x.Ensures (fun _ => True) Fault.Speaks where
  giving a := ⟨relates_pure a, ensures_pure trivial⟩
  failing _ speaks := ⟨relates_fail _, ensures_fail speaks⟩
  announcing i := ⟨relates_record (.announce t i), ensures_record _⟩
  showing name command :=
    ⟨relates_record (.of_unreported (Console.unreported_substep name command)), ensures_record _⟩
  remarking message :=
    ⟨relates_record (.of_overt (c.overt_debugLine _) (c'.overt_debugLine _)), ensures_record _⟩
  running x p cwd := by
    refine ⟨(mirrors_refl t.unreported_checkAvailable).bind fun _ _ _ => ?_, ?_⟩
    · exact relates_after (.of_overt (c.overt_debugLine _) (c'.overt_debugLine _))
        (mirrors_refl (t.unreported_handOver _))
    · exact speaks.checkAvailable.bind fun _ _ => (ensures_record _).bind fun _ _ =>
        speaks.handOver _
  probing tool envFile p := by
    unfold hasTool
    cases Target.probe tool envFile with
    | error cause => exact ⟨relates_fail _, ensures_fail (Fault.speaks_of_foreign rfl)⟩
    | ok probe =>
      rw [require_bind_of_ok rfl]
      refine ⟨(mirrors_refl t.unreported_checkAvailable).bind fun _ _ _ => ?_, ?_⟩
      · exact (mirrors_refl (t.unreported_handOver _)).bind fun _ _ _ => relates_pure _
      · exact speaks.checkAvailable.bind fun _ _ => (speaks.handOver _).bind fun _ _ =>
          ensures_pure trivial
  following hx hf := ⟨hx.1.bind fun a _ _ => (hf a).1, hx.2.bind fun a _ => (hf a).2⟩

end Speaks
end Target

section Executions

variable {t : Target σ} (speaks : t.Speaks) (settings : Settings) (c c' : Console)

include speaks

theorem Step.perform_mirrors (s : Step) :
    Mirrors c.debug c'.debug (s.perform settings c t) (s.perform settings c' t) :=
  (s.perform_paired (speaks.paired c c') settings).1

theorem Step.perform_speaks (s : Step) :
    (s.perform settings c t).Ensures (fun _ => True) Fault.Speaks :=
  (s.perform_paired (speaks.paired c c) settings).2

theorem Pipeline.runFrom_mirrors (p : Pipeline) (index : Nat) (executed : List String)
    (steps : List Step) :
    Mirrors c.debug c'.debug (runFrom settings c t p index executed steps)
      (runFrom settings c' t p index executed steps) := by
  induction steps generalizing p index executed with
  | nil => exact relates_pure _
  | cons s rest ih =>
    unfold runFrom
    refine relates_after (.of_unreported (Console.unreported_stepHeader _ _)) ?_
    refine (s.perform_mirrors speaks settings c c').settle (fun _ => ?_) fun f w hf => ?_
    · exact relates_after (.of_unreported Console.unreported_success) (ih _ _ _)
    · have fspeaks := (s.perform_speaks speaks settings c).of_error hf
      refine relates_ite (fun provisioning => ?_) fun _ => relates_pure _
      exact relates_after (.failure c c' s.name provisioning fspeaks) (relates_pure _)

theorem Pipeline.execute_mirrors (p : Pipeline) :
    Mirrors c.debug c'.debug (p.execute settings c t) (p.execute settings c' t) := by
  unfold execute
  refine relates_ite (fun _ => relates_pure _) fun _ => ?_
  refine (mirrors_refl t.unreported_checkAvailable).settle (fun _ => ?_) fun f w _ => ?_
  · exact runFrom_mirrors speaks settings c c' _ _ _ _
  · cases f <;> exact relates_pure _

end Executions

namespace CommandLine

theorem executeSteps_mirrors {t : Target σ} (speaks : t.Speaks) (u : Surroundings)
    (c c' : Console) (steps : List Step) (name : String) (printPlan : Bool) :
    Mirrors c.debug c'.debug (executeSteps u c t steps name printPlan)
      (executeSteps u c' t steps name printPlan) := by
  unfold executeSteps
  refine relates_require fun p _ => ?_
  refine relates_after (.of_unreported (Console.unreported_runStarted _ _ _)) ?_
  have executed := p.execute_mirrors speaks u.settings c c'
  have reported (outcome : Except Fault Pipeline.Outcome) :
      Mirrors c.debug c'.debug
        (conclude outcome >>= fun o => record (Console.results o) >>= fun _ =>
          (pure o.exitCode : Activity Event σ Int))
        (conclude outcome >>= fun o => record (Console.results o) >>= fun _ => pure o.exitCode) :=
    relates_conclude fun o =>
      relates_after (.of_unreported (Console.unreported_results o)) (relates_pure _)
  cases printPlan with
  | true =>
    exact relates_after (.of_unreported (unreported_planLines _))
      (executed.bind fun r _ _ => reported r.2)
  | false => exact executed.bind fun r _ _ => reported r.2

end CommandLine
end Provisioning
