import Provisioning.Proofs.Interruption
import Provisioning.Proofs.TargetCalls

/-!
Who asks for an exit: only a pipeline file. The targets there are do not, no body of a step does in
a target that does not, and so no execution of a pipeline ends with one.
-/
namespace Provisioning

open Activity

variable {σ : Type}

def Fault.Stays (f : Fault) : Prop := ∀ request, f ≠ .exiting request

theorem Fault.stays_of_exception {f : Fault} (h : f.isException = true) : f.Stays := by
  rintro request rfl
  cases h

theorem Fault.OfTarget.stays {f : Fault} (h : f.OfTarget) : f.Stays := by
  cases h <;> exact fun _ => Fault.noConfusion

namespace Target

variable {t : Target σ} {P : Fault → Prop}

theorem Plain.confines (plain : t.Plain) : t.Confines Fault.Stays where
  question := plain.question.imp
    (fun _ _ _ _ h => Fault.stays_of_exception (Fault.exception_of_provisioning h))
    fun _ h => h.stays
  line x := (plain.line x).imp
    (fun _ _ _ _ h => Fault.stays_of_exception (Fault.exception_of_provisioning h))
    fun _ h => h.stays

theorem Confines.composed (ht : t.Confines P) (exceptions : ∀ f, f.isException = true → P f)
    (c : Console) : Composed c t fun {_} x => x.Ensures (fun _ => True) P where
  giving _ := ensures_pure trivial
  failing h := ensures_fail (exceptions _ h)
  writing _ := ensures_record _
  running x p cwd := (ht.runInstruction c x p cwd).imp (fun _ _ => trivial) fun _ h => h
  probing tool envFile p := by
    cases hprobe : Target.probe tool envFile with
    | error cause =>
      unfold Target.hasTool
      rw [require_bind_of_error hprobe]
      exact ensures_fail (exceptions _ rfl)
    | ok probe => exact (ht.hasTool p hprobe).imp (fun _ _ => trivial) fun _ h => h
  following hx hf := hx.bind fun a _ => hf a

end Target

theorem Pipeline.Ending.stays {settings : Settings} {c : Console} {t : Target σ} {p q : Pipeline}
    {w : σ} {ended : Except Fault Outcome} {trace : List Event} (plain : t.Plain)
    (h : Ending settings c t p w q ended trace) {f : Fault} (escapes : ended = .error f) :
    f.Stays := by
  have confines := plain.confines
  cases h with
  | repeated =>
    obtain rfl := Except.error.inj escapes
    exact Fault.stays_of_exception rfl
  | unanswered _ question =>
    obtain rfl := Except.error.inj escapes
    exact confines.checkAvailable.of_error question
  | @escaped x _ question stopped =>
    obtain rfl := Except.error.inj escapes
    obtain ⟨v, hv, answer⟩ := (failsAt_of_stopped question stopped).mem
    obtain ⟨w', hw'⟩ := report_of_mem_visited hv
    have performed : (v.step.perform settings c t).Ensures (fun _ => True) Fault.Stays :=
      v.step.perform_composed (confines.composed (fun _ => Fault.stays_of_exception) c) settings
    rw [hw'] at answer
    exact performed.of_error answer
  | unavailable | succeeded | failed => cases escapes

end Provisioning
