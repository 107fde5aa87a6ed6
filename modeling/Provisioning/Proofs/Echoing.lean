import Provisioning.Proofs.Courses
import Provisioning.Target.Host

/-!
Runs that repeat one another. Two outside worlds agree if from states that are related they give the
same replies and know the same directories. This host in such worlds answers alike by way of the
same child processes, and so errands that are carried out on it leave the same trace in both.
-/
namespace Provisioning

open Activity

variable {ε σ σ' α β : Type}

/-- From related states both worlds reply alike and come to related states. -/
structure World.Agrees (w : World σ) (w' : World σ') (R : σ → σ' → Prop) : Prop where
  reply (call : Call) {s : σ} {s' : σ'} (related : R s s') :
    (w.start call s).1 = (w'.start call s').1 ∧ R (w.start call s).2 (w'.start call s').2
  directory (d : String) {s : σ} {s' : σ'} (related : R s s') :
    w.isDirectory s d = w'.isDirectory s' d

theorem World.agrees_self (w : World σ) : w.Agrees w Eq where
  reply _ _ _ related := by
    obtain rfl := related
    exact ⟨rfl, rfl⟩
  directory _ _ _ related := by
    obtain rfl := related
    rfl

abbrev Activity.Echoes (R : σ → σ' → Prop) (x : Activity ε σ α) (x' : Activity ε σ' α) : Prop :=
  Relates Eq R x x'

theorem exchanges_deeds (trace : List Event) : exchanges (deeds trace) = exchanges trace := by
  have hsame : (fun e => if (!Event.isText e) = true then Event.exchange? e else none) =
      Event.exchange? := by
    funext e
    cases e <;> rfl
  rw [exchanges, deeds, List.filterMap_filter, hsame, exchanges]

theorem Activity.SameDeeds.exchanges_eq {x y : Activity Event σ α} (h : x.SameDeeds y) (s : σ) :
    exchanges (x s).trace = exchanges (y s).trace := by
  rw [← exchanges_deeds, (h s s rfl).1, exchanges_deeds]

structure Target.Echoed (t : Target σ) (t' : Target σ') (R : σ → σ' → Prop) : Prop where
  name : t.name = t'.name
  wrap (x : String) (p : Privilege) (d : Option String) : t.wrap x p d = t'.wrap x p d
  question : Echoes R t.available t'.available
  line (line : String) : Echoes R (t.perform line) (t'.perform line)

namespace Target.Echoed

variable {t : Target σ} {t' : Target σ'} {R : σ → σ' → Prop} (h : t.Echoed t' R)

include h

theorem checkAvailable : Echoes R t.checkAvailable t'.checkAvailable := by
  intro s s' related
  obtain ⟨htrace, hanswer, hafter⟩ := h.question s s' related
  rw [t.checkAvailable_apply, t'.checkAvailable_apply, h.name, htrace, hanswer]
  exact ⟨rfl, rfl, hafter⟩

theorem run (x : String) (p : Privilege) (d : Option String) :
    Echoes R (t.run x p d) (t'.run x p d) := by
  intro s s' related
  obtain ⟨htrace, hanswer, hafter⟩ := h.line (t'.wrap x p d) s s' related
  rw [t.run_apply, t'.run_apply, h.wrap, htrace, hanswer]
  exact ⟨rfl, rfl, hafter⟩

theorem carryOut (p : Privilege) (d : Option String) (es : List (Except Refusal Errand)) :
    Echoes R (Errand.carryOut t p d es) (Errand.carryOut t' p d es) := by
  induction es with
  | nil => exact relates_pure ()
  | cons errand rest ih =>
    apply relates_require
    intro e _
    apply h.checkAvailable.bind
    intro _ _ _
    apply (h.run e.instruction p d).bind
    intro status _ _
    cases e.blame with
    | none => exact ih
    | some blame => exact relates_ite (fun _ => ih) fun _ => relates_fail _

end Target.Echoed

theorem World.Agrees.host {w : World σ} {w' : World σ'} {R : σ → σ' → Prop} (h : w.Agrees w' R)
    (environ own : Environ) (superuser : Option Bool) (workdir : Option String) :
    (Target.host w environ own superuser workdir).Echoed
      (.host w' environ own superuser workdir) R where
  name := rfl
  wrap _ _ _ := rfl
  question := by
    cases workdir with
    | none => exact relates_fail _
    | some d =>
      refine Relates.bind ?_ fun r _ _ => ?_
      · intro s s' related
        exact ⟨rfl, congrArg Except.ok (h.directory d related), related⟩
      · cases r with
        | ok found => exact relates_pure found
        | error cause => exact relates_fail _
  line line := by
    refine Relates.bind ?_ fun reply _ _ => ?_
    · intro s s' related
      obtain ⟨hreply, hafter⟩ := h.reply (Target.shellCall (Keyed.update environ own) line) related
      rw [w.trace_run, w'.trace_run, hreply]
      exact ⟨rfl, congrArg Except.ok hreply, hafter⟩
    · cases reply with
      | exited status output => exact relates_pure status
      | missing | interrupted => exact relates_fail _

theorem Target.quiet_question_host (w : World σ) (environ own : Environ) (superuser : Option Bool)
    (workdir : Option String) (s : σ) :
    let question := (Target.host w environ own superuser workdir).available s
    question.trace = [] ∧ question.after = s := by
  cases workdir with
  | none => exact ⟨rfl, rfl⟩
  | some d =>
    change ([] ++ (require (w.isDirectory s d) s : Report Exchange σ Bool).trace) = [] ∧
      (require (w.isDirectory s d) s : Report Exchange σ Bool).after = s
    cases w.isDirectory s d <;> exact ⟨rfl, rfl⟩

end Provisioning
