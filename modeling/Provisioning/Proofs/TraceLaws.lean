import Provisioning.Proofs.Bodies
import Provisioning.Proofs.Verdict

/-!
Laws of traces that are kept when one trace follows another and that text cannot break. Such a law
holds of every execution in a target if it holds of a question to the target, and of a line together
with the question ahead of it: nothing else reaches the target.
-/
namespace Provisioning

open Activity

variable {σ : Type}

structure Lawful (T : List Event → Prop) : Prop where
  written {a : List Event} (h : Written a) : T a
  append {a b : List Event} (ha : T a) (hb : T b) : T (a ++ b)

namespace Lawful

variable {T : List Event → Prop} (law : Lawful T)

include law

theorem nil : T [] := law.written .nil

theorem flatMap {α : Type} {xs : List α} {f : α → List Event} (h : ∀ x ∈ xs, T (f x)) :
    T (xs.flatMap f) := by
  induction xs with
  | nil => exact law.nil
  | cons x xs ih =>
    have hxs := ih fun y hy => h y (List.mem_cons_of_mem _ hy)
    exact law.append (h x List.mem_cons_self) hxs

theorem bind {α β : Type} {x : Activity Event σ α} {f : α → Activity Event σ β}
    (hx : x.Leaves fun tr _ => T tr) (hf : ∀ a, (f a).Leaves fun tr _ => T tr) :
    (x >>= f).Leaves fun tr _ => T tr :=
  hx.bind hf (fun _ _ h => h) fun _ _ _ _ h h' => law.append h h'

theorem pure {α : Type} (a : α) :
    (pure a : Activity Event σ α).Leaves fun tr _ => T tr :=
  fun _ => law.nil

theorem visit {c : Console} {v : Visit σ} (h : T v.report.trace) : T (v.trace c) :=
  law.append (law.append (law.written (Console.written_stepHeader _ _)) h)
    (law.written (v.written_closing c))

end Lawful

/-- In the target the law holds of every question whether it is available, and of every line that is
handed over, after some text, because the answer was that it is. -/
structure Target.Obeys (t : Target σ) (T : List Event → Prop) : Prop extends Lawful T where
  asked (w : σ) : T (t.checkAvailable w).trace
  answered {w : σ} (available : (t.checkAvailable w).answer = .ok ()) {text : List Event}
    (written : Written text) (line : String) (w' : σ) :
    T ((t.checkAvailable w).trace ++ (text ++ (t.handOver line w').trace))

namespace Target.Obeys

variable {t : Target σ} {T : List Event → Prop} (obeys : t.Obeys T)

include obeys

theorem guarded {text : List Event} (written : Written text) (line : String) :
    (t.checkAvailable >>= fun _ => record text >>= fun _ => t.handOver line).Leaves
      fun tr _ => T tr := by
  intro w
  cases available : (t.checkAvailable w).answer with
  | error e =>
    rw [bind_of_error available]
    exact obeys.asked w
  | ok u =>
    rw [bind_of_ok available, record_bind_apply]
    exact obeys.answered available written line (t.checkAvailable w).after

theorem composed (c : Console) : Composed c t fun {_} x => x.Leaves fun tr _ => T tr where
  giving a := obeys.pure a
  failing _ _ := obeys.nil
  writing h _ := obeys.written h
  running x p cwd := obeys.guarded (c.written_debugLine _) (t.wrap x p cwd)
  probing tool envFile p := by
    cases hprobe : Target.probe tool envFile with
    | error cause =>
      unfold hasTool
      rw [require_bind_of_error hprobe]
      exact fun _ => obeys.nil
    | ok probe =>
      have hasked := obeys.bind (obeys.guarded .nil (t.wrap probe p (some "/"))) fun status =>
        obeys.pure (decide (status = 0))
      rw [Activity.bind_assoc] at hasked
      unfold hasTool
      rw [require_bind_of_ok hprobe]
      exact hasked
  following hx hf := obeys.bind hx hf

theorem ending {settings : Settings} {c : Console} {p q : Pipeline} {w : σ}
    {ended : Except Fault Pipeline.Outcome} {trace : List Event}
    (h : Pipeline.Ending settings c t p w q ended trace) : T trace := by
  by_cases fresh : p.state = .notStarted
  · rw [h.trace_eq fresh]
    refine obeys.append (obeys.asked w) (obeys.flatMap fun v hv => obeys.visit ?_)
    obtain ⟨w', hw'⟩ := Pipeline.report_of_mem_visited hv
    rw [hw']
    exact v.step.perform_composed (obeys.composed c) settings w'
  · cases h with
    | repeated => exact obeys.nil
    | unavailable h | unanswered h | succeeded h | failed h | escaped h => exact absurd h fresh

theorem execute (settings : Settings) (c : Console) (p : Pipeline) (w : σ) :
    T (p.execute settings c t w).trace := by
  obtain ⟨q, ended, -, ending⟩ := p.execute_ending settings c t w
  exact obeys.ending ending

end Target.Obeys
end Provisioning
