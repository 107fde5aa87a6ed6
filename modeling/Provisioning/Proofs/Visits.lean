import Provisioning.Pipeline
import Provisioning.Proofs.Activity

/-!
The run of a pipeline step by step. A run visits its steps in order, up to the first whose body
ends with a fault. The trace of a run is that of its visits one after the other, and where it
stopped, if it did, decides what becomes of the pipeline. Everything that is known about runs is
read off the visits.
-/
namespace Provisioning

open Activity

variable {σ : Type}

structure Visit (σ : Type) where
  step : Step
  report : Report Event σ Unit

/-- The step, counted from 0, that ended a run with a fault. -/
structure Stop where
  index : Nat
  step : Step
  fault : Fault

namespace Visit

def Completed (v : Visit σ) : Prop := v.report.answer = .ok ()

def closing (c : Console) (v : Visit σ) : List Event :=
  match v.report.answer with
  | .ok () => Console.success
  | .error f => if f.isProvisioning then c.failure v.step.name f.message f.status? none else []

def trace (c : Console) (v : Visit σ) : List Event :=
  Console.stepHeader v.step.name v.step.privilege.word ++ v.report.trace ++ v.closing c

def stop? : List (Visit σ) → Option Stop
  | [] => none
  | v :: vs =>
    match v.report.answer with
    | .ok () => (stop? vs).map fun x => { x with index := x.index + 1 }
    | .error f => some ⟨0, v.step, f⟩

end Visit

def visits (settings : Settings) (c : Console) (t : Target σ) : List Step → σ → List (Visit σ)
  | [], _ => []
  | s :: rest, w =>
    let r := s.perform settings c t w
    ⟨s, r⟩ :: match r.answer with
      | .ok () => visits settings c t rest r.after
      | .error _ => []

section Visits

variable {settings : Settings} {c : Console} {t : Target σ} {s : Step} {rest steps : List Step}
  {w : σ}

theorem visits_of_ok (h : (s.perform settings c t w).answer = .ok ()) :
    visits settings c t (s :: rest) w =
      ⟨s, s.perform settings c t w⟩ ::
        visits settings c t rest (s.perform settings c t w).after := by
  simp only [visits, h]

theorem visits_of_error {f : Fault} (h : (s.perform settings c t w).answer = .error f) :
    visits settings c t (s :: rest) w = [⟨s, s.perform settings c t w⟩] := by
  simp only [visits, h]

theorem mem_visits {v : Visit σ} (hv : v ∈ visits settings c t steps w) :
    v.step ∈ steps ∧ ∃ w', v.report = v.step.perform settings c t w' := by
  induction steps generalizing w with
  | nil => cases hv
  | cons s rest ih =>
    cases h : (s.perform settings c t w).answer with
    | error f =>
      rw [visits_of_error h] at hv
      obtain rfl := List.mem_singleton.1 hv
      exact ⟨List.mem_cons_self, w, rfl⟩
    | ok u =>
      rw [visits_of_ok h] at hv
      rcases List.mem_cons.1 hv with rfl | hv
      · exact ⟨List.mem_cons_self, w, rfl⟩
      · exact ⟨List.mem_cons_of_mem _ (ih hv).1, (ih hv).2⟩

theorem steps_visits_prefix : (visits settings c t steps w).map Visit.step <+: steps := by
  induction steps generalizing w with
  | nil => exact List.nil_prefix
  | cons s rest ih =>
    cases h : (s.perform settings c t w).answer with
    | error f => simp [visits_of_error h]
    | ok u => simpa [visits_of_ok h] using ih

theorem all_of_stop?_eq_none (h : Visit.stop? (visits settings c t steps w) = none) :
    (visits settings c t steps w).map Visit.step = steps ∧
      ∀ v ∈ visits settings c t steps w, v.Completed := by
  induction steps generalizing w with
  | nil => exact ⟨rfl, fun _ hv => nomatch hv⟩
  | cons s rest ih =>
    cases hs : (s.perform settings c t w).answer with
    | error f => simp [visits_of_error hs, Visit.stop?, hs] at h
    | ok u =>
      rw [visits_of_ok hs] at h ⊢
      simp only [Visit.stop?, hs, Option.map_eq_none_iff] at h
      obtain ⟨hm, hc⟩ := ih h
      refine ⟨by rw [List.map_cons, hm], fun v hv => ?_⟩
      rcases List.mem_cons.1 hv with rfl | hv
      · exact hs
      · exact hc v hv

theorem split_of_stop?_eq_some {x : Stop}
    (h : Visit.stop? (visits settings c t steps w) = some x) :
    steps[x.index]? = some x.step ∧
      ∃ done v, visits settings c t steps w = done ++ [v] ∧
        done.map Visit.step = steps.take x.index ∧ (∀ u ∈ done, u.Completed) ∧
        v.step = x.step ∧ v.report.answer = .error x.fault := by
  induction steps generalizing w x with
  | nil => cases h
  | cons s rest ih =>
    cases hs : (s.perform settings c t w).answer with
    | error f =>
      rw [visits_of_error hs] at h ⊢
      simp only [Visit.stop?, hs, Option.some.injEq] at h
      subst h
      exact ⟨rfl, [], _, rfl, rfl, by simp, rfl, hs⟩
    | ok u =>
      rw [visits_of_ok hs] at h ⊢
      simp only [Visit.stop?, hs, Option.map_eq_some_iff] at h
      obtain ⟨y, hy, rfl⟩ := h
      obtain ⟨hi, done, v, he, hm, hc, hv⟩ := ih hy
      refine ⟨hi, _ :: done, v, by rw [he, List.cons_append], by simp [hm], fun u hu => ?_, hv⟩
      rcases List.mem_cons.1 hu with rfl | hu
      · exact hs
      · exact hc u hu

theorem visits_append_of_idle {done : List Step}
    (idle : ∀ s ∈ done, (s.perform settings c t w).answer = .ok () ∧
      (s.perform settings c t w).after = w) :
    visits settings c t (done ++ rest) w =
      (done.map fun s => ⟨s, s.perform settings c t w⟩) ++ visits settings c t rest w := by
  induction done with
  | nil => rfl
  | cons s done ih =>
    obtain ⟨answer, after⟩ := idle s List.mem_cons_self
    have hdone := ih fun s' hs' => idle s' (List.mem_cons_of_mem _ hs')
    rw [List.cons_append, visits_of_ok answer, after, hdone, List.map_cons, List.cons_append]

end Visits

namespace Pipeline

/-- The pipeline at the end of a run whose first step is number `index`, and what came of it. -/
def endedAt (p : Pipeline) (index : Nat) (executed : List String) (steps : List Step) :
    Option Stop → Pipeline × Except Fault Outcome
  | none =>
    let o : Outcome := { state := .succeeded, executed := executed ++ steps.map Step.name }
    let last := if steps.isEmpty then p.current else some (index + steps.length - 1)
    ({ p with current := last }.finish o, .ok o)
  | some x =>
    let p := { p with current := some (index + x.index) }
    if x.fault.isProvisioning then
      let o : Outcome := {
        state := .failed
        executed := executed ++ (steps.take (x.index + 1)).map Step.name
        failedIndex := some (index + x.index : Nat)
        error := some (.pipelineFailed (some x.step.name) x.fault
          (failureDetails (index + x.index) x.step)) }
      (p.finish o, .ok o)
    else (p, .error x.fault)

theorem endedAt_cons (p : Pipeline) (index : Nat) (executed : List String) (s : Step)
    (rest : List Step) (x : Option Stop) :
    { p with current := some index : Pipeline }.endedAt (index + 1) (executed ++ [s.name]) rest x =
      p.endedAt index executed (s :: rest) (x.map fun x => { x with index := x.index + 1 }) := by
  cases x with
  | none =>
    cases rest with
    | nil => simp [endedAt, finish]
    | cons s' rest =>
      have hlast : index + 1 + (rest.length + 1) - 1 = index + (rest.length + 1 + 1) - 1 := by omega
      simp [endedAt, finish, hlast]
  | some x =>
    have hindex : index + 1 + x.index = index + (x.index + 1) := by omega
    simp [endedAt, finish, hindex, List.take_succ_cons]

section RunFrom

variable {settings : Settings} {c : Console} {t : Target σ} {p : Pipeline} {index : Nat}
  {executed : List String} {s : Step} {rest : List Step} {w : σ}

theorem runFrom_of_ok (h : (s.perform settings c t w).answer = .ok ()) :
    runFrom settings c t p index executed (s :: rest) w =
      let v : Visit σ := ⟨s, s.perform settings c t w⟩
      let r := runFrom settings c t { p with current := some index } (index + 1)
        (executed ++ [s.name]) rest v.report.after
      ⟨v.trace c ++ r.trace, r.answer, r.after⟩ := by
  simp only [runFrom, record_bind_apply, attempt_bind_apply, h, Visit.trace, Visit.closing,
    List.append_assoc]

theorem runFrom_of_error {f : Fault} (h : (s.perform settings c t w).answer = .error f) :
    runFrom settings c t p index executed (s :: rest) w =
      let v : Visit σ := ⟨s, s.perform settings c t w⟩
      ⟨v.trace c, .ok (p.endedAt index executed (s :: rest) (some ⟨0, s, f⟩)), v.report.after⟩ := by
  cases hf : f.isProvisioning with
  | true =>
    simp [runFrom, record_bind_apply, attempt_bind_apply, h, Visit.trace, Visit.closing, hf,
      endedAt]
  | false =>
    simp [runFrom, record_bind_apply, attempt_bind_apply, h, Visit.trace, Visit.closing, hf,
      endedAt]

/-- The trace of a run is that of its visits, and its end is decided by where it stopped. -/
theorem runFrom_eq (settings : Settings) (c : Console) (t : Target σ) (p : Pipeline)
    (index : Nat) (executed : List String) (steps : List Step) (w : σ) :
    let vs := visits settings c t steps w
    let r := runFrom settings c t p index executed steps w
    r.trace = vs.flatMap (Visit.trace c) ∧
      r.answer = .ok (p.endedAt index executed steps (Visit.stop? vs)) := by
  induction steps generalizing p index executed w with
  | nil => simp [runFrom, visits, Visit.stop?, endedAt]
  | cons s rest ih =>
    cases hs : (s.perform settings c t w).answer with
    | error f =>
      rw [visits_of_error hs, runFrom_of_error hs]
      simp [Visit.stop?, hs]
    | ok u =>
      rw [visits_of_ok hs, runFrom_of_ok hs]
      obtain ⟨htrace, hanswer⟩ := ih { p with current := some index } (index + 1)
        (executed ++ [s.name]) (s.perform settings c t w).after
      refine ⟨by simp only [htrace, List.flatMap_cons], ?_⟩
      simp only [hanswer, Visit.stop?, hs]
      rw [endedAt_cons]

end RunFrom

def withheld (p : Pipeline) (f : Fault) : Pipeline × Except Fault Outcome :=
  match f with
  | .unavailable .. =>
    let o : Outcome := { state := .failed, error := some (.pipelineFailed none f []) }
    (p.finish o, .ok o)
  | f => (p, .error f)

def executedVisits (settings : Settings) (c : Console) (t : Target σ) (steps : List Step)
    (w : σ) : List (Visit σ) :=
  visits settings c t steps (t.checkAvailable w).after

def visitedTrace (settings : Settings) (c : Console) (t : Target σ) (steps : List Step) (w : σ) :
    List Event :=
  (t.checkAvailable w).trace ++ (executedVisits settings c t steps w).flatMap (Visit.trace c)

section Execute

variable (settings : Settings) (c : Console) (t : Target σ) {p : Pipeline} {w : σ}

theorem execute_of_started (started : p.state ≠ .notStarted) (w : σ) :
    p.execute settings c t w = ⟨[], .ok (p, .error (.refused (.alreadyRun p.state))), w⟩ := by
  simp [execute, started]

theorem execute_of_withheld (fresh : p.state = .notStarted) {f : Fault}
    (h : (t.checkAvailable w).answer = .error f) :
    p.execute settings c t w =
      ⟨(t.checkAvailable w).trace, .ok (p.withheld f), (t.checkAvailable w).after⟩ := by
  cases f <;> simp [execute, fresh, attempt_bind_apply, h, withheld]

theorem execute_of_available (fresh : p.state = .notStarted)
    (h : (t.checkAvailable w).answer = .ok ()) :
    let r := p.execute settings c t w
    r.trace = visitedTrace settings c t p.steps w ∧
      r.answer = .ok ({ p with state := .running : Pipeline }.endedAt 0 [] p.steps
        (Visit.stop? (executedVisits settings c t p.steps w))) := by
  obtain ⟨htrace, hanswer⟩ := runFrom_eq settings c t { p with state := .running } 0 [] p.steps
    (t.checkAvailable w).after
  simp only [execute, fresh, ne_eq, not_true_eq_false, if_false, attempt_bind_apply, h]
  exact ⟨by rw [htrace, visitedTrace, executedVisits], hanswer⟩

end Execute
end Pipeline
end Provisioning
