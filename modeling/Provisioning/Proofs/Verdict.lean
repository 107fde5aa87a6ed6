import Provisioning.Proofs.Validation
import Provisioning.Proofs.Visiting

/-!
What an execution comes to, as its exit code tells it. Every step was completed, which gives 0; or
the step of some number failed, which gives 10 and that number, or else lets a fault escape; or no
step was visited, which gives 3 if the target was unavailable. No two of these go together.
-/
namespace Provisioning.Pipeline

variable {σ : Type}

section

variable (settings : Settings) (c : Console) (t : Target σ) (steps : List Step) (w : σ)

/-- The visits of an execution: none unless the target is available at first. -/
def visited : List (Visit σ) :=
  match (t.checkAvailable w).answer with
  | .ok _ => executedVisits settings c t steps w
  | .error _ => []

def CompletesAll : Prop :=
  (visited settings c t steps w).map Visit.step = steps ∧
    ∀ v ∈ visited settings c t steps w, v.Completed

/-- The body of step number `i`, counted from 0, ends with the fault. -/
def FailsAt (i : Nat) (f : Fault) : Prop :=
  ∃ v, (visited settings c t steps w)[i]? = some v ∧ v.report.answer = .error f

inductive Verdict : Except Fault Int → Prop
  | completed (all : CompletesAll settings c t steps w) : Verdict (.ok 0)
  | failed {i : Nat} {f : Fault} (fails : FailsAt settings c t steps w i f)
      (provisioning : f.isProvisioning = true) : Verdict (.ok (min (10 + i) 255))
  | escaped {i : Nat} {f : Fault} (fails : FailsAt settings c t steps w i f)
      (foreign : f.isProvisioning = false) : Verdict (.error f)
  | unavailable (unvisited : visited settings c t steps w = []) : Verdict (.ok 3)
  | unanswered {f : Fault} (unvisited : visited settings c t steps w = [])
      (other : ∀ target reason, f ≠ .unavailable target reason) : Verdict (.error f)

end

section Visited

variable {settings : Settings} {c : Console} {t : Target σ} {steps : List Step} {w : σ} {i : Nat}
  {f : Fault} {x : Stop}

theorem visited_of_available (question : (t.checkAvailable w).answer = .ok ()) :
    visited settings c t steps w = executedVisits settings c t steps w := by
  simp only [visited, question]

theorem visited_of_withheld (question : (t.checkAvailable w).answer = .error f) :
    visited settings c t steps w = [] := by
  simp only [visited, question]

theorem steps_visited_prefix : (visited settings c t steps w).map Visit.step <+: steps := by
  cases question : (t.checkAvailable w).answer with
  | error f => simp [visited_of_withheld question]
  | ok u =>
    rw [visited_of_available question]
    exact steps_visits_prefix

theorem report_of_mem_visited {v : Visit σ} (hv : v ∈ visited settings c t steps w) :
    ∃ w', v.report = v.step.perform settings c t w' := by
  cases question : (t.checkAvailable w).answer with
  | error f => simp [visited_of_withheld question] at hv
  | ok u =>
    rw [visited_of_available question] at hv
    exact (mem_visits hv).2

theorem completesAll_of_completed (question : (t.checkAvailable w).answer = .ok ())
    (completed : Visit.stop? (executedVisits settings c t steps w) = none) :
    CompletesAll settings c t steps w := by
  rw [CompletesAll, visited_of_available question]
  exact all_of_stop?_eq_none completed

theorem visited_of_stopped (question : (t.checkAvailable w).answer = .ok ())
    (stopped : Visit.stop? (executedVisits settings c t steps w) = some x) :
    ∃ done v, visited settings c t steps w = done ++ [v] ∧ done.length = x.index ∧
      (visited settings c t steps w).map Visit.step = steps.take (x.index + 1) ∧
      (∀ u ∈ done, u.Completed) ∧ v.report.answer = .error x.fault ∧ v.step = x.step := by
  obtain ⟨hx, done, v, he, hm, hc, hv, ha⟩ := split_of_stop?_eq_some stopped
  have hsplit : visited settings c t steps w = done ++ [v] := by
    rw [visited_of_available question]
    exact he
  have hlength : done.length = x.index := by
    have hlt := (List.getElem?_eq_some_iff.1 hx).1
    have htake := congrArg List.length hm
    simp only [List.length_map, List.length_take] at htake
    omega
  refine ⟨done, v, hsplit, hlength, ?_, hc, ha, hv⟩
  rw [hsplit, List.map_append, hm, List.map_singleton, hv, List.take_add_one, hx]
  rfl

theorem failsAt_of_stopped (question : (t.checkAvailable w).answer = .ok ())
    (stopped : Visit.stop? (executedVisits settings c t steps w) = some x) :
    FailsAt settings c t steps w x.index x.fault := by
  obtain ⟨done, v, hsplit, hlength, -, -, ha, -⟩ := visited_of_stopped question stopped
  refine ⟨v, ?_, ha⟩
  rw [hsplit, ← hlength, List.getElem?_concat_length]

theorem FailsAt.mem (h : FailsAt settings c t steps w i f) :
    ∃ v ∈ visited settings c t steps w, v.report.answer = .error f := by
  obtain ⟨v, hv, ha⟩ := h
  exact ⟨v, List.mem_of_getElem? hv, ha⟩

theorem FailsAt.not_completesAll (h : FailsAt settings c t steps w i f) :
    ¬ CompletesAll settings c t steps w := by
  intro all
  obtain ⟨v, hv, ha⟩ := h.mem
  cases (all.2 v hv).symm.trans ha

theorem FailsAt.visited_ne_nil (h : FailsAt settings c t steps w i f) :
    visited settings c t steps w ≠ [] := by
  obtain ⟨v, hv, -⟩ := h.mem
  exact List.ne_nil_of_mem hv

theorem CompletesAll.visited_ne_nil (h : CompletesAll settings c t steps w)
    (nonempty : steps ≠ []) : visited settings c t steps w ≠ [] := by
  intro he
  have hm := h.1
  rw [he] at hm
  exact nonempty hm.symm

theorem FailsAt.split (h : FailsAt settings c t steps w i f) :
    ∃ done v, visited settings c t steps w = done ++ [v] ∧ done.length = i ∧
      (visited settings c t steps w).map Visit.step = steps.take (i + 1) ∧
      (∀ u ∈ done, u.Completed) ∧ v.report.answer = .error f := by
  obtain ⟨question⟩ : Nonempty ((t.checkAvailable w).answer = .ok ()) := by
    cases question : (t.checkAvailable w).answer with
    | ok u => exact ⟨rfl⟩
    | error e => exact absurd (visited_of_withheld question) h.visited_ne_nil
  cases stopped : Visit.stop? (executedVisits settings c t steps w) with
  | none => exact absurd (completesAll_of_completed question stopped) h.not_completesAll
  | some x =>
    obtain ⟨done, v, hsplit, hlength, hm, hc, ha, -⟩ := visited_of_stopped question stopped
    obtain ⟨u, hu, hf⟩ := h
    have hlast : u = v ∧ i = x.index := by
      rw [hsplit, List.getElem?_append] at hu
      split at hu
      · have hdone := hc u (List.mem_of_getElem? hu)
        cases hdone.symm.trans hf
      · rename_i hge
        obtain ⟨hi, hu⟩ := List.getElem?_eq_some_iff.1 hu
        rw [List.length_singleton] at hi
        have hi : i = x.index := by omega
        simp only [hi, hlength, Nat.sub_self, List.getElem_cons_zero] at hu
        exact ⟨hu.symm, hi⟩
    obtain ⟨rfl, rfl⟩ := hlast
    exact ⟨done, u, hsplit, hlength, hm, hc, hf⟩

theorem FailsAt.unique {j : Nat} {g : Fault} (h : FailsAt settings c t steps w i f)
    (h' : FailsAt settings c t steps w j g) : i = j ∧ f = g := by
  obtain ⟨done, v, hs, hl, -, -, ha⟩ := h.split
  obtain ⟨done', v', hs', hl', -, -, ha'⟩ := h'.split
  obtain ⟨rfl, hv⟩ := List.append_inj' (hs.symm.trans hs') rfl
  obtain rfl := List.singleton_inj.1 hv
  exact ⟨hl.symm.trans hl', Except.error.inj (ha.symm.trans ha')⟩

theorem failsAt_append_of_idle {done rest : List Step} {s : Step}
    (question : (t.checkAvailable w).answer = .ok ())
    (idle : ∀ s' ∈ done,
      (s'.perform settings c t (t.checkAvailable w).after).answer = .ok () ∧
        (s'.perform settings c t (t.checkAvailable w).after).after = (t.checkAvailable w).after)
    (failed : (s.perform settings c t (t.checkAvailable w).after).answer = .error f) :
    FailsAt settings c t (done ++ s :: rest) w done.length f := by
  rw [FailsAt, visited_of_available question, executedVisits, visits_append_of_idle idle,
    visits_of_error failed]
  refine ⟨⟨s, s.perform settings c t (t.checkAvailable w).after⟩, ?_, failed⟩
  rw [List.getElem?_append_right (by simp)]
  simp

variable {ended : Except Fault Int}

theorem Verdict.eq_of_completesAll (h : Verdict settings c t steps w ended) (nonempty : steps ≠ [])
    (all : CompletesAll settings c t steps w) : ended = .ok 0 := by
  cases h with
  | completed => rfl
  | failed fails | escaped fails => exact absurd all fails.not_completesAll
  | unavailable unvisited | unanswered unvisited =>
    exact absurd unvisited (all.visited_ne_nil nonempty)

theorem Verdict.eq_of_failsAt (h : Verdict settings c t steps w ended)
    (fails : FailsAt settings c t steps w i f) :
    ended = if f.isProvisioning then .ok (min (10 + i) 255) else .error f := by
  cases h with
  | completed all => exact absurd all fails.not_completesAll
  | failed fails' provisioning =>
    obtain ⟨rfl, rfl⟩ := fails.unique fails'
    rw [if_pos provisioning]
  | escaped fails' foreign =>
    obtain ⟨rfl, rfl⟩ := fails.unique fails'
    rw [foreign]
    rfl
  | unavailable unvisited | unanswered unvisited => exact absurd unvisited fails.visited_ne_nil

theorem Verdict.completesAll_of_zero (h : Verdict settings c t steps w (.ok 0)) :
    CompletesAll settings c t steps w := by
  generalize hended : (.ok 0 : Except Fault Int) = ended at h
  cases h with
  | completed all => exact all
  | failed =>
    have hcode := Except.ok.inj hended
    omega
  | escaped | unavailable | unanswered => cases hended

theorem Verdict.failsAt_of_ten_le {code : Int} (h : Verdict settings c t steps w (.ok code))
    (le : 10 ≤ code) :
    ∃ i f, FailsAt settings c t steps w i f ∧ f.isProvisioning = true ∧
      code = min (10 + (i : Int)) 255 := by
  generalize hended : (.ok code : Except Fault Int) = ended at h
  cases h with
  | @failed i f fails provisioning => exact ⟨i, f, fails, provisioning, Except.ok.inj hended⟩
  | completed | unavailable =>
    obtain rfl := Except.ok.inj hended
    omega
  | escaped | unanswered => cases hended

theorem Verdict.unvisited_of_lt {code : Int} (h : Verdict settings c t steps w (.ok code))
    (pos : 0 < code) (lt : code < 10) : visited settings c t steps w = [] := by
  generalize hended : (.ok code : Except Fault Int) = ended at h
  cases h with
  | unavailable unvisited | unanswered unvisited => exact unvisited
  | completed | failed =>
    obtain rfl := Except.ok.inj hended
    omega
  | escaped => cases hended

theorem Verdict.unvisited_of_unavailable {target reason : String}
    (h : Verdict settings c t steps w (.error (.unavailable target reason))) :
    visited settings c t steps w = [] := by
  generalize hended : (.error (.unavailable target reason) : Except Fault Int) = ended at h
  cases h with
  | unavailable unvisited | unanswered unvisited => exact unvisited
  | completed | failed => cases hended
  | escaped _ foreign =>
    obtain rfl := Except.error.inj hended
    cases foreign

end Visited

section Ending

variable {settings : Settings} {c : Console} {t : Target σ} {p q : Pipeline} {w : σ}
  {ended : Except Fault Outcome} {trace : List Event}

theorem Ending.trace_eq (fresh : p.state = .notStarted)
    (h : Ending settings c t p w q ended trace) :
    trace = (t.checkAvailable w).trace ++
      (visited settings c t p.steps w).flatMap (Visit.trace c) := by
  cases h with
  | repeated started => exact absurd fresh started
  | unavailable _ question | unanswered _ question => simp [visited_of_withheld question]
  | succeeded _ question | failed _ question | escaped _ question =>
    rw [visited_of_available question, visitedTrace]

theorem Ending.lines_eq (fresh : p.state = .notStarted)
    (h : Ending settings c t p w q ended trace) :
    lines trace = (visited settings c t p.steps w).flatMap fun v => lines v.report.trace := by
  cases h with
  | repeated started => exact absurd fresh started
  | unavailable _ question | unanswered _ question =>
    rw [visited_of_withheld question, lines_checkAvailable]
    rfl
  | succeeded _ question | failed _ question | escaped _ question =>
    rw [visited_of_available question, lines_visitedTrace]

/-- The exit code of an execution, or the fault that escapes from it, by what it came to. -/
theorem Ending.verdict (fresh : p.state = .notStarted)
    (h : Ending settings c t p w q ended trace) :
    Verdict settings c t p.steps w (ended.map Outcome.exitCode) := by
  cases h with
  | repeated started => exact absurd fresh started
  | unavailable _ question => exact .unavailable (visited_of_withheld question)
  | unanswered _ question other => exact .unanswered (visited_of_withheld question) other
  | succeeded _ question completed =>
    exact .completed (completesAll_of_completed question completed)
  | failed _ question stopped provisioning =>
    exact .failed (failsAt_of_stopped question stopped) provisioning
  | escaped _ question stopped foreign =>
    exact .escaped (failsAt_of_stopped question stopped) foreign

end Ending

section CameTo

variable (settings : Settings) (c : Console) (t : Target σ) (steps : List Step) (w : σ)

inductive CameTo : Outcome → Prop
  | unavailable {f : Fault} (unvisited : visited settings c t steps w = []) :
      CameTo (unavailableOutcome f)
  | succeeded (all : CompletesAll settings c t steps w) : CameTo (succeededOutcome steps)
  | failed {done : List (Visit σ)} {v : Visit σ} {cause : Fault}
      (split : visited settings c t steps w = done ++ [v])
      (located : steps[done.length]? = some v.step)
      (taken : (visited settings c t steps w).map Visit.step = steps.take (done.length + 1))
      (completed : ∀ u ∈ done, u.Completed) (answer : v.report.answer = .error cause)
      (provisioning : cause.isProvisioning = true) :
      CameTo (failedOutcome steps ⟨done.length, v.step, cause⟩)

variable {settings c t steps w} {p q : Pipeline} {o : Outcome} {trace : List Event}

theorem Ending.cameTo (h : Ending settings c t p w q (.ok o) trace) :
    CameTo settings c t p.steps w o := by
  generalize hended : (.ok o : Except Fault Outcome) = ended at h
  cases h with
  | unavailable _ question =>
    obtain rfl := Except.ok.inj hended
    exact .unavailable (visited_of_withheld question)
  | succeeded _ question completed =>
    obtain rfl := Except.ok.inj hended
    exact .succeeded (completesAll_of_completed question completed)
  | @failed x _ question stopped provisioning =>
    obtain rfl := Except.ok.inj hended
    obtain ⟨index, step, cause⟩ := x
    obtain ⟨done, v, split, rfl, taken, completed, answer, rfl⟩ :=
      visited_of_stopped question stopped
    exact .failed split (split_of_stop?_eq_some stopped).1 taken completed answer provisioning
  | repeated | unanswered | escaped => cases hended

theorem cameTo_of_execute (h : (p.execute settings c t w).answer = .ok (q, .ok o)) :
    CameTo settings c t p.steps w o :=
  (ending_of_execute h).cameTo

theorem CameTo.executed_eq (h : CameTo settings c t steps w o) :
    o.executed = (visited settings c t steps w).map fun v => v.step.name := by
  have hnames (vs : List (Visit σ)) :
      vs.map (fun v => v.step.name) = (vs.map Visit.step).map Step.name := (List.map_map ..).symm
  rw [hnames]
  cases h with
  | unavailable unvisited =>
    rw [unvisited]
    rfl
  | succeeded all =>
    rw [all.1]
    rfl
  | failed _ _ taken =>
    rw [taken]
    rfl

theorem CameTo.completed_of_unfailed (h : CameTo settings c t steps w o)
    (unfailed : o.failedIndex = none) : ∀ v ∈ visited settings c t steps w, v.Completed := by
  cases h with
  | unavailable unvisited =>
    rw [unvisited]
    exact fun _ hv => nomatch hv
  | succeeded all => exact all.2
  | failed => cases unfailed

end CameTo
end Provisioning.Pipeline
