import Provisioning.Proofs.Visiting
import Provisioning.Target.Host
import Provisioning.World.Replies

/-!
A run stops at the first step that fails. The lines that it hands over are a beginning of the plans
of its steps one after the other: all of them if it succeeds, and otherwise the plans of the steps
before the failed one and a beginning of that step's own plan.
-/
namespace Provisioning

open Activity

variable {σ : Type} {settings : Settings} {c : Console} {t : Target σ}

theorem lines_of_completed {vs : List (Visit σ)} {plans : List (List String)}
    (planned : List.Forall₂ (fun s plan => Step.plan settings t s = .ok plan)
      (vs.map Visit.step) plans)
    (hv : ∀ v ∈ vs, v.Completed ∧ ∃ w, v.report = v.step.perform settings c t w) :
    vs.flatMap (fun v => lines v.report.trace) = plans.flatten := by
  induction vs generalizing plans with
  | nil =>
    rw [List.map_nil, List.forall₂_nil_left_iff] at planned
    rw [planned]
    rfl
  | cons v vs ih =>
    rw [List.map_cons, List.forall₂_cons_left_iff] at planned
    obtain ⟨plan, rest, hp, hr, rfl⟩ := planned
    obtain ⟨hc, w, hw⟩ := hv v List.mem_cons_self
    have hl : lines v.report.trace = plan := by
      rw [Visit.Completed, hw] at hc
      rw [hw]
      exact (Step.follows_perform settings c t hp w).2 () hc
    have hrest := ih hr fun u hu => hv u (List.mem_cons_of_mem _ hu)
    rw [List.flatMap_cons, hl, hrest, List.flatten_cons]

theorem lines_of_stopped {steps : List Step} {plans : List (List String)} {x : Stop} {w : σ}
    (planned : List.Forall₂ (fun s plan => Step.plan settings t s = .ok plan) steps plans)
    (stopped : Visit.stop? (visits settings c t steps w) = some x) :
    ∃ h : x.index < plans.length, ∃ part, part <+: plans[x.index] ∧
      (visits settings c t steps w).flatMap (fun v => lines v.report.trace) =
        (plans.take x.index).flatten ++ part := by
  obtain ⟨hs, done, v, he, hm, hc, hx, -⟩ := split_of_stop?_eq_some stopped
  obtain ⟨hi, hs⟩ := List.getElem?_eq_some_iff.1 hs
  have hip : x.index < plans.length := planned.length_eq ▸ hi
  have hmem (u : Visit σ) (hu : u ∈ done ++ [v]) :
      ∃ w, u.report = u.step.perform settings c t w := (mem_visits (he ▸ hu)).2
  have hplan : Step.plan settings t v.step = .ok plans[x.index] := by
    have hg := planned.get hi hip
    simp only [List.get_eq_getElem] at hg
    rw [hx, ← hs]
    exact hg
  have hpart : lines v.report.trace <+: plans[x.index] := by
    obtain ⟨w', hw⟩ := hmem v (by simp)
    rw [hw]
    exact (Step.follows_perform settings c t hplan w').1
  have hdone : done.flatMap (fun v => lines v.report.trace) = (plans.take x.index).flatten := by
    refine lines_of_completed (t := t) ?_ fun u hu => ⟨hc u hu, hmem u (by simp [hu])⟩
    rw [hm]
    exact List.forall₂_take x.index planned
  refine ⟨hip, lines v.report.trace, hpart, ?_⟩
  rw [he, List.flatMap_append, hdone, List.flatMap_singleton]

theorem flatten_take_append_part {plans : List (List String)} {i : Nat} (h : i < plans.length)
    {part : List String} (hp : part <+: plans[i]) :
    (plans.take i).flatten ++ part <+: plans.flatten := by
  have hsplit : plans.flatten = (plans.take i).flatten ++ (plans.drop i).flatten := by
    rw [← List.flatten_append, List.take_append_drop]
  rw [hsplit, List.drop_eq_getElem_cons h, List.flatten_cons]
  exact (List.prefix_append_right_inj _).2 (hp.trans (List.prefix_append _ _))

/-- An execution that comes to a result hands over a beginning of the plans of its steps: all of
them if it succeeds, nothing if it fails before the first step, and otherwise the plans of the steps
before the failed one and a beginning of that step's own. -/
theorem lines_execute_prefix_plans (settings : Settings) (c : Console) (t : Target σ) (w : σ)
    {p q : Pipeline} {o : Pipeline.Outcome} (legible : ∀ s ∈ p.steps, s.Legible)
    (ended : (p.execute settings c t w).answer = .ok (q, .ok o)) :
    ∃ plans, p.steps.mapM (Step.plan settings t) = .ok plans ∧
      lines (p.execute settings c t w).trace <+: plans.flatten ∧
      (o.state = .succeeded → lines (p.execute settings c t w).trace = plans.flatten) ∧
      (o.state = .failed → o.failedIndex = none → lines (p.execute settings c t w).trace = []) ∧
      ∀ n : Int, o.state = .failed → o.failedIndex = some n →
        ∃ i : Nat, n = i ∧ ∃ h : i < plans.length, ∃ part, part <+: plans[i] ∧
          lines (p.execute settings c t w).trace = (plans.take i).flatten ++ part := by
  obtain ⟨plans, hplans⟩ := Refusable.mapM_accepted fun s hs =>
    Step.plan_of_legible settings t (legible s hs)
  have planned := Refusable.mapM_eq_ok.1 hplans
  have hending := Pipeline.ending_of_execute ended
  refine ⟨plans, hplans, ?_⟩
  generalize (p.execute settings c t w).trace = tr at hending ⊢
  cases hending with
  | unavailable fresh question =>
    rw [lines_checkAvailable]
    refine ⟨List.nil_prefix, ?_, fun _ _ => rfl, ?_⟩
    · intro h
      cases h
    · intro n _ hn
      cases hn
  | succeeded fresh question completed =>
    obtain ⟨hm, hc⟩ := all_of_stop?_eq_none completed
    have hall : lines (Pipeline.visitedTrace settings c t p.steps w) = plans.flatten := by
      rw [Pipeline.lines_visitedTrace]
      exact lines_of_completed (hm.symm ▸ planned) fun v hv => ⟨hc v hv, (mem_visits hv).2⟩
    rw [hall]
    refine ⟨List.prefix_rfl, fun _ => rfl, ?_, ?_⟩
    · intro h
      cases h
    · intro n _ hn
      cases hn
  | @failed x fresh question stopped provisioning =>
    obtain ⟨hi, part, hp, hl⟩ := lines_of_stopped planned stopped
    have hall : lines (Pipeline.visitedTrace settings c t p.steps w) =
        (plans.take x.index).flatten ++ part := by
      rw [Pipeline.lines_visitedTrace]
      exact hl
    rw [hall]
    refine ⟨flatten_take_append_part hi hp, ?_, ?_, ?_⟩
    · intro h
      cases h
    · intro _ hn
      cases hn
    · intro n _ hn
      exact ⟨x.index, (Option.some.inj hn).symm, hi, part, hp, rfl⟩

def fetchingSteps : List Step := [
  ⟨"packages", [.text "apt-get update"], .elevated, none, "sh", []⟩,
  ⟨"rust", [], .unprivileged, none, "toolchain",
    [(.text "tool", .text "rustc"), (.text "url", .text "https://example.invalid/rust.sh")]⟩,
  ⟨"test", [], .unprivileged, some "/p", "build-test",
    [(.text "substeps", .tuple [.tuple [.text "test", .text "cargo test"]])]⟩]

theorem fetchingSteps_legible : ∀ s ∈ fetchingSteps, s.Legible := by
  simp only [fetchingSteps, List.forall_mem_cons]
  refine ⟨trivial, .inr ⟨Value.quotable_text _, Value.quotable_text _⟩, ⟨_, rfl, ?_⟩, by simp⟩
  intro x hx
  obtain rfl := List.mem_singleton.1 hx
  exact ⟨_, _, rfl⟩

def fetchingHost : Target (List Reply) := .host .replies [] [] (some false) (some "/work")

def failedFetch : Report Event (List Reply) (Pipeline × Except Fault Pipeline.Outcome) :=
  { steps := fetchingSteps : Pipeline }.execute (.ofEnviron []) {} fetchingHost
    [.exited 0 "", .exited 1 "", .exited 22 ""]

theorem lines_failedFetch :
    (∀ s ∈ fetchingSteps, s.Legible) ∧
      ∃ q o, failedFetch.answer = .ok (q, .ok o) ∧ o.state = .failed ∧ o.failedIndex = some 1 ∧
        ∃ plans, fetchingSteps.mapM (Step.plan (.ofEnviron []) fetchingHost) = .ok plans ∧
          ∃ h : 1 < plans.length, ∃ part, part <+: plans[1] ∧
            lines failedFetch.trace = (plans.take 1).flatten ++ part := by
  refine ⟨fetchingSteps_legible, _, _, rfl, rfl, rfl, ?_⟩
  obtain ⟨plans, hp, -, -, -, hi⟩ := lines_execute_prefix_plans (.ofEnviron []) {} fetchingHost
    [.exited 0 "", .exited 1 "", .exited 22 ""] (p := { steps := fetchingSteps })
    fetchingSteps_legible rfl
  obtain ⟨i, hn, hl, part, hpart, he⟩ := hi 1 rfl rfl
  obtain rfl : i = 1 := by omega
  exact ⟨plans, hp, hl, part, hpart, he⟩

end Provisioning
