import Provisioning.Proofs.Reporting
import Provisioning.Proofs.Soundness

/-!
When an execution settles: it comes to a result, and the pipeline to one of the two states that it
never leaves. A target that raises nothing but faults of provisioning can keep it from that in one
way, by answering the first question with a fault other than that it is unavailable. All else is up
to the data of the steps, which is looked at no earlier than in the middle of the run.
-/
namespace Provisioning

open Activity

variable {σ : Type}

namespace Target

/-- What the target raises are faults of provisioning. -/
def Reliable (t : Target σ) : Prop :=
  t.available.Ensures (fun _ => True) (fun f => f.isProvisioning = true) ∧
    ∀ line, (t.perform line).Ensures (fun _ => True) fun f => f.isProvisioning = true

theorem Reliable.confines {t : Target σ} (ht : t.Reliable) :
    t.Confines fun f => f.isProvisioning = true where
  question := ht.1.imp (fun _ _ _ _ hf => hf) fun _ hf => hf
  line text := (ht.2 text).imp (fun _ _ _ _ hf => hf) fun _ hf => hf

/-- The target answers the question whether it is available, or raises that it is not. -/
def Answers (t : Target σ) (w : σ) : Prop :=
  ∀ f, (t.available w).answer = .error f → ∃ target reason, f = .unavailable target reason

theorem checkAvailable_of_raised {t : Target σ} {w : σ} {f : Fault}
    (h : (t.available w).answer = .error f) : (t.checkAvailable w).answer = .error f := by
  unfold checkAvailable
  rw [bind_of_error ((t.answer_isAvailable w).trans h)]

theorem raised_of_checkAvailable {t : Target σ} {w : σ} {f : Fault}
    (h : (t.checkAvailable w).answer = .error f)
    (other : ∀ target reason, f ≠ .unavailable target reason) :
    (t.available w).answer = .error f := by
  unfold checkAvailable at h
  cases ha : (t.available w).answer with
  | error e =>
    rw [bind_of_error ((t.answer_isAvailable w).trans ha)] at h
    exact congrArg Except.error (Except.error.inj h)
  | ok answer =>
    rw [bind_of_ok ((t.answer_isAvailable w).trans ha)] at h
    cases answer with
    | true => cases h
    | false => exact absurd (Except.error.inj h).symm (other _ _)

end Target

namespace Pipeline

/-- The execution comes to a result, in which the pipeline stays. -/
def Settles (settings : Settings) (c : Console) (t : Target σ) (p : Pipeline) (w : σ) : Prop :=
  ∃ q o, (p.execute settings c t w).answer = .ok (q, .ok o) ∧
    (o.state = .succeeded ∨ o.state = .failed) ∧ q.state = o.state ∧ q.result = some o

section Settles

variable {settings : Settings} {c : Console} {t : Target σ} {p : Pipeline} {w : σ}

variable (settings c) in
/-- An execution that does not settle ends before the first step or at a step that is not sound. -/
theorem settles_or_escapes (fresh : p.state = .notStarted) (reliable : t.Reliable) :
    p.Settles settings c t w ∨
      (∃ f, (p.execute settings c t w).answer = .ok (p, .error f) ∧
        (t.available w).answer = .error f ∧ ∀ target reason, f ≠ .unavailable target reason) ∨
      ∃ i s f, (p.execute settings c t w).answer =
          .ok ({ p with state := .running, current := some i }, .error f) ∧
        p.steps[i]? = some s ∧ ¬ s.Sound ∧ f.isProvisioning = false := by
  obtain ⟨q, ended, ha, hending⟩ := execute_ending settings c t p w
  generalize (p.execute settings c t w).trace = trace at hending
  cases hending with
  | repeated started => exact absurd fresh started
  | unavailable => exact .inl ⟨_, _, ha, .inr rfl, rfl, rfl⟩
  | unanswered _ question other =>
    exact .inr (.inl ⟨_, ha, Target.raised_of_checkAvailable question other, other⟩)
  | succeeded => exact .inl ⟨_, _, ha, .inl rfl, rfl, rfl⟩
  | failed => exact .inl ⟨_, _, ha, .inr rfl, rfl, rfl⟩
  | @escaped x _ _ stopped foreign =>
    obtain ⟨hs, done, v, he, -, -, hv, hanswer⟩ := split_of_stop?_eq_some stopped
    have hmem : v ∈ visits settings c t p.steps (t.checkAvailable w).after := by simp [he]
    obtain ⟨-, w', hw⟩ := mem_visits hmem
    refine .inr (.inr ⟨_, x.step, _, ha, hs, fun sound => ?_, foreign⟩)
    -- A sound step raises faults of provisioning only, and those do not escape.
    rw [hw, hv] at hanswer
    have hprovisioning :=
      (Step.perform_confined reliable.confines settings c sound).of_error hanswer
    rw [hprovisioning] at foreign
    cases foreign

theorem not_settles_of_raised {f : Fault} (raised : (t.available w).answer = .error f)
    (other : ∀ target reason, f ≠ .unavailable target reason) :
    ¬ p.Settles settings c t w := by
  intro settles
  obtain ⟨q, o, ha, -⟩ := settles
  have hending := ending_of_execute ha
  have question := Target.checkAvailable_of_raised raised
  generalize (p.execute settings c t w).trace = trace at hending
  cases hending with
  | unavailable _ h => exact other _ _ (Except.error.inj (question.symm.trans h))
  | succeeded _ h | failed _ h => cases question.symm.trans h

theorem sound_of_settles (h : p.Settles settings c .obliging ()) : ∀ s ∈ p.steps, s.Sound := by
  obtain ⟨q, o, ha, -⟩ := h
  have hending := ending_of_execute ha
  generalize (p.execute settings c .obliging ()).trace = trace at hending
  cases hending with
  | unavailable _ question => cases question
  | succeeded _ _ completed =>
    obtain ⟨hm, hc⟩ := all_of_stop?_eq_none completed
    intro s hs
    rw [← hm] at hs
    obtain ⟨v, hv, rfl⟩ := List.mem_map.1 hs
    obtain ⟨-, w', hw⟩ := mem_visits hv
    by_contra unsound
    have hanswer := hc v hv
    rw [Visit.Completed, hw] at hanswer
    exact (Step.refuses_of_not_sound settings c unsound).of_ok hanswer
  | @failed x _ _ stopped provisioning =>
    obtain ⟨-, done, v, he, -, -, hv, hanswer⟩ := split_of_stop?_eq_some stopped
    have hmem : v ∈ executedVisits settings c .obliging p.steps () := by
      change v ∈ visits settings c .obliging p.steps _
      simp [he]
    obtain ⟨-, w', hw⟩ := mem_visits hmem
    rw [hw, hv] at hanswer
    -- A sound step raises nothing there, and the fault of any other is not of provisioning.
    by_cases sound : x.step.Sound
    · have confines := Target.confines_obliging fun _ => False
      exact ((Step.perform_confined confines settings c sound).of_error hanswer).elim
    · obtain ⟨cause, hcause⟩ := (Step.refuses_of_not_sound settings c sound).of_error hanswer
      rw [hcause] at provisioning
      cases provisioning

end Settles
end Pipeline

namespace Target

theorem reliable_obliging : Target.obliging.Reliable :=
  ⟨ensures_pure trivial, fun _ => ensures_pure trivial⟩

theorem answers_obliging : Target.obliging.Answers () := fun _ h => nomatch h

end Target

/-- Where the target raises nothing but faults of provisioning and answers the first question,
every execution of a pipeline settles exactly if all of its steps are sound. Otherwise a run may
leave the pipeline as it was, when the first question is not answered, or running for good at a
step that is not sound. An execution that settles is reported. -/
theorem settles_iff_sound {entries : List Pipeline.Entry} {p : Pipeline}
    (made : Pipeline.make entries = .ok p) (settings : Settings) :
    ((∀ s ∈ p.steps, s.Sound) ↔
      ∀ (σ : Type) (c : Console) (t : Target σ) (w : σ), t.Reliable → t.Answers w →
        p.Settles settings c t w) ∧
    (∀ (σ : Type) (c : Console) (t : Target σ) (w : σ), t.Reliable → ¬ p.Settles settings c t w →
      (¬ t.Answers w ∧ ∃ f, (p.execute settings c t w).answer = .ok (p, .error f)) ∨
      ∃ i s f, p.steps[i]? = some s ∧ ¬ s.Sound ∧ f.isProvisioning = false ∧
        (p.execute settings c t w).answer =
          .ok ({ p with state := .running, current := some i }, .error f)) ∧
    (∀ (σ : Type) (c : Console) (t : Target σ) (w : σ), ¬ t.Answers w →
      ¬ p.Settles settings c t w) ∧
    ∀ (u : CommandLine.Surroundings) (σ : Type) (c : Console) (t : Target σ) (w : σ),
      u.settings = settings → p.Settles settings c t w → ∀ name printPlan, ∃ o before,
        let r := CommandLine.executeSteps u c t p.steps name printPlan w
        r.trace = before ++ Console.results o ∧ r.answer = .ok o.exitCode := by
  have fresh := Pipeline.fresh_of_make made
  refine ⟨⟨?_, ?_⟩, ?_, ?_, ?_⟩
  · intro sound σ c t w reliable answers
    rcases Pipeline.settles_or_escapes settings c fresh reliable with
      settles | ⟨f, -, raised, other⟩ | ⟨i, s, f, -, hs, unsound, -⟩
    · exact settles
    · obtain ⟨target, reason, hf⟩ := answers f raised
      exact absurd hf (other target reason)
    · exact absurd (sound s (List.mem_of_getElem? hs)) unsound
  · intro settles
    exact Pipeline.sound_of_settles
      (settles Unit {} .obliging () Target.reliable_obliging Target.answers_obliging)
  · intro σ c t w reliable unsettled
    rcases Pipeline.settles_or_escapes settings c fresh reliable with
      settles | ⟨f, ha, raised, other⟩ | ⟨i, s, f, ha, hs, unsound, foreign⟩
    · exact absurd settles unsettled
    · refine .inl ⟨fun answers => ?_, f, ha⟩
      obtain ⟨target, reason, hf⟩ := answers f raised
      exact other target reason hf
    · exact .inr ⟨i, s, f, hs, unsound, foreign, ha⟩
  · intro σ c t w unanswered
    simp only [Target.Answers, not_forall, not_exists] at unanswered
    obtain ⟨f, raised, other⟩ := unanswered
    exact Pipeline.not_settles_of_raised raised other
  · intro u σ c t w hu settles name printPlan
    subst hu
    obtain ⟨q, o, settled, -⟩ := settles
    have again : Pipeline.make (p.steps.map .step) = .ok p :=
      (Pipeline.entries_of_make made).1 ▸ made
    rw [CommandLine.executeSteps_of_ended again settled name printPlan]
    exact ⟨o, _, rfl, rfl⟩

def soundSteps : List Step := [
  ⟨"rust", [], .unprivileged, none, "toolchain", [(.text "tool", .text "rustc")]⟩,
  ⟨"test", [], .unprivileged, none, "build-test",
    [(.text "substeps", .tuple [.tuple [.text "test", .text "cargo test"]])]⟩]

theorem soundSteps_sound : ∀ s ∈ soundSteps, s.Sound := by
  simp only [soundSteps, List.forall_mem_cons]
  refine ⟨⟨rfl, .inr ⟨Value.quotable_text _, .inl rfl⟩⟩, ⟨rfl, fun h => ?_, _, rfl, ?_⟩, by simp⟩
  · cases Except.ok.inj h
  · intro x hx
    obtain rfl := List.mem_singleton.1 hx
    exact ⟨_, _, rfl⟩

theorem settles_soundSteps :
    ∃ p, Pipeline.make (soundSteps.map .step) = .ok p ∧ Target.obliging.Reliable ∧
      p.Settles (.ofEnviron []) {} .obliging () := by
  refine ⟨_, rfl, Target.reliable_obliging, ?_⟩
  exact (settles_iff_sound (rfl : Pipeline.make (soundSteps.map .step) = .ok _)
    (.ofEnviron [])).1.1 soundSteps_sound Unit {} .obliging () Target.reliable_obliging
    Target.answers_obliging

def emptyStage : List Pipeline.Entry :=
  [.step ⟨"test", [], .unprivileged, none, "build-test", [(.text "substeps", .tuple [])]⟩]

/-- The pipeline is accepted and everything goes well in its target, and still it is left running
without a result. -/
theorem emptyStage_left_running :
    ∃ p, Pipeline.make emptyStage = .ok p ∧ Target.obliging.Reliable ∧
      Target.obliging.Answers () ∧ ¬ p.Settles (.ofEnviron []) {} .obliging () ∧
      (p.execute (.ofEnviron []) {} .obliging ()).answer =
        .ok ({ p with state := .running, current := some 0 }, .error (.refused .noSubsteps)) := by
  refine ⟨_, rfl, Target.reliable_obliging, Target.answers_obliging, ?_, rfl⟩
  intro settles
  obtain ⟨q, o, settled, -⟩ := settles
  cases settled

end Provisioning
