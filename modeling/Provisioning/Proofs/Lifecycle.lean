import Provisioning.Proofs.Ending
import Provisioning.Proofs.Validation
import Provisioning.Target.Bare
import Provisioning.Target.Host
import Provisioning.World.Replies

/-!
A pipeline that is executed again and again, each time against a target of its own. Its state, its
position and its result are written at different moments of a run, and still only five pictures
can ever be seen: it has not started; it is running, left behind by a fault that escaped from a
step; every step was completed; the target was unavailable at first; or a step failed.
-/
namespace Provisioning.Pipeline

structure Trial where
  {World : Type}
  settings : Settings
  console : Console
  target : Target World
  world : World

namespace Trial

def report (x : Trial) (p : Pipeline) : Report Event x.World (Pipeline × Except Fault Outcome) :=
  p.execute x.settings x.console x.target x.world

def on (x : Trial) (p : Pipeline) : Pipeline :=
  match (x.report p).answer with
  | .ok (q, _) => q
  | .error _ => p

/-- Every step before number `i` is completed and that one ends with a fault that is not of
provisioning. -/
def LetsEscape (x : Trial) (steps : List Step) (i : Nat) : Prop :=
  ∃ done v f, executedVisits x.settings x.console x.target steps x.world = done ++ [v] ∧
    done.map Visit.step = steps.take i ∧ (∀ u ∈ done, u.Completed) ∧
    steps[i]? = some v.step ∧ v.report.answer = .error f ∧ f.isProvisioning = false

theorem on_ending (x : Trial) (p : Pipeline) :
    ∃ ended trace, Ending x.settings x.console x.target p x.world (x.on p) ended trace := by
  obtain ⟨q, ended, ha, he⟩ := execute_ending x.settings x.console x.target p x.world
  have hq : x.on p = q := by simp only [on, report, ha]
  exact ⟨ended, _, hq ▸ he⟩

theorem on_of_started (x : Trial) {p : Pipeline} (started : p.state ≠ .notStarted) :
    x.on p = p := by
  simp only [on, report, execute_of_started x.settings x.console x.target started]

theorem letsEscape_of_stopped {x : Trial} {steps : List Step} {s : Stop}
    (stopped : Visit.stop?
      (executedVisits x.settings x.console x.target steps x.world) = some s)
    (foreign : s.fault.isProvisioning = false) : x.LetsEscape steps s.index := by
  obtain ⟨hs, done, v, he, hm, hc, hv, ha⟩ := split_of_stop?_eq_some stopped
  exact ⟨done, v, s.fault, he, hm, hc, hv ▸ hs, ha, foreign⟩

end Trial

def after (p : Pipeline) (trials : List Trial) : Pipeline := trials.foldl (fun q x => x.on q) p

/-- The pictures that a pipeline over the given steps can show after the given calls. -/
inductive Standing (steps : List Step) (trials : List Trial) : Pipeline → Prop
  | waiting : Standing steps trials { steps }
  | running {x : Trial} {i : Nat} (called : x ∈ trials) (escaped : x.LetsEscape steps i) :
      Standing steps trials { steps, state := .running, current := some i }
  | succeeded :
      Standing steps trials
        { steps, state := .succeeded, current := some (steps.length - 1),
          result := some (succeededOutcome steps) }
  | unavailable {target reason : String} :
      Standing steps trials
        { steps, state := .failed,
          result := some (unavailableOutcome (.unavailable target reason)) }
  | failed {s : Stop} (reached : steps[s.index]? = some s.step)
      (provisioning : s.fault.isProvisioning = true) :
      Standing steps trials
        { steps, state := .failed, current := some s.index,
          result := some (failedOutcome steps s) }

section Standing

variable {steps : List Step} {trials : List Trial} {p : Pipeline}

theorem Standing.concat (h : Standing steps trials p) (x : Trial) :
    Standing steps (trials ++ [x]) p := by
  cases h with
  | waiting => exact .waiting
  | running called escaped => exact .running (List.mem_append_left _ called) escaped
  | succeeded => exact .succeeded
  | unavailable => exact .unavailable
  | failed reached provisioning => exact .failed reached provisioning

theorem Standing.of_waiting (nonempty : steps ≠ []) (trials : List Trial) (x : Trial) :
    Standing steps (trials ++ [x]) (x.on { steps }) := by
  obtain ⟨ended, trace, h⟩ := x.on_ending { steps }
  generalize x.on { steps } = q at h ⊢
  cases h with
  | repeated started => exact absurd rfl started
  | unavailable => exact .unavailable
  | unanswered => exact .waiting
  | succeeded =>
    rw [if_neg (by simpa using nonempty)]
    exact .succeeded
  | failed fresh question stopped provisioning =>
    exact .failed (split_of_stop?_eq_some stopped).1 provisioning
  | escaped fresh question stopped foreign =>
    exact .running (by simp) (Trial.letsEscape_of_stopped stopped foreign)

theorem Standing.on (nonempty : steps ≠ []) (h : Standing steps trials p) (x : Trial) :
    Standing steps (trials ++ [x]) (x.on p) := by
  by_cases started : p.state = .notStarted
  case neg =>
    -- The first state is the only one that a call can end.
    rw [x.on_of_started started]
    exact h.concat x
  cases h with
  | waiting => exact .of_waiting nonempty trials x
  | running | succeeded | unavailable | failed => cases started

theorem Standing.after (nonempty : steps ≠ []) (h : Standing steps trials p)
    (more : List Trial) : Standing steps (trials ++ more) (p.after more) := by
  -- The calls so far grow as the ones to come are used up, so that an escape keeps its witness.
  induction more generalizing trials p with
  | nil =>
    rw [List.append_nil]
    exact h
  | cons x more ih =>
    have hx := ih (h.on nonempty x)
    rw [List.append_assoc, List.singleton_append] at hx
    exact hx

theorem Standing.of_notStarted (h : Standing steps trials p) (hp : p.state = .notStarted) :
    p.current = none ∧ p.result = none := by
  cases h with
  | waiting => exact ⟨rfl, rfl⟩
  | running | succeeded | unavailable | failed => cases hp

theorem Standing.of_running (h : Standing steps trials p) (hp : p.state = .running) :
    p.result = none ∧ ∃ x ∈ trials, ∃ i, x.LetsEscape steps i ∧ p.current = some i := by
  cases h with
  | running called escaped => exact ⟨rfl, _, called, _, escaped, rfl⟩
  | waiting | succeeded | unavailable | failed => cases hp

theorem Standing.of_succeeded (nonempty : steps ≠ []) (h : Standing steps trials p)
    (hp : p.state = .succeeded) :
    ∃ o n, p.result = some o ∧ o.state = .succeeded ∧ o.executed = steps.map Step.name ∧
      o.error = none ∧ o.failedIndex = none ∧ steps.length = n + 1 ∧ p.current = some n := by
  cases h with
  | succeeded =>
    have hlength : steps.length = steps.length - 1 + 1 := by
      have hpos := List.length_pos_iff.2 nonempty
      omega
    exact ⟨_, _, rfl, rfl, rfl, rfl, rfl, hlength, rfl⟩
  | waiting | running | unavailable | failed => cases hp

theorem Standing.of_failed (h : Standing steps trials p) (hp : p.state = .failed) :
    ∃ o, p.result = some o ∧ o.state = .failed ∧
      ((p.current = none ∧ o.failedIndex = none ∧ o.executed = [] ∧
          ∃ target reason,
            o.error = some (.pipelineFailed none (.unavailable target reason) [])) ∨
        ∃ i s f, steps[i]? = some s ∧ f.isProvisioning = true ∧ p.current = some i ∧
          o.failedIndex = some (i : Int) ∧ o.executed = (steps.take (i + 1)).map Step.name ∧
          o.error = some (.pipelineFailed (some s.name) f
            [("index", .int i), ("privilege", .text s.privilege.word)])) := by
  cases h with
  | unavailable => exact ⟨_, rfl, rfl, .inl ⟨rfl, rfl, rfl, _, _, rfl⟩⟩
  | failed reached provisioning =>
    exact ⟨_, rfl, rfl, .inr ⟨_, _, _, reached, provisioning, rfl, rfl, rfl, rfl⟩⟩
  | waiting | running | succeeded => cases hp

theorem Standing.steps_eq (h : Standing steps trials p) : p.steps = steps := by
  cases h <;> rfl

end Standing

theorem standing_after {entries : List Entry} {p : Pipeline} (made : make entries = .ok p)
    (trials : List Trial) : Standing p.steps trials (p.after trials) := by
  have h : Standing p.steps [] p := by
    rw [eq_of_make made]
    exact .waiting
  exact h.after (entries_of_make made).2 trials

/-- What the state of a pipeline tells of its position and its result, however often and against
whatever it was executed; and once it has left the first state, executing it changes nothing. -/
theorem state_after_trials {entries : List Entry} {p : Pipeline} (made : make entries = .ok p)
    (trials : List Trial) :
    let q := p.after trials
    q.steps = p.steps ∧
    (q.state = .notStarted → q.current = none ∧ q.result = none) ∧
    (q.state = .running → q.result = none ∧
      ∃ x ∈ trials, ∃ i, x.LetsEscape p.steps i ∧ q.current = some i) ∧
    (q.state = .succeeded → ∃ o n, q.result = some o ∧ o.state = .succeeded ∧
      o.executed = p.steps.map Step.name ∧ o.error = none ∧ o.failedIndex = none ∧
      p.steps.length = n + 1 ∧ q.current = some n) ∧
    (q.state = .failed → ∃ o, q.result = some o ∧ o.state = .failed ∧
      ((q.current = none ∧ o.failedIndex = none ∧ o.executed = [] ∧
          ∃ target reason,
            o.error = some (.pipelineFailed none (.unavailable target reason) [])) ∨
        ∃ i s f, p.steps[i]? = some s ∧ f.isProvisioning = true ∧ q.current = some i ∧
          o.failedIndex = some (i : Int) ∧
          o.executed = (p.steps.take (i + 1)).map Step.name ∧
          o.error = some (.pipelineFailed (some s.name) f
            [("index", .int i), ("privilege", .text s.privilege.word)]))) ∧
    (q.state ≠ .notStarted → ∀ x : Trial,
      x.report q = ⟨[], .ok (q, .error (.refused (.alreadyRun q.state))), x.world⟩) := by
  intro q
  have hq : Standing p.steps trials q := standing_after made trials
  have nonempty := (entries_of_make made).2
  exact ⟨hq.steps_eq, hq.of_notStarted, hq.of_running, hq.of_succeeded nonempty, hq.of_failed,
    fun started x => execute_of_started x.settings x.console x.target started x.world⟩

def interruptedEntries : List Entry := [
  .step ⟨"packages", [.text "apt-get update"], .elevated, none, "sh", []⟩,
  .step ⟨"check", [.text "true"], .unprivileged, none, "sh", []⟩]

def interruptedTrials : List Trial := [
  ⟨.ofEnviron [], {}, .bare none, ()⟩,
  ⟨.ofEnviron [], {}, .host .replies [] [] none (some "/work"), [.exited 0 "", .interrupted]⟩,
  ⟨.ofEnviron [], {}, .host .replies [] [] none (some "/work"), [.exited 0 "", .exited 0 ""]⟩]

theorem running_interruptedTrials :
    ∃ p, make interruptedEntries = .ok p ∧ (p.after interruptedTrials).state = .running ∧
      (p.after interruptedTrials).result = none ∧
      (p.after interruptedTrials).current = some 1 ∧
      ∃ x ∈ interruptedTrials, x.LetsEscape p.steps 1 := by
  refine ⟨_, rfl, rfl, ?_⟩
  obtain ⟨-, -, hrunning, -⟩ :=
    state_after_trials (rfl : make interruptedEntries = .ok _) interruptedTrials
  obtain ⟨hresult, x, hx, i, hi, hcurrent⟩ := hrunning rfl
  obtain rfl : 1 = i := Option.some.inj hcurrent
  exact ⟨hresult, hcurrent, x, hx, hi⟩

end Provisioning.Pipeline
