import Provisioning.Proofs.FailFast
import Provisioning.Proofs.ShellWords
import Provisioning.Proofs.Verdict

/-!
The privilege and the directory of every line of an execution. What is handed over while a step is
being run is one of its instructions, wrapped with the privilege of the step for the directory of
the step; nothing on the way from the step to the target can lose either of them.
-/
namespace Provisioning

variable {σ : Type}

/-- The directory that the instructions of a step are for: the root for an installer, and otherwise
that of the step, or that of the target if the step has none. -/
def Step.directoryIn (s : Step) (t : Target σ) : Option String :=
  if StepKind.ofWord? s.kind = some .toolchain then some "/" else firstDirectory s.cwd t.workdir

theorem Step.directoryIn_eq (s : Step) (t : Target σ) :
    s.directoryIn t = firstDirectory s.directory t.workdir := by
  unfold directoryIn directory
  by_cases hk : StepKind.ofWord? s.kind = some .toolchain
  · simp [hk, firstDirectory]
  · simp [hk]

theorem firstDirectory_given (d : Option String) {e : String} (given : e ≠ "") :
    ∃ d', d' ≠ "" ∧ firstDirectory d (some e) = some d' := by
  by_cases hd : ∃ d', d = some d' ∧ d' ≠ ""
  · obtain ⟨d', rfl, hne⟩ := hd
    exact ⟨d', hne, firstDirectory_of_ne_empty hne _⟩
  · refine ⟨e, given, ?_⟩
    have hempty : d = none ∨ d = some "" := by
      cases d with
      | none => exact .inl rfl
      | some d' => exact .inr (by simpa using hd)
    rcases hempty with rfl | rfl <;> rfl

namespace Target

variable (t : Target σ) (x : String) (p : Privilege) (s : Step)

theorem wrap_directoryIn : t.wrap x p (s.directoryIn t) = t.wrap x p s.directory := by
  rw [s.directoryIn_eq, t.wrap_firstDirectory]

theorem wrap_unprivileged_directoryIn :
    t.wrap x .unprivileged (s.directoryIn t) = Shell.entered (s.directoryIn t) x := by
  have hline := t.wrap_eq x .unprivileged (s.directoryIn t)
  have hsame : firstDirectory (s.directoryIn t) t.workdir = s.directoryIn t := by
    rw [s.directoryIn_eq, firstDirectory_firstDirectory]
  simpa [hsame] using hline

theorem wrap_elevated_firstCommand (notRoot : t.isRoot = false) (d : Option String) :
    ∃ inner, t.wrap x .elevated d = Shell.elevate inner ∧
      Shell.firstCommand (t.wrap x .elevated d) = some (["sudo", "-H", "sh", "-c", inner], "") := by
  refine ⟨t.wrap x .unprivileged d, t.wrap_elevated notRoot x d, ?_⟩
  rw [t.wrap_elevated notRoot, Shell.firstCommand_elevate]

theorem wrap_guarded {d : String} (workdir : t.workdir = some d) (given : d ≠ "") :
    ∃ d', d' ≠ "" ∧ s.directoryIn t = some d' ∧
      (t.wrap x p (s.directoryIn t) = Shell.enter d' x ∨
        t.wrap x p (s.directoryIn t) = Shell.elevate (Shell.enter d' x)) := by
  obtain ⟨d', hd', hdir⟩ := firstDirectory_given s.directory given
  have hdir : s.directoryIn t = some d' := by rw [s.directoryIn_eq, workdir, hdir]
  have hline : Shell.entered (firstDirectory (s.directoryIn t) t.workdir) x = Shell.enter d' x := by
    rw [hdir, firstDirectory_of_ne_empty hd', Shell.entered_of_ne_empty hd']
  refine ⟨d', hd', hdir, ?_⟩
  rw [t.wrap_eq, hline]
  by_cases helevated : (p = .elevated && !t.isRoot) = true
  · exact .inr (if_pos helevated)
  · exact .inl (if_neg helevated)

end Target

namespace Pipeline

/-- Every line of an execution belongs to the visit of a step and is one of the instructions of that
step, wrapped with its privilege for its directory. So it is behind `sudo` if the step is elevated
and the target is not run by the superuser, it is not if the step is unprivileged, and it enters a
directory first if the target has a working directory. -/
theorem wrapped_lines_of_execute (settings : Settings) (c : Console) (t : Target σ) (p : Pipeline)
    (w : σ) :
    let trace := (p.execute settings c t w).trace
    let vs := visited settings c t p.steps w
    (p.state ≠ .notStarted → trace = []) ∧
    (p.state = .notStarted →
      trace = (t.checkAvailable w).trace ++ vs.flatMap (Visit.trace c) ∧
      lines (t.checkAvailable w).trace = [] ∧ vs.map Visit.step <+: p.steps ∧
      ∀ v ∈ vs, (∃ w', v.report = v.step.perform settings c t w') ∧
        ∀ line ∈ lines (v.trace c), ∃ x, v.step.Instructs settings x ∧
          line = t.wrap x v.step.privilege (v.step.directoryIn t) ∧
          (v.step.privilege = .elevated → t.isRoot = false →
            ∃ inner, line = Shell.elevate inner ∧
              Shell.firstCommand line = some (["sudo", "-H", "sh", "-c", inner], "")) ∧
          (v.step.privilege = .unprivileged → line = Shell.entered (v.step.directoryIn t) x) ∧
          ∀ d, t.workdir = some d → d ≠ "" →
            ∃ d', d' ≠ "" ∧ v.step.directoryIn t = some d' ∧
              (line = Shell.enter d' x ∨ line = Shell.elevate (Shell.enter d' x))) := by
  intro trace vs
  refine ⟨fun started => by simp [trace, execute_of_started settings c t started], fun fresh => ?_⟩
  obtain ⟨q, ended, -, ending⟩ := execute_ending settings c t p w
  refine ⟨ending.trace_eq fresh, lines_checkAvailable t w, steps_visited_prefix, fun v hv => ?_⟩
  obtain ⟨w', hw'⟩ := report_of_mem_visited hv
  refine ⟨⟨w', hw'⟩, fun line hline => ?_⟩
  rw [v.lines_trace c, hw'] at hline
  obtain ⟨x, hx, hline⟩ := v.step.hands_instructions settings c t w' line hline
  rw [← t.wrap_directoryIn] at hline
  refine ⟨x, hx, hline, fun elevated notRoot => ?_, fun unprivileged => ?_,
    fun d workdir given => ?_⟩
  · rw [hline, elevated]
    exact t.wrap_elevated_firstCommand x notRoot _
  · rw [hline, unprivileged]
    exact t.wrap_unprivileged_directoryIn x v.step
  · rw [hline]
    exact t.wrap_guarded x v.step.privilege v.step workdir given

theorem wrapped_lines_failedFetch :
    ∃ first second, visited (.ofEnviron []) {} fetchingHost fetchingSteps
        [.exited 0 "", .exited 1 "", .exited 22 ""] = [first, second] ∧
      (lines (first.trace {}) ≠ [] ∧
        ∀ line ∈ lines (first.trace {}), ∃ inner, line = Shell.elevate inner) ∧
      lines (second.trace {}) ≠ [] ∧
        ∀ line ∈ lines (second.trace {}), ∃ x, line = Shell.enter "/" x := by
  obtain ⟨-, -, -, law⟩ := (wrapped_lines_of_execute (.ofEnviron []) {} fetchingHost
    { steps := fetchingSteps } [.exited 0 "", .exited 1 "", .exited 22 ""]).2 rfl
  refine ⟨_, _, rfl, ⟨List.cons_ne_nil _ _, fun line hline => ?_⟩, List.cons_ne_nil _ _,
    fun line hline => ?_⟩
  · obtain ⟨x, -, -, elevated, -⟩ := (law _ (.head _)).2 line hline
    obtain ⟨inner, hinner, -⟩ := elevated rfl rfl
    exact ⟨inner, hinner⟩
  · obtain ⟨x, -, -, -, unprivileged, -⟩ := (law _ (.tail _ (.head _))).2 line hline
    exact ⟨x, unprivileged rfl⟩

end Pipeline
end Provisioning
