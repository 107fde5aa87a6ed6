import Provisioning.Proofs.Courses

/-!
Where a step can fail other than by its target being out of reach: at an instruction, at a substep,
and for an installer at fetching the script, at running it, or at the second question for the tool.
Each point is described by the lines that were handed over up to it, with their answers, and has a
cause of its own. So a step that fails has the cause of a point exactly if it failed there.
-/
namespace Provisioning

open Activity

variable {σ : Type}

inductive FailurePoint
  | instruction (command : Value) (status : Int)
  | substep (name command : Value) (status : Int)
  | fetch (url : String) (status : Int)
  | script (url : String) (status : Int)
  | confirmation (url tool : String)

def FailurePoint.cause (step : String) : FailurePoint → Fault
  | .instruction command status => .stepFailed step command status
  | .substep name command status => .buildFailed name command status
  | .fetch url status => .fetchFailed url status
  | .script url status => .scriptFailed url status ""
  | .confirmation url tool => .scriptFailed url 0 (tool ++ " not found after install")

theorem FailurePoint.cause_injective (step : String) :
    Function.Injective (FailurePoint.cause step) := by
  intro a b h
  cases a <;> cases b <;> simp_all [cause]

structure ScriptInstaller.Commands (i : ScriptInstaller) (probe fetch run : String) : Prop where
  probe : i.probe = .ok probe
  fetch : i.fetchCommand = .ok fetch
  run : i.runCommand = .ok run

namespace Step

variable (settings : Settings) (t : Target σ) (s : Step)

def line (x : String) : String := t.wrap x s.privilege s.directory

def Installs (i : ScriptInstaller) : Prop :=
  StepKind.ofWord? s.kind = some .toolchain ∧
    ∃ data, s.config = .ok data ∧ Installer.ofConfig settings data s.privilege = .script i

def Stages (stage : Stage) : Prop :=
  StepKind.ofWord? s.kind = some .buildTest ∧
    ∃ data, s.config = .ok data ∧ Stage.ofConfig data s.privilege = .ok stage

end Step

/-- What was handed over for a step that failed at the point, with the answers. All before the point
went well, but that the first question for a tool may have any answer. -/
def FailurePoint.At (settings : Settings) (t : Target σ) (s : Step) (ran : List Answered) :
    FailurePoint → Prop
  | .instruction command status =>
    StepKind.ofWord? s.kind = some .shell ∧ status ≠ 0 ∧
      ∃ before after, s.run = before ++ command :: after ∧
        ran = before.map (fun x => (s.line t x.display, .ok 0)) ++
          [(s.line t command.display, .ok status)]
  | .substep name command status =>
    status ≠ 0 ∧ ∃ stage, s.Stages stage ∧
      ∃ before substep after pairs, stage.substeps = before ++ substep :: after ∧
        before.mapM Value.pair = .ok pairs ∧ substep.pair = .ok (name, command) ∧
        ran = pairs.map (fun x =>
            (s.line t (Shell.sourced stage.envFile x.2.display), .ok 0)) ++
          [(s.line t (Shell.sourced stage.envFile command.display), .ok status)]
  | .fetch url status =>
    status ≠ 0 ∧ ∃ i probe fetch run probed, s.Installs settings i ∧ i.Commands probe fetch run ∧
      url = i.url.display ∧ ran = [(s.line t probe, .ok probed), (s.line t fetch, .ok status)]
  | .script url status =>
    status ≠ 0 ∧ ∃ i probe fetch run probed, s.Installs settings i ∧ i.Commands probe fetch run ∧
      url = i.url.display ∧
      ran = [(s.line t probe, .ok probed), (s.line t fetch, .ok 0), (s.line t run, .ok status)]
  | .confirmation url tool =>
    ∃ status ≠ 0, ∃ i probe fetch run probed, s.Installs settings i ∧
      i.Commands probe fetch run ∧ url = i.url.display ∧ tool = i.tool.display ∧
      ran = [(s.line t probe, .ok probed), (s.line t fetch, .ok 0), (s.line t run, .ok 0),
        (s.line t probe, .ok status)]

def Step.AskedFirst (settings : Settings) (t : Target σ) (s : Step) (ran : List Answered) : Prop :=
  ∃ i probe probed, s.Installs settings i ∧ i.probe = .ok probe ∧
    ran = [(s.line t probe, .ok probed)]

section Lists

open Errand

variable {γ : Type} {t : Target σ} {p : Privilege} {d : Option String}

theorem eq_of_map_ok {xs : List γ} {g : γ → Errand} {passed : List Errand}
    (h : xs.map (fun x => (.ok (g x) : Except Refusal Errand)) = passed.map .ok) :
    passed = xs.map g := by
  have hinjective : Function.Injective (Except.ok : Errand → Except Refusal Errand) :=
    fun _ _ h => Except.ok.inj h
  apply List.map_injective_iff.2 hinjective
  rw [← h, List.map_map]
  rfl

theorem eq_of_passed {xs : List γ} {g : γ → Errand} {done : List Answered}
    (blamed : ∀ x, (g x).blame ≠ none)
    (h : List.Forall₂ (Passed t p d) (xs.map g) done) :
    done = xs.map fun x => ((g x).line t p d, .ok 0) := by
  induction xs generalizing done with
  | nil => exact List.forall₂_nil_left_iff.1 h
  | cons x xs ih =>
    rw [List.map_cons, List.forall₂_cons_left_iff] at h
    obtain ⟨y, rest, ⟨status, passes, hy⟩, hrest, rfl⟩ := h
    have hzero : status = 0 := passes.resolve_right (blamed x)
    rw [List.map_cons, ← ih hrest, hy, hzero]

theorem first_of_errands {r : Except Refusal γ} {g : γ → Errand}
    {es rest : List (Except Refusal Errand)} {passed : List Errand} {e : Errand}
    {done : List Answered} (h : g <$> r :: es = passed.map .ok ++ .ok e :: rest)
    (hdone : List.Forall₂ (Passed t p d) passed done) :
    (∃ x, r = .ok x ∧ e = g x ∧ done = []) ∨
      ∃ x status passed' done', r = .ok x ∧ (g x).Passes status ∧
        done = ((g x).line t p d, .ok status) :: done' ∧
        es = passed'.map .ok ++ .ok e :: rest ∧ List.Forall₂ (Passed t p d) passed' done' := by
  cases hdone with
  | nil =>
    obtain ⟨x, hx, rfl⟩ := Refusable.map_eq_ok.1 (List.cons.inj h).1
    exact .inl ⟨x, hx, rfl, rfl⟩
  | cons hfirst hrest =>
    obtain ⟨h₁, h₂⟩ := List.cons.inj h
    obtain ⟨x, hx, rfl⟩ := Refusable.map_eq_ok.1 h₁
    obtain ⟨status, passes, rfl⟩ := hfirst
    exact .inr ⟨x, status, _, _, hx, passes, rfl, h₂, hrest⟩

end Lists

section Errands

variable {settings : Settings} {t : Target σ} {s : Step}

theorem Step.errands_of_shell (h : StepKind.ofWord? s.kind = some .shell) :
    s.errands settings = s.run.map fun x => .ok (s.errand x) := by
  simp only [errands, h]

theorem Step.errands_of_stages {stage : Stage} (h : s.Stages stage) :
    s.errands settings = stage.errands := by
  obtain ⟨hk, data, hdata, hstage⟩ := h
  simp only [errands, hk, hdata, hstage]

theorem Step.errands_of_installs {i : ScriptInstaller} (h : s.Installs settings i) :
    s.errands settings = i.errands := by
  obtain ⟨hk, data, hdata, hi⟩ := h
  simp only [errands, hk, hdata, hi]
  rfl

theorem Step.errands_cases (settings : Settings) (known : StepKind.ofWord? s.kind ≠ none) :
    StepKind.ofWord? s.kind = some .shell ∨ (∃ stage, s.Stages stage) ∨
      (∃ i, s.Installs settings i) ∨ s.errands settings = [] ∨
      ∃ cause, s.errands settings = [.error cause] := by
  rcases hk : StepKind.ofWord? s.kind with _ | ⟨_ | _ | _⟩
  case none => exact absurd hk known
  case some.shell => exact .inl rfl
  case some.toolchain =>
    cases hdata : s.config with
    | error cause =>
      exact .inr (.inr (.inr (.inr ⟨cause, by simp only [errands, hk, hdata]⟩)))
    | ok data =>
      cases hi : Installer.ofConfig settings data s.privilege with
      | script i => exact .inr (.inr (.inl ⟨i, hk, data, hdata, hi⟩))
      | noop =>
        refine .inr (.inr (.inr (.inl ?_)))
        simp only [errands, hk, hdata, hi, Installer.errands]
      | unspecified =>
        refine .inr (.inr (.inr (.inr ⟨.unsupported, ?_⟩)))
        simp only [errands, hk, hdata, hi, Installer.errands]
  case some.buildTest =>
    cases hdata : s.config with
    | error cause =>
      exact .inr (.inr (.inr (.inr ⟨cause, by simp only [errands, hk, hdata]⟩)))
    | ok data =>
      cases hstage : Stage.ofConfig data s.privilege with
      | ok stage => exact .inr (.inl ⟨stage, hk, data, hdata, hstage⟩)
      | error cause =>
        exact .inr (.inr (.inr (.inr ⟨cause, by simp only [errands, hk, hdata, hstage]⟩)))

def Stage.errandOf (s : Stage) (pair : Value × Value) : Errand :=
  ⟨Shell.sourced s.envFile pair.2.display, some (.buildFailed pair.1 pair.2)⟩

theorem Stage.errand_eq_ok {s : Stage} {substep : Value} {e : Errand} :
    s.errand substep = .ok e ↔ ∃ pair, substep.pair = .ok pair ∧ s.errandOf pair = e :=
  Refusable.map_eq_ok

theorem Stage.map_errand_eq_ok {s : Stage} {substeps : List Value} {passed : List Errand} :
    substeps.map s.errand = passed.map .ok ↔
      ∃ pairs, substeps.mapM Value.pair = .ok pairs ∧ passed = pairs.map s.errandOf := by
  induction substeps generalizing passed with
  | nil =>
    constructor
    · intro h
      exact ⟨[], rfl, List.map_eq_nil_iff.1 h.symm⟩
    · intro h
      obtain ⟨pairs, hpairs, rfl⟩ := h
      obtain rfl := Except.ok.inj hpairs
      rfl
  | cons v vs ih =>
    constructor
    · intro h
      cases passed with
      | nil => cases h
      | cons e passed =>
        obtain ⟨he, hrest⟩ := List.cons.inj h
        obtain ⟨pair, hpair, rfl⟩ := errand_eq_ok.1 he
        obtain ⟨pairs, hpairs, rfl⟩ := ih.1 hrest
        have hcons : List.Forall₂ (fun x y => x.pair = .ok y) (v :: vs) (pair :: pairs) :=
          .cons hpair (Refusable.mapM_eq_ok.1 hpairs)
        exact ⟨pair :: pairs, Refusable.mapM_eq_ok.2 hcons, rfl⟩
    · intro h
      obtain ⟨pairs, hpairs, rfl⟩ := h
      obtain ⟨pair, rest, hpair, hrest, rfl⟩ :=
        List.forall₂_cons_left_iff.1 (Refusable.mapM_eq_ok.1 hpairs)
      have hv : s.errand v = .ok (s.errandOf pair) := errand_eq_ok.2 ⟨pair, hpair, rfl⟩
      have hvs := ih.2 ⟨rest, Refusable.mapM_eq_ok.2 hrest, rfl⟩
      rw [List.map_cons, hv, hvs]
      rfl

theorem ScriptInstaller.runCommand_accepted {i : ScriptInstaller} {fetch : String}
    (h : i.fetchCommand = .ok fetch) : ∃ run, i.runCommand = .ok run := by
  obtain ⟨script, hscript, -⟩ := Refusable.bind_eq_ok.1 h
  exact ⟨_, Refusable.bind_eq_ok.2 ⟨script, hscript, rfl⟩⟩

end Errands

section Points

open Errand

variable {settings : Settings} {t : Target σ} {s : Step} {ran done : List Answered}
  {ended : Except Fault Unit} {passed : List Errand} {rest : List (Except Refusal Errand)}
  {e : Errand} {blame : Int → Fault} {status : Int} {point : FailurePoint}

theorem FailurePoint.At.ended_eq (h : point.At settings t s ran)
    (course : Course t s.privilege s.directory (s.errands settings) ran ended) :
    ended = .error (point.cause s.name) := by
  cases point with
  | instruction command status =>
    obtain ⟨hk, failed, before, after, hrun, hran⟩ := h
    have errands : s.errands settings = (before.map s.errand).map .ok ++ .ok (s.errand command) ::
        after.map fun x => .ok (s.errand x) := by
      rw [Step.errands_of_shell hk, hrun]
      simp
    exact course.ended_of_blamed _ _ errands rfl failed hran (by simp)
  | substep name command status =>
    obtain ⟨failed, stage, hstage, before, substep, after, pairs, hsubsteps, hpairs, hpair,
      hran⟩ := h
    have hbefore := Stage.map_errand_eq_ok (s := stage) |>.2 ⟨pairs, hpairs, rfl⟩
    have hsubstep := Stage.errand_eq_ok (s := stage) |>.2 ⟨_, hpair, rfl⟩
    rw [Step.errands_of_stages hstage, Stage.errands, hsubsteps, List.map_append, List.map_cons,
      hbefore, hsubstep] at course
    exact course.ended_of_blamed _ _ rfl rfl failed hran (by simp)
  | fetch url status =>
    obtain ⟨failed, i, probe, fetch, run, probed, hi, commands, rfl, hran⟩ := h
    rw [Step.errands_of_installs hi, ScriptInstaller.errands, commands.probe, commands.fetch,
      commands.run] at course
    exact course.ended_of_blamed [_] [(s.line t probe, .ok probed)] rfl rfl failed hran rfl
  | script url status =>
    obtain ⟨failed, i, probe, fetch, run, probed, hi, commands, rfl, hran⟩ := h
    rw [Step.errands_of_installs hi, ScriptInstaller.errands, commands.probe, commands.fetch,
      commands.run] at course
    exact course.ended_of_blamed [_, _] [(s.line t probe, .ok probed), (s.line t fetch, .ok 0)]
      rfl rfl failed hran rfl
  | confirmation url tool =>
    obtain ⟨status, failed, i, probe, fetch, run, probed, hi, commands, rfl, rfl, hran⟩ := h
    rw [Step.errands_of_installs hi, ScriptInstaller.errands, commands.probe, commands.fetch,
      commands.run] at course
    exact course.ended_of_blamed [_, _, _]
      [(s.line t probe, .ok probed), (s.line t fetch, .ok 0), (s.line t run, .ok 0)]
      rfl rfl failed hran rfl

section Blamed

variable (hdone : List.Forall₂ (Passed t s.privilege s.directory) passed done)
  (blames : e.blame = some blame) (failed : status ≠ 0)

include hdone blames failed

theorem exists_instruction (hk : StepKind.ofWord? s.kind = some .shell)
    (errands : s.errands settings = passed.map .ok ++ .ok e :: rest) :
    ∃ point : FailurePoint, point.At settings t s
        (done ++ [(e.line t s.privilege s.directory, .ok status)]) ∧
      blame status = point.cause s.name := by
  rw [Step.errands_of_shell hk] at errands
  obtain ⟨before, behind, hrun, hbefore, hbehind⟩ := List.map_eq_append_iff.1 errands
  obtain ⟨command, after, rfl, hcommand, -⟩ := List.map_eq_cons_iff.1 hbehind
  obtain rfl := eq_of_map_ok hbefore
  obtain rfl := Except.ok.inj hcommand
  obtain rfl := Option.some.inj blames
  have hzero := eq_of_passed (fun x => by simp [Step.errand]) hdone
  refine ⟨.instruction command status, ⟨hk, failed, before, after, hrun, ?_⟩, rfl⟩
  rw [hzero]
  rfl

theorem exists_substep {stage : Stage} (hstage : s.Stages stage)
    (errands : s.errands settings = passed.map .ok ++ .ok e :: rest) :
    ∃ point : FailurePoint, point.At settings t s
        (done ++ [(e.line t s.privilege s.directory, .ok status)]) ∧
      blame status = point.cause s.name := by
  rw [Step.errands_of_stages hstage] at errands
  obtain ⟨before, behind, hsubsteps, hbefore, hbehind⟩ := List.map_eq_append_iff.1 errands
  obtain ⟨substep, after, rfl, hsubstep, -⟩ := List.map_eq_cons_iff.1 hbehind
  obtain ⟨pairs, hpairs, rfl⟩ := Stage.map_errand_eq_ok.1 hbefore
  obtain ⟨⟨name, command⟩, hpair, rfl⟩ := Stage.errand_eq_ok.1 hsubstep
  obtain rfl := Option.some.inj blames
  have hzero := eq_of_passed (fun x => by simp [Stage.errandOf]) hdone
  refine ⟨.substep name command status, ⟨failed, stage, hstage, before, substep, after, pairs,
    hsubsteps, hpairs, hpair, ?_⟩, rfl⟩
  rw [hzero]
  rfl

theorem exists_installing {i : ScriptInstaller} (hi : s.Installs settings i)
    (errands : s.errands settings = passed.map .ok ++ .ok e :: rest) :
    ∃ point : FailurePoint, point.At settings t s
        (done ++ [(e.line t s.privilege s.directory, .ok status)]) ∧
      blame status = point.cause s.name := by
  rw [Step.errands_of_installs hi, ScriptInstaller.errands] at errands
  rcases first_of_errands errands hdone with
    ⟨probe, hprobe, rfl, rfl⟩ | ⟨probe, probed, passed₁, done₁, hprobe, -, rfl, errands₁, hdone₁⟩
  · -- The first question for the tool is not blamed for anything.
    cases blames
  rcases first_of_errands errands₁ hdone₁ with
    ⟨fetch, hfetch, rfl, rfl⟩ | ⟨fetch, zero, passed₂, done₂, hfetch, hzero, rfl, errands₂, hdone₂⟩
  · obtain ⟨run, hrun⟩ := i.runCommand_accepted hfetch
    obtain rfl := Option.some.inj blames
    exact ⟨.fetch i.url.display status, ⟨failed, i, probe, fetch, run, probed, hi,
      ⟨hprobe, hfetch, hrun⟩, rfl, rfl⟩, rfl⟩
  obtain rfl := hzero.resolve_right (by simp)
  rcases first_of_errands errands₂ hdone₂ with
    ⟨run, hrun, rfl, rfl⟩ | ⟨run, zero, passed₃, done₃, hrun, hzero, rfl, errands₃, hdone₃⟩
  · obtain rfl := Option.some.inj blames
    exact ⟨.script i.url.display status, ⟨failed, i, probe, fetch, run, probed, hi,
      ⟨hprobe, hfetch, hrun⟩, rfl, rfl⟩, rfl⟩
  obtain rfl := hzero.resolve_right (by simp)
  rcases first_of_errands errands₃ hdone₃ with
    ⟨probe', hprobe', rfl, rfl⟩ | ⟨probe', zero, passed₄, done₄, -, -, rfl, errands₄, -⟩
  · obtain rfl := Except.ok.inj (hprobe.symm.trans hprobe')
    obtain rfl := Option.some.inj blames
    exact ⟨.confirmation i.url.display i.tool.display, ⟨status, failed, i, probe, fetch, run,
      probed, hi, ⟨hprobe, hfetch, hrun⟩, rfl, rfl, rfl⟩, rfl⟩
  · exact absurd errands₄.symm (by simp)

theorem exists_point (known : StepKind.ofWord? s.kind ≠ none)
    (errands : s.errands settings = passed.map .ok ++ .ok e :: rest) :
    ∃ point : FailurePoint, point.At settings t s
        (done ++ [(e.line t s.privilege s.directory, .ok status)]) ∧
      blame status = point.cause s.name := by
  rcases Step.errands_cases settings known with
    hk | ⟨stage, hstage⟩ | ⟨i, hi⟩ | hnone | ⟨cause, hcause⟩
  · exact exists_instruction hdone blames failed hk errands
  · exact exists_substep hdone blames failed hstage errands
  · exact exists_installing hdone blames failed hi errands
  · exact absurd (hnone.symm.trans errands).symm (List.append_ne_nil_of_right_ne_nil _ (by simp))
  · have hmem : .ok e ∈ s.errands settings := by simp [errands]
    rw [hcause] at hmem
    cases List.mem_singleton.1 hmem

end Blamed

/-- The only errand that is blamed for nothing is the first question for a tool. -/
theorem asked_of_unblamed (hdone : List.Forall₂ (Passed t s.privilege s.directory) passed done)
    (unblamed : e.blame = none) (known : StepKind.ofWord? s.kind ≠ none)
    (errands : s.errands settings = passed.map .ok ++ .ok e :: rest) :
    s.AskedFirst settings t (done ++ [(e.line t s.privilege s.directory, .ok status)]) := by
  have hmem : .ok e ∈ s.errands settings := by simp [errands]
  rcases Step.errands_cases settings known with
    hk | ⟨stage, hstage⟩ | ⟨i, hi⟩ | hnone | ⟨cause, hcause⟩
  · rw [Step.errands_of_shell hk] at hmem
    obtain ⟨x, -, hx⟩ := List.mem_map.1 hmem
    obtain rfl := Except.ok.inj hx
    cases unblamed
  · rw [Step.errands_of_stages hstage] at hmem
    obtain ⟨substep, -, hsubstep⟩ := List.mem_map.1 hmem
    obtain ⟨pair, -, rfl⟩ := Stage.errand_eq_ok.1 hsubstep
    cases unblamed
  · rw [Step.errands_of_installs hi, ScriptInstaller.errands] at errands
    rcases first_of_errands errands hdone with
      ⟨probe, hprobe, rfl, rfl⟩ | ⟨probe, probed, passed, done, -, -, -, behind, -⟩
    · exact ⟨i, probe, status, hi, hprobe, rfl⟩
    · have hbehind : .ok e ∈ passed.map (Except.ok (ε := Refusal)) ++ .ok e :: rest := by simp
      rw [← behind] at hbehind
      simp only [List.mem_cons, List.not_mem_nil, or_false] at hbehind
      rcases hbehind with he | he | he
      all_goals
        obtain ⟨x, -, rfl⟩ := Refusable.map_eq_ok.1 he.symm
        cases unblamed
  · rw [hnone] at hmem
    cases hmem
  · rw [hcause] at hmem
    cases List.mem_singleton.1 hmem

/-- A step that ends with a fault of provisioning failed at the point that the fault is the cause
of, or else its target was out of reach or raised the fault. -/
theorem exists_of_course {f : Fault} (known : StepKind.ofWord? s.kind ≠ none)
    (provisioning : f.isProvisioning = true)
    (course : Course t s.privilege s.directory (s.errands settings) ran (.error f)) :
    (∃ point : FailurePoint, point.At settings t s ran ∧ f = point.cause s.name) ∨
      f = .unavailable t.name "not reachable" ∨ t.Raises f := by
  rcases course.blamed_of_error with
    ⟨passed, e, rest, done, blame, status, errands, hdone, rfl, blames, failed, rfl⟩ |
      ⟨cause, rfl⟩ | other
  · exact .inl (exists_point hdone blames failed known errands)
  · cases provisioning
  · exact .inr other

/-- If a line that a step handed over was answered with a status other than 0, it was the last one
and the step failed there, unless the line only asked for a tool. -/
theorem at_of_failed_status (known : StepKind.ofWord? s.kind ≠ none)
    (course : Course t s.privilege s.directory (s.errands settings) ran ended) {line : String}
    {behind : List Answered} (lines : ran = done ++ (line, .ok status) :: behind)
    (failed : status ≠ 0) :
    (behind = [] ∧ ∃ point : FailurePoint, point.At settings t s ran) ∨
      s.AskedFirst settings t (done ++ [(line, .ok status)]) := by
  obtain ⟨passed, e, rest, errands, hdone, rfl, passes⟩ := course.errand_at lines
  cases hblame : e.blame with
  | none => exact .inr (asked_of_unblamed hdone hblame known errands)
  | some blame =>
    obtain ⟨point, hpoint, -⟩ := exists_point hdone hblame failed known errands
    have last : behind = [] := by
      by_contra more
      rcases passes more with zero | unblamed
      · exact failed zero
      · cases hblame.symm.trans unblamed
    rw [last] at lines
    exact .inl ⟨last, point, lines ▸ hpoint⟩

theorem at_of_failed_line (known : StepKind.ofWord? s.kind ≠ none)
    (course : Course t s.privilege s.directory (s.errands settings) ran ended) {line : String}
    (last : ran.getLast? = some (line, .ok status)) (failed : status ≠ 0) :
    (∃ point : FailurePoint, point.At settings t s ran) ∨ s.AskedFirst settings t ran := by
  obtain ⟨done, rfl⟩ := List.getLast?_eq_some_iff.1 last
  rcases at_of_failed_status known course rfl failed with ⟨-, failure⟩ | asked
  · exact .inl failure
  · exact .inr asked

end Points

end Provisioning
