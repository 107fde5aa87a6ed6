import Provisioning.Proofs.Debugging
import Provisioning.Proofs.Forecast

/-!
The options that are about what is told, not about what is done. Debugging on or off, a command asks
for the same child processes and ends the same way. A run that does not list its steps is the run
that does, without the list.
-/
namespace Provisioning.CommandLine

open Activity

variable {σ α β : Type}

/-- The one run has listed its steps behind its start where the other has not, unless neither has
started; there is no other difference. -/
structure Unlisted (r r' : Report Event σ α) : Prop where
  trace : startLine ∉ r.trace ∧ r'.trace = r.trace ∨
    ∃ before target name steps behind,
      r.trace = before ++ (Console.runStarted target name steps.length ++ planLines steps) ++
        behind ∧
      r'.trace = before ++ Console.runStarted target name steps.length ++ behind
  answer : r.answer = r'.answer
  after : r.after = r'.after

namespace Unlisted

theorem unstarted {r : Report Event σ α} (h : startLine ∉ r.trace) : Unlisted r r :=
  ⟨.inl ⟨h, rfl⟩, rfl, rfl⟩

theorem framed {r r' : Report Event σ α} (h : Unlisted r r') {ahead rest : List Event}
    (hahead : startLine ∉ ahead) (hrest : startLine ∉ rest) (answer : Except Fault β) (after : σ) :
    Unlisted ⟨ahead ++ r.trace ++ rest, answer, after⟩
      ⟨ahead ++ r'.trace ++ rest, answer, after⟩ := by
  refine ⟨?_, rfl, rfl⟩
  rcases h.trace with ⟨hstart, hsame⟩ | ⟨before, target, name, steps, behind, hr, hr'⟩
  · exact .inl ⟨by simp [hahead, hstart, hrest], by rw [hsame]⟩
  · exact .inr ⟨ahead ++ before, target, name, steps, behind ++ rest, by simp [hr], by simp [hr']⟩

theorem bind {x : Activity Event σ α} {f f' : α → Activity Event σ β} {s : σ}
    (hx : startLine ∉ (x s).trace) (hf : ∀ a s', Unlisted (f a s') (f' a s')) :
    Unlisted ((x >>= f) s) ((x >>= f') s) := by
  cases answer : (x s).answer with
  | error e =>
    rw [bind_of_error answer, bind_of_error answer]
    exact .unstarted hx
  | ok a =>
    have hrest := hf a (x s).after
    rw [bind_of_ok answer, bind_of_ok answer, hrest.answer, hrest.after]
    simpa using hrest.framed hx List.not_mem_nil (f' a (x s).after).answer (f' a (x s).after).after

end Unlisted

section Runs

variable {u : Surroundings} {w : World σ} {c : Console} {s : σ}

theorem unlisted_executeSteps (t : Target σ) (steps : List Step) (name : String) :
    Unlisted (executeSteps u c t steps name true s) (executeSteps u c t steps name false s) := by
  cases made : Pipeline.make (steps.map .step) with
  | error cause =>
    unfold executeSteps
    rw [require_bind_of_error made, require_bind_of_error made]
    exact .unstarted List.not_mem_nil
  | ok p =>
    obtain ⟨q, ended, h, -⟩ := Pipeline.execute_ending u.settings c t p s
    rw [executeSteps_of_ended made h, executeSteps_of_ended made h]
    let behind := (p.execute u.settings c t s).trace ++ terminalReport ended
    exact ⟨.inr ⟨[], t.name, name, p.steps, behind, by simp [announcement, behind],
      by simp [announcement, behind]⟩, rfl, rfl⟩

theorem unlisted_carryOut (x : Undertaking σ) (listed : x.printPlan = true) :
    Unlisted (x.carryOut u w c s)
      ({ x with printPlan := false : Undertaking σ }.carryOut u w c s) := by
  have hbody : Unlisted (x.body u w c s)
      ({ x with printPlan := false : Undertaking σ }.body u w c s) := by
    refine Unlisted.bind startLine_not_mem_prepareTarget fun t s' => ?_
    unfold Undertaking.performance
    rw [listed]
    refine Unlisted.bind ?_ fun r s' => unlisted_executeSteps t r.1 r.2
    cases x.supply t <;> exact List.not_mem_nil
  unfold Undertaking.carryOut
  rw [guarded_apply, guarded_apply, ← hbody.answer, ← hbody.after]
  exact hbody.framed List.not_mem_nil (startLine_not_mem_remarks _ _) _ _

def SameButList (g g' : Given) : Prop :=
  ∀ long, long ≠ "--print-plan" → g.last? long = g'.last? long

namespace SameButList

variable {g g' : Given} (same : SameButList g g')

include same

theorem builtinOnlyGiven_eq : builtinOnlyGiven g builtinOnly = builtinOnlyGiven g' builtinOnly := by
  refine builtinOnlyGiven_congr fun long hlong => same long ?_
  rintro rfl
  simp [builtinOnly] at hlong

theorem ofRun_eq (u : Surroundings) (path : Option Path) :
    (Undertaking.ofRun u g' path : Undertaking σ) =
      { Undertaking.ofRun u g path with printPlan := g'.on "--print-plan" true } := by
  have htext {long : String} (h : long ≠ "--print-plan") := text?_congr (same long h)
  have hon {long : String} (h : long ≠ "--print-plan") := on_congr (same long h)
  simp [Undertaking.ofRun, TargetChoice.ofGiven, builtinOptions, htext, hon]

theorem unlisted_run (listed : g.on "--print-plan" true = true)
    (unlisted : g'.on "--print-plan" true = false) : Unlisted (run u w c g s) (run u w c g' s) := by
  have hrun : run u w c g' = withPipelineFile u (runCommand u.settings) g builtinOnly fun path =>
      { Undertaking.ofRun u g path with printPlan := false : Undertaking σ }.carryOut u w c := by
    have hfile : g'.text? "--pipeline" = g.text? "--pipeline" :=
      (text?_congr (same _ (by decide))).symm
    rw [run_eq]
    simp only [same.ofRun_eq u, unlisted]
    unfold withPipelineFile
    rw [hfile, ← same.builtinOnlyGiven_eq]
  rw [hrun, run_eq]
  refine withPipelineFile_related (R := fun x x' => ∀ s, Unlisted (x s) (x' s))
    (fun path _ s => unlisted_carryOut _ listed) (fun _ _ => .unstarted List.not_mem_nil)
    (fun entries code h s => .unstarted ?_) s
  rw [record_bind_apply, pure_apply, List.append_nil]
  exact startLine_not_mem h

end SameButList

inductive Hushed : Reading → Reading → Prop
  | help : Hushed .help .help
  | refused (e : UsageError) : Hushed (.refused e) (.refused e)
  | accepted {g g' : Given} (same : SameButList g g') (listed : g.on "--print-plan" true = true)
      (unlisted : g'.on "--print-plan" true = false) : Hushed (.accepted g) (.accepted g')

/-- The two argument lists call `run`, and differ only in that the second turns the list of steps
off. -/
def Hushes (settings : Settings) (arguments arguments' : List String) : Prop :=
  ∃ p p' rest rest', parse [debugOption, helpOption] false arguments = .ok p ∧
    parse [debugOption, helpOption] false arguments' = .ok p' ∧ p.given = p'.given ∧
    p.rest = "run" :: rest ∧ p'.rest = "run" :: rest' ∧
    Hushed (readCommand (runCommand settings).options rest)
      (readCommand (runCommand settings).options rest')

theorem startLine_not_mem_printText {usage : String} {lines : List String}
    (h : usage.toList.head? = some 'U') :
    startLine ∉ (printText (text (usage :: lines)) s : Report Event σ Int).trace := by
  have hhead : (text (usage :: lines)).toList.head? = some 'U' := head?_text h
  intro hmem
  have htext : startLine = .out (text (usage :: lines)) := by
    simpa [printText, record_bind_apply] using hmem
  rw [← Event.out.inj htext] at hhead
  simp at hhead

theorem unlisted_dispatch {arguments arguments' : List String}
    (h : Hushes u.settings arguments arguments') :
    Unlisted (dispatch u w arguments s) (dispatch u w arguments' s) := by
  obtain ⟨p, p', rest, rest', parsed, parsed', given, hrest, hrest', hushed⟩ := h
  rw [dispatch_of_parsed u w parsed hrest, dispatch_of_parsed u w parsed' hrest', given]
  by_cases help : p'.given.has helpOption.long = true
  · simp only [help, if_true]
    exact .unstarted (startLine_not_mem_printText (by simp [groupUsage]))
  · simp only [help, if_false, Bool.false_eq_true]
    change Unlisted (runNamed (runCommand u.settings) (run u w _) rest s)
      (runNamed (runCommand u.settings) (run u w _) rest' s)
    unfold runNamed
    generalize readCommand (runCommand u.settings).options rest = reading,
      readCommand (runCommand u.settings).options rest' = reading' at hushed
    cases hushed with
    | help => exact .unstarted (startLine_not_mem_printText (by simp [CommandSpec.usage]))
    | refused e => exact .unstarted (startLine_not_mem rfl)
    | accepted same listed unlisted => exact same.unlisted_run listed unlisted

theorem unlisted_execute {arguments arguments' : List String}
    (h : Hushes u.settings arguments arguments') :
    Unlisted (execute u w arguments s) (execute u w arguments' s) := by
  have hdispatch : Unlisted (dispatch u w arguments s) (dispatch u w arguments' s) :=
    unlisted_dispatch h
  rw [execute_apply, execute_apply, ← hdispatch.answer, ← hdispatch.after]
  exact hdispatch.framed List.not_mem_nil (startLine_not_mem (overt_farewell _)) _ _

end Runs

section Flags

variable {specs : List OptionSpec} {interspersed : Bool} {option : String} {o : OptionSpec}
  {on : Bool} {rest : List String}

theorem parse_cons (read : Argument.classify option = .option option none)
    (found : findOption specs option = some (o, on)) (flag : o.shape.takesValue = false) :
    parse specs interspersed (option :: rest) =
      Parsed.withSetting o.long (.on on) <$> parse specs interspersed rest := by
  rw [parse]
  simp [read, found, flag]

theorem last?_cons (long other : String) (v : Setting) (g : Given) :
    Given.last? ((long, v) :: g) other =
      (g.last? other).or (if long = other then some v else none) := by
  unfold Given.last?
  rw [List.findRev?]
  cases g.findRev? fun e => e.1 == other with
  | some e => rfl
  | none => by_cases h : long = other <;> simp [h]

theorem last?_eq_none {g : Given} {long : String} (h : g.has long = false) :
    g.last? long = none := by
  rw [has_eq] at h
  simpa using h

theorem debugs_cons {arguments : List String} {p : Parsed} {name : String}
    (parsed : parse [debugOption, helpOption] false arguments = .ok p)
    (hrest : p.rest = name :: rest) (quiet : p.given.has debugOption.long = false) :
    Debugs (debugOption.long :: arguments) arguments := by
  have read : Argument.classify debugOption.long = .option debugOption.long none := by cbv
  have hcons : parse [debugOption, helpOption] false (debugOption.long :: arguments) =
      Parsed.withSetting debugOption.long (.on true) <$>
        parse [debugOption, helpOption] false arguments := parse_cons read rfl rfl
  rw [parsed] at hcons
  have hlast := last?_eq_none quiet
  refine ⟨_, p, name, rest, hcons, parsed, ?_, ?_, ?_, hrest, hrest⟩
  · simp [Parsed.withSetting, Given.has, debugOption, helpOption]
  · simp [Parsed.withSetting, Given.on, last?_cons, hlast]
  · simp [Given.on, hlast]

theorem hushed_cons {settings : Settings}
    (unsaid : ∀ p, parse ((runCommand settings).options ++ [helpOption]) true rest = .ok p →
      p.given.has "--print-plan" = false) :
    Hushed (readCommand (runCommand settings).options rest)
      (readCommand (runCommand settings).options ("--no-print-plan" :: rest)) := by
  have read : Argument.classify "--no-print-plan" = .option "--no-print-plan" none := by cbv
  have found : ∃ o, findOption ((runCommand settings).options ++ [helpOption]) "--no-print-plan" =
      some (o, false) ∧ o.long = "--print-plan" ∧ o.shape.takesValue = false := ⟨_, rfl, rfl, rfl⟩
  obtain ⟨o, hfound, hlong, flag⟩ := found
  have hcons : parse ((runCommand settings).options ++ [helpOption]) true
      ("--no-print-plan" :: rest) = Parsed.withSetting o.long (.on false) <$>
        parse ((runCommand settings).options ++ [helpOption]) true rest :=
    parse_cons read hfound flag
  unfold readCommand
  rw [hcons, hlong]
  cases parsed : parse ((runCommand settings).options ++ [helpOption]) true rest with
  | error e => exact .refused e
  | ok p =>
    have hlast := last?_eq_none (unsaid p parsed)
    have same : SameButList p.given (("--print-plan", .on false) :: p.given) := by
      intro long hne
      rw [last?_cons, if_neg hne.symm, Option.or_none]
    have htext (long : String) :
        Given.text? (("--print-plan", .on false) :: p.given) long = p.given.text? long := by
      by_cases h : long = "--print-plan"
      · simp [Given.text?, last?_cons, h, hlast]
      · exact (text?_congr (same long h)).symm
    have hhelp : Given.has (("--print-plan", .on false) :: p.given) helpOption.long =
        p.given.has helpOption.long := by
      simp [Given.has, helpOption]
    have hchoice : badChoice? (runCommand settings).options
        (("--print-plan", .on false) :: p.given) =
        badChoice? (runCommand settings).options p.given := by
      simp only [badChoice?, htext]
    simp only [Functor.map, Except.map, Parsed.withSetting, hhelp, hchoice]
    by_cases help : p.given.has helpOption.long = true
    · simp only [help, if_true]
      exact .help
    · simp only [help, if_false, Bool.false_eq_true]
      cases badChoice? (runCommand settings).options p.given with
      | some e => exact .refused e
      | none =>
        by_cases hrest : p.rest.isEmpty = true
        · simp only [hrest, if_true]
          refine .accepted same ?_ ?_
          · simp [Given.on, hlast]
          · simp [Given.on, last?_cons, hlast]
        · simp only [hrest, if_false, Bool.false_eq_true]
          exact .refused _

end Flags

/-- Debugging changes neither what is done nor how it ends, and on the first output stream only how
the reports on failed steps are worded; such a report is on the fault that ended the step. A run
without the list of steps is the run with it, but for the list. -/
theorem indifferent_to_reporting (u : Surroundings) (w : World σ)
    (arguments arguments' : List String) (s : σ) :
    let r := execute u w arguments s
    let r' := execute u w arguments' s
    (Debugs arguments arguments' →
      exchanges r.trace = exchanges r'.trace ∧ r.answer = r'.answer ∧ r.after = r'.after ∧
        Reworded true false r.trace r'.trace) ∧
    (∀ c t p after i f, Executes u w arguments c s t p after →
      Pipeline.FailsAt u.settings c t p.steps after i f → f.isProvisioning = true →
      ∃ step, p.steps[i]? = some step ∧
        (Passage.failure step.name f).shown c.debug <:+: r.trace) ∧
    (Hushes u.settings arguments arguments' → Unlisted r r') := by
  intro r r'
  refine ⟨fun debugs => ?_, fun c t p after i f => reports_of_failsAt, unlisted_execute⟩
  obtain ⟨reworded, answer, after⟩ := execute_mirrors u w debugs s s rfl
  exact ⟨reworded.exchanges_eq, answer, after, reworded⟩

theorem indifferent_failingFile :
    let u := lone failingFile
    let outcome := fun arguments => execute u .replies arguments failingReplies
    Debugs ["--debug", "run"] ["run"] ∧
      (outcome ["--debug", "run"]).answer = (outcome ["run"]).answer ∧
      Reworded true false (outcome ["--debug", "run"]).trace (outcome ["run"]).trace ∧
      (Passage.failure "check" (.stepFailed "check" (.text "false") 1)).shown false <:+:
        (outcome ["run"]).trace ∧
      Hushes u.settings ["run"] ["run", "--no-print-plan"] ∧
      Unlisted (outcome ["run"]) (outcome ["run", "--no-print-plan"]) := by
  intro u outcome
  have hrun : Argument.classify "run" = .plain "run" := by cbv
  have parsed (rest : List String) :
      parse [debugOption, helpOption] false ("run" :: rest) = .ok ⟨[], "run" :: rest⟩ := by
    simp [parse, hrun]
  have debugs : Debugs ["--debug", "run"] ["run"] := debugs_cons (parsed []) rfl rfl
  have hushes : Hushes u.settings ["run"] ["run", "--no-print-plan"] := by
    refine ⟨_, _, [], ["--no-print-plan"], parsed [], parsed ["--no-print-plan"], rfl, rfl, rfl, ?_⟩
    refine hushed_cons fun p h => ?_
    obtain rfl := Except.ok.inj h
    rfl
  have executes := executes_lone (f := failingFile) rfl rfl .replies failingReplies
  have fails : Pipeline.FailsAt u.settings {} (loneMachine.target .replies) [failingStep]
      failingReplies 0 (.stepFailed "check" (.text "false") 1) := ⟨_, rfl, rfl⟩
  obtain ⟨debugged, -, -⟩ :=
    indifferent_to_reporting u .replies ["--debug", "run"] ["run"] failingReplies
  obtain ⟨-, reported, listed⟩ :=
    indifferent_to_reporting u .replies ["run"] ["run", "--no-print-plan"] failingReplies
  obtain ⟨step, hstep, hreport⟩ := reported _ _ _ _ _ _ executes fails rfl
  obtain rfl := Option.some.inj hstep
  obtain ⟨-, answer, -, reworded⟩ := debugged debugs
  exact ⟨debugs, answer, reworded, hreport, hushes, listed hushes⟩

end Provisioning.CommandLine
