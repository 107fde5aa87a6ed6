import Provisioning.Proofs.Booting
import Provisioning.Proofs.InterruptedCommands
import Provisioning.Proofs.LoadFaults
import Provisioning.Proofs.Overt
import Provisioning.Proofs.Recipes

/-!
What `plan` tells of a `run` that is given the same pipeline file and the same say about the
example. The run comes to start exactly if the plan can be told, and then it is of the same pipeline
and lists the same steps, whatever it is told about its target, its project and its installer.
-/
namespace Provisioning.CommandLine

open Activity

variable {σ : Type}

def outlineLines (outlines : List (String × Privilege × String)) : List Event :=
  (outlines.zipIdx.map fun (o, i) => Console.planStep (i + 1) o.1 o.2.1.word o.2.2).flatten

theorem planLines_eq (steps : List Step) :
    planLines steps = outlineLines (steps.map Step.outline) := by
  simp [planLines, outlineLines, Step.outline, List.zipIdx_map, Function.comp_def]

theorem length_planLines (steps : List Step) : (planLines steps).length = steps.length := by
  simp [planLines, List.length_flatten, Function.comp_def, Console.planStep]

def validated : Except Fault (List Step × String) → Except Fault (Pipeline × String)
  | .error f => .error f
  | .ok (steps, name) =>
    match Pipeline.make (steps.map .step) with
    | .error cause => .error (.refused cause)
    | .ok p => .ok (p, name)

def announced (result : Except Fault (Pipeline × String)) :
    Except Fault (List (String × Privilege × String) × String) :=
  result.map fun (p, name) => (p.steps.map Step.outline, name)

theorem announced_supplied {u : Surroundings} {path : Option Path} {o o' : Recipe.PipelineOptions}
    (plain : o.Plain) (plain' : o'.Plain)
    (same : o.withExample.truthy = o'.withExample.truthy) :
    announced (validated (supplied u path o)) = announced (validated (supplied u path o')) := by
  cases path with
  | some path => rfl
  | none =>
    obtain ⟨steps, made, outline, accepted⟩ := Recipe.builtin_accepted u.settings plain
    obtain ⟨steps', made', outline', accepted'⟩ := Recipe.builtin_accepted u.settings plain'
    have houtline : steps.map Step.outline = steps'.map Step.outline := by
      rw [outline, outline', same]
    simp [supplied, made, made', validated, accepted, accepted', announced, Except.map, houtline]

theorem pipeline_eq_validated (x : Undertaking σ) (t : Target σ) :
    x.pipeline t = validated (x.supply t) := rfl

theorem announced_eq_ok {result : Except Fault (Pipeline × String)}
    {outlines : List (String × Privilege × String)} {name : String} :
    announced result = .ok (outlines, name) ↔
      ∃ p, result = .ok (p, name) ∧ p.steps.map Step.outline = outlines := by
  cases result with
  | error f => simp [announced, Except.map]
  | ok r =>
    obtain ⟨p, name'⟩ := r
    simp only [announced, Except.map, Except.ok.injEq, Prod.mk.injEq]
    constructor
    · rintro ⟨houtlines, rfl⟩
      exact ⟨p, ⟨rfl, rfl⟩, houtlines⟩
    · rintro ⟨p', ⟨rfl, rfl⟩, houtlines⟩
      exact ⟨houtlines, rfl⟩

theorem announced_eq_error {result : Except Fault (Pipeline × String)} {f : Fault} :
    announced result = .error f ↔ result = .error f := by
  cases result <;> simp [announced, Except.map]

def planOptions (u : Surroundings) (g : Given) : Recipe.PipelineOptions where
  projectPath := some ((g.text? "--guest-path").getD u.settings.guestPath)
  withExample := .bool (g.on "--install-example" false)

section Plan

variable {u : Surroundings} {w : World σ} {c : Console} {g : Given} {path : Option Path}
  {arguments : List String}

theorem plan_apply (selects : Selects u g ["--install-example"] path) (s : σ) :
    plan u c g s =
      match validated (supplied u path (planOptions u g)) with
      | .ok (p, name) => ⟨Console.header ("PLAN: " ++ name) ++ planLines p.steps, .ok 0, s⟩
      | .error f =>
        if isLoadFault f then ⟨handledReport c f, .ok (handledCode f), s⟩
        else ⟨[], .error f, s⟩ := by
  unfold plan
  rw [withPipelineFile_of_selects selects]
  simp only [stepsAndName_eq]
  change ((conclude (supplied u path (planOptions u g)) >>= fun r =>
    require (Pipeline.make (r.1.map .step)) >>= fun pipeline =>
      (pure (pipeline.steps, r.2) : Activity Event σ _)).attempt >>= _) s = _
  cases supplied u path (planOptions u g) with
  | error f =>
    by_cases load : isLoadFault f <;> simp [attempt_bind_apply, validated, load, handle_apply]
  | ok supply =>
    obtain ⟨steps, name⟩ := supply
    cases made : Pipeline.make (steps.map .step) with
    | error cause =>
      by_cases load : isLoadFault (.refused cause) <;>
        simp [attempt_bind_apply, validated, made, require_bind_of_error, load, handle_apply]
    | ok p => simp [attempt_bind_apply, validated, made, require_bind_of_ok, record_bind_apply]

theorem answer_plan (selects : Selects u g ["--install-example"] path) (s : σ) :
    (plan u c g s).answer = .ok 0 ↔
      ∃ p name, validated (supplied u path (planOptions u g)) = .ok (p, name) := by
  rw [plan_apply selects]
  cases validated (supplied u path (planOptions u g)) with
  | ok r => exact iff_of_true rfl ⟨r.1, r.2, rfl⟩
  | error f =>
    have hcode : handledCode f ≠ 0 := by
      rcases handledCode_cases f with h | ⟨h, -⟩ <;> omega
    by_cases load : isLoadFault f <;> simp [load, hcode]

theorem exchanges_plan (s : σ) : exchanges (plan u c g s).trace = [] := by
  have settled : (∃ path, Selects u g ["--install-example"] path) ∨ Idles [1, 2] (plan u c g s) :=
    selects_or_idles s
  rcases settled with ⟨path, selects⟩ | idles
  · rw [plan_apply selects]
    cases validated (supplied u path (planOptions u g)) with
    | ok r =>
      obtain ⟨p, name⟩ := r
      have hheader : Written (Console.header ("PLAN: " ++ name)) := by
        simp [Written, Console.header, Event.outLine, Event.isText]
      exact (hheader.append (written_planLines p.steps)).exchanges_eq
    | error f =>
      by_cases load : isLoadFault f
      · simp [load, (written_handledReport c f).exchanges_eq]
      · simp [load]
  · exact idles.written.exchanges_eq

theorem exchanges_of_calls_plan (calls : Calls "plan" arguments) (s : σ) :
    exchanges (execute u w arguments s).trace = [] := by
  rcases invokes_or_idles (u := u) (w := w) (planCommand u.settings) (fun c => rfl) calls s with
    ⟨c, g, invokes⟩ | idles
  · have hdispatch : dispatch u w arguments = plan u c g := dispatch_of_invokes rfl invokes
    rw [exchanges_execute, hdispatch]
    exact exchanges_plan s
  · exact idles.written.exchanges_eq

end Plan

def startLine : Event := .outLine "\nRUN STARTED"

section Start

variable {u : Surroundings} {w : World σ} {o : TargetChoice} {c : Console} {s : σ}

theorem startLine_not_mem {trace : List Event} (h : overt trace = []) : startLine ∉ trace := by
  rw [← mem_overt rfl, h]
  exact List.not_mem_nil

theorem startLine_not_mem_prepareTarget : startLine ∉ (prepareTarget u w o s).trace := by
  rcases trace_prepareTarget (u := u) (w := w) (o := o) (s := s) with htrace | ⟨-, m, e, htrace⟩
  · simp [htrace]
  · rw [htrace]
    intro hmem
    have hbooting : startLine =
        .outLine ("Booting " ++ Machine.targetName m ++ " (" ++ o.box ++ ")...") := by
      simpa [Console.info, startLine, Event.outLine] using hmem
    have hhead := congrArg (fun text => text.toList.head?) (Event.out.inj hbooting)
    simp at hhead

theorem startLine_not_mem_remarks (expects : Fault → Bool) (ended : Except Fault Int) :
    startLine ∉ remarks c expects ended := by
  cases ended with
  | ok code => simp [remarks]
  | error f =>
    by_cases interrupt : f.isInterrupt
    · have hne : startLine ≠ .outLine "\nInterrupted by user" := by
        simp [startLine, Event.outLine]
      simpa [remarks, interrupt, Console.info] using hne
    · by_cases expected : expects f
      · simpa [remarks, interrupt, expected] using startLine_not_mem (overt_handledReport c f)
      · simp [remarks, interrupt, expected]

theorem startLine_not_mem_epilogue (expects : Fault → Bool) (ended : Except Fault Int) :
    startLine ∉ epilogue c expects ended := by
  intro hmem
  rcases List.mem_append.1 hmem with hmem | hmem
  · exact startLine_not_mem_remarks expects ended hmem
  · exact startLine_not_mem (overt_farewell _) hmem

end Start

def SameChoice (g g' : Given) : Prop :=
  g.last? "--pipeline" = g'.last? "--pipeline" ∧
    g.last? "--install-example" = g'.last? "--install-example"

section Given

variable {g g' : Given} {long : String}

theorem has_eq (g : Given) (long : String) : g.has long = (g.last? long).isSome := by
  unfold Given.has Given.last?
  induction g with
  | nil => rfl
  | cons e g ih =>
    rw [List.any_cons, ih, List.findRev?]
    cases g.findRev? fun e => e.1 == long with
    | some e' => simp
    | none => by_cases h : e.1 == long <;> simp [h]

theorem text?_congr (h : g.last? long = g'.last? long) : g.text? long = g'.text? long := by
  unfold Given.text?
  rw [h]

theorem on_congr (h : g.last? long = g'.last? long) (fallback : Bool) :
    g.on long fallback = g'.on long fallback := by
  unfold Given.on
  rw [h]

theorem builtinOnlyGiven_congr {options : List String}
    (h : ∀ long ∈ options, g.last? long = g'.last? long) :
    builtinOnlyGiven g options = builtinOnlyGiven g' options := by
  refine List.filter_congr fun long hlong => ?_
  rw [has_eq, has_eq, h long hlong]

end Given

section Forecast

variable {u : Surroundings} {g g' : Given} {path : Option Path}

theorem SameChoice.finds_iff (same : SameChoice g g') : Finds u g path ↔ Finds u g' path := by
  unfold Finds
  rw [text?_congr same.1]

/-- The options of the run are not rejected because a pipeline file is found; the plan has no such
options. -/
def Apt (u : Surroundings) (g : Given) : Prop :=
  ∀ path, Finds u g (some path) → builtinOnlyGiven g ["--installer-url", "--skip-toolchain"] = []

theorem SameChoice.selects_iff (same : SameChoice g g') (apt : Apt u g') :
    Selects u g ["--install-example"] path ↔ Selects u g' builtinOnly path := by
  have hhas : builtinOnlyGiven g ["--install-example"] =
      builtinOnlyGiven g' ["--install-example"] :=
    builtinOnlyGiven_congr (List.forall_mem_singleton.2 same.2)
  have hsplit : builtinOnlyGiven g' builtinOnly =
      builtinOnlyGiven g' ["--installer-url", "--skip-toolchain"] ++
        builtinOnlyGiven g' ["--install-example"] :=
    List.filter_append ["--installer-url", "--skip-toolchain"] ["--install-example"]
  cases path with
  | none => exact ⟨fun h => ⟨same.finds_iff.1 h.found, .inl rfl⟩,
      fun h => ⟨same.finds_iff.2 h.found, .inl rfl⟩⟩
  | some path =>
    constructor
    · intro h
      have found := same.finds_iff.1 h.found
      have hnone := h.apt.resolve_left (by simp)
      exact ⟨found, .inr (by rw [hsplit, apt path found, ← hhas, hnone]; rfl)⟩
    · intro h
      have hnone := h.apt.resolve_left (by simp)
      rw [hsplit] at hnone
      have hexample := (List.append_eq_nil_iff.1 hnone).2
      exact ⟨same.finds_iff.2 h.found, .inr (hhas.trans hexample)⟩

theorem overt_of_unselected {spec : CommandSpec} {pointless : List String}
    {proceed : Option Path → Activity Event σ Int}
    (unselected : ∀ path, ¬ Selects u g pointless path) (s : σ) :
    overt (withPipelineFile u spec g pointless proceed s).trace = [] := by
  refine @withPipelineFile_related _ _ _ _ _ proceed proceed
    (fun x _ => ∀ s, overt (x s).trace = []) (fun path selects => ?_) (fun _ _ => rfl)
    (fun entries code h s => ?_) s
  · exact absurd selects (unselected path)
  · simp [record_bind_apply, h]

theorem SameChoice.announced_eq (same : SameChoice g g') (t : Target σ) :
    announced (validated (supplied u path (planOptions u g))) =
      announced ((Undertaking.ofRun u g' path).pipeline t) := by
  have hexample := on_congr same.2 false
  rw [pipeline_eq_validated]
  refine announced_supplied ⟨rfl, .inl rfl, _, rfl⟩ ⟨rfl, .inr ⟨_, rfl⟩, _, rfl⟩ ?_
  simp [planOptions, builtinOptions, Value.truthy, hexample]

end Forecast

section Run

variable {u : Surroundings} {w : World σ} {arguments : List String} {c : Console}
  {x : Undertaking σ} {t : Target σ} {s : σ}

theorem trace_of_reaches {p : Pipeline} {name : String} (commences : Commences u arguments c x)
    (reached : x.Reaches u w s t p name) :
    ∃ before behind, (execute u w arguments s).trace =
      before ++ announcement t p name x.printPlan ++ behind := by
  obtain ⟨q, ended, trace, -, htrace, -⟩ := Undertaking.course_of_reaches (c := c) reached
  refine ⟨(x.preparation u w s).trace,
    trace ++ terminalReport ended ++ epilogue c x.expects (x.body u w c s).answer, ?_⟩
  rw [execute_of_commences commences, htrace]
  simp

theorem startLine_not_mem_of_refused {f : Fault} (commences : Commences u arguments c x)
    (prepared : (x.preparation u w s).answer = .ok t) (refused : x.pipeline t = .error f) :
    startLine ∉ (execute u w arguments s).trace := by
  rw [execute_of_commences commences, x.body_of_refused u w c s prepared refused]
  intro hmem
  rcases List.mem_append.1 hmem with hmem | hmem
  · exact startLine_not_mem_prepareTarget hmem
  · exact startLine_not_mem_epilogue _ _ hmem

theorem startLine_not_mem_of_unselected {g : Given}
    (invokes : Invokes (runCommand u.settings).options "run" arguments c g)
    (unselected : ∀ path, ¬ Selects u g builtinOnly path) :
    startLine ∉ (execute u w arguments s).trace := by
  have hdispatch : dispatch u w arguments = run u w c g := dispatch_of_invokes rfl invokes
  rw [run_eq] at hdispatch
  rcases selects_or_idles s with ⟨path, selects⟩ | idles
  · exact absurd selects (unselected path)
  · rw [execute_of_exception (by rw [hdispatch]; exact fun _ => idles.exception), hdispatch]
    exact startLine_not_mem (overt_of_unselected unselected s)

theorem not_ok_zero_of_unselected {g : Given}
    (invokes : Invokes (planCommand u.settings).options "plan" arguments c g)
    (unselected : ∀ path, ¬ Selects u g ["--install-example"] path) :
    (execute u w arguments s).answer ≠ .ok 0 := by
  have hdispatch : dispatch u w arguments = plan u c g := dispatch_of_invokes rfl invokes
  unfold plan at hdispatch
  rcases selects_or_idles s with ⟨path, selects⟩ | idles
  · exact absurd selects (unselected path)
  · rw [← hdispatch] at idles
    intro answer
    have hcode := (idles_execute idles).mem_of_ok answer
    simp at hcode

end Run

/-- The run starts exactly if the plan can be told, unless an exit with status 0 is asked for. It is
then of the pipeline that the plan names, the plan lines are the same if it prints them, and its
number of steps is that of those lines. If an exit is asked for, neither gets as far, and both have
its status. -/
structure Foretells {σ' : Type} (asked : ExitRequest → Prop) (planned : Report Event σ Int)
    (ran : Report Event σ' Int) (t : Target σ') (printPlan : Bool) : Prop where
  starts : planned.answer = .ok 0 ↔
    startLine ∈ ran.trace ∨ ∃ request, asked request ∧ request.status = 0
  lists : startLine ∈ ran.trace → ∃ name steps steps' before behind,
    planned.trace = Console.header ("PLAN: " ++ name) ++ planLines steps ∧
    ran.trace = before ++ (Console.runStarted t.name name steps'.length ++
      if printPlan then planLines steps' else []) ++ behind ∧
    planLines steps' = planLines steps ∧ (planLines steps).length = steps'.length
  exits : ∀ request, asked request → overt planned.trace = [] ∧ startLine ∉ ran.trace ∧
    planned.answer = .ok request.status ∧ ran.answer = .ok request.status

def AsksExit (u : Surroundings) (g : Given) (request : ExitRequest) : Prop :=
  ∃ path, Selects u g ["--install-example"] (some path) ∧
    PipelineFile.loadPath u.files u.place path = .error (.exiting request)

section Foretells

variable {σ' : Type} {u : Surroundings} {w : World σ} {w' : World σ'}
  {arguments arguments' : List String} {c c' : Console} {g g' : Given} {t : Target σ'} {s : σ}
  {s' : σ'} {path : Option Path}

theorem Foretells.of_neither {asked : ExitRequest → Prop} {planned : Report Event σ Int}
    {ran : Report Event σ' Int} {printPlan : Bool} (unasked : ∀ request, ¬ asked request)
    (hplanned : planned.answer ≠ .ok 0) (hran : startLine ∉ ran.trace) :
    Foretells asked planned ran t printPlan where
  starts := iff_of_false hplanned fun h => h.elim hran fun ⟨request, asks, _⟩ =>
    unasked request asks
  lists hmem := absurd hmem hran
  exits request asks := absurd asks (unasked request)

theorem SameChoice.refused_iff (same : SameChoice g g') (t : Target σ') {f : Fault} :
    validated (supplied u path (planOptions u g)) = .error f ↔
      (Undertaking.ofRun u g' path).pipeline t = .error f := by
  have hannounced : announced (validated (supplied u path (planOptions u g))) =
      announced ((Undertaking.ofRun u g' path).pipeline t) := same.announced_eq t
  rw [← announced_eq_error, hannounced, announced_eq_error]

theorem asksExit_iff (selects : Selects u g ["--install-example"] path) (same : SameChoice g g')
    (t : Target σ') {request : ExitRequest} :
    AsksExit u g request ↔
      validated (supplied u path (planOptions u g)) = .error (.exiting request) := by
  have unrefused (cause : Refusal) : Fault.exiting request ≠ .refused cause := Fault.noConfusion
  rw [same.refused_iff t, Undertaking.unrefused_pipeline_iff unrefused,
    Undertaking.supply_ofRun_iff unrefused]
  constructor
  · rintro ⟨path', selects', loaded⟩
    exact ⟨path', finds_unique selects.found selects'.found, loaded⟩
  · rintro ⟨path', rfl, loaded⟩
    exact ⟨path', selects, loaded⟩

theorem concluded_refusal {f : Fault} :
    concluded (if isLoadFault f then .ok (handledCode f) else .error f) = .ok 0 ↔
      ∃ request, f = .exiting request ∧ request.status = 0 := by
  by_cases load : isLoadFault f
  · have hcode : handledCode f ≠ 0 := by
      rcases handledCode_cases f with h | ⟨h, -⟩ <;> omega
    refine iff_of_false (by simp [load, concluded, hcode]) ?_
    rintro ⟨request, rfl, -⟩
    cases load
  · cases f <;> simp [load, concluded]

theorem foretells_of_selects
    (plans : Invokes (planCommand u.settings).options "plan" arguments c g)
    (runs : Invokes (runCommand u.settings).options "run" arguments' c' g') (same : SameChoice g g')
    (apt : Apt u g') (prepared : (prepareTarget u w' (.ofGiven u.settings g') s').answer = .ok t)
    (selects : Selects u g ["--install-example"] path) :
    Foretells (AsksExit u g) (execute u w arguments s) (execute u w' arguments' s') t
      (g'.on "--print-plan" true) := by
  have hdispatch : dispatch u w arguments = plan u c g := dispatch_of_invokes rfl plans
  have hplan := plan_apply (c := c) selects s
  have selects' := (same.selects_iff apt).1 selects
  have commences : Commences (σ := σ') u arguments' c' (.ofRun u g' path) := .run runs selects'
  have asks_iff (request : ExitRequest) : AsksExit u g request ↔
      validated (supplied u path (planOptions u g)) = .error (.exiting request) :=
    asksExit_iff selects same t
  cases hresult : validated (supplied u path (planOptions u g)) with
  | error f =>
    have hran := startLine_not_mem_of_refused commences prepared ((same.refused_iff t).1 hresult)
    rw [hresult] at hplan
    have hanswer : (execute u w arguments s).answer =
        concluded (if isLoadFault f then .ok (handledCode f) else .error f) := by
      rw [execute_apply, hdispatch, hplan]
      by_cases load : isLoadFault f <;> simp [load]
    simp only [hresult, Except.error.injEq] at asks_iff
    refine ⟨?_, fun hmem => absurd hmem hran, ?_⟩
    · simp only [hanswer, concluded_refusal, asks_iff, hran, false_or]
    · intro request asks
      obtain rfl := (asks_iff request).1 asks
      obtain ⟨path', selects'', loaded⟩ := asks
      have raises : LoadRaises u w' arguments' c' s' (.exiting request) :=
        ⟨g', path', t, runs, (same.selects_iff apt).1 selects'', prepared, loaded⟩
      refine ⟨?_, hran, hanswer, (execute_of_loadExits raises).1⟩
      rw [execute_apply, hdispatch, hplan]
      simp [isLoadFault, Fault.kind?, overt_farewell]
  | ok r =>
    obtain ⟨p, name⟩ := r
    have hannounced : announced (validated (supplied u path (planOptions u g))) =
        announced ((Undertaking.ofRun u g' path).pipeline t) := same.announced_eq t
    rw [hresult] at hannounced hplan
    obtain ⟨p', hpipeline, houtline⟩ := announced_eq_ok.1 hannounced.symm
    obtain ⟨before, behind, hran⟩ := trace_of_reaches commences ⟨prepared, hpipeline⟩
    have hcode : (dispatch u w arguments s).answer = .ok 0 := by rw [hdispatch, hplan]
    have hplanned : execute u w arguments s =
        ⟨Console.header ("PLAN: " ++ name) ++ planLines p.steps, .ok 0, s⟩ := by
      rw [execute_of_ok hcode, hdispatch, hplan]
    have hlines : planLines p'.steps = planLines p.steps := by
      rw [planLines_eq, planLines_eq, houtline]
    have hstart : startLine ∈ (execute u w' arguments' s').trace := by
      rw [hran]
      simp [announcement, Console.runStarted, startLine]
    refine ⟨iff_of_true (by rw [hplanned]) (.inl hstart), fun _ => ⟨name, p.steps, p'.steps, before,
      behind, by rw [hplanned], hran, hlines, ?_⟩, fun request asks => ?_⟩
    · rw [← hlines, length_planLines]
    · cases hresult.symm.trans ((asks_iff request).1 asks)

end Foretells

/-- Listing a pipeline starts no child process. It foretells every run that is given the same
pipeline file and the same say about the example, is not rejected for its other options, and gets
its target. -/
theorem plan_foretells_run (u : Surroundings) :
    (∀ (σ : Type) (w : World σ) (arguments : List String) (s : σ), Calls "plan" arguments →
      exchanges (execute u w arguments s).trace = []) ∧
    ∀ (σ σ' : Type) (w : World σ) (w' : World σ') (arguments arguments' : List String)
      (c c' : Console) (g g' : Given) (t : Target σ') (s : σ) (s' : σ'),
      Invokes (planCommand u.settings).options "plan" arguments c g →
      Invokes (runCommand u.settings).options "run" arguments' c' g' →
      SameChoice g g' → Apt u g' → (prepareTarget u w' (.ofGiven u.settings g') s').answer = .ok t →
      Foretells (AsksExit u g) (execute u w arguments s) (execute u w' arguments' s') t
        (g'.on "--print-plan" true) := by
  refine ⟨fun σ w arguments s calls => exchanges_of_calls_plan calls s, ?_⟩
  intro σ σ' w w' arguments arguments' c c' g g' t s s' plans runs same apt prepared
  by_cases selected : ∃ path, Selects u g ["--install-example"] path
  · obtain ⟨path, selects⟩ := selected
    exact foretells_of_selects plans runs same apt prepared selects
  · have unselected : ∀ path, ¬ Selects u g ["--install-example"] path := not_exists.1 selected
    refine .of_neither ?_ (not_ok_zero_of_unselected plans unselected)
      (startLine_not_mem_of_unselected runs fun path selects => ?_)
    · rintro request ⟨path, selects, -⟩
      exact unselected (some path) selects
    · exact unselected path ((same.selects_iff apt).2 selects)

theorem prepared_lone (f : PipelineFile) (w : World σ) (s : σ) :
    (prepareTarget (lone f) w (.ofGiven (lone f).settings []) s).answer =
      .ok (loneMachine.target w) := by
  rw [prepareTarget_lone]
  rfl

theorem plan_foretells_lone :
    let planned := execute (lone failingFile) .replies ["plan"] []
    let ran := execute (lone failingFile) .replies ["run"] failingReplies
    exchanges planned.trace = [] ∧ planned.answer = .ok 0 ∧ startLine ∈ ran.trace ∧
      Foretells (AsksExit (lone failingFile) []) planned ran (loneMachine.target .replies)
        true := by
  intro planned ran
  obtain ⟨quiet, foretells⟩ := plan_foretells_run (lone failingFile)
  have plans := invokes_plan (lone failingFile).settings
  have selects : Selects (lone failingFile) [] ["--install-example"] (some lonePath) :=
    ⟨finds_lone failingFile rfl, .inr rfl⟩
  have foretold : Foretells (AsksExit (lone failingFile) []) planned ran
      (loneMachine.target .replies) true :=
    foretells _ _ .replies .replies _ _ {} {} [] [] _ [] failingReplies plans (invokes_run _)
      ⟨rfl, rfl⟩ (fun _ _ => rfl) (prepared_lone failingFile .replies failingReplies)
  have hvalidated : validated (supplied (lone failingFile) (some lonePath)
      (planOptions (lone failingFile) [])) = .ok ({ steps := [failingStep] }, lonePath.name) := by
    simp only [supplied, loadPath_lone]
    rfl
  have hplanned : planned.answer = .ok 0 := by
    have hdispatch : dispatch (lone failingFile) .replies ["plan"] =
        plan (lone failingFile) {} [] := dispatch_of_invokes rfl plans
    have hcode : (dispatch (lone failingFile) .replies ["plan"] []).answer = .ok 0 := by
      rw [hdispatch, answer_plan selects]
      exact ⟨_, _, hvalidated⟩
    rw [← hcode, ← execute_of_ok hcode]
  have started : startLine ∈ ran.trace := by
    refine (foretold.starts.1 hplanned).resolve_right ?_
    rintro ⟨request, ⟨path, selects', loaded⟩, -⟩
    obtain rfl := Option.some.inj (finds_unique selects.found selects'.found)
    rw [loadPath_lone] at loaded
    cases loaded
  exact ⟨quiet _ _ _ _ (calls_of_invokes plans), hplanned, started, foretold⟩

/-- The plan of a file that asks for an exit with status 0 exits with 0, and its run does not come
to start. -/
theorem plan_of_exitingFile :
    let u := lone (exitingFile 0)
    Invokes (planCommand u.settings).options "plan" ["plan"] {} [] ∧
      Invokes (runCommand u.settings).options "run" ["run"] {} [] ∧ Apt u [] ∧
      (prepareTarget u .replies (.ofGiven u.settings []) []).answer =
        .ok (loneMachine.target .replies) ∧
      (execute u .replies ["plan"] []).answer = .ok 0 ∧
      startLine ∉ (execute u .replies ["run"] []).trace := by
  intro u
  have selects : Selects u [] ["--install-example"] (some lonePath) :=
    ⟨finds_lone (exitingFile 0) rfl, .inr rfl⟩
  have prepared := prepared_lone (exitingFile 0) .replies []
  have foretold : Foretells (AsksExit u []) (execute u .replies ["plan"] [])
      (execute u .replies ["run"] []) (loneMachine.target .replies) true :=
    foretells_of_selects (invokes_plan u.settings) (invokes_run u.settings) ⟨rfl, rfl⟩
      (fun _ _ => rfl) prepared selects
  obtain ⟨-, unstarted, answer, -⟩ :=
    foretold.exits (.code 0) ⟨lonePath, selects, loadPath_lone (exitingFile 0)⟩
  exact ⟨invokes_plan _, invokes_run _, fun _ _ => rfl, prepared, answer, unstarted⟩

end Provisioning.CommandLine
