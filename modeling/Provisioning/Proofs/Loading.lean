import Provisioning.Proofs.Commencing

/-!
What loading a pipeline file gives. Its path has to lead to something with the extension, running
what stands there must not raise a fault, and then one supply alone decides: what the function
returns if one is defined, or else the list that is set. Only a list that holds nothing but steps is
accepted; whatever else is supplied is refused for its type.
-/
namespace Provisioning

open Refusable

inductive Supply.Lists : Supply → List Step → Prop
  | entries (steps : List Step) : Lists (.list (steps.map .step)) steps
  | empty : Lists (.value (.list [])) []

def Definition.Callable : Definition → Prop
  | .plain _ => False
  | _ => True

/-- What a call without arguments returns. -/
inductive Definition.Returns : Definition → Supply → Prop
  | result (v : Supply) : Returns (.returning (.ok v)) v
  | nothing : Returns (.requiring [] []) (.value .null)

theorem Supply.not_lists_tuple (entries : List Pipeline.Entry) (steps : List Step) :
    ¬ (Supply.tuple entries).Lists steps := nofun

theorem Supply.not_lists_of_other {entries : List Pipeline.Entry} {w : Value}
    (mem : .other w ∈ entries) (steps : List Step) : ¬ (Supply.list entries).Lists steps := by
  intro h
  cases h with
  | entries => simp at mem

theorem Pipeline.Entry.mapM_step?_eq_some_iff {entries : List Entry} {steps : List Step} :
    entries.mapM Entry.step? = some steps ↔ entries = steps.map .step := by
  induction entries generalizing steps with
  | nil => cases steps <;> simp
  | cons e rest ih =>
    cases e with
    | other v => cases steps <;> simp [Entry.step?]
    | step s => cases steps <;> simp [Entry.step?, ih, Option.bind_eq_some_iff, and_comm]

namespace PipelineFile

theorem stepsOf_eq_ok_iff {v : Supply} {steps : List Step} :
    stepsOf (some v) = .ok steps ↔ v.Lists steps := by
  constructor
  · intro h
    unfold stepsOf at h
    split at h
    · split at h
      · rename_i entries _ hentries
        obtain rfl := Except.ok.inj h
        obtain rfl := Pipeline.Entry.mapM_step?_eq_some_iff.1 hentries
        rename_i hv
        obtain rfl := Option.some.inj hv
        exact .entries _
      · cases h
    · rename_i hv
      obtain rfl := Option.some.inj hv
      obtain rfl := Except.ok.inj h
      exact .empty
    · cases h
  · intro h
    cases h with
    | entries => simp [stepsOf, Pipeline.Entry.mapM_step?_eq_some_iff.2 rfl]
    | empty => rfl

theorem notStepList_of_stepsOf {v : Option Supply} {cause : Refusal}
    (h : stepsOf v = .error cause) : cause = .notStepList := by
  unfold stepsOf at h
  split at h
  · split at h
    · cases h
    · exact (Except.error.inj h).symm
  · cases h
  · exact (Except.error.inj h).symm

theorem stepsOf_of_not_lists {v : Supply} (h : ∀ steps, ¬ v.Lists steps) :
    stepsOf (some v) = .error .notStepList := by
  cases hsteps : stepsOf (some v) with
  | ok steps => exact absurd (stepsOf_eq_ok_iff.1 hsteps) (h steps)
  | error cause => rw [notStepList_of_stepsOf hsteps]

/-- What a file that has been run gives: the answer of its function, or the list that it set if it
has no function. -/
inductive Gives (g : Globals) (v : Supply) : Prop
  | called {d : Definition} (defined : g.pipeline = some d) (returns : d.Returns v)
  | set (uncalled : ∀ d, g.pipeline = some d → ¬ d.Callable) (steps : g.steps = some v)

theorem call_eq_ok_iff {d : Definition} {v : Supply} :
    call d = some (.ok v) ↔ d.Returns v := by
  constructor
  · intro h
    unfold call at h
    split at h
    · obtain rfl := Option.some.inj h
      exact .result v
    · cases h
    · obtain rfl := Except.ok.inj (Option.some.inj h)
      exact .nothing
    · cases h
    · cases h
    · cases h
  · intro h
    cases h <;> rfl

theorem call_eq_none_iff {d : Definition} : call d = none ↔ ¬ d.Callable := by
  unfold call Definition.Callable
  split <;> simp

theorem supplied_eq_ok_iff {g : Globals} {v : Supply} :
    supplied g = .ok (some v) ↔ Gives g v := by
  unfold supplied
  cases hcall : g.pipeline.bind call with
  | none =>
    have uncalled : ∀ d, g.pipeline = some d → ¬ d.Callable := by
      intro d hd
      rw [hd, Option.bind_some] at hcall
      exact call_eq_none_iff.1 hcall
    constructor
    · intro h
      exact .set uncalled (Except.ok.inj h)
    · intro h
      cases h with
      | called defined returns =>
        rw [defined, Option.bind_some, call_eq_ok_iff.2 returns] at hcall
        cases hcall
      | set _ steps => exact congrArg Except.ok steps
  | some answer =>
    obtain ⟨d, defined, hanswer⟩ := Option.bind_eq_some_iff.1 hcall
    have callable : d.Callable := by
      by_contra uncallable
      rw [call_eq_none_iff.2 uncallable] at hanswer
      cases hanswer
    have hgives : Gives g v ↔ d.Returns v := by
      constructor
      · intro h
        cases h with
        | called defined' returns =>
          obtain rfl := Option.some.inj (defined.symm.trans defined')
          exact returns
        | set uncalled => exact absurd callable (uncalled d defined)
      · exact .called defined
    rw [hgives, ← call_eq_ok_iff, hanswer]
    cases answer with
    | ok w => simp
    | error f =>
      dsimp only
      split <;> simp

theorem load_eq_ok_iff {f : PipelineFile} {steps : List Step} :
    f.load = .ok steps ↔ ∃ g v, f.run = .ok g ∧ Gives g v ∧ v.Lists steps := by
  constructor
  · intro h
    cases hrun : f.run with
    | error fault =>
      rw [load, hrun] at h
      cases h
    | ok g =>
      cases hsupplied : supplied g with
      | error fault =>
        simp only [load, hrun, bind, Except.bind, hsupplied] at h
        cases h
      | ok given =>
        rw [CommandLine.load_of_gives ⟨g, hrun, hsupplied⟩] at h
        cases given with
        | none => cases h
        | some v =>
          refine ⟨g, v, rfl, supplied_eq_ok_iff.1 hsupplied, stepsOf_eq_ok_iff.1 ?_⟩
          cases hsteps : stepsOf (some v) with
          | error cause =>
            rw [hsteps] at h
            cases h
          | ok steps' =>
            rw [hsteps] at h
            obtain rfl := Except.ok.inj h
            rfl
  · rintro ⟨g, v, hrun, gives, lists⟩
    rw [CommandLine.load_of_gives ⟨g, hrun, supplied_eq_ok_iff.2 gives⟩, stepsOf_eq_ok_iff.2 lists]
    rfl

theorem load_of_not_lists {f : PipelineFile} {g : Globals} {v : Supply} (ran : f.run = .ok g)
    (gives : Gives g v) (unfit : ∀ steps, ¬ v.Lists steps) :
    f.load = .error (.refused .notStepList) := by
  rw [CommandLine.load_of_gives ⟨g, ran, supplied_eq_ok_iff.2 gives⟩, stepsOf_of_not_lists unfit]
  rfl

def setting (f : PipelineFile) (given : Option Supply) : PipelineFile :=
  { f with steps := given.map .ok }

theorem run_setting {f : PipelineFile} {d : Definition} (defined : f.pipeline = some d)
    (callable : d.Callable) (given : Option Supply) :
    (f.setting given).run = match f.raises with
      | some fault => .error fault
      | none => .ok ⟨given, some d⟩ := by
  unfold run setting
  cases f.raises with
  | some fault => rfl
  | none =>
    dsimp only
    rw [defined]
    cases d with
    | plain => exact callable.elim
    | _ => cases given <;> rfl

/-- A function alone decides what is loaded, whatever list the file sets besides. -/
theorem load_setting {f : PipelineFile} {d : Definition} (defined : f.pipeline = some d)
    (callable : d.Callable) (given given' : Option Supply) :
    (f.setting given).load = (f.setting given').load := by
  have hsupplied : supplied ⟨given, some d⟩ = supplied ⟨given', some d⟩ := by
    unfold supplied
    dsimp only [Option.bind_some]
    cases hcall : call d with
    | none => exact absurd callable (call_eq_none_iff.1 hcall)
    | some answer => cases answer <;> rfl
  unfold load
  rw [run_setting defined callable, run_setting defined callable]
  cases f.raises with
  | some fault => rfl
  | none =>
    change (supplied ⟨given, some d⟩ >>= _) = (supplied ⟨given', some d⟩ >>= _)
    rw [hsupplied]

/-- What a path leads to once it is expanded and resolved. -/
def Examines (files : FileTree PipelineFile) (place : Place) (path p : Path) (spot : List String) :
    Prop :=
  ∃ q, path.expand place = .ok q ∧ files.resolve place q = .ok p ∧
    files.locate place p = .ok (some spot)

/-- What is run at a spot: the file itself, or the main file if it is none. -/
inductive StandsAt (files : FileTree PipelineFile) (spot : List String) (content : PipelineFile) :
    Prop
  | file (node : files.node? spot = some (.file content))
  | main (other : ∀ c, files.node? spot ≠ some (.file c))
      (node : files.node? (spot ++ [mainFile]) = some (.file content))

def contentOf (files : FileTree PipelineFile) (p : Path) (spot : List String) :
    Except Refusal PipelineFile :=
  if p.suffix ≠ extension then .error (.notAPipelineFile p.name)
  else match files.node? spot, files.node? (spot ++ [mainFile]) with
    | some (.file content), _ | _, some (.file content) => .ok content
    | _, _ => .error (.directoryLoaded p.toString)

section Content

variable {files : FileTree PipelineFile} {place : Place} {path p : Path} {spot : List String}
  {content : PipelineFile}

theorem contentAt_of_examines (h : Examines files place path p spot) :
    contentAt files place path = contentOf files p spot := by
  obtain ⟨q, expanded, resolved, located⟩ := h
  simp only [contentAt, expanded, resolved, located, bind, Except.bind]
  rfl

theorem examines_of_contentAt (h : contentAt files place path = .ok content) :
    ∃ p spot, Examines files place path p spot ∧ contentOf files p spot = .ok content := by
  obtain ⟨q, expanded, h'⟩ := bind_eq_ok.1 h
  obtain ⟨p, resolved, h'⟩ := bind_eq_ok.1 h'
  obtain ⟨found, located, h'⟩ := bind_eq_ok.1 h'
  cases found with
  | none => cases h'
  | some spot =>
    have examines : Examines files place path p spot := ⟨q, expanded, resolved, located⟩
    exact ⟨p, spot, examines, (contentAt_of_examines examines).symm.trans h⟩

theorem contentOf_eq_ok_iff :
    contentOf files p spot = .ok content ↔ p.suffix = extension ∧ StandsAt files spot content := by
  unfold contentOf
  by_cases suffix : p.suffix = extension
  · rw [if_neg (not_not_intro suffix)]
    constructor
    · intro h
      refine ⟨suffix, ?_⟩
      split at h
      · rename_i hnode
        obtain rfl := Except.ok.inj h
        exact .file hnode
      · rename_i hmain hother
        obtain rfl := Except.ok.inj h
        exact .main hother hmain
      · cases h
    · rintro ⟨-, h⟩
      cases h with
      | file node => rw [node]
      | main other node =>
        rw [node]
        cases hnode : files.node? spot with
        | none => rfl
        | some n =>
          cases n with
          | directory | dangling => rfl
          | file c => exact absurd hnode (other c)
  · simp [suffix]

end Content

/-- Loading a path gives steps exactly if it leads to something with the extension that runs without
a fault and supplies them as a list: by its function if it has one, by the list that it sets if it
has none. A list set beside a function makes no difference at all. Whatever else is supplied is
refused for its type, be it a tuple of steps or a list that also holds something that is no step. -/
theorem loaded_lists (files : FileTree PipelineFile) (place : Place) (path : Path) :
    (∀ steps, loadPath files place path = .ok steps ↔
      ∃ p spot content g v, Examines files place path p spot ∧ p.suffix = ".py" ∧
        StandsAt files spot content ∧ content.run = .ok g ∧ Gives g v ∧ v.Lists steps) ∧
    (∀ files' (f : PipelineFile) (d : Definition) given given', f.pipeline = some d → d.Callable →
      contentAt files place path = .ok (f.setting given) →
      contentAt files' place path = .ok (f.setting given') →
      loadPath files place path = loadPath files' place path) ∧
    (∀ content g v, contentAt files place path = .ok content → content.run = .ok g → Gives g v →
      (∀ steps, ¬ v.Lists steps) →
      loadPath files place path = .error (.refused .notStepList)) ∧
    Refusal.notStepList.kind = .type ∧
    ∀ entries steps, ¬ (Supply.tuple entries).Lists steps ∧
      ((∃ w, .other w ∈ entries) → ¬ (Supply.list entries).Lists steps) := by
  have hload {files : FileTree PipelineFile} {content : PipelineFile}
      (located : contentAt files place path = .ok content) :
      loadPath files place path = content.load := by
    rw [loadPath, located]
  refine ⟨fun steps => ⟨?_, ?_⟩, ?_, ?_, rfl, ?_⟩
  · intro loaded
    cases located : contentAt files place path with
    | error cause =>
      rw [loadPath, located] at loaded
      cases loaded
    | ok content =>
      obtain ⟨p, spot, examines, hcontent⟩ := examines_of_contentAt located
      obtain ⟨suffix, stands⟩ := contentOf_eq_ok_iff.1 hcontent
      rw [hload located] at loaded
      obtain ⟨g, v, ran, gives, lists⟩ := load_eq_ok_iff.1 loaded
      exact ⟨p, spot, content, g, v, examines, suffix, stands, ran, gives, lists⟩
  · rintro ⟨p, spot, content, g, v, examines, suffix, stands, ran, gives, lists⟩
    have located : contentAt files place path = .ok content :=
      (contentAt_of_examines examines).trans (contentOf_eq_ok_iff.2 ⟨suffix, stands⟩)
    rw [hload located]
    exact load_eq_ok_iff.2 ⟨g, v, ran, gives, lists⟩
  · intro files' f d given given' defined callable located located'
    rw [hload located, hload located']
    exact load_setting defined callable given given'
  · intro content g v located ran gives unfit
    exact (hload located).trans (load_of_not_lists ran gives unfit)
  · intro entries steps
    refine ⟨Supply.not_lists_tuple entries steps, ?_⟩
    rintro ⟨w, mem⟩
    exact Supply.not_lists_of_other mem steps

def listedStep : Step := ⟨"list", [.text "ls"], .unprivileged, none, "sh", []⟩

def functionFile : PipelineFile where
  pipeline := some (.returning (.ok (.list [.step listedStep])))

def tupleFile : PipelineFile where
  steps := some (.ok (.tuple [.step listedStep]))

open CommandLine (lone lonePath contentAt_lone) in
theorem loaded_functionFile :
    loadPath (lone functionFile).files ⟨[], []⟩ lonePath = .ok [listedStep] ∧
    loadPath (lone (functionFile.setting (some (.tuple [])))).files ⟨[], []⟩ lonePath =
      .ok [listedStep] ∧
    loadPath (lone tupleFile).files ⟨[], []⟩ lonePath = .error (.refused .notStepList) := by
  have law (f : PipelineFile) := loaded_lists (lone f).files ⟨[], []⟩ lonePath
  have loaded : loadPath (lone functionFile).files ⟨[], []⟩ lonePath = .ok [listedStep] := by
    obtain ⟨p, spot, examines, hcontent⟩ := examines_of_contentAt (contentAt_lone functionFile)
    obtain ⟨suffix, stands⟩ := contentOf_eq_ok_iff.1 hcontent
    exact ((law functionFile).1 _).2 ⟨p, spot, functionFile, _, _, examines, suffix, stands, rfl,
      .called rfl (.result _), .entries [listedStep]⟩
  refine ⟨loaded, ?_, ?_⟩
  · rw [← loaded]
    exact (law _).2.1 _ functionFile _ _ none rfl trivial (contentAt_lone _) (contentAt_lone _)
  · refine (law tupleFile).2.2.1 tupleFile _ _ (contentAt_lone _) rfl (.set nofun rfl) ?_
    exact fun steps => ((law tupleFile).2.2.2.2 _ steps).1

end PipelineFile
end Provisioning
