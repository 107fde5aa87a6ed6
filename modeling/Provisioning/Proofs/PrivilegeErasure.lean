import Provisioning.Proofs.Correspondence
import Provisioning.Proofs.FailFast
import Provisioning.Proofs.Verdict

/-!
What privileges are for. They decide which lines are elevated and what is printed, and nothing
else: where lines that differ only in being elevated are answered alike, steps do the same and come
to the same end with any privileges, and on any account.
-/
namespace Provisioning

open Activity

variable {σ σ' : Type}

def Step.SameButPrivilege (s s' : Step) : Prop := ∃ p, s' = { s with privilege := p }

/-- Both lines run one instruction in one directory, with any privileges. -/
def Target.SameInstruction (t : Target σ) (t' : Target σ') (line line' : String) : Prop :=
  ∃ x p p' d, line = t.wrap x p d ∧ line' = t'.wrap x p' d

theorem Installer.errands_ofConfig (settings : Settings) (data : Config) (p p' : Privilege) :
    (ofConfig settings data p).errands = (ofConfig settings data p').errands := by
  unfold ofConfig
  split <;> rfl

theorem Stage.ofConfig_privilege (data : Config) (p p' : Privilege) :
    ofConfig data p' = (fun s => { s with privilege := p' }) <$> ofConfig data p := by
  unfold ofConfig make
  cases tupled (data.getD "substeps" .null) with
  | error cause => rfl
  | ok substeps =>
    cases hchosen : substepsOf substeps with
    | error cause => simp [hchosen, bind, Except.bind, Functor.map, Except.map]
    | ok chosen =>
      by_cases empty : chosen.isEmpty
      · simp [hchosen, empty, bind, Except.bind, Functor.map, Except.map]
      · simp [hchosen, empty, bind, Except.bind, Functor.map, Except.map, pure, Except.pure]

theorem Stage.errands_ofConfig (data : Config) (p p' : Privilege) :
    (match ofConfig data p' with
      | .ok stage => stage.errands
      | .error cause => [.error cause]) =
    match ofConfig data p with
      | .ok stage => stage.errands
      | .error cause => [.error cause] := by
  rw [ofConfig_privilege data p p']
  cases ofConfig data p <;> rfl

section Steps

variable {settings : Settings} {s s' : Step}

theorem Step.errands_of_same (same : s.SameButPrivilege s') :
    s'.errands settings = s.errands settings := by
  obtain ⟨p, rfl⟩ := same
  have hconfig : { s with privilege := p }.config = s.config := rfl
  unfold errands
  rw [hconfig]
  cases StepKind.ofWord? s.kind with
  | none => rfl
  | some kind =>
    cases kind with
    | shell => rfl
    | toolchain =>
      cases s.config with
      | error cause => rfl
      | ok data => exact Installer.errands_ofConfig settings data p s.privilege
    | buildTest =>
      cases s.config with
      | error cause => rfl
      | ok data => exact Stage.errands_ofConfig data s.privilege p

def Step.SharesLine (settings : Settings) (t : Target σ) (t' : Target σ') (s s' : Step)
    (line line' : String) : Prop :=
  ∃ e, .ok e ∈ s.errands settings ∧ line = e.line t s.privilege s.directory ∧
    line' = e.line t' s'.privilege s'.directory

variable {t : Target σ} {t' : Target σ'} {R : σ → σ' → Prop} {w : σ} {w' : σ'}

/-- Bodies of steps that are the same but for the privilege, in related worlds. -/
theorem Step.perform_of_same (settings : Settings) (c c' : Console)
    (h : t.Resembles t' (t.SameInstruction t') R)
    (same : s.SameButPrivilege s') (related : R w w') :
    let r := s.perform settings c t w
    let r' := s'.perform settings c' t' w'
    List.Forall₂ (fun x x' => s.SharesLine settings t t' s' x.1 x'.1 ∧ x.2 = x'.2)
        (answered r.trace) (answered r'.trace) ∧
      r.answer = r'.answer ∧ R r.after r'.after := by
  have did := s.sameDeeds_perform c t settings
  have did' := s'.sameDeeds_perform c' t' settings
  have hdirectory : s'.directory = s.directory := by
    obtain ⟨p, rfl⟩ := same
    rfl
  rw [errands_of_same same, hdirectory] at did'
  have corresponds : Corresponds (s.SharesLine settings t t' s') R
      (Errand.carryOut t s.privilege s.directory (s.errands settings))
      (Errand.carryOut t' s'.privilege s.directory (s.errands settings)) := by
    apply Errand.corresponds_carryOut h
    · intro e _
      exact ⟨e.instruction, s.privilege, s'.privilege, s.directory, rfl, rfl⟩
    · intro e he
      exact ⟨e, he, rfl, by rw [hdirectory]⟩
  obtain ⟨htrace, hanswer, hafter⟩ := corresponds w w' related
  have hlines := Event.Matches.answered htrace
  rw [answered_apparent, answered_apparent, ← did.answered_eq, ← did'.answered_eq] at hlines
  obtain ⟨-, answer, after⟩ := did w w rfl
  obtain ⟨-, answer', after'⟩ := did' w' w' rfl
  exact ⟨hlines, by rw [answer, answer', hanswer], by rwa [after, after']⟩

end Steps

section Runs

variable {t : Target σ} {t' : Target σ'} {R : σ → σ' → Prop} {w : σ} {w' : σ'}
  {steps steps' : List Step} {Z : Step → Step → Prop}

structure Visit.Alike (settings : Settings) (t : Target σ) (t' : Target σ')
    (Z : Step → Step → Prop) (v : Visit σ) (v' : Visit σ') : Prop where
  steps : Z v.step v'.step
  answered : List.Forall₂
    (fun x x' => v.step.SharesLine settings t t' v'.step x.1 x'.1 ∧ x.2 = x'.2)
    (answered v.report.trace) (answered v'.report.trace)
  answer : v.report.answer = v'.report.answer

theorem visits_alike (settings : Settings) (c c' : Console)
    (h : t.Resembles t' (t.SameInstruction t') R)
    (same : ∀ s s', Z s s' → s.SameButPrivilege s') (hsteps : List.Forall₂ Z steps steps')
    (related : R w w') :
    List.Forall₂ (Visit.Alike settings t t' Z) (visits settings c t steps w)
      (visits settings c' t' steps' w') := by
  induction hsteps generalizing w w' with
  | nil => exact .nil
  | @cons s s' rest rest' hs _ ih =>
    obtain ⟨hlines, hanswer, hafter⟩ :=
      Step.perform_of_same settings c c' h (same s s' hs) related
    cases answer : (s.perform settings c t w).answer with
    | error f =>
      rw [visits_of_error answer, visits_of_error (hanswer ▸ answer)]
      exact .cons ⟨hs, hlines, hanswer⟩ .nil
    | ok u =>
      rw [visits_of_ok answer, visits_of_ok (hanswer ▸ answer)]
      exact .cons ⟨hs, hlines, hanswer⟩ (ih hafter)

theorem stop?_of_answers {vs : List (Visit σ)} {vs' : List (Visit σ')}
    (h : List.Forall₂ (fun v v' => v.report.answer = v'.report.answer) vs vs') :
    Option.Rel (fun x x' => x.index = x'.index ∧ x.fault = x'.fault) (Visit.stop? vs)
      (Visit.stop? vs') := by
  induction h with
  | nil => exact .none
  | @cons v v' vs vs' hanswer _ ih =>
    rw [Visit.stop?, Visit.stop?, ← hanswer]
    cases v.report.answer with
    | error f => exact .some ⟨rfl, rfl⟩
    | ok u =>
      dsimp only
      generalize Visit.stop? vs = x at ih
      generalize Visit.stop? vs' = x' at ih
      cases ih with
      | none => exact .none
      | some hx => exact .some ⟨congrArg (· + 1) hx.1, hx.2⟩

end Runs

def Fault.cause? : Fault → Option Fault
  | .pipelineFailed _ cause _ => some cause
  | _ => none

namespace Pipeline

structure Outcome.Agrees (o o' : Outcome) : Prop where
  state : o.state = o'.state
  executed : o.executed = o'.executed
  failedIndex : o.failedIndex = o'.failedIndex
  exitCode : o.exitCode = o'.exitCode
  cause : o.error.bind Fault.cause? = o'.error.bind Fault.cause?

/-- Two executions that come to results which agree, or let the same fault escape. -/
inductive EndsAlike : Except Fault Outcome → Except Fault Outcome → Prop
  | result {o o' : Outcome} (agrees : o.Agrees o') : EndsAlike (.ok o) (.ok o')
  | escaped (f : Fault) : EndsAlike (.error f) (.error f)

section

variable {t : Target σ} {t' : Target σ'} {R : σ → σ' → Prop} {w : σ} {w' : σ'}
  {steps steps' : List Step} {p p' : Pipeline}

theorem Outcome.exitCode_eq {o o' : Outcome} (state : o.state = o'.state)
    (number : o.failedIndex = o'.failedIndex) : o.exitCode = o'.exitCode := by
  rw [exitCode, exitCode, ok, ok, state, number]

theorem Outcome.Agrees.refl (o : Outcome) : o.Agrees o := ⟨rfl, rfl, rfl, rfl, rfl⟩

theorem endsAlike_withheld (p p' : Pipeline) (f : Fault) :
    EndsAlike (p.withheld f).2 (p'.withheld f).2 := by
  cases f with
  | unavailable => exact .result (.refl _)
  | _ => exact .escaped _

theorem endsAlike_endedAt {x x' : Option Stop} (names : steps.map Step.name = steps'.map Step.name)
    (h : Option.Rel (fun x x' => x.index = x'.index ∧ x.fault = x'.fault) x x') :
    EndsAlike (p.endedAt 0 [] steps x).2 (p'.endedAt 0 [] steps' x').2 := by
  cases h with
  | none =>
    rw [endedAt_none, endedAt_none, succeededOutcome, succeededOutcome, names]
    exact .result (.refl _)
  | @some x x' hx =>
    obtain ⟨hindex, hfault⟩ := hx
    cases provisioning : x.fault.isProvisioning with
    | false =>
      rw [endedAt_of_foreign provisioning, endedAt_of_foreign (hfault ▸ provisioning), hfault]
      exact .escaped _
    | true =>
      rw [endedAt_of_provisioning provisioning, endedAt_of_provisioning (hfault ▸ provisioning)]
      have number :
          (failedOutcome steps x).failedIndex = (failedOutcome steps' x').failedIndex := by
        simp only [failedOutcome, hindex]
      refine .result ⟨rfl, ?_, number, Outcome.exitCode_eq rfl number, ?_⟩
      · simp only [failedOutcome, List.map_take, names, hindex]
      · simp only [failedOutcome, hfault, Option.bind_some, Fault.cause?]

theorem names_of_same (same : List.Forall₂ Step.SameButPrivilege steps steps') :
    steps.map Step.name = steps'.map Step.name := by
  induction same with
  | nil => rfl
  | cons hs _ ih =>
    obtain ⟨_, rfl⟩ := hs
    rw [List.map_cons, List.map_cons, ih]

theorem checked_of_same (same : List.Forall₂ Step.SameButPrivilege steps steps')
    (valid : ∀ s ∈ steps, checkStep [] s = .ok ()) : ∀ s ∈ steps', checkStep [] s = .ok () := by
  induction same with
  | nil => exact valid
  | cons hs _ ih =>
    obtain ⟨_, rfl⟩ := hs
    obtain ⟨hfirst, hrest⟩ := List.forall_mem_cons.1 valid
    exact List.forall_mem_cons.2 ⟨hfirst, ih hrest⟩

theorem make_of_same (same : List.Forall₂ Step.SameButPrivilege steps steps')
    (made : make (steps.map .step) = .ok p) :
    make (steps'.map .step) = .ok { steps := steps' } := by
  have hsteps := steps_of_make made
  obtain ⟨valid, distinct⟩ := distinct_of_make made
  obtain ⟨-, nonempty⟩ := entries_of_make made
  rw [hsteps] at valid distinct nonempty
  apply make_of_distinct
  · intro hempty
    rw [hempty, List.forall₂_nil_right_iff] at same
    exact nonempty same
  · exact checked_of_same same valid
  · rw [← names_of_same same]
    exact distinct

variable {Z : Step → Step → Prop}

theorem visited_alike (settings : Settings) (c c' : Console)
    (h : t.Resembles t' (t.SameInstruction t') R)
    (same : ∀ s s', Z s s' → s.SameButPrivilege s') (hsteps : List.Forall₂ Z steps steps')
    (related : R w w') :
    List.Forall₂ (Visit.Alike settings t t' Z) (visited settings c t steps w)
      (visited settings c' t' steps' w') := by
  obtain ⟨-, hanswer, hafter⟩ := (h.checkAvailable : Corresponds Eq R _ _) w w' related
  cases question : (t.checkAvailable w).answer with
  | error f =>
    rw [visited_of_withheld question, visited_of_withheld (hanswer ▸ question)]
    exact .nil
  | ok u =>
    rw [visited_of_available question, visited_of_available (hanswer ▸ question)]
    exact visits_alike settings c c' h same hsteps hafter

theorem endsAlike_execute (settings : Settings) (c c' : Console)
    (h : t.Resembles t' (t.SameInstruction t') R)
    (same : List.Forall₂ Step.SameButPrivilege p.steps p'.steps) (fresh : p.state = .notStarted)
    (fresh' : p'.state = .notStarted) (related : R w w') :
    ∃ q q' ended ended', (p.execute settings c t w).answer = .ok (q, ended) ∧
      (p'.execute settings c' t' w').answer = .ok (q', ended') ∧ EndsAlike ended ended' := by
  obtain ⟨-, hanswer, hafter⟩ := (h.checkAvailable : Corresponds Eq R _ _) w w' related
  cases question : (t.checkAvailable w).answer with
  | error f =>
    rw [execute_of_withheld settings c t fresh question,
      execute_of_withheld settings c' t' fresh' (hanswer ▸ question)]
    exact ⟨_, _, _, _, rfl, rfl, endsAlike_withheld p p' f⟩
  | ok u =>
    obtain ⟨-, answer⟩ := execute_of_available settings c t fresh question
    obtain ⟨-, answer'⟩ := execute_of_available settings c' t' fresh' (hanswer ▸ question)
    have alike : List.Forall₂ (Visit.Alike settings t t' Step.SameButPrivilege)
        (executedVisits settings c t p.steps w) (executedVisits settings c' t' p'.steps w') :=
      visits_alike settings c c' h (fun _ _ hs => hs) same hafter
    have stops := stop?_of_answers (alike.imp fun _ _ hv => hv.answer)
    exact ⟨_, _, _, _, answer, answer', endsAlike_endedAt (names_of_same same) stops⟩

end

/-- Where lines that run one instruction in one directory are answered alike, be they elevated or
not, steps that are the same but for their privileges make pipelines whose executions end alike. The
lines correspond one to one: each pair is one instruction of one of the steps, in its directory,
with the privilege that the step has in either list. -/
theorem privilege_erased (settings : Settings) (c c' : Console) {t : Target σ} {t' : Target σ'}
    {R : σ → σ' → Prop} (resembles : t.Resembles t' (t.SameInstruction t') R)
    {steps steps' : List Step} (same : List.Forall₂ Step.SameButPrivilege steps steps')
    {p : Pipeline} (made : make (steps.map .step) = .ok p) {w : σ} {w' : σ'}
    (related : R w w') :
    ∃ p' q q' ended ended', make (steps'.map .step) = .ok p' ∧
      (p.execute settings c t w).answer = .ok (q, ended) ∧
      (p'.execute settings c' t' w').answer = .ok (q', ended') ∧ EndsAlike ended ended' ∧
      List.Forall₂
        (fun x x' => x.2 = x'.2 ∧ ∃ s s' e, (s, s') ∈ steps.zip steps' ∧
          .ok e ∈ s.errands settings ∧
          x.1 = t.wrap e.instruction s.privilege s.directory ∧
          x'.1 = t'.wrap e.instruction s'.privilege s.directory)
        (answered (p.execute settings c t w).trace)
        (answered (p'.execute settings c' t' w').trace) := by
  have fresh := fresh_of_make made
  have made' := make_of_same same made
  obtain rfl := steps_of_make made
  obtain ⟨q, q', ended, ended', answer, answer', ends⟩ :=
    endsAlike_execute settings c c' resembles same fresh (fresh_of_make made') related
  refine ⟨_, q, q', ended, ended', made', answer, answer', ends, ?_⟩
  rw [answered_visited fresh answer, answered_visited (fresh_of_make made') answer']
  have paired : List.Forall₂ (fun s s' => (s, s') ∈ p.steps.zip steps' ∧ s.SameButPrivilege s')
      p.steps steps' :=
    List.forall₂_iff_zip.2 ⟨same.length_eq, fun hs => ⟨hs, List.forall₂_zip same hs⟩⟩
  have alike := visited_alike settings c c' resembles (fun _ _ hs => hs.2) paired related
  apply List.rel_flatMap alike
  intro v v' hv
  apply hv.answered.imp
  intro x x' hx
  obtain ⟨⟨e, he, hline, hline'⟩, hanswer⟩ := hx
  obtain ⟨hzip, hsame⟩ := hv.steps
  have hdirectory : v'.step.directory = v.step.directory := by
    obtain ⟨_, hstep⟩ := hsame
    rw [hstep]
    rfl
  exact ⟨hanswer, v.step, v'.step, e, hzip, he, hline, by rw [hline', hdirectory]; rfl⟩

theorem resembles_replies (environ own : Environ) (superuser superuser' : Option Bool)
    (workdir : Option String) (L : String → String → Prop) :
    (Target.host .replies environ own superuser workdir).Resembles
      (Target.host .replies environ own superuser' workdir) L Eq where
  name := rfl
  workdir := rfl
  question := by
    intro w w' related
    obtain rfl := related
    exact ⟨rfl, rfl⟩
  line := by
    intro line line' _ w w' related
    obtain rfl := related
    rcases w with _ | ⟨_ | _ | _, rest⟩ <;> exact ⟨rfl, rfl⟩

def fetchingRoot : Target (List Reply) := .host .replies [] [] (some true) (some "/work")

def elevatedSteps : List Step := fetchingSteps.map fun s => { s with privilege := .elevated }

theorem privilege_erased_fetching :
    fetchingHost.Resembles fetchingRoot (fetchingHost.SameInstruction fetchingRoot) Eq ∧
      List.Forall₂ Step.SameButPrivilege fetchingSteps elevatedSteps ∧
      make (fetchingSteps.map .step) = .ok { steps := fetchingSteps } ∧
      ∃ p' q q' ended ended', make (elevatedSteps.map .step) = .ok p' ∧
        failedFetch.answer = .ok (q, ended) ∧
        (p'.execute (.ofEnviron []) {} fetchingRoot
          [.exited 0 "", .exited 1 "", .exited 22 ""]).answer = .ok (q', ended') ∧
        EndsAlike ended ended' := by
  have resembles : fetchingHost.Resembles fetchingRoot
      (fetchingHost.SameInstruction fetchingRoot) Eq := resembles_replies _ _ _ _ _ _
  have same : List.Forall₂ Step.SameButPrivilege fetchingSteps elevatedSteps :=
    List.forall₂_map_right_iff.2 (List.forall₂_same.2 fun _ _ => ⟨_, rfl⟩)
  have made : make (fetchingSteps.map .step) = .ok { steps := fetchingSteps } := rfl
  obtain ⟨p', q, q', ended, ended', made', answer, answer', ends, -⟩ :=
    privilege_erased (.ofEnviron []) {} {} resembles same made
      (w := [.exited 0 "", .exited 1 "", .exited 22 ""]) rfl
  exact ⟨resembles, same, made, p', q, q', ended, ended', made', answer, answer', ends⟩

end Pipeline
end Provisioning
