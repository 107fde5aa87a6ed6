import Provisioning.Proofs.Plan

/-!
What the data of a step must be like for its body to be refused nothing. A target confines a step
to some faults if all that it raises itself is among them, and so are the faults of provisioning
wherever it may answer with less than success. A sound step raises no other faults in such a target.
A step that is not sound is refused even in a target where everything goes well.
-/
namespace Provisioning

open Activity

variable {σ : Type} {P : Fault → Prop}

/-- Whether the data of a step is what its kind asks for. -/
def Step.Sound (s : Step) : Prop :=
  match StepKind.ofWord? s.kind with
  | some .toolchain => s.data.requireKeys = .ok () ∧ s.Legible
  | some .buildTest => s.data.requireKeys = .ok () ∧ s.substeps ≠ .ok [] ∧ s.Legible
  | _ => True

def Covers (P : Fault → Prop) : Prop := ∀ f, f.isProvisioning = true → P f

/-- The faults that a target raises, and those that come of its answers, are among the given. -/
structure Target.Confines (t : Target σ) (P : Fault → Prop) : Prop where
  question : t.available.Ensures (fun answer => answer = false → Covers P) P
  line (text : String) : (t.perform text).Ensures (fun status => status ≠ 0 → Covers P) P

namespace Target

variable {t : Target σ}

theorem answer_isAvailable (t : Target σ) (w : σ) :
    (t.isAvailable w).answer = (t.available w).answer :=
  answer_attempt_record (t.available.rename Event.exchanged) (fun answer => [.asked answer]) w

theorem answer_handOver (t : Target σ) (line : String) (w : σ) :
    (t.handOver line w).answer = (t.perform line w).answer :=
  answer_attempt_record ((t.perform line).rename Event.exchanged)
    (fun answer => [.ran line answer]) w

theorem Confines.checkAvailable (ht : t.Confines P) :
    t.checkAvailable.Ensures (fun _ => True) P := by
  refine Ensures.bind (ht.question.of_answer (answer_isAvailable t)) fun answer hanswer => ?_
  cases answer with
  | true => exact ensures_pure trivial
  | false => exact ensures_fail (hanswer rfl _ rfl)

theorem Confines.run (ht : t.Confines P) (x : String) (p : Privilege) (cwd : Option String) :
    (t.run x p cwd).Ensures (fun status => status ≠ 0 → Covers P) P :=
  (ht.line _).of_answer (answer_handOver t _)

theorem Confines.hasTool (ht : t.Confines P) {tool envFile : Value} {probe : String}
    (p : Privilege) (h : Target.probe tool envFile = .ok probe) :
    (t.hasTool tool envFile p).Ensures (fun found => found = false → Covers P) P := by
  unfold Target.hasTool
  rw [require_bind_of_ok h]
  refine ht.checkAvailable.bind fun _ _ => (ht.run _ p _).bind fun status hstatus => ?_
  exact ensures_pure fun hne => hstatus (of_decide_eq_false hne)

theorem Confines.runInstruction (ht : t.Confines P) (c : Console) (x : String) (p : Privilege)
    (cwd : Option String) :
    (runInstruction c t x p cwd).Ensures (fun status => status ≠ 0 → Covers P) P :=
  ht.checkAvailable.bind fun _ _ => (ensures_record _).bind fun _ _ => ht.run x p cwd

end Target

theorem ensures_of_status {status : Int} {x : Activity Event σ Unit} {f : Fault}
    (hstatus : status ≠ 0 → Covers P) (hx : x.Ensures (fun _ => True) P)
    (hf : f.isProvisioning = true) :
    (if status = 0 then x else fail f).Ensures (fun _ => True) P := by
  split
  · exact hx
  · rename_i hne
    exact ensures_fail (hstatus hne f hf)

section Bodies

variable {t : Target σ} (ht : t.Confines P)

include ht

theorem ScriptInstaller.install_confined (c : Console) {i : ScriptInstaller} {plan : List String}
    (h : i.plan t = .ok plan) : (i.install c t).Ensures (fun _ => True) P := by
  obtain ⟨probe, hp, h⟩ := Refusable.bind_eq_ok.1 h
  obtain ⟨fetch, hf, h⟩ := Refusable.bind_eq_ok.1 h
  obtain ⟨run, hr, -⟩ := Refusable.bind_eq_ok.1 h
  have asked : (i.isInstalled t).Ensures (fun found => found = false → Covers P) P :=
    ht.hasTool i.privilege hp
  have fetched : (i.fetch c t).Ensures (fun _ => True) P := by
    unfold ScriptInstaller.fetch
    rw [require_bind_of_ok hf]
    exact (ht.runInstruction c _ i.privilege _).bind fun status hstatus =>
      ensures_of_status hstatus (ensures_pure trivial) rfl
  have ran : (i.runScript c t).Ensures (fun _ => True) P := by
    unfold ScriptInstaller.runScript
    rw [require_bind_of_ok hr]
    exact (ht.runInstruction c _ i.privilege _).bind fun status hstatus =>
      ensures_of_status hstatus (ensures_pure trivial) rfl
  refine asked.bind fun _ _ => (ensures_record _).bind fun _ _ => fetched.bind fun _ _ =>
    ran.bind fun _ _ => asked.bind fun found hfound => ?_
  cases found with
  | true => exact ensures_pure trivial
  | false => exact ensures_fail (hfound rfl _ rfl)

theorem Step.runInstructions_confined (c : Console) (s : Step) (xs : List Value) :
    (s.runInstructions c t xs).Ensures (fun _ => True) P := by
  induction xs with
  | nil => exact ensures_pure trivial
  | cons x xs ih =>
    exact (ht.runInstruction c _ s.privilege s.cwd).bind fun status hstatus =>
      ensures_of_status hstatus ih rfl

theorem Stage.runSubsteps_confined (c : Console) (s : Stage) (project : Option String)
    {xs : List Value} (pairs : ∀ x ∈ xs, x.IsPair) :
    (s.runSubsteps c t project xs).Ensures (fun _ => True) P := by
  induction xs with
  | nil => exact ensures_pure trivial
  | cons x xs ih =>
    obtain ⟨name, command, hx⟩ := pairs x List.mem_cons_self
    have hxs := ih fun y hy => pairs y (List.mem_cons_of_mem _ hy)
    unfold Stage.runSubsteps
    rw [require_bind_of_ok hx]
    exact (ensures_record _).bind fun _ _ =>
      (ht.runInstruction c _ s.privilege project).bind fun status hstatus =>
        ensures_of_status hstatus hxs rfl

theorem Installer.install_confined (settings : Settings) (c : Console) {data : Config}
    {p : Privilege} {plan : List String} (h : (ofConfig settings data p).plan t = .ok plan) :
    ((ofConfig settings data p).install c t).Ensures (fun _ => True) P := by
  unfold ofConfig at h ⊢
  split
  · exact ensures_record _
  · rename_i hnoop
    rw [if_neg hnoop] at h
    exact ScriptInstaller.install_confined ht c h

theorem Stage.run_confined (c : Console) {data : Config} {p : Privilege}
    (project : Option String) {xs : List Value}
    (hx : substepsOf (data.getD "substeps" .null) = .ok xs) (nonempty : xs ≠ [])
    (pairs : ∀ x ∈ xs, x.IsPair) :
    (require (ofConfig data p) >>= fun stage => stage.run c t project).Ensures
      (fun _ => True) P := by
  have iterable (x : Value) (hm : x ∈ xs) : ∃ zs, x.items = .ok zs := by
    obtain ⟨a, b, hab⟩ := pairs x hm
    exact ⟨_, Value.pair_eq_ok.1 hab⟩
  obtain ⟨stage, hs⟩ := ofConfig_accepted p hx nonempty iterable
  rw [require_bind_of_ok hs]
  obtain ⟨-, -, ys, hy, -, hyields⟩ := yields_of_ofConfig hs
  obtain rfl := Except.ok.inj (hx.symm.trans hy)
  exact stage.runSubsteps_confined ht c project ((Value.forall_isPair_iff hyields).1 pairs)

theorem Step.perform_confined (settings : Settings) (c : Console) {s : Step} (sound : s.Sound) :
    (s.perform settings c t).Ensures (fun _ => True) P := by
  rcases hk : StepKind.ofWord? s.kind with _ | ⟨_ | _ | _⟩
  case some.toolchain =>
    simp only [Step.Sound, hk] at sound
    obtain ⟨plan, hplan⟩ := Step.plan_of_legible settings t sound.2
    simp only [Step.plan, Step.perform, hk] at hplan ⊢
    have hc : s.config = .ok s.data.distinct := Refusable.bind_eq_ok.2 ⟨(), sound.1, rfl⟩
    rw [require_bind_of_ok hc]
    exact Installer.install_confined ht settings c hplan
  case some.buildTest =>
    simp only [Step.Sound, hk] at sound
    obtain ⟨hkeys, hne, legible⟩ := sound
    simp only [Step.Legible, hk] at legible
    obtain ⟨xs, hx, pairs⟩ := legible
    simp only [Step.perform, hk]
    have hc : s.config = .ok s.data.distinct := Refusable.bind_eq_ok.2 ⟨(), hkeys, rfl⟩
    rw [require_bind_of_ok hc]
    have nonempty : xs ≠ [] := by
      intro hempty
      rw [hempty] at hx
      exact hne hx
    exact Stage.run_confined ht c _ hx nonempty pairs
  all_goals
    simp only [Step.perform, hk]
    exact Step.runInstructions_confined ht c s s.run

end Bodies

def Refuses {ε α : Type} (x : Activity ε σ α) : Prop :=
  x.Ensures (fun _ => False) fun f => ∃ cause, f = .refused cause

section Refuses

variable {ε α β : Type}

theorem refuses_require {r : Except Refusal α} {cause : Refusal} (h : r = .error cause)
    (f : α → Activity ε σ β) : Refuses (require r >>= f) := by
  rw [require_bind_of_error h]
  exact ensures_fail ⟨cause, rfl⟩

theorem Refuses.bind {x : Activity ε σ α} (hx : Refuses x) (f : α → Activity ε σ β) :
    Refuses (x >>= f) :=
  Ensures.bind hx fun _ h => h.elim

theorem Refuses.after {x : Activity ε σ α} {f : α → Activity ε σ β} {Q : α → Prop}
    (hx : x.Ensures Q fun _ => False) (hf : ∀ a, Q a → Refuses (f a)) : Refuses (x >>= f) :=
  (hx.imp (fun _ h => h) fun _ h => h.elim).bind hf

end Refuses

def Target.obliging : Target Unit where
  name := "obliging"
  workdir := some "/"
  isRoot := true
  available := pure true
  perform := fun _ => pure 0

theorem Target.confines_obliging (P : Fault → Prop) : Target.obliging.Confines P where
  question := ensures_pure (by simp)
  line _ := ensures_pure (by simp)

section Unsound

variable (settings : Settings) (c : Console)

theorem ScriptInstaller.refuses_install {i : ScriptInstaller} (hs : i.scriptPath.Quotable)
    (h : ¬ (i.tool.Quotable ∧ i.url.Quotable)) : Refuses (i.install c .obliging) := by
  have confines := Target.confines_obliging fun _ => False
  by_cases htool : i.tool.Quotable
  · -- The tool can be asked for, so that it is the fetching that is refused.
    have hurl : ¬ i.url.Quotable := fun hu => h ⟨htool, hu⟩
    obtain ⟨cause, hcause⟩ := Refusable.exists_error (mt Value.quotable_iff.2 hurl)
    obtain ⟨tool, htool⟩ := Value.quotable_iff.1 htool
    obtain ⟨script, hs⟩ := Value.quotable_iff.1 hs
    have hprobe : Target.probe i.tool i.envFile = .ok _ :=
      Refusable.bind_eq_ok.2 ⟨tool, htool, rfl⟩
    have hfetch : i.fetchCommand = .error cause := by
      unfold fetchCommand
      rw [hs, hcause]
      rfl
    have asked : (i.isInstalled .obliging).Ensures _ fun _ => False :=
      confines.hasTool i.privilege hprobe
    refine Refuses.after asked fun present _ => Refuses.after (ensures_record _) fun _ _ => ?_
    exact Refuses.bind (refuses_require hfetch _) _
  · obtain ⟨cause, hcause⟩ := Refusable.exists_error (mt Value.quotable_iff.2 htool)
    have hprobe : Target.probe i.tool i.envFile = .error cause :=
      Refusable.bind_of_error hcause _
    exact Refuses.bind (refuses_require hprobe _) _

theorem Stage.refuses_runSubsteps (s : Stage) (project : Option String) {xs : List Value}
    (h : ¬ ∀ x ∈ xs, x.IsPair) : Refuses (s.runSubsteps c .obliging project xs) := by
  have confines := Target.confines_obliging fun _ => False
  -- Every substep before the first bad one passes, since all lines end with 0.
  induction xs with
  | nil => exact absurd (by simp) h
  | cons x xs ih =>
    unfold Stage.runSubsteps
    cases hx : x.pair with
    | error cause => exact refuses_require rfl _
    | ok pair =>
      have hxs : ¬ ∀ y ∈ xs, y.IsPair := by
        intro hall
        exact h (List.forall_mem_cons.2 ⟨⟨pair.1, pair.2, hx⟩, hall⟩)
      rw [require_bind_of_ok rfl]
      refine Refuses.after (ensures_record _) fun _ _ =>
        Refuses.after (confines.runInstruction c _ s.privilege project) fun status hstatus => ?_
      split
      · exact ih hxs
      · rename_i hne
        exact (hstatus hne (.general "") rfl).elim

theorem Stage.refuses_run {data : Config} {p : Privilege} (project : Option String)
    (h : ¬ ∃ xs, substepsOf (data.getD "substeps" .null) = .ok xs ∧ xs ≠ [] ∧
      ∀ x ∈ xs, x.IsPair) :
    Refuses (require (ofConfig data p) >>= fun stage => stage.run c .obliging project) := by
  cases hs : ofConfig data p with
  | error cause => exact refuses_require rfl _
  | ok stage =>
    obtain ⟨-, -, xs, hx, nonempty, hyields⟩ := yields_of_ofConfig hs
    rw [require_bind_of_ok rfl]
    refine stage.refuses_runSubsteps c project fun pairs => h ⟨xs, hx, nonempty, ?_⟩
    exact (Value.forall_isPair_iff hyields).2 pairs

theorem Step.refuses_of_not_sound {s : Step} (h : ¬ s.Sound) :
    Refuses (s.perform settings c .obliging) := by
  rcases hk : StepKind.ofWord? s.kind with _ | ⟨_ | _ | _⟩
  case some.toolchain =>
    simp only [Step.Sound, Step.Legible, hk, not_and] at h
    simp only [Step.perform, hk]
    cases hkeys : s.data.requireKeys with
    | error cause => exact refuses_require (Refusable.bind_of_error hkeys _) _
    | ok u =>
      have hc : s.config = .ok s.data.distinct := Refusable.bind_eq_ok.2 ⟨u, hkeys, rfl⟩
      have hdata := not_or.1 (h hkeys)
      have wanted : ¬ (s.data.distinct.getD "noop" .null).truthy = true := hdata.1
      rw [require_bind_of_ok hc]
      unfold Installer.ofConfig
      rw [if_neg wanted]
      refine ScriptInstaller.refuses_install c (Value.quotable_text _) ?_
      intro quotable
      obtain ⟨htool, hurl⟩ := quotable
      exact hdata.2 ⟨htool, (Value.quotable_orElse _).1 hurl⟩
  case some.buildTest =>
    simp only [Step.Sound, Step.Legible, hk, not_and] at h
    simp only [Step.perform, hk]
    cases hkeys : s.data.requireKeys with
    | error cause => exact refuses_require (Refusable.bind_of_error hkeys _) _
    | ok u =>
      have hc : s.config = .ok s.data.distinct := Refusable.bind_eq_ok.2 ⟨u, hkeys, rfl⟩
      rw [require_bind_of_ok hc]
      refine Stage.refuses_run c _ ?_
      intro readable
      obtain ⟨xs, hx, nonempty, pairs⟩ := readable
      refine h hkeys (fun he => nonempty ?_) ⟨xs, hx, pairs⟩
      exact Except.ok.inj (hx.symm.trans he)
  all_goals
    simp only [Step.Sound, hk, not_true_eq_false] at h

end Unsound
end Provisioning
