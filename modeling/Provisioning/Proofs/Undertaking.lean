import Provisioning.Proofs.Invocation
import Provisioning.Proofs.Staying
import Provisioning.Proofs.Verdict

/-!
The two commands that carry out a pipeline. Each of them is stopped before it starts anything, or
has an undertaking: the target that it chooses, the pipeline that it gets for it, and the faults
that it expects. How an undertaking can go is said once, by `Course`: no target is prepared, no
pipeline is got, or the pipeline is executed. The exit code is that of the course, once the faults
that are expected and an interrupt have been seen to.
-/
namespace Provisioning.CommandLine

open Activity

variable {σ : Type}

def handledCode : Fault → Int
  | .unavailable .. => 3
  | _ => 1

def handledReport (c : Console) : Fault → List Event
  | f@(.unavailable ..) => Console.error "Environment unavailable" f.message []
      (some "Start the VM first (vagrant up) or pass --boot.")
  | f => c.fault (some f) f

theorem handle_apply (c : Console) (f : Fault) (s : σ) :
    handle c f s = ⟨handledReport c f, .ok (handledCode f), s⟩ := by
  cases f <;> simp [handle, handledReport, handledCode, record_bind_apply]

theorem written_handledReport (c : Console) (f : Fault) : Written (handledReport c f) := by
  unfold handledReport
  split
  · exact Console.written_error _ _ _ _
  · exact c.written_fault _ _

def resolved (expects : Fault → Bool) : Except Fault Int → Except Fault Int
  | .ok code => .ok code
  | .error f =>
    if f.isInterrupt then .ok 130 else if expects f then .ok (handledCode f) else .error f

def remarks (c : Console) (expects : Fault → Bool) : Except Fault Int → List Event
  | .ok _ => []
  | .error f =>
    if f.isInterrupt then Console.info "\nInterrupted by user"
    else if expects f then handledReport c f else []

theorem guarded_apply (c : Console) (expects : Fault → Bool) (x : Activity Event σ Int) (s : σ) :
    guarded c expects x s =
      ⟨(x s).trace ++ remarks c expects (x s).answer, resolved expects (x s).answer,
        (x s).after⟩ := by
  unfold guarded
  rw [attempt_bind_apply]
  cases (x s).answer with
  | ok code => rfl
  | error f =>
    cases hi : f.isInterrupt with
    | true => simp [remarks, resolved, hi, record_bind_apply]
    | false =>
      cases he : expects f with
      | true => simp [remarks, resolved, hi, he, handle_apply]
      | false => simp [remarks, resolved, hi, he]

theorem written_remarks (c : Console) (expects : Fault → Bool) (ended : Except Fault Int) :
    Written (remarks c expects ended) := by
  unfold remarks
  split
  · exact .nil
  · split
    · exact Console.written_info _
    · split
      · exact written_handledReport c _
      · exact .nil

section Target

variable {u : Surroundings} {w : World σ} {o : TargetChoice}

theorem target_of_prepared {P : Target σ → Prop} (machine : ∀ m : Machine, P (m.target w))
    (host : ∀ environ own superuser workdir, P (.host w environ own superuser workdir)) {s : σ}
    {t : Target σ} (h : (prepareTarget u w o s).answer = .ok t) : P t := by
  obtain ⟨chosen, hchosen, rfl⟩ := (ensures_prepareTarget u w o).of_ok h
  unfold chooseTarget at hchosen
  by_cases vagrant : o.target = "vagrant"
  · rw [if_pos vagrant] at hchosen
    obtain ⟨directory, -, hchosen⟩ := Refusable.bind_eq_ok.1 hchosen
    obtain rfl := Except.ok.inj hchosen
    exact machine _
  · rw [if_neg vagrant] at hchosen
    obtain ⟨workdir, -, hchosen⟩ := Refusable.bind_eq_ok.1 hchosen
    obtain rfl := Except.ok.inj hchosen
    exact host _ _ _ _

theorem heedsInterrupts_of_prepared {s : σ} {t : Target σ}
    (h : (prepareTarget u w o s).answer = .ok t) : t.HeedsInterrupts :=
  target_of_prepared (Target.heedsInterrupts_machine w) (Target.heedsInterrupts_host w) h

variable (u w o) in
theorem heeds_prepareTarget : Heeds (prepareTarget u w o) := by
  unfold prepareTarget
  cases hchosen : chooseTarget u w o with
  | error cause => exact heeds_fail rfl
  | ok chosen =>
    rw [require_bind_of_ok rfl]
    dsimp only
    split
    · rename_i m _
      split
      · refine (heeds_record (Console.written_info _).exchanges_eq).bind fun _ => ?_
        exact (heeds_rename (m.heeded_boot w _ _)).bind fun _ => heeds_pure chosen.target
      · exact heeds_pure chosen.target
    · exact heeds_pure chosen.target

theorem plain_of_prepared {s : σ} {t : Target σ} (h : (prepareTarget u w o s).answer = .ok t) :
    t.Plain :=
  target_of_prepared (Machine.plain_target w) (Target.plain_host w) h

variable (u w o) in
theorem stays_prepareTarget :
    (prepareTarget u w o).Ensures (fun _ => True) Fault.Stays := by
  refine leaves_require (fun chosen _ => ?_) fun _ _ => Fault.stays_of_exception rfl
  have ends : (pure chosen.target : Activity Event σ (Target σ)).Ensures (fun _ => True)
      Fault.Stays := ensures_pure trivial
  dsimp only
  split
  · rename_i m _
    split
    · refine (ensures_record _).bind fun _ _ => ?_
      have booted : ((m.boot w u.environ (some o.box)).rename Event.exchanged).Ensures
          (fun _ => True) Fault.Stays :=
        ((m.ensures_boot w u.environ (some o.box)).imp (fun _ h => h) fun _ h => h.stays).of_answer
          fun _ => rfl
      exact booted.bind fun _ _ => ends
    · exact ends
  · exact ends

end Target

structure Undertaking (σ : Type) where
  choice : TargetChoice
  supply : Target σ → Except Fault (List Step × String)
  printPlan : Bool
  expects : Fault → Bool

namespace Undertaking

def pipeline (x : Undertaking σ) (t : Target σ) : Except Fault (Pipeline × String) :=
  match x.supply t with
  | .error f => .error f
  | .ok (steps, name) =>
    match Pipeline.make (steps.map .step) with
    | .error cause => .error (.refused cause)
    | .ok p => .ok (p, name)

section

variable (u : Surroundings) (w : World σ) (c : Console) (x : Undertaking σ)

def preparation : Activity Event σ (Target σ) := prepareTarget u w x.choice

def performance (t : Target σ) : Activity Event σ Int := do
  let (steps, name) ← Activity.conclude (x.supply t)
  executeSteps u c t steps name x.printPlan

def body : Activity Event σ Int := x.preparation u w >>= x.performance u c

def carryOut : Activity Event σ Int := guarded c x.expects (x.body u w c)

variable {t : Target σ}

theorem performance_of_refused {f : Fault} (refused : x.pipeline t = .error f) :
    x.performance u c t = fail f := by
  unfold pipeline at refused
  unfold performance
  split at refused
  · rename_i g supplied
    obtain rfl := Except.error.inj refused
    rw [supplied]
    rfl
  · rename_i steps name supplied
    split at refused
    · rename_i cause made
      obtain rfl := Except.error.inj refused
      rw [supplied, conclude_ok, pure_bind_eq]
      exact require_bind_of_error made _
    · cases refused

theorem made_of_supplied {p : Pipeline} {name : String} (supplied : x.pipeline t = .ok (p, name)) :
    ∃ steps, x.supply t = .ok (steps, name) ∧ Pipeline.make (steps.map .step) = .ok p := by
  unfold pipeline at supplied
  split at supplied
  · cases supplied
  · rename_i steps name' hsteps
    split at supplied
    · cases supplied
    · rename_i p' made
      obtain ⟨rfl, rfl⟩ := Prod.mk.inj (Except.ok.inj supplied)
      exact ⟨steps, hsteps, made⟩

theorem performance_of_supplied {name : String} {steps : List Step}
    (supplied : x.supply t = .ok (steps, name)) :
    x.performance u c t = executeSteps u c t steps name x.printPlan := by
  unfold performance
  rw [supplied, conclude_ok, pure_bind_eq]

variable (s : σ)

structure Reaches (t : Target σ) (p : Pipeline) (name : String) : Prop where
  prepared : (x.preparation u w s).answer = .ok t
  supplied : x.pipeline t = .ok (p, name)

/-- How an undertaking goes: its trace, and its end before faults are seen to. -/
inductive Course : List Event → Except Fault Int → Prop
  | unprepared {f : Fault} (refused : (x.preparation u w s).answer = .error f) :
      Course (x.preparation u w s).trace (.error f)
  | unsupplied {t : Target σ} {f : Fault} (prepared : (x.preparation u w s).answer = .ok t)
      (refused : x.pipeline t = .error f) : Course (x.preparation u w s).trace (.error f)
  | executed {t : Target σ} {p q : Pipeline} {name : String}
      {ended : Except Fault Pipeline.Outcome} {trace : List Event}
      (reached : x.Reaches u w s t p name)
      (ending : Pipeline.Ending u.settings c t p (x.preparation u w s).after q ended trace) :
      Course ((x.preparation u w s).trace ++ (announcement t p name x.printPlan ++ trace ++
        terminalReport ended)) (ended.map Pipeline.Outcome.exitCode)

theorem body_of_refused {f : Fault} (prepared : (x.preparation u w s).answer = .ok t)
    (refused : x.pipeline t = .error f) :
    x.body u w c s = ⟨(x.preparation u w s).trace, .error f, (x.preparation u w s).after⟩ := by
  rw [body, bind_of_ok prepared, x.performance_of_refused u c refused, fail_apply, List.append_nil]

theorem course : x.Course u w c s (x.body u w c s).trace (x.body u w c s).answer := by
  cases prepared : (x.preparation u w s).answer with
  | error f =>
    rw [body, bind_of_error prepared]
    exact .unprepared prepared
  | ok t =>
    cases hpipeline : x.pipeline t with
    | error f =>
      rw [x.body_of_refused u w c s prepared hpipeline]
      exact .unsupplied prepared hpipeline
    | ok supply =>
      obtain ⟨p, name⟩ := supply
      obtain ⟨steps, supplied, made⟩ := x.made_of_supplied hpipeline
      rw [body, bind_of_ok prepared]
      obtain ⟨q, ended, h, ending⟩ :=
        Pipeline.execute_ending u.settings c t p (x.preparation u w s).after
      rw [x.performance_of_supplied u c supplied, executeSteps_of_ended made h name x.printPlan]
      exact .executed ⟨prepared, hpipeline⟩ ending

section Course

variable {u w c x s}

theorem course_of_reaches {p : Pipeline} {name : String} (reached : x.Reaches u w s t p name) :
    ∃ q ended trace, Pipeline.Ending u.settings c t p (x.preparation u w s).after q ended trace ∧
      (x.body u w c s).trace = (x.preparation u w s).trace ++
        (announcement t p name x.printPlan ++ trace ++ terminalReport ended) ∧
      (x.body u w c s).answer = ended.map Pipeline.Outcome.exitCode := by
  obtain ⟨prepared, supplied⟩ := reached
  have hcourse := x.course u w c s
  generalize (x.body u w c s).trace = tr, (x.body u w c s).answer = ended at hcourse ⊢
  cases hcourse with
  | unprepared refused => cases prepared.symm.trans refused
  | unsupplied prepared' refused =>
    obtain rfl := Except.ok.inj (prepared.symm.trans prepared')
    cases supplied.symm.trans refused
  | executed reached ending =>
    obtain rfl := Except.ok.inj (prepared.symm.trans reached.prepared)
    obtain ⟨rfl, rfl⟩ := Prod.mk.inj (Except.ok.inj (supplied.symm.trans reached.supplied))
    exact ⟨_, _, _, ending, rfl, rfl⟩

theorem Reaches.fresh {p : Pipeline} {name : String} (reached : x.Reaches u w s t p name) :
    p.state = .notStarted := by
  obtain ⟨steps, -, made⟩ := x.made_of_supplied reached.supplied
  exact Pipeline.fresh_of_make made

theorem lines_preparation : lines (x.preparation u w s).trace = [] :=
  List.prefix_nil.1 (follows_prepareTarget u w x.choice s).1

theorem Reaches.verdict {p : Pipeline} {name : String} (reached : x.Reaches u w s t p name)
    (c : Console) :
    Pipeline.Verdict u.settings c t p.steps (x.preparation u w s).after
      (x.body u w c s).answer := by
  obtain ⟨q, ended, trace, ending, -, answer⟩ := course_of_reaches (c := c) reached
  rw [answer]
  exact ending.verdict reached.fresh

theorem Reaches.lines_body {p : Pipeline} {name : String} (reached : x.Reaches u w s t p name)
    (c : Console) :
    lines (x.body u w c s).trace =
      (Pipeline.visited u.settings c t p.steps (x.preparation u w s).after).flatMap
        fun v => lines v.report.trace := by
  obtain ⟨q, ended, tr, ending, trace, -⟩ := course_of_reaches (c := c) reached
  rw [trace, ← ending.lines_eq reached.fresh]
  simp [lines_preparation]

def SupplyInterrupted (u : Surroundings) (w : World σ) (x : Undertaking σ) (s : σ) : Prop :=
  ∃ t, (x.preparation u w s).answer = .ok t ∧ EndsInterrupted (x.pipeline t)

theorem body_of_supplyInterrupted (h : x.SupplyInterrupted u w s) :
    Heeded (exchanges (x.body u w c s).trace) (.ok () : Except Fault Unit) ∧
      EndsInterrupted (x.body u w c s).answer ∧ lines (x.body u w c s).trace = [] := by
  obtain ⟨t, prepared, interrupted⟩ := h
  have hcourse := x.course u w c s
  generalize (x.body u w c s).trace = tr, (x.body u w c s).answer = ended at hcourse ⊢
  cases hcourse with
  | unprepared refused => cases prepared.symm.trans refused
  | unsupplied prepared' refused =>
    obtain rfl := Except.ok.inj (prepared.symm.trans prepared')
    have hprepared := heeds_prepareTarget u w x.choice s
    rw [refused] at interrupted
    change (prepareTarget u w x.choice s).answer = _ at prepared
    rw [prepared] at hprepared
    exact ⟨hprepared.of_iff .rfl, interrupted, lines_preparation⟩
  | executed reached ending =>
    obtain rfl := Except.ok.inj (prepared.symm.trans reached.prepared)
    rw [reached.supplied] at interrupted
    cases interrupted

theorem supply_of_exiting {request : ExitRequest}
    (h : (x.body u w c s).answer = .error (.exiting request)) :
    ∃ t, (x.preparation u w s).answer = .ok t ∧ x.pipeline t = .error (.exiting request) := by
  have hcourse := x.course u w c s
  rw [h] at hcourse
  generalize (x.body u w c s).trace = tr, hended : (.error (.exiting request) : Except Fault Int) =
    ended at hcourse
  cases hcourse with
  | unprepared refused =>
    obtain rfl := Except.error.inj hended
    exact absurd rfl ((stays_prepareTarget u w x.choice).of_error refused request)
  | @unsupplied t f prepared refused =>
    obtain rfl := Except.error.inj hended
    exact ⟨t, prepared, refused⟩
  | @executed t p q name ended trace reached ending =>
    cases ended with
    | ok o => cases hended
    | error f =>
      obtain rfl := Except.error.inj hended
      exact absurd rfl (ending.stays (plain_of_prepared reached.prepared) rfl request)

theorem heeded_body (quiet : ¬ x.SupplyInterrupted u w s) :
    Heeded (exchanges (x.body u w c s).trace) (x.body u w c s).answer := by
  have hprepared : Heeded (exchanges (x.preparation u w s).trace) (x.preparation u w s).answer :=
    heeds_prepareTarget u w x.choice s
  have hcourse := x.course u w c s
  generalize (x.body u w c s).trace = tr, (x.body u w c s).answer = ended at hcourse ⊢
  cases hcourse with
  | unprepared refused =>
    rw [refused] at hprepared
    exact hprepared.of_iff .rfl
  | @unsupplied t f prepared refused =>
    rw [prepared] at hprepared
    refine hprepared.of_iff (iff_of_false id fun interrupted => quiet ⟨t, prepared, ?_⟩)
    rw [refused]
    exact interrupted
  | executed reached ending =>
    rw [reached.prepared] at hprepared
    rw [exchanges_append, exchanges_append, exchanges_append,
      (written_announcement _ _ _ _).exchanges_eq, (written_terminalReport _).exchanges_eq,
      List.nil_append, List.append_nil]
    have hending := ending.heeded (heedsInterrupts_of_prepared reached.prepared)
    refine hprepared.append id (hending.of_iff ?_)
    cases ‹Except Fault Pipeline.Outcome› <;> rfl

end Course

end
end Undertaking

end Provisioning.CommandLine
