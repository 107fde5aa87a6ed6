import Provisioning.Proofs.Soundness
import Provisioning.Proofs.TraceLaws
import Provisioning.Target.Machine

/-!
The child processes behind a target. A question to a target and a line that is handed to it are
noted behind those that they took. A machine takes one call for each, and only behind a line that
may have lost the connection a second question; whether it is running is told by the first record
of its state. Both targets raise no fault of provisioning other than that they are unavailable.
-/
namespace Provisioning

open Activity

variable {σ : Type}

namespace Target

variable (t : Target σ)

def demanded (name : String) : Except Fault Bool → Except Fault Unit
  | .ok true => .ok ()
  | .ok false => .error (.unavailable name "not reachable")
  | .error f => .error f

theorem demanded_eq_ok {name : String} {answer : Except Fault Bool} :
    demanded name answer = .ok () ↔ answer = .ok true := by
  rcases answer with f | _ | _ <;> simp [demanded]

theorem checkAvailable_apply (w : σ) :
    t.checkAvailable w =
      ⟨(t.available w).trace.map Event.exchanged ++ [.asked (t.available w).answer],
        demanded t.name (t.available w).answer, (t.available w).after⟩ := by
  rcases hquestion : t.available w with ⟨trace, answer, after⟩
  rcases answer with f | _ | _
  all_goals
    simp [checkAvailable, isAvailable, bind, followedBy, attempt, rename, record, conclude, give,
      fail, demanded, hquestion]

theorem handOver_apply (line : String) (w : σ) :
    t.handOver line w =
      ⟨(t.perform line w).trace.map Event.exchanged ++ [.ran line (t.perform line w).answer],
        (t.perform line w).answer, (t.perform line w).after⟩ := by
  rcases hline : t.perform line w with ⟨trace, answer, after⟩
  cases answer
  all_goals
    simp [handOver, bind, followedBy, attempt, rename, record, conclude, give, fail, hline]

theorem trace_checkAvailable (w : σ) :
    (t.checkAvailable w).trace =
      (t.available w).trace.map Event.exchanged ++ [.asked (t.available w).answer] := by
  rw [t.checkAvailable_apply]

theorem available_of_checkAvailable {w : σ} (h : (t.checkAvailable w).answer = .ok ()) :
    (t.available w).answer = .ok true := by
  rw [t.checkAvailable_apply] at h
  exact demanded_eq_ok.1 h

theorem trace_handOver (line : String) (w : σ) :
    (t.handOver line w).trace =
      (t.perform line w).trace.map Event.exchanged ++ [.ran line (t.perform line w).answer] := by
  rw [t.handOver_apply]

theorem run_apply (x : String) (p : Privilege) (d : Option String) (w : σ) :
    t.run x p d w =
      ⟨(t.perform (t.wrap x p d) w).trace.map Event.exchanged ++
          [.ran (t.wrap x p d) (t.perform (t.wrap x p d) w).answer],
        (t.perform (t.wrap x p d) w).answer, (t.perform (t.wrap x p d) w).after⟩ :=
  t.handOver_apply _ w

theorem exchanges_checkAvailable (w : σ) :
    exchanges (t.checkAvailable w).trace = (t.available w).trace := by
  simp [t.trace_checkAvailable]

theorem exchanges_handOver (line : String) (w : σ) :
    exchanges (t.handOver line w).trace = (t.perform line w).trace := by
  simp [t.trace_handOver]

end Target

def Call.IsVagrant (command : String) (c : Call) : Prop :=
  ∃ rest, c.command = .words ("vagrant" :: command :: rest)

def Machine.IsStateRecord (line : List Char) (state : String) : Prop :=
  ∃ time target rest,
    (Text.fields ',' line).map String.ofList = time :: target :: "state" :: state :: rest

/-- The state of the first record that tells one, where the output is cut into records as the
program cuts it: at every line end there is, be it a newline or another one. -/
def Machine.ReportsState (output state : String) : Prop :=
  ∃ before line behind, Text.lines output.toList = before ++ line :: behind ∧
    (∀ earlier ∈ before, ∀ other, ¬ IsStateRecord earlier other) ∧ IsStateRecord line state

namespace Machine

def stateField? (line : List Char) : Option String :=
  match (Text.fields ',' line).map String.ofList with
  | _ :: _ :: "state" :: state :: _ => some state
  | _ => none

theorem stateField?_eq_some_iff {line : List Char} {state : String} :
    stateField? line = some state ↔ IsStateRecord line state := by
  unfold stateField? IsStateRecord
  generalize (Text.fields ',' line).map String.ofList = fields
  constructor
  · intro h
    split at h
    · rename_i time target told rest
      obtain rfl := Option.some.inj h
      exact ⟨time, target, rest, rfl⟩
    · cases h
  · rintro ⟨time, target, rest, rfl⟩
    rfl

theorem stateOf_eq_some_iff {output state : String} :
    stateOf output = some state ↔ ReportsState output state := by
  have hfind : stateOf output = (Text.lines output.toList).findSome? stateField? := rfl
  have hnone (line : List Char) :
      stateField? line = none ↔ ∀ other, ¬ IsStateRecord line other := by
    simp only [← stateField?_eq_some_iff, Option.eq_none_iff_forall_ne_some, ne_eq]
  rw [hfind, List.findSome?_eq_some_iff]
  simp only [hnone, stateField?_eq_some_iff, ReportsState]
  constructor
  · rintro ⟨before, line, behind, hlines, hrecord, hnone⟩
    exact ⟨before, line, behind, hlines, hnone, hrecord⟩
  · rintro ⟨before, line, behind, hlines, hnone, hrecord⟩
    exact ⟨before, line, behind, hlines, hrecord, hnone⟩

def saysRunning : Reply → Except Fault Bool
  | .exited status output => .ok ((if status = 0 then stateOf output else none) = some "running")
  | .missing => .ok false
  | .interrupted => .error (.interrupted "")

theorem reports_of_saysRunning {reply : Reply} (h : saysRunning reply = .ok true) :
    ∃ output, reply = .exited 0 output ∧ ReportsState output "running" := by
  cases reply with
  | missing | interrupted => cases h
  | exited status output =>
    have hstate := of_decide_eq_true (Except.ok.inj h)
    by_cases hstatus : status = 0
    · rw [if_pos hstatus] at hstate
      exact ⟨output, by rw [hstatus], stateOf_eq_some_iff.1 hstate⟩
    · simp [hstatus] at hstate

section Calls

variable (w : World σ) (m : Machine) (s : σ)

theorem isRunning_apply :
    m.isRunning w s =
      let r := w.start m.statusCall s
      ⟨[⟨m.statusCall, r.1⟩], saysRunning r.1, r.2⟩ := by
  unfold isRunning state
  rw [Activity.bind_assoc, w.run_bind_apply]
  generalize w.start m.statusCall s = r
  obtain ⟨reply, s'⟩ := r
  cases reply <;> simp [saysRunning]

/-- A line is one call of its own, and only the state may be asked for behind it. -/
theorem trace_ssh (line : String) :
    ∃ reply behind, (m.ssh w line s).trace = ⟨m.sshCall line, reply⟩ :: behind ∧
      ∀ e ∈ behind, e.call = m.statusCall := by
  unfold ssh
  rw [w.run_bind_apply]
  generalize w.start (m.sshCall line) s = r
  obtain ⟨reply, s'⟩ := r
  refine ⟨reply, _, rfl, ?_⟩
  cases reply with
  | missing | interrupted => simp
  | exited status output =>
    by_cases lost : status = 255
    · simp only [lost, if_true]
      rw [trace_bind_of_silent fun running s => by cases running <;> simp, isRunning_apply]
      simp
    · simp [lost]

theorem trace_boot (environ : Environ) (box : Option String) :
    (m.boot w environ box s).trace =
      [⟨m.bootCall environ box, (w.start (m.bootCall environ box) s).1⟩] := by
  unfold boot
  rw [w.run_bind_apply]
  generalize w.start (m.bootCall environ box) s = r
  obtain ⟨reply, s'⟩ := r
  cases reply with
  | missing | interrupted => rfl
  | exited status output => by_cases hstatus : status = 0 <;> simp [hstatus]

end Calls

theorem statusCall_not_vagrant (m : Machine) {command : String} (h : command ≠ "status") :
    ¬ m.statusCall.IsVagrant command := by
  rintro ⟨rest, hcommand⟩
  simp [statusCall, call, h.symm] at hcommand

theorem exchanges_question (w : World σ) (m : Machine) (s : σ) :
    exchanges ((m.target w).checkAvailable s).trace =
      [⟨m.statusCall, (w.start m.statusCall s).1⟩] := by
  have hquestion : (m.target w).available = m.isRunning w := rfl
  rw [Target.exchanges_checkAvailable, hquestion, isRunning_apply]

end Machine

/-- The faults of the targets there are: the target is unavailable, what it is asked is refused, or
a child process is interrupted. -/
inductive Fault.OfTarget : Fault → Prop
  | unavailable (target reason : String) : OfTarget (.unavailable target reason)
  | refused (cause : Refusal) : OfTarget (.refused cause)
  | interrupted (message : String) : OfTarget (.interrupted message)

structure Target.Plain (t : Target σ) : Prop where
  question : t.available.Ensures (fun _ => True) Fault.OfTarget
  line (x : String) : (t.perform x).Ensures (fun _ => True) Fault.OfTarget

theorem Target.plain_host (w : World σ) (environ own : Environ) (superuser : Option Bool)
    (workdir : Option String) : (Target.host w environ own superuser workdir).Plain where
  question := by
    cases workdir with
    | none => exact ensures_fail (.refused _)
    | some d =>
      refine Ensures.bind (Q := fun _ => True) (fun _ => trivial) fun answer _ => ?_
      cases answer with
      | ok present => exact ensures_pure trivial
      | error cause => exact ensures_fail (.refused cause)
  line text := by
    refine Ensures.bind (Q := fun _ => True) (fun _ => trivial) fun reply _ => ?_
    cases reply with
    | exited status output => exact ensures_pure trivial
    | missing => exact ensures_fail (.refused _)
    | interrupted => exact ensures_fail (.interrupted _)

theorem Machine.plain_target (w : World σ) (m : Machine) : (m.target w).Plain := by
  have running : (m.isRunning w).Ensures (fun _ => True) Fault.OfTarget := by
    intro s
    rw [isRunning_apply]
    generalize w.start m.statusCall s = r
    obtain ⟨reply, s'⟩ := r
    cases reply with
    | exited | missing => trivial
    | interrupted => exact .interrupted _
  refine ⟨running, fun line => ?_⟩
  refine Ensures.bind (Q := fun _ => True) (fun _ => trivial) fun reply _ => ?_
  cases reply with
  | missing => exact ensures_fail (.unavailable _ _)
  | interrupted => exact ensures_fail (.interrupted _)
  | exited status output =>
    by_cases lost : status = 255
    · simp only [lost, if_true]
      refine running.bind fun found _ => ?_
      cases found with
      | true => exact ensures_pure trivial
      | false => exact ensures_fail (.unavailable _ _)
    · simp only [lost, if_false]
      exact ensures_pure trivial

theorem Machine.ensures_boot (w : World σ) (m : Machine) (environ : Environ)
    (box : Option String) : (m.boot w environ box).Ensures (fun _ => True) Fault.OfTarget := by
  refine Ensures.bind (Q := fun _ => True) (fun _ => trivial) fun reply _ => ?_
  cases reply with
  | missing => exact ensures_fail (.unavailable _ _)
  | interrupted => exact ensures_fail (.interrupted _)
  | exited status output =>
    dsimp only
    split
    · exact ensures_pure trivial
    · exact ensures_fail (.unavailable _ _)

def Fault.TellsOfTarget (f : Fault) : Prop :=
  f.isProvisioning = true → ∃ target reason, f = .unavailable target reason

theorem Fault.OfTarget.tellsOfTarget {f : Fault} (h : f.OfTarget) : f.TellsOfTarget := by
  intro provisioning
  cases h with
  | unavailable target reason => exact ⟨target, reason, rfl⟩
  | refused | interrupted => cases provisioning

/-- Of the faults of provisioning a target raises none but that it is unavailable. -/
structure Target.Candid (t : Target σ) : Prop where
  question : t.available.Ensures (fun _ => True) Fault.TellsOfTarget
  line (x : String) : (t.perform x).Ensures (fun _ => True) Fault.TellsOfTarget

theorem Target.Plain.candid {t : Target σ} (plain : t.Plain) : t.Candid where
  question := plain.question.imp (fun _ h => h) fun _ h => h.tellsOfTarget
  line x := (plain.line x).imp (fun _ h => h) fun _ h => h.tellsOfTarget

theorem Target.candid_host (w : World σ) (environ own : Environ) (superuser : Option Bool)
    (workdir : Option String) : (Target.host w environ own superuser workdir).Candid :=
  (plain_host w environ own superuser workdir).candid

theorem Machine.candid_target (w : World σ) (m : Machine) : (m.target w).Candid :=
  (m.plain_target w).candid

end Provisioning
