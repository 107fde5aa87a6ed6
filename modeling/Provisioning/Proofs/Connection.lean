import Provisioning.Proofs.Blame
import Provisioning.Proofs.Reachability

/-!
A line in a machine goes over a connection. A machine that is not found running is not connected to,
and status 255, by which a lost connection is reported too, counts as the status of the line only if
the machine is found running once more. So a line takes one to three calls, and the replies to them
decide whether the machine was unavailable or the line came back with its own status. In an
execution a status of 255 that came back so is the fault of the step.
-/
namespace Provisioning

open Activity

variable {σ : Type}

namespace Machine

def Runs (reply : Reply) : Prop :=
  ∃ output, reply = .exited 0 output ∧ ReportsState output "running"

def Denies (reply : Reply) : Prop := reply ≠ .interrupted ∧ ¬ Runs reply

theorem runs_iff {reply : Reply} : Runs reply ↔ saysRunning reply = .ok true := by
  constructor
  · intro runs
    obtain ⟨output, rfl, reports⟩ := runs
    simp [saysRunning, stateOf_eq_some_iff.2 reports]
  · exact reports_of_saysRunning

theorem denies_iff {reply : Reply} : Denies reply ↔ saysRunning reply = .ok false := by
  rw [Denies, runs_iff]
  cases reply with
  | missing | interrupted => simp [saysRunning]
  | exited status output => simp [saysRunning]

theorem reply_cases (reply : Reply) : reply = .interrupted ∨ Runs reply ∨ Denies reply := by
  by_cases interrupt : reply = .interrupted
  · exact .inl interrupt
  · by_cases runs : Runs reply
    · exact .inr (.inl runs)
    · exact .inr (.inr ⟨interrupt, runs⟩)

/-- The calls that a line takes and how it ends, by the replies to the question for the state, to
the line, and to the same question put again. -/
inductive Dialogue (m : Machine) (line : String) (first ran again : Reply) :
    List Exchange → Except Fault Int → Prop
  | unanswered (interrupt : first = .interrupted) :
      Dialogue m line first ran again [⟨m.statusCall, first⟩] (.error (.interrupted ""))
  | denied (denies : Denies first) :
      Dialogue m line first ran again [⟨m.statusCall, first⟩]
        (.error (.unavailable m.targetName "not reachable"))
  | absent (runs : Runs first) (absent : ran = .missing) :
      Dialogue m line first ran again [⟨m.statusCall, first⟩, ⟨m.sshCall line, ran⟩]
        (.error m.notInstalled)
  | interrupted (runs : Runs first) (interrupt : ran = .interrupted) :
      Dialogue m line first ran again [⟨m.statusCall, first⟩, ⟨m.sshCall line, ran⟩]
        (.error (.interrupted ""))
  | returned {status : Int} {output : String} (runs : Runs first)
      (exited : ran = .exited status output) (other : status ≠ 255) :
      Dialogue m line first ran again [⟨m.statusCall, first⟩, ⟨m.sshCall line, ran⟩] (.ok status)
  | held {output : String} (runs : Runs first) (exited : ran = .exited 255 output)
      (stillRuns : Runs again) :
      Dialogue m line first ran again
        [⟨m.statusCall, first⟩, ⟨m.sshCall line, ran⟩, ⟨m.statusCall, again⟩] (.ok 255)
  | lost {output : String} (runs : Runs first) (exited : ran = .exited 255 output)
      (denies : Denies again) :
      Dialogue m line first ran again
        [⟨m.statusCall, first⟩, ⟨m.sshCall line, ran⟩, ⟨m.statusCall, again⟩] (.error m.lost)
  | broken {output : String} (runs : Runs first) (exited : ran = .exited 255 output)
      (interrupt : again = .interrupted) :
      Dialogue m line first ran again
        [⟨m.statusCall, first⟩, ⟨m.sshCall line, ran⟩, ⟨m.statusCall, again⟩]
        (.error (.interrupted ""))

section Apply

variable (w : World σ) (m : Machine) (line : String) (s : σ)

def recalled (reply : Reply) : Except Fault Int :=
  match saysRunning reply with
  | .ok true => .ok 255
  | .ok false => .error m.lost
  | .error f => .error f

variable {w m line s} {s' : σ}

theorem ssh_of_missing (ran : w.start (m.sshCall line) s = (.missing, s')) :
    m.ssh w line s = ⟨[⟨m.sshCall line, .missing⟩], .error m.notInstalled, s'⟩ := by
  rw [ssh, w.run_bind_apply, ran]
  rfl

theorem ssh_of_interrupted (ran : w.start (m.sshCall line) s = (.interrupted, s')) :
    m.ssh w line s = ⟨[⟨m.sshCall line, .interrupted⟩], .error (.interrupted ""), s'⟩ := by
  rw [ssh, w.run_bind_apply, ran]
  rfl

theorem ssh_of_exited {status : Int} {output : String}
    (ran : w.start (m.sshCall line) s = (.exited status output, s')) (other : status ≠ 255) :
    m.ssh w line s = ⟨[⟨m.sshCall line, .exited status output⟩], .ok status, s'⟩ := by
  rw [ssh, w.run_bind_apply, ran]
  simp [other]

theorem ssh_of_doubted {output : String}
    (ran : w.start (m.sshCall line) s = (.exited 255 output, s')) :
    let again := w.start m.statusCall s'
    m.ssh w line s =
      ⟨[⟨m.sshCall line, .exited 255 output⟩, ⟨m.statusCall, again.1⟩], m.recalled again.1,
        again.2⟩ := by
  rw [ssh, w.run_bind_apply, ran]
  have hquestion := m.isRunning_apply w s'
  cases answer : saysRunning (w.start m.statusCall s').1 with
  | error f =>
    simp only [if_true]
    rw [bind_of_error (by rw [hquestion]; exact answer), hquestion]
    simp [recalled, answer]
  | ok running =>
    simp only [if_true]
    rw [bind_of_ok (by rw [hquestion]; exact answer), hquestion]
    cases running <;> simp [recalled, answer]

variable (w m line s)

theorem dialogue_ssh {first : Reply} (runs : Runs first) :
    let ran := w.start (m.sshCall line) s
    let again := w.start m.statusCall ran.2
    Dialogue m line first ran.1 again.1 (⟨m.statusCall, first⟩ :: (m.ssh w line s).trace)
      (m.ssh w line s).answer := by
  rcases ran : w.start (m.sshCall line) s with ⟨reply, s'⟩
  cases reply with
  | missing =>
    rw [ssh_of_missing ran]
    exact .absent runs rfl
  | interrupted =>
    rw [ssh_of_interrupted ran]
    exact .interrupted runs rfl
  | exited status output =>
    by_cases doubted : status = 255
    · subst doubted
      rw [ssh_of_doubted ran, recalled]
      dsimp only
      generalize w.start m.statusCall s' = again
      rcases reply_cases again.1 with interrupt | stillRuns | denies
      · rw [interrupt]
        exact .broken runs rfl rfl
      · rw [runs_iff.1 stillRuns]
        exact .held runs rfl stillRuns
      · rw [denies_iff.1 denies]
        exact .lost runs rfl denies
    · rw [ssh_of_exited ran doubted]
      exact .returned runs rfl doubted

end Apply

end Machine

section Instructions

variable (c : Console) (t : Target σ) (x : String) (p : Privilege) (d : Option String) {s : σ}

theorem runInstruction_of_withheld {f : Fault} (question : (t.checkAvailable s).answer = .error f) :
    let r := runInstruction c t x p d s
    exchanges r.trace = (t.available s).trace ∧ r.answer = .error f := by
  unfold runInstruction
  rw [bind_of_error question]
  exact ⟨t.exchanges_checkAvailable s, rfl⟩

theorem runInstruction_of_available (question : (t.checkAvailable s).answer = .ok ()) :
    let r := runInstruction c t x p d s
    let q := t.perform (t.wrap x p d) (t.available s).after
    exchanges r.trace = (t.available s).trace ++ q.trace ∧ r.answer = q.answer := by
  have hafter : (t.checkAvailable s).after = (t.available s).after := by
    rw [t.checkAvailable_apply]
  unfold runInstruction
  rw [bind_of_ok question, record_bind_apply, hafter]
  refine ⟨?_, by rw [t.run_apply]⟩
  rw [exchanges_append, t.exchanges_checkAvailable, exchanges_append,
    (c.written_debugLine _).exchanges_eq, List.nil_append, Target.run, t.exchanges_handOver]

end Instructions

namespace Machine

theorem answer_question (w : World σ) (m : Machine) (s : σ) :
    ((m.target w).checkAvailable s).answer =
      Target.demanded m.targetName (saysRunning (w.start m.statusCall s).1) := by
  have hquestion : (m.target w).available = m.isRunning w := rfl
  rw [Target.checkAvailable_apply, hquestion, isRunning_apply]
  rfl

theorem dialogue_runInstruction (w : World σ) (m : Machine) (c : Console) (x : String)
    (p : Privilege) (d : Option String) (s : σ) :
    let line := (m.target w).wrap x p d
    let first := w.start m.statusCall s
    let ran := w.start (m.sshCall line) first.2
    let again := w.start m.statusCall ran.2
    let r := runInstruction c (m.target w) x p d s
    Dialogue m line first.1 ran.1 again.1 (exchanges r.trace) r.answer := by
  intro line first ran again r
  have asked : (m.target w).available s =
      ⟨[⟨m.statusCall, first.1⟩], saysRunning first.1, first.2⟩ := m.isRunning_apply w s
  have hanswer := answer_question w m s
  rcases reply_cases first.1 with interrupt | runs | denies
  · obtain ⟨htrace, hans⟩ := runInstruction_of_withheld c (m.target w) x p d
      (hanswer.trans (congrArg (Target.demanded _ ∘ saysRunning) interrupt))
    rw [htrace, hans, asked]
    exact .unanswered interrupt
  · have available : ((m.target w).checkAvailable s).answer = .ok () :=
      hanswer.trans (congrArg (Target.demanded _) (runs_iff.1 runs))
    obtain ⟨htrace, hans⟩ := runInstruction_of_available c (m.target w) x p d available
    rw [htrace, hans, asked]
    exact dialogue_ssh w m line first.2 runs
  · obtain ⟨htrace, hans⟩ := runInstruction_of_withheld c (m.target w) x p d
      (hanswer.trans (congrArg (Target.demanded _) (denies_iff.1 denies)))
    rw [htrace, hans, asked]
    exact .denied denies

@[simp] theorem not_runs_interrupted : ¬ Runs .interrupted := by simp [Runs]

@[simp] theorem not_denies_interrupted : ¬ Denies .interrupted := by simp [Denies]

theorem Runs.not_denies {reply : Reply} (runs : Runs reply) : ¬ Denies reply :=
  fun denies => denies.2 runs

namespace Dialogue

variable {m : Machine} {line : String} {first ran again : Reply} {calls : List Exchange}
  {answer : Except Fault Int} (h : Dialogue m line first ran again calls answer)

include h

theorem calls_prefix : calls ≠ [] ∧
    calls <+: [⟨m.statusCall, first⟩, ⟨m.sshCall line, ran⟩, ⟨m.statusCall, again⟩] := by
  cases h <;> simp

theorem connected_iff : 2 ≤ calls.length ↔ Runs first := by
  cases h with
  | unanswered interrupt => simp [interrupt]
  | denied denies => simp [denies.2]
  | absent runs | interrupted runs | returned runs | held runs | lost runs | broken runs =>
    simp [runs]

theorem doubted_iff :
    3 ≤ calls.length ↔ Runs first ∧ ∃ output, ran = .exited 255 output := by
  cases h with
  | unanswered interrupt => simp [interrupt]
  | denied denies => simp [denies.2]
  | absent _ reply | interrupted _ reply => simp [reply]
  | returned _ reply other => simp [reply, other]
  | held runs reply | lost runs reply | broken runs reply => simp [runs, reply]

theorem unavailable_iff :
    (∃ target reason, answer = .error (.unavailable target reason)) ↔
      Denies first ∨ Runs first ∧
        (ran = .missing ∨ (∃ output, ran = .exited 255 output) ∧ Denies again) := by
  cases h with
  | unanswered interrupt => simp [interrupt]
  | denied denies => simp [denies]
  | absent runs reply => simp [runs, reply, notInstalled]
  | interrupted runs reply => simp [runs.not_denies, reply]
  | returned runs reply other => simp [runs.not_denies, reply, other]
  | held runs reply stillRuns => simp [runs.not_denies, reply, stillRuns.not_denies]
  | lost runs reply denies => simp [runs, reply, denies, Machine.lost]
  | broken runs reply interrupt => simp [runs.not_denies, reply, interrupt]

theorem ok_iff (status : Int) :
    answer = .ok status ↔
      Runs first ∧ (∃ output, ran = .exited status output) ∧ (status = 255 → Runs again) := by
  cases h with
  | unanswered interrupt => simp [interrupt]
  | denied denies => simp [denies.2]
  | absent _ reply | interrupted _ reply => simp [reply]
  | returned runs reply other =>
    simp only [runs, reply, Except.ok.injEq, Reply.exited.injEq, exists_and_left, exists_eq',
      and_true, true_and]
    constructor
    · rintro rfl
      exact ⟨rfl, fun doubted => absurd doubted other⟩
    · exact And.left
  | held runs reply stillRuns => simp [runs, reply, stillRuns, eq_comm]
  | lost _ reply denies =>
    simp only [reply, reduceCtorEq, false_iff]
    rintro ⟨-, ⟨output, exited⟩, stillRuns⟩
    obtain ⟨rfl, -⟩ := Reply.exited.inj exited
    exact denies.2 (stillRuns rfl)
  | broken _ reply interrupt =>
    simp only [reply, interrupt, reduceCtorEq, false_iff]
    rintro ⟨-, ⟨output, exited⟩, stillRuns⟩
    obtain ⟨rfl, -⟩ := Reply.exited.inj exited
    exact not_runs_interrupted (stillRuns rfl)

theorem interrupted_iff :
    answer = .error (.interrupted "") ↔ ∃ e ∈ calls, e.reply = .interrupted := by
  have ne_of_runs {reply : Reply} (runs : Runs reply) : reply ≠ .interrupted := by
    rintro rfl
    exact not_runs_interrupted runs
  cases h with
  | unanswered interrupt => simp [interrupt]
  | denied denies => simp [denies.1]
  | absent runs reply => simp [ne_of_runs runs, reply, notInstalled]
  | interrupted runs reply => simp [reply]
  | returned runs reply other => simp [ne_of_runs runs, reply]
  | held runs reply stillRuns => simp [ne_of_runs runs, reply, ne_of_runs stillRuns]
  | lost runs reply denies => simp [ne_of_runs runs, reply, denies.1, Machine.lost]
  | broken runs reply interrupt => simp [interrupt]

theorem answer_cases :
    (∃ status, answer = .ok status) ∨
      (∃ target reason, answer = .error (.unavailable target reason)) ∨
        answer = .error (.interrupted "") := by
  cases h with
  | returned | held => exact .inl ⟨_, rfl⟩
  | denied | absent | lost => exact .inr (.inl ⟨_, _, rfl⟩)
  | unanswered | interrupted | broken => exact .inr (.inr rfl)

end Dialogue

/-- Every line that exited with 255 is followed directly by the question for the state and by the
answer that the reply to it decides. -/
def Rechecked (m : Machine) (trace : List Event) : Prop :=
  ∀ before line output after,
    trace = before ++ .exchanged ⟨m.sshCall line, .exited 255 output⟩ :: after →
    ∃ reply behind, after =
      .exchanged ⟨m.statusCall, reply⟩ :: .ran line (m.recalled reply) :: behind

section Rechecked

variable {m : Machine}

theorem rechecked_of_none {trace : List Event}
    (none : ∀ line output, .exchanged ⟨m.sshCall line, .exited 255 output⟩ ∉ trace) :
    m.Rechecked trace := by
  intro before line output after h
  have hmem : .exchanged ⟨m.sshCall line, .exited 255 output⟩ ∈ trace := by simp [h]
  exact absurd hmem (none line output)

theorem Rechecked.append {a b : List Event} (ha : m.Rechecked a) (hb : m.Rechecked b) :
    m.Rechecked (a ++ b) := by
  intro before line output after h
  rcases split_append h with ⟨mid, hmid, rfl⟩ | ⟨mid, -, hmid⟩
  · obtain ⟨reply, behind, rfl⟩ := ha before line output mid hmid
    exact ⟨reply, behind ++ b, rfl⟩
  · exact hb mid line output after hmid

theorem Rechecked.lawful : Lawful m.Rechecked where
  written h := rechecked_of_none fun _ _ hmem => Bool.false_ne_true (h _ hmem)
  append := Rechecked.append

theorem statusCall_ne_sshCall (line : String) : m.statusCall ≠ m.sshCall line := by
  simp [statusCall, sshCall, call]

theorem rechecked_question (w : World σ) (s : σ) :
    m.Rechecked ((m.target w).checkAvailable s).trace := by
  have hquestion : (m.target w).available = m.isRunning w := rfl
  apply rechecked_of_none
  intro line output
  rw [Target.trace_checkAvailable, hquestion, isRunning_apply]
  simp [(statusCall_ne_sshCall line).symm]

theorem rechecked_doubted (line output : String) (reply : Reply) :
    m.Rechecked [.exchanged ⟨m.sshCall line, .exited 255 output⟩,
      .exchanged ⟨m.statusCall, reply⟩, .ran line (m.recalled reply)] := by
  intro before line' output' after h
  cases before with
  | nil =>
    obtain ⟨hfirst, rfl⟩ := List.cons.inj h
    have hsame : line = line' ∧ output = output' := by simpa [sshCall, call] using hfirst
    exact ⟨reply, [], by rw [hsame.1]⟩
  | cons e before =>
    have hmem : Event.exchanged ⟨m.sshCall line', .exited 255 output'⟩ ∈
        [Event.exchanged ⟨m.statusCall, reply⟩, .ran line (m.recalled reply)] := by
      simp [(List.cons.inj h).2]
    simp [(statusCall_ne_sshCall line').symm] at hmem

theorem rechecked_handOver (w : World σ) (line : String) (s : σ) :
    m.Rechecked ((m.target w).handOver line s).trace := by
  have hperform : (m.target w).perform = m.ssh w := rfl
  rw [Target.trace_handOver, hperform]
  rcases ran : w.start (m.sshCall line) s with ⟨reply, s'⟩
  cases reply with
  | missing =>
    rw [ssh_of_missing ran]
    exact rechecked_of_none (by simp)
  | interrupted =>
    rw [ssh_of_interrupted ran]
    exact rechecked_of_none (by simp)
  | exited status output =>
    by_cases doubted : status = 255
    · subst doubted
      rw [ssh_of_doubted ran]
      exact rechecked_doubted line output _
    · rw [ssh_of_exited ran doubted]
      exact rechecked_of_none (by simp [Ne.symm doubted])

theorem obeys_rechecked (w : World σ) (m : Machine) : (m.target w).Obeys m.Rechecked where
  toLawful := Rechecked.lawful
  asked := rechecked_question w
  answered _ _ written line s' := (rechecked_question w _).append
    ((Rechecked.lawful.written written).append (rechecked_handOver w line s'))

end Rechecked

theorem Rechecked.ran_of_runs {m : Machine} {before behind : List Event} {line output : String}
    {reply : Reply}
    (h : m.Rechecked (before ++ .exchanged ⟨m.sshCall line, .exited 255 output⟩ ::
      .exchanged ⟨m.statusCall, reply⟩ :: behind))
    (stillRuns : Runs reply) : ∃ rest, behind = .ran line (.ok 255) :: rest := by
  obtain ⟨reply', rest, hbehind⟩ := h before line output _ rfl
  obtain ⟨hreply, rfl⟩ := List.cons.inj hbehind
  obtain rfl : reply = reply' := by simpa using hreply
  exact ⟨rest, by rw [recalled, runs_iff.1 stillRuns]⟩

end Machine

def Step.Questions (settings : Settings) (t : Target σ) (s : Step) (line : String) : Prop :=
  ∃ i probe, s.Installs settings i ∧ i.probe = .ok probe ∧ line = s.line t probe

theorem FailurePoint.At.status_of_last {settings : Settings} {t : Target σ} {s : Step}
    {done : List Answered} {line : String} {status : Int} {point : FailurePoint}
    (h : point.At settings t s (done ++ [(line, .ok status)])) :
    (point.cause s.name).status? = some status ∨
      s.Questions settings t line ∧ ∃ url tool, point = .confirmation url tool := by
  have last (ran : List Answered) {line' : String} {status' : Int}
      (same : done ++ [(line, .ok status)] = ran ++ [(line', .ok status')]) :
      line = line' ∧ status = status' := by
    obtain ⟨-, hlast⟩ := List.append_inj' same rfl
    obtain ⟨hline, hstatus⟩ := Prod.mk.inj (List.singleton_inj.1 hlast)
    exact ⟨hline, Except.ok.inj hstatus⟩
  cases point with
  | instruction command status' =>
    obtain ⟨-, -, before, after, -, hran⟩ := h
    obtain ⟨-, rfl⟩ := last _ hran
    exact .inl rfl
  | substep name command status' =>
    obtain ⟨-, stage, -, before, substep, after, pairs, -, -, -, hran⟩ := h
    obtain ⟨-, rfl⟩ := last _ hran
    exact .inl rfl
  | fetch url status' =>
    obtain ⟨-, i, probe, fetch, run, probed, -, -, -, hran⟩ := h
    obtain ⟨-, rfl⟩ := last [_] hran
    exact .inl rfl
  | script url status' =>
    obtain ⟨-, i, probe, fetch, run, probed, -, -, -, hran⟩ := h
    obtain ⟨-, rfl⟩ := last [_, _] hran
    exact .inl rfl
  | confirmation url tool =>
    obtain ⟨status', -, i, probe, fetch, run, probed, hi, commands, -, -, hran⟩ := h
    obtain ⟨hline, -⟩ := last [_, _, _] hran
    exact .inr ⟨⟨i, probe, hi, commands.probe, hline⟩, url, tool, rfl⟩

theorem FailurePoint.isProvisioning_cause (point : FailurePoint) (step : String) :
    (point.cause step).isProvisioning = true := by
  cases point <;> rfl

namespace Pipeline

section Held

variable {settings : Settings} {c : Console} {w : World σ} {m : Machine} {p : Pipeline}
  {entries : List Entry} {s : σ} {v : Visit σ} {before behind : List Event} {line output : String}
  {reply : Reply}

theorem failure_suffix {t : Target σ} {done : List (Visit σ)} {cause : Fault}
    (fresh : p.state = .notStarted) (hvisited : visited settings c t p.steps s = done ++ [v])
    (answer : v.report.answer = .error cause) (provisioning : cause.isProvisioning = true) :
    c.failure v.step.name cause.message cause.status? none <:+
      (p.execute settings c t s).trace := by
  obtain ⟨q, ended, -, ending⟩ := execute_ending settings c t p s
  have hclosing : v.closing c = c.failure v.step.name cause.message cause.status? none := by
    simp only [Visit.closing, answer, provisioning, if_true]
  rw [ending.trace_eq fresh, hvisited, List.flatMap_append, List.flatMap_singleton, Visit.trace,
    hclosing, ← List.append_assoc, ← List.append_assoc]
  exact List.suffix_append _ _

/-- A line that exited with 255 in a machine that was then found running is what its step failed
at, unless it asked for a tool ahead of all else. -/
theorem held_at (made : make entries = .ok p)
    (hv : v ∈ visited settings c (m.target w) p.steps s)
    (trace : v.report.trace = before ++ .exchanged ⟨m.sshCall line, .exited 255 output⟩ ::
      .exchanged ⟨m.statusCall, reply⟩ :: behind)
    (stillRuns : Machine.Runs reply) :
    (lines before = [] ∧ v.step.Questions settings (m.target w) line) ∨
      ∃ done, ∃ point : FailurePoint,
        point.At settings (m.target w) v.step (done ++ [(line, .ok 255)]) ∧
        v.report.answer = .error (point.cause v.step.name) := by
  obtain ⟨s', hs'⟩ := report_of_mem_visited hv
  have rechecked : m.Rechecked v.report.trace := by
    rw [hs']
    exact v.step.perform_composed ((Machine.obeys_rechecked w m).composed c) settings s'
  rw [trace] at rechecked
  obtain ⟨rest, rfl⟩ := rechecked.ran_of_runs stillRuns
  have course := course_of_visited hv
  have hanswered : answered v.report.trace =
      answered before ++ (line, .ok 255) :: answered rest := by
    rw [trace, answered_append]
    rfl
  have known : StepKind.ofWord? v.step.kind ≠ none :=
    known_of_checkStep ((distinct_of_make made).1 _
      (List.IsPrefix.subset steps_visited_prefix (List.mem_map_of_mem hv)))
  rcases at_of_failed_status known course hanswered (by decide) with ⟨hlast, point, hpoint⟩ | asked
  · have hended := hpoint.ended_eq course
    rw [hanswered, hlast] at hpoint
    exact .inr ⟨_, point, hpoint, hended⟩
  · obtain ⟨i, probe, probed, hi, hprobe, hran⟩ := asked
    obtain ⟨hnone, hline⟩ := List.append_inj' (hran.trans (List.nil_append _).symm) rfl
    obtain ⟨rfl, -⟩ := Prod.mk.inj (List.singleton_inj.1 hline)
    refine .inl ⟨?_, i, probe, hi, hprobe, rfl⟩
    rw [← map_fst_answered, hnone]
    rfl

end Held

end Pipeline

/-- An instruction on a machine takes one to three calls: a question for its state; the line, if
that found it running; and the question once more, exactly if the line exited with 255. The machine
is unavailable if and only if one of the questions did not find it running or the line could not be
put; otherwise, but for an interrupt, the status is that of the line. In an execution a line that
exits with 255 in a machine that is still running is what its step fails at, with that status; only
a question for a tool has no part in it. -/
theorem lost_iff_not_running :
    (∀ (σ : Type) (w : World σ) (m : Machine) (c : Console) (x : String) (p : Privilege)
      (d : Option String) (s : σ),
      let line := (m.target w).wrap x p d
      let first := w.start m.statusCall s
      let ran := w.start (m.sshCall line) first.2
      let again := w.start m.statusCall ran.2
      let r := runInstruction c (m.target w) x p d s
      let calls := exchanges r.trace
      (calls ≠ [] ∧ calls <+:
        [⟨m.statusCall, first.1⟩, ⟨m.sshCall line, ran.1⟩, ⟨m.statusCall, again.1⟩]) ∧
      (2 ≤ calls.length ↔ Machine.Runs first.1) ∧
      (3 ≤ calls.length ↔ Machine.Runs first.1 ∧ ∃ output, ran.1 = .exited 255 output) ∧
      ((∃ target reason, r.answer = .error (.unavailable target reason)) ↔
        Machine.Denies first.1 ∨ Machine.Runs first.1 ∧
          (ran.1 = .missing ∨ (∃ output, ran.1 = .exited 255 output) ∧ Machine.Denies again.1)) ∧
      (∀ status, r.answer = .ok status ↔ Machine.Runs first.1 ∧
        (∃ output, ran.1 = .exited status output) ∧ (status = 255 → Machine.Runs again.1)) ∧
      (r.answer = .error (.interrupted "") ↔ ∃ e ∈ calls, e.reply = .interrupted) ∧
      ((∃ status, r.answer = .ok status) ∨
        (∃ target reason, r.answer = .error (.unavailable target reason)) ∨
          r.answer = .error (.interrupted ""))) ∧
    ∀ (σ : Type) (settings : Settings) (c : Console) (w : World σ) (m : Machine) (s : σ)
      (entries : List Pipeline.Entry) (p : Pipeline), Pipeline.make entries = .ok p →
      let t := m.target w
      let visited := Pipeline.visited settings c t p.steps s
      ∀ v ∈ visited, ∀ before line output reply behind,
        v.report.trace = before ++ .exchanged ⟨m.sshCall line, .exited 255 output⟩ ::
          .exchanged ⟨m.statusCall, reply⟩ :: behind →
        Machine.Runs reply →
        (lines before = [] ∧ v.step.Questions settings t line) ∨
        ∃ q done cause, (p.execute settings c t s).answer =
            .ok (q, .ok (Pipeline.failedOutcome p.steps ⟨done.length, v.step, cause⟩)) ∧
          visited = done ++ [v] ∧ (∀ target reason, cause ≠ .unavailable target reason) ∧
          (cause.status? = some 255 ∨ v.step.Questions settings t line ∧
            ∃ url tool, cause = .scriptFailed url 0 (tool ++ " not found after install")) ∧
          c.failure v.step.name cause.message cause.status? none <:+
            (p.execute settings c t s).trace := by
  constructor
  · intro σ w m c x p d s line first ran again r calls
    have dialogue := Machine.dialogue_runInstruction w m c x p d s
    exact ⟨dialogue.calls_prefix, dialogue.connected_iff, dialogue.doubted_iff,
      dialogue.unavailable_iff, dialogue.ok_iff, dialogue.interrupted_iff, dialogue.answer_cases⟩
  · intro σ settings c w m s entries p made t visited v hv before line output reply behind trace
      stillRuns
    rcases Pipeline.held_at made hv trace stillRuns with asked | failed
    · exact .inl asked
    obtain ⟨ran, point, hpoint, answer⟩ := failed
    have fresh := Pipeline.fresh_of_make made
    have provisioning := point.isProvisioning_cause v.step.name
    obtain ⟨q, done, ended, hvisited⟩ := Pipeline.failed_of_visited fresh hv answer provisioning
    refine .inr ⟨q, done, point.cause v.step.name, ended, hvisited, ?_, ?_,
      Pipeline.failure_suffix fresh hvisited answer provisioning⟩
    · exact fun target reason => FailurePoint.cause_ne_unavailable _ target reason
    · rcases hpoint.status_of_last with status | ⟨questions, url, tool, rfl⟩
      · exact .inl status
      · exact .inr ⟨questions, url, tool, rfl⟩

section Held

open CommandLine

def runningReply : Reply := .exited 0 "1700000000,default,state,running\n"

def heldReplies : List Reply := [runningReply, runningReply, .exited 255 "", runningReply]

theorem runs_runningReply : Machine.Runs runningReply :=
  ⟨_, rfl, Machine.stateOf_eq_some_iff.1 rfl⟩

theorem not_lost_held :
    ∃ (p : Pipeline) (v : Visit (List Reply)) (before : List Event) (line : String)
      (behind : List Event),
      Pipeline.make [.step failingStep] = .ok p ∧
      v ∈ Pipeline.visited (.ofEnviron []) {} (loneMachine.target .replies) p.steps heldReplies ∧
      v.report.trace = before ++ .exchanged ⟨loneMachine.sshCall line, .exited 255 ""⟩ ::
        .exchanged ⟨loneMachine.statusCall, runningReply⟩ :: behind ∧
      Machine.Runs runningReply ∧
      ∃ q o cause, (p.execute (.ofEnviron []) {} (loneMachine.target .replies) heldReplies).answer =
          .ok (q, .ok o) ∧
        o.error =
          some (.pipelineFailed (some "check") cause (Pipeline.failureDetails 0 failingStep)) ∧
        cause.status? = some 255 := by
  have made : Pipeline.make [.step failingStep] = .ok { steps := [failingStep] } := rfl
  let v : Visit (List Reply) := ⟨failingStep,
    failingStep.perform (.ofEnviron []) {} (loneMachine.target .replies) heldReplies.tail⟩
  have hvisited : Pipeline.visited (.ofEnviron []) {} (loneMachine.target .replies) [failingStep]
      heldReplies = [v] := rfl
  have hv : v ∈ Pipeline.visited (.ofEnviron []) {} (loneMachine.target .replies) [failingStep]
      heldReplies := by simp [hvisited]
  let line := (loneMachine.target (σ := List Reply) .replies).wrap "false" .unprivileged none
  have trace : v.report.trace =
      [.exchanged ⟨loneMachine.statusCall, runningReply⟩, .asked (.ok true)] ++
        .exchanged ⟨loneMachine.sshCall line, .exited 255 ""⟩ ::
        .exchanged ⟨loneMachine.statusCall, runningReply⟩ :: [.ran line (.ok 255)] := rfl
  have unquestioned : ¬ v.step.Questions (.ofEnviron []) (loneMachine.target .replies) line := by
    rintro ⟨i, probe, ⟨kind, -⟩, -⟩
    cases kind
  refine ⟨_, v, _, _, _, made, hv, trace, runs_runningReply, ?_⟩
  rcases lost_iff_not_running.2 _ (.ofEnviron []) {} .replies loneMachine heldReplies _ _ made v hv
      _ _ _ _ _ trace runs_runningReply with ⟨-, asked⟩ | failed
  · exact absurd asked unquestioned
  · obtain ⟨q, done, cause, ended, hdone, -, status, -⟩ := failed
    obtain rfl : done = [] := by simpa [hvisited] using hdone
    exact ⟨q, _, cause, ended, rfl, status.resolve_right fun h => unquestioned h.1⟩

end Held
end Provisioning
