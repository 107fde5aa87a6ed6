import Provisioning.Proofs.Booting

/-!
Nothing is run in a target that is out of reach. Directly before each line stands a question to the
target that it answered with yes, and on a machine directly before each `vagrant ssh` a
`vagrant status` that found it running.
-/
namespace Provisioning

variable {σ : Type}

/-- Directly before each entry of the one kind stands one of the other. -/
def Preceded {α : Type} (Q P : α → Prop) (xs : List α) : Prop :=
  ∀ pre e post, xs = pre ++ e :: post → Q e → ∃ before e', pre = before ++ [e'] ∧ P e'

section Preceded

variable {α : Type} {Q P : α → Prop} {xs ys : List α}

theorem preceded_of_none (h : ∀ e ∈ xs, ¬ Q e) : Preceded Q P xs := by
  intro pre e post hxs hq
  have hmem : e ∈ xs := by simp [hxs]
  exact absurd hq (h e hmem)

theorem Preceded.append (hx : Preceded Q P xs) (hy : Preceded Q P ys) :
    Preceded Q P (xs ++ ys) := by
  intro pre e post h hq
  rcases split_append h with ⟨mid, hxs, -⟩ | ⟨mid, hpre, hys⟩
  · exact hx pre e mid hxs hq
  · obtain ⟨before, e', hmid, hp⟩ := hy mid e post hys hq
    exact ⟨xs ++ before, e', by rw [hpre, hmid, List.append_assoc], hp⟩

theorem preceded_pair {a b : α} (first : ¬ Q a) (before : P a) (rest : ∀ e ∈ xs, ¬ Q e) :
    Preceded Q P (a :: b :: xs) := by
  intro pre e post h hq
  match pre, h with
  | [], h =>
    obtain ⟨rfl, -⟩ := List.cons.inj h
    exact absurd hq first
  | [x], h =>
    obtain ⟨rfl, -⟩ := List.cons.inj h
    exact ⟨[], a, rfl, before⟩
  | x :: y :: pre, h =>
    have hxs : xs = pre ++ e :: post := (List.cons.inj (List.cons.inj h).2).2
    exact absurd hq (rest e (by simp [hxs]))

end Preceded

def Event.isDealing : Event → Bool
  | .asked _ | .ran .. => true
  | _ => false

def dealings (trace : List Event) : List Event := trace.filter Event.isDealing

@[simp] theorem dealings_append (a b : List Event) : dealings (a ++ b) = dealings a ++ dealings b :=
  List.filter_append ..

@[simp] theorem dealings_exchanged (es : List Exchange) :
    dealings (es.map Event.exchanged) = [] := by
  simp [dealings, Event.isDealing]

theorem Written.dealings_eq {a : List Event} (h : Written a) : dealings a = [] := by
  refine List.filter_eq_nil_iff.2 fun e he => ?_
  have htext := h e he
  cases e with
  | out | err | traceback | exchanged => simp [Event.isDealing]
  | asked | ran => cases htext

def Event.IsRun (e : Event) : Prop := ∃ line answer, e = .ran line answer

def Event.IsYes (e : Event) : Prop := e = .asked (.ok true)

/-- Each line is handed over directly after the target has answered that it is available. -/
def RunsReached (trace : List Event) : Prop :=
  Preceded Event.IsRun Event.IsYes (dealings trace)

theorem RunsReached.lawful : Lawful RunsReached where
  written h := by
    rw [RunsReached, h.dealings_eq]
    exact preceded_of_none (by simp)
  append ha hb := by
    rw [RunsReached, dealings_append]
    exact ha.append hb

theorem Target.obeys_runsReached (t : Target σ) : t.Obeys RunsReached where
  toLawful := RunsReached.lawful
  asked w := by
    rw [RunsReached, t.trace_checkAvailable, dealings_append, dealings_exchanged]
    exact preceded_of_none (by simp [dealings, Event.isDealing, Event.IsRun])
  answered {w} available {text} written line w' := by
    have hyes := t.available_of_checkAvailable available
    rw [RunsReached, t.trace_checkAvailable, t.trace_handOver, hyes]
    simp only [dealings_append, dealings_exchanged, written.dealings_eq, List.nil_append]
    exact preceded_pair (by simp [Event.IsRun]) rfl (by simp)

namespace Machine

def FoundRunning (m : Machine) (e : Exchange) : Prop :=
  e.call = m.statusCall ∧ ∃ output, e.reply = .exited 0 output ∧ ReportsState output "running"

/-- Each `vagrant ssh` is called directly after the machine was found running. -/
def SshReached (m : Machine) (trace : List Event) : Prop :=
  Preceded (fun e => e.call.IsVagrant "ssh") m.FoundRunning (exchanges trace)

theorem SshReached.lawful (m : Machine) : Lawful m.SshReached where
  written h := by
    rw [SshReached, h.exchanges_eq]
    exact preceded_of_none (by simp)
  append ha hb := by
    rw [SshReached, exchanges_append]
    exact ha.append hb

theorem obeys_sshReached (w : World σ) (m : Machine) : (m.target w).Obeys m.SshReached where
  toLawful := SshReached.lawful m
  asked s := by
    have hquiet : ¬ m.statusCall.IsVagrant "ssh" := m.statusCall_not_vagrant (by decide)
    rw [SshReached, exchanges_question]
    exact preceded_of_none (by simpa using hquiet)
  answered {s} available {text} written line s' := by
    have hquiet : ¬ m.statusCall.IsVagrant "ssh" := m.statusCall_not_vagrant (by decide)
    have hyes : (m.isRunning w s).answer = .ok true :=
      (m.target w).available_of_checkAvailable available
    have hrunning : m.FoundRunning ⟨m.statusCall, (w.start m.statusCall s).1⟩ := by
      rw [isRunning_apply] at hyes
      exact ⟨rfl, reports_of_saysRunning hyes⟩
    obtain ⟨reply, behind, hssh, hbehind⟩ := trace_ssh w m s' line
    have hline : exchanges ((m.target w).handOver line s').trace =
        ⟨m.sshCall line, reply⟩ :: behind := by
      rw [Target.exchanges_handOver]
      exact hssh
    rw [SshReached, exchanges_append, exchanges_append, exchanges_question, written.exchanges_eq,
      hline]
    refine preceded_pair hquiet hrunning fun e he => ?_
    rw [hbehind e he]
    exact hquiet

end Machine

/-- In every execution each line is handed over directly after the target has answered that it is
available, and on a machine each `vagrant ssh` is called directly after a `vagrant status` has
reported that it is running. A `run` or an `install-toolchain` calls `vagrant up` at most once and
ahead of all else, and only with `--boot`. -/
theorem reached_before_run :
    (∀ (σ : Type) (settings : Settings) (c : Console) (t : Target σ) (p : Pipeline) (w : σ),
      RunsReached (p.execute settings c t w).trace) ∧
    (∀ (σ : Type) (settings : Settings) (c : Console) (w : World σ) (m : Machine) (p : Pipeline)
      (s : σ), m.SshReached (p.execute settings c (m.target w) s).trace) ∧
    ∀ (σ : Type) (u : CommandLine.Surroundings) (w : World σ) (arguments : List String) (s : σ),
      CommandLine.Calls "run" arguments ∨ CommandLine.Calls "install-toolchain" arguments →
      let es := exchanges (CommandLine.execute u w arguments s).trace
      ∀ e ∈ es, e.call.IsVagrant "up" → CommandLine.AsksToBoot u arguments ∧
        ∃ rest, es = e :: rest ∧ ∀ e' ∈ rest, ¬ e'.call.IsVagrant "up" := by
  refine ⟨fun σ settings c t p w => ?_, fun σ settings c w m p s => ?_, ?_⟩
  · exact t.obeys_runsReached.execute settings c p w
  · exact (m.obeys_sshReached w).execute settings c p s
  · intro σ u w arguments s calls es e he booted
    exact CommandLine.booted_first_of_calls calls he booted

namespace CommandLine

def bootGiven : Given := [("--boot", .on true)]

theorem invokes_boot (s : Settings) :
    Invokes (runCommand s).options "run" ["run", "--boot"] {} bootGiven := by
  have hrun : Argument.classify "run" = .plain "run" := by cbv
  have hoption : Argument.classify "--boot" = .option "--boot" none := by cbv
  refine invokes_of_plain hrun ?_
  simp [readCommand, parse, hoption, findOption, runCommand, targetOptions, pipelineFileOption,
    installerUrlOption, helpOption, Shape.takesValue, Parsed.withSetting, Given.has, badChoice?,
    Given.text?, Given.last?, bootGiven]

theorem reached_failingStep :
    (∃ first second third, exchanges ({ steps := [failingStep] : Pipeline }.execute (.ofEnviron [])
        {} (loneMachine.target .replies) failingReplies).trace = [first, second, third] ∧
      third.call.IsVagrant "ssh" ∧ loneMachine.FoundRunning second) ∧
    ∃ e ∈ exchanges (execute (lone failingFile) .replies ["run", "--boot"] [.exited 1 ""]).trace,
      e.call.IsVagrant "up" ∧ AsksToBoot (lone failingFile) ["run", "--boot"] := by
  obtain ⟨-, reached, booted⟩ := reached_before_run
  constructor
  · refine ⟨_, _, _, rfl, ⟨_, rfl⟩, ?_⟩
    obtain ⟨before, e', hbefore, running⟩ := reached _ (.ofEnviron []) {} .replies loneMachine
      { steps := [failingStep] } failingReplies [_, _] _ [] rfl ⟨_, rfl⟩
    have hsecond := congrArg List.getLast? hbefore
    simp only [List.getLast?_append, List.getLast?_singleton, List.getLast?_cons_cons,
      Option.some_or, Option.some.injEq] at hsecond
    rw [hsecond]
    exact running
  · have invokes := invokes_boot (lone failingFile).settings
    have commences : Commences (σ := List Reply) (lone failingFile) ["run", "--boot"] {} _ :=
      .run invokes ⟨finds_lone failingFile rfl, .inr rfl⟩
    have hmem : (⟨loneMachine.bootCall [] (some "ubuntu/jammy64"), .exited 1 ""⟩ : Exchange) ∈
        exchanges (execute (lone failingFile) .replies ["run", "--boot"] [.exited 1 ""]).trace := by
      rw [exchanges_of_commences commences]
      exact List.mem_singleton.2 rfl
    have booting : (loneMachine.bootCall [] (some "ubuntu/jammy64")).IsVagrant "up" := ⟨_, rfl⟩
    refine ⟨_, hmem, booting, ?_⟩
    exact (booted _ _ _ _ _ (.inl (calls_of_invokes invokes)) _ hmem booting).1

end CommandLine
end Provisioning
