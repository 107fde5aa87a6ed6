import Provisioning.Proofs.ExitCodes
import Provisioning.Proofs.TargetCalls

/-!
When a machine is booted: only where a command prepares its target, and so at most once, ahead of
all else, and only if that was asked for. No question to a target and no line boots anything.
-/
namespace Provisioning

open Activity

variable {σ : Type}

def Unbooted (trace : List Event) : Prop := ∀ e ∈ exchanges trace, ¬ e.call.IsVagrant "up"

theorem Unbooted.lawful : Lawful Unbooted where
  written h := by simp [Unbooted, h.exchanges_eq]
  append ha hb := by
    intro e he
    rw [exchanges_append] at he
    rcases List.mem_append.1 he with he | he
    · exact ha e he
    · exact hb e he

namespace Target

variable {t : Target σ}

theorem obeys_unbooted
    (question : t.available.Leaves fun tr _ => ∀ e ∈ tr, ¬ e.call.IsVagrant "up")
    (lines : ∀ line, (t.perform line).Leaves fun tr _ => ∀ e ∈ tr, ¬ e.call.IsVagrant "up") :
    t.Obeys Unbooted := by
  have asked (w : σ) : Unbooted (t.checkAvailable w).trace := by
    rw [Unbooted, t.exchanges_checkAvailable]
    exact question w
  refine ⟨Unbooted.lawful, asked, fun {w} _ {text} written line w' => ?_⟩
  have handed : Unbooted (t.handOver line w').trace := by
    rw [Unbooted, t.exchanges_handOver]
    exact lines line w'
  exact Unbooted.lawful.append (asked w) (Unbooted.lawful.append (Unbooted.lawful.written written)
    handed)

theorem obeys_unbooted_machine (w : World σ) (m : Machine) : (m.target w).Obeys Unbooted := by
  have hquiet : ¬ m.statusCall.IsVagrant "up" := m.statusCall_not_vagrant (by decide)
  refine obeys_unbooted (fun s => ?_) fun line s => ?_
  · change ∀ e ∈ (m.isRunning w s).trace, _
    rw [Machine.isRunning_apply]
    simpa using hquiet
  · obtain ⟨reply, behind, hssh, hbehind⟩ := Machine.trace_ssh w m s line
    change ∀ e ∈ (m.ssh w line s).trace, _
    rw [hssh]
    intro e he
    rcases List.mem_cons.1 he with rfl | he
    · rintro ⟨rest, hcommand⟩
      simp [Machine.sshCall, Machine.call] at hcommand
    · rw [hbehind e he]
      exact hquiet

theorem obeys_unbooted_host (w : World σ) (environ own : Environ) (superuser : Option Bool)
    (workdir : Option String) : (host w environ own superuser workdir).Obeys Unbooted := by
  refine obeys_unbooted (fun s => ?_) fun line s => ?_
  · cases workdir with
    | none => simp [host]
    | some d =>
      change ∀ e ∈ ([] ++ (require (w.isDirectory s d) s : Report Exchange σ Bool).trace), _
      cases w.isDirectory s d <;> simp [require, give, fail]
  · have hsilent (call : Call) (reply : Reply) (s : σ) : (statusOf call reply s).trace = [] := by
      cases reply <;> rfl
    change ∀ e ∈ (w.run _ >>= statusOf _ : Inquiry σ Int) s |>.trace, _
    rw [w.run_bind_apply]
    simp [hsilent, Call.IsVagrant, shellCall]

end Target

namespace CommandLine

section

variable {u : Surroundings} {w : World σ} {o : TargetChoice} {s : σ}

theorem obeys_unbooted_of_prepared {t : Target σ} (h : (prepareTarget u w o s).answer = .ok t) :
    t.Obeys Unbooted :=
  target_of_prepared (P := fun t => t.Obeys Unbooted) (Target.obeys_unbooted_machine w)
    (Target.obeys_unbooted_host w) h

theorem trace_prepareTarget :
    (prepareTarget u w o s).trace = [] ∨ o.boot = true ∧ ∃ m e, (prepareTarget u w o s).trace =
      Console.info ("Booting " ++ Machine.targetName m ++ " (" ++ o.box ++ ")...") ++
        [.exchanged e] := by
  unfold prepareTarget
  cases hchosen : chooseTarget u w o with
  | error cause => exact .inl rfl
  | ok chosen =>
    rw [require_bind_of_ok rfl]
    cases hmachine : chosen.machine with
    | none => exact .inl rfl
    | some m =>
      by_cases boot : o.boot = true
      · have hsilent := fun (_ : Unit) (s' : σ) =>
          (rfl : ((pure chosen.target : Activity Event σ (Target σ)) s').trace = [])
        simp only [boot, if_true]
        rw [record_bind_apply, trace_bind_of_silent hsilent, rename_apply, Machine.trace_boot]
        exact .inr ⟨trivial, m, _, rfl⟩
      · simp [boot]

theorem exchanges_prepareTarget :
    exchanges (prepareTarget u w o s).trace = [] ∨
      o.boot = true ∧ ∃ e, exchanges (prepareTarget u w o s).trace = [e] := by
  rcases trace_prepareTarget (u := u) (w := w) (o := o) (s := s) with htrace | ⟨boot, m, e, htrace⟩
  · exact .inl (by rw [htrace]; rfl)
  · exact .inr ⟨boot, e, by rw [htrace]; rfl⟩

variable {arguments : List String} {c : Console}

theorem exchanges_body (x : Undertaking σ) :
    ∃ rest, exchanges (x.body u w c s).trace = exchanges (x.preparation u w s).trace ++ rest ∧
      ∀ e ∈ rest, ¬ e.call.IsVagrant "up" := by
  have hcourse := x.course u w c s
  generalize (x.body u w c s).trace = tr, (x.body u w c s).answer = ended at hcourse
  cases hcourse with
  | unprepared | unsupplied => exact ⟨[], by simp, by simp⟩
  | @executed t p q name ended trace reached ending =>
    refine ⟨_, exchanges_append _ _, ?_⟩
    have obeys := obeys_unbooted_of_prepared reached.prepared
    have hannounced := Unbooted.lawful.written (written_announcement t p name x.printPlan)
    have hreported := Unbooted.lawful.written (written_terminalReport ended)
    exact Unbooted.lawful.append (Unbooted.lawful.append hannounced (obeys.ending ending)) hreported

/-- The arguments call one of the two commands, and the last that they say about it is that a
machine is to be booted. -/
def AsksToBoot (u : Surroundings) (arguments : List String) : Prop :=
  ∃ c g, (Invokes (runCommand u.settings).options "run" arguments c g ∨
    Invokes (installCommand u.settings).options "install-toolchain" arguments c g) ∧
    g.on "--boot" false = true

theorem asksToBoot_of_commences {x : Undertaking σ} (commences : Commences u arguments c x)
    (boot : x.choice.boot = true) : AsksToBoot u arguments := by
  cases commences with
  | run invokes => exact ⟨c, _, .inl invokes, boot⟩
  | install invokes => exact ⟨c, _, .inr invokes, boot⟩

/-- A command that boots a machine was asked to, and does so ahead of all else and only once. -/
theorem booted_first_of_calls
    (calls : Calls "run" arguments ∨ Calls "install-toolchain" arguments) {e : Exchange}
    (he : e ∈ exchanges (execute u w arguments s).trace) (booted : e.call.IsVagrant "up") :
    AsksToBoot u arguments ∧ ∃ rest, exchanges (execute u w arguments s).trace = e :: rest ∧
      ∀ e' ∈ rest, ¬ e'.call.IsVagrant "up" := by
  rcases commences_or_idles_of_calls (u := u) calls w s with ⟨c, x, commences⟩ | idles
  · obtain ⟨rest, hrest, unbooted⟩ := exchanges_body (u := u) (w := w) (c := c) (s := s) x
    rw [exchanges_of_commences commences, hrest] at he ⊢
    have hprepared := exchanges_prepareTarget (u := u) (w := w) (o := x.choice) (s := s)
    change exchanges (x.preparation u w s).trace = [] ∨ x.choice.boot = true ∧
      ∃ e, exchanges (x.preparation u w s).trace = [e] at hprepared
    rcases hprepared with hnone | ⟨boot, e', hone⟩
    · rw [hnone, List.nil_append] at he
      exact absurd booted (unbooted e he)
    · rw [hone] at he ⊢
      have hfirst : e = e' := by
        rcases List.mem_cons.1 he with hfirst | hmem
        · exact hfirst
        · exact absurd booted (unbooted e hmem)
      exact ⟨asksToBoot_of_commences commences boot, rest, by simp [hfirst], unbooted⟩
  · simp [idles.written.exchanges_eq] at he

end

end CommandLine

end Provisioning
