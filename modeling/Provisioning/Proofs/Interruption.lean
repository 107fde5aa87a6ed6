import Provisioning.Proofs.Bodies
import Provisioning.Target.Machine

/-!
What an interrupt does to a run. A child process that is interrupted is the last that is started,
and the run ends with the interrupt; a run in which none is interrupted does not end so by itself.
This holds of the two kinds of targets, and hence of every body of a step and of every execution of
a pipeline in them.
-/
namespace Provisioning

open Activity

variable {σ α β : Type}

theorem Fault.exception_of_provisioning {f : Fault} (h : f.isProvisioning = true) :
    f.isException = true := by
  cases f with
  | refused | raised | interrupted | exiting => cases h
  | _ => rfl

theorem Fault.not_interrupt_of_exception {f : Fault} (h : f.isException = true) :
    f.isInterrupt = false := by
  cases f with
  | interrupted => cases h
  | _ => rfl

theorem Fault.not_interrupt_of_provisioning {f : Fault} (h : f.isProvisioning = true) :
    ¬ f.isInterrupt = true :=
  Bool.eq_false_iff.1 (not_interrupt_of_exception (exception_of_provisioning h))

def Interrupted (es : List Exchange) : Prop := ∃ e ∈ es, e.reply = .interrupted

def EndsInterrupted : Except Fault α → Prop
  | .ok _ => False
  | .error f => f.isInterrupt = true

/-- What is heard of the child processes agrees with the end: no other one was started after an
interrupted one, and the end is an interrupt exactly if one was interrupted. -/
structure Heeded (es : List Exchange) (ended : Except Fault α) : Prop where
  last : es.Pairwise fun earlier _ => earlier.reply ≠ .interrupted
  iff : Interrupted es ↔ EndsInterrupted ended

section Heeded

variable {es es' : List Exchange} {ended : Except Fault α} {ended' : Except Fault β}

theorem not_interrupted_nil : ¬ Interrupted [] := fun h => nomatch h.choose_spec.1

theorem interrupted_append : Interrupted (es ++ es') ↔ Interrupted es ∨ Interrupted es' := by
  simp only [Interrupted, List.mem_append, or_and_right, exists_or]

theorem Heeded.nil (h : ¬ EndsInterrupted ended) : Heeded [] ended where
  last := .nil
  iff := iff_of_false not_interrupted_nil h

theorem Heeded.not_interrupted (h : Heeded es ended) (he : ¬ EndsInterrupted ended) :
    ¬ Interrupted es := fun hi => he (h.iff.1 hi)

theorem Heeded.of_iff (h : Heeded es ended) (he : EndsInterrupted ended ↔ EndsInterrupted ended') :
    Heeded es ended' where
  last := h.last
  iff := h.iff.trans he

theorem Heeded.append (h : Heeded es ended) (he : ¬ EndsInterrupted ended)
    (h' : Heeded es' ended') : Heeded (es ++ es') ended' where
  last := by
    refine List.pairwise_append.2 ⟨h.last, h'.last, fun e hmem _ _ hreply => ?_⟩
    exact h.not_interrupted he ⟨e, hmem, hreply⟩
  iff := by
    rw [interrupted_append, h'.iff]
    exact or_iff_right (h.not_interrupted he)

end Heeded

namespace World

variable {w : World σ}

theorem heeded_bind {x : Inquiry σ α} {f : α → Inquiry σ β} (hx : x.Leaves Heeded)
    (hf : ∀ a, (f a).Leaves Heeded) : (x >>= f).Leaves Heeded :=
  Leaves.bind hx hf (fun _ _ h => h.of_iff .rfl) fun _ _ _ _ h h' => h.append id h'

theorem heeded_pure (a : α) : (pure a : Inquiry σ α).Leaves Heeded := fun _ => .nil id

theorem heeded_fail {f : Fault} (h : f.isInterrupt = false) :
    (fail f : Inquiry σ α).Leaves Heeded :=
  fun _ => .nil (by simp [EndsInterrupted, h])

theorem heeded_run {call : Call} {f : Reply → Inquiry σ α} {message : String}
    (interrupted : f .interrupted = fail (.interrupted message))
    (missing : (f .missing).Leaves Heeded)
    (exited : ∀ status output, (f (.exited status output)).Leaves Heeded) :
    (w.run call >>= f).Leaves Heeded := by
  intro s
  have quiet {reply : Reply} (h : reply ≠ .interrupted) :
      Heeded [⟨call, reply⟩] (.ok () : Except Fault Unit) :=
    ⟨List.pairwise_singleton _ _, iff_of_false (by simpa [Interrupted] using h) id⟩
  change Heeded ([⟨call, (w.start call s).1⟩] ++ (f (w.start call s).1 (w.start call s).2).trace)
    (f (w.start call s).1 (w.start call s).2).answer
  cases hreply : (w.start call s).1 with
  | interrupted =>
    rw [interrupted]
    exact ⟨List.pairwise_singleton _ _, iff_of_true (by simp [Interrupted]) rfl⟩
  | missing => exact (quiet (by simp)).append id (missing _)
  | exited status output => exact (quiet (by simp)).append id (exited status output _)

end World

namespace Machine

open World

variable (w : World σ) (m : Machine)

theorem heeded_state : (m.state w).Leaves Heeded :=
  heeded_run rfl (heeded_pure none) fun _ _ => heeded_pure _

theorem heeded_isRunning : (m.isRunning w).Leaves Heeded :=
  heeded_bind (m.heeded_state w) fun _ => heeded_pure _

theorem heeded_boot (environ : Environ) (box : Option String) :
    (m.boot w environ box).Leaves Heeded := by
  refine heeded_run rfl (heeded_fail rfl) fun status output => ?_
  change (if status = 0 then pure () else fail (m.bootFailed status) : Inquiry σ Unit).Leaves Heeded
  split
  · exact heeded_pure ()
  · exact heeded_fail rfl

theorem heeded_ssh (line : String) : (m.ssh w line).Leaves Heeded := by
  refine heeded_run rfl (heeded_fail rfl) fun status output => ?_
  change (if status = 255 then
      m.isRunning w >>= fun running => if running then pure status else fail m.lost
    else pure status : Inquiry σ Int).Leaves Heeded
  split
  · refine heeded_bind (m.heeded_isRunning w) fun running => ?_
    split
    · exact heeded_pure status
    · exact heeded_fail rfl
  · exact heeded_pure status

end Machine

namespace Target

structure HeedsInterrupts (t : Target σ) : Prop where
  question : t.available.Leaves Heeded
  line (text : String) : (t.perform text).Leaves Heeded

theorem heedsInterrupts_machine (w : World σ) (m : Machine) : (m.target w).HeedsInterrupts where
  question := m.heeded_isRunning w
  line := m.heeded_ssh w

theorem heedsInterrupts_host (w : World σ) (environ own : Environ) (superuser : Option Bool)
    (workdir : Option String) : (host w environ own superuser workdir).HeedsInterrupts where
  question := by
    cases workdir with
    | none => exact World.heeded_fail rfl
    | some d =>
      intro s
      change Heeded ([] ++ (require (w.isDirectory s d) s : Report Exchange σ Bool).trace)
        (require (w.isDirectory s d) s : Report Exchange σ Bool).answer
      cases w.isDirectory s d with
      | ok answer => exact .nil id
      | error cause => exact .nil (by simp [require, EndsInterrupted, Fault.isInterrupt])
  line text := World.heeded_run rfl (World.heeded_fail rfl) fun status _ => World.heeded_pure status

end Target

def Heeds (x : Activity Event σ α) : Prop := x.Leaves fun tr ended => Heeded (exchanges tr) ended

theorem heeds_rename {x : Inquiry σ α} (hx : x.Leaves Heeded) :
    Heeds (x.rename Event.exchanged) := by
  intro s
  change Heeded (exchanges ((x s).trace.map Event.exchanged)) (x s).answer
  rw [exchanges_exchanged]
  exact hx s

theorem Heeds.bind {x : Activity Event σ α} {f : α → Activity Event σ β} (hx : Heeds x)
    (hf : ∀ a, Heeds (f a)) : Heeds (x >>= f) := by
  refine Leaves.bind hx hf (fun _ _ h => h.of_iff .rfl) fun _ _ _ _ h h' => ?_
  rw [exchanges_append]
  exact h.append id h'

theorem heeds_pure (a : α) : Heeds (pure a : Activity Event σ α) := fun _ => .nil id

theorem heeds_fail {f : Fault} (h : f.isInterrupt = false) : Heeds (fail f : Activity Event σ α) :=
  fun _ => .nil (by simp [EndsInterrupted, h])

theorem heeds_record {entries : List Event} (h : exchanges entries = []) :
    Heeds (record entries : Activity Event σ Unit) := by
  intro s
  change Heeded (exchanges entries) (.ok () : Except Fault Unit)
  rw [h]
  exact .nil id

theorem Heeds.attempt_bind {x : Activity Event σ α} {f : Except Fault α → Activity Event σ β}
    (hx : Heeds x) (quiet : ∀ ended s, exchanges (f ended s).trace = [])
    (kept : ∀ ended s, EndsInterrupted ended ↔ EndsInterrupted (f ended s).answer) :
    Heeds (x.attempt >>= f) := by
  intro s
  rw [attempt_bind_apply, exchanges_append, quiet, List.append_nil]
  exact (hx s).of_iff (kept _ _)

theorem heeds_noted {x : Activity Event σ α} (hx : Heeds x) {note : Except Fault α → List Event}
    (quiet : ∀ ended, exchanges (note ended) = []) :
    Heeds (do
      let ended ← x.attempt
      record (note ended)
      conclude ended : Activity Event σ α) := by
  refine hx.attempt_bind (fun ended s => ?_) fun ended s => ?_
  · rw [record_bind_apply, exchanges_append, quiet]
    cases ended <;> rfl
  · cases ended <;> rfl

namespace Target

variable {t : Target σ}

theorem HeedsInterrupts.isAvailable (ht : t.HeedsInterrupts) : Heeds t.isAvailable :=
  heeds_noted (heeds_rename ht.question) fun answer => exchanges_asked answer

theorem HeedsInterrupts.checkAvailable (ht : t.HeedsInterrupts) : Heeds t.checkAvailable := by
  refine ht.isAvailable.bind fun available => ?_
  split
  · exact heeds_pure ()
  · exact heeds_fail rfl

theorem HeedsInterrupts.run (ht : t.HeedsInterrupts) (x : String) (p : Privilege)
    (cwd : Option String) : Heeds (t.run x p cwd) :=
  heeds_noted (heeds_rename (ht.line _)) fun answer => exchanges_ran _ answer

theorem HeedsInterrupts.composed (ht : t.HeedsInterrupts) (c : Console) :
    Composed c t fun {α} => Heeds (σ := σ) (α := α) where
  giving a := heeds_pure a
  failing h := heeds_fail (Fault.not_interrupt_of_exception h)
  writing h := heeds_record h.exchanges_eq
  running x p cwd := ht.checkAvailable.bind fun _ =>
    (heeds_record (c.written_debugLine _).exchanges_eq).bind fun _ => ht.run x p cwd
  probing tool envFile p := by
    unfold hasTool
    cases Target.probe tool envFile with
    | error cause => exact heeds_fail rfl
    | ok probe =>
      exact ht.checkAvailable.bind fun _ => (ht.run probe p _).bind fun _ => heeds_pure _
  following hx hf := hx.bind hf

theorem HeedsInterrupts.perform (ht : t.HeedsInterrupts) (settings : Settings) (c : Console)
    (s : Step) : Heeds (s.perform settings c t) :=
  s.perform_composed (ht.composed c) settings

end Target

section Executions

variable {settings : Settings} {c : Console} {t : Target σ} {w : σ}

theorem Visit.exchanges_trace (c : Console) (v : Visit σ) :
    exchanges (v.trace c) = exchanges v.report.trace := by
  rw [Visit.trace, exchanges_append, exchanges_append, (v.written_closing c).exchanges_eq,
    (Console.written_stepHeader _ _).exchanges_eq, List.append_nil, List.nil_append]

def Visit.ended (vs : List (Visit σ)) : Except Fault Unit :=
  match Visit.stop? vs with
  | none => .ok ()
  | some x => .error x.fault

theorem heeded_visits (ht : t.HeedsInterrupts) (steps : List Step) (w : σ) :
    Heeded (exchanges ((visits settings c t steps w).flatMap (Visit.trace c)))
      (Visit.ended (visits settings c t steps w)) := by
  induction steps generalizing w with
  | nil => exact .nil id
  | cons s rest ih =>
    have hs := ht.perform settings c s w
    cases answer : (s.perform settings c t w).answer with
    | error f =>
      rw [answer] at hs
      rw [visits_of_error answer]
      simp only [List.flatMap_cons, List.flatMap_nil, List.append_nil, Visit.exchanges_trace,
        Visit.ended, Visit.stop?, answer]
      exact hs
    | ok u =>
      rw [answer] at hs
      have hrest := ih (s.perform settings c t w).after
      have hended : Visit.ended (visits settings c t (s :: rest) w) =
          Visit.ended (visits settings c t rest (s.perform settings c t w).after) := by
        rw [visits_of_ok answer]
        simp only [Visit.ended, Visit.stop?, answer]
        cases Visit.stop? (visits settings c t rest (s.perform settings c t w).after) <;> rfl
      rw [hended, visits_of_ok answer, List.flatMap_cons, exchanges_append, Visit.exchanges_trace]
      exact hs.append id hrest

namespace Pipeline

variable {p q : Pipeline} {ended : Except Fault Outcome} {tr : List Event}

/-- An execution heeds interrupts: the result or the fault that escapes is its end. -/
theorem Ending.heeded (ht : t.HeedsInterrupts) (h : Ending settings c t p w q ended tr) :
    Heeded (exchanges tr) ended := by
  have hcheck := ht.checkAvailable w
  have hvisited (question : (t.checkAvailable w).answer = .ok ()) :
      Heeded (exchanges (visitedTrace settings c t p.steps w))
        (Visit.ended (executedVisits settings c t p.steps w)) := by
    rw [question] at hcheck
    rw [visitedTrace, exchanges_append]
    exact hcheck.append id (heeded_visits ht p.steps _)
  cases h with
  | repeated => exact .nil (by simp [EndsInterrupted, Fault.isInterrupt])
  | unavailable _ question =>
    rw [question] at hcheck
    exact hcheck.of_iff (iff_of_false (by simp [EndsInterrupted, Fault.isInterrupt]) id)
  | unanswered _ question =>
    rw [question] at hcheck
    exact hcheck.of_iff .rfl
  | succeeded _ question completed =>
    refine (hvisited question).of_iff (iff_of_false ?_ id)
    simp [Visit.ended, completed, EndsInterrupted]
  | failed _ question stopped provisioning =>
    refine (hvisited question).of_iff (iff_of_false ?_ id)
    simp only [Visit.ended, stopped, EndsInterrupted]
    exact Fault.not_interrupt_of_provisioning provisioning
  | escaped _ question stopped foreign =>
    refine (hvisited question).of_iff ?_
    simp only [Visit.ended, stopped, EndsInterrupted]

end Pipeline
end Executions
end Provisioning
