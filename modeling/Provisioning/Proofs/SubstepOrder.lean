import Provisioning.Proofs.FailurePoints

/-!
The order in which a build-and-test stage announces its substeps and hands over their commands.
What it leaves follows a grammar: a substep is announced, and its command is handed over before the
next one is taken apart, with nothing printed in between. So the last announcement ahead of a
command is that of its own substep.
-/
namespace Provisioning

open Activity

variable {σ : Type}

def Event.isQuiet : Event → Bool
  | .out _ | .ran .. => false
  | _ => true

def Quiet (trace : List Event) : Prop := ∀ e ∈ trace, e.isQuiet = true

namespace Quiet

variable {a b : List Event}

theorem append (ha : Quiet a) (hb : Quiet b) : Quiet (a ++ b) :=
  List.forall_mem_append.2 ⟨ha, hb⟩

theorem exchanged (es : List Exchange) : Quiet (es.map Event.exchanged) :=
  List.forall_mem_map.2 fun _ _ => rfl

theorem debugLine (c : Console) (message : String) : Quiet (c.debugLine message) := by
  unfold Console.debugLine
  split
  · exact List.forall_mem_singleton.2 rfl
  · exact fun _ he => nomatch he

theorem ran_not_mem (h : Quiet a) (line : String) (answer : Except Fault Int) :
    .ran line answer ∉ a :=
  fun hmem => Bool.false_ne_true (h _ hmem)

theorem lines_eq (h : Quiet a) : lines a = [] := by
  apply List.filterMap_eq_nil_iff.2
  intro e he
  have hquiet := h e he
  cases e with
  | out | ran => cases hquiet
  | err | traceback | asked | exchanged => rfl

end Quiet

section Instructions

variable {α : Type} {x : Activity Event σ α} {f : α → Activity Event σ Int} {line : String}

def Activity.EndsWith (x : Activity Event σ Int) (line : String) : Prop :=
  x.Leaves fun tr ans => (Quiet tr ∧ ∃ e, ans = .error e) ∨
    ∃ meanwhile, Quiet meanwhile ∧ tr = meanwhile ++ [.ran line ans]

theorem Activity.EndsWith.quiet_bind (hx : x.Leaves fun tr _ => Quiet tr)
    (hf : ∀ a, (f a).EndsWith line) : (x >>= f).EndsWith line := by
  refine Leaves.bind hx hf (fun _ e quiet => .inl ⟨quiet, e, rfl⟩) ?_
  rintro tr _ tr' ans quiet (⟨quiet', stopped⟩ | ⟨meanwhile, quiet', rfl⟩)
  · exact .inl ⟨quiet.append quiet', stopped⟩
  · exact .inr ⟨tr ++ meanwhile, quiet.append quiet', (List.append_assoc ..).symm⟩

variable (t : Target σ)

theorem quiet_checkAvailable : t.checkAvailable.Leaves fun tr _ => Quiet tr := by
  intro w
  rw [t.trace_checkAvailable]
  exact (Quiet.exchanged _).append (List.forall_mem_singleton.2 rfl)

theorem endsWith_runInstruction (c : Console) (x : String) (p : Privilege) (d : Option String) :
    (runInstruction c t x p d).EndsWith (t.wrap x p d) := by
  refine .quiet_bind (quiet_checkAvailable t) fun _ => ?_
  refine .quiet_bind (fun _ => Quiet.debugLine c _) fun _ => ?_
  intro w
  rw [t.run_apply]
  exact .inr ⟨_, Quiet.exchanged _, rfl⟩

end Instructions

namespace Stage

/-- What carrying out substeps leaves, where a command becomes the line `L command`. -/
inductive Orderly (L : Value → String) : List Value → List Event → Prop
  | ended (substeps : List Value) : Orderly L substeps []
  | withheld {substep name command : Value} {rest : List Value} {meanwhile : List Event}
      (pair : substep.pair = .ok (name, command)) (quiet : Quiet meanwhile) :
      Orderly L (substep :: rest) (Console.substep name.display command.display ++ meanwhile)
  | ran {substep name command : Value} {rest : List Value} {meanwhile trace : List Event}
      {answer : Except Fault Int} (pair : substep.pair = .ok (name, command))
      (quiet : Quiet meanwhile) (more : Orderly L rest trace) :
      Orderly L (substep :: rest)
        (Console.substep name.display command.display ++ meanwhile ++
          .ran (L command) answer :: trace)

def line (t : Target σ) (s : Stage) (project : Option String) (command : Value) : String :=
  t.wrap (Shell.sourced s.envFile command.display) s.privilege project

theorem orderly_runSubsteps (c : Console) (t : Target σ) (s : Stage) (project : Option String)
    (xs : List Value) :
    (s.runSubsteps c t project xs).Leaves fun tr _ => Orderly (s.line t project) xs tr := by
  induction xs with
  | nil => exact fun _ => .ended []
  | cons x xs ih =>
    refine leaves_require ?_ fun _ _ => .ended _
    rintro ⟨name, command⟩ hpair w
    dsimp only
    rw [record_bind_apply]
    have hran := endsWith_runInstruction t c (Shell.sourced s.envFile command.display) s.privilege
      project w
    cases answer : (runInstruction c t (Shell.sourced s.envFile command.display) s.privilege
        project w).answer with
    | error f =>
      -- The fault is that of the question, or that of the command itself.
      rw [bind_of_error answer]
      rcases hran with ⟨quiet, -⟩ | ⟨meanwhile, quiet, htrace⟩
      · exact .withheld hpair quiet
      · rw [htrace, ← List.append_assoc]
        exact .ran hpair quiet (.ended xs)
    | ok status =>
      rw [bind_of_ok answer]
      rcases hran with ⟨-, f, hf⟩ | ⟨meanwhile, quiet, htrace⟩
      · cases hf.symm.trans answer
      · rw [htrace, List.append_assoc, List.singleton_append, ← List.append_assoc]
        apply Orderly.ran hpair quiet
        by_cases hstatus : status = 0
        · simp only [hstatus, if_true]
          exact ih _
        · simp only [if_neg hstatus]
          exact .ended xs

/-- The command that is handed over is that of the substep whose turn it is, and the announcement
of this substep is the last that was printed before. -/
def AnnouncedAt (L : Value → String) (substeps : List Value) (front : List Event)
    (line : String) : Prop :=
  ∃ substep name command ahead meanwhile, substeps[(lines front).length]? = some substep ∧
    substep.pair = .ok (name, command) ∧ line = L command ∧ Quiet meanwhile ∧
    front = ahead ++ Console.substep name.display command.display ++ meanwhile

theorem Orderly.announced {L : Value → String} {substeps : List Value} {trace : List Event}
    (h : Orderly L substeps trace) {front back : List Event} {line : String}
    {answer : Except Fault Int} (split : trace = front ++ .ran line answer :: back) :
    AnnouncedAt L substeps front line := by
  have unspoken {name command : Value} {meanwhile : List Event} (quiet : Quiet meanwhile) :
      .ran line answer ∉ Console.substep name.display command.display ++ meanwhile := by
    intro hmem
    rcases List.mem_append.1 hmem with hmem | hmem
    · cases List.mem_singleton.1 hmem
    · exact quiet.ran_not_mem _ _ hmem
  induction h generalizing front with
  | ended => simp at split
  | withheld pair quiet =>
    have hmem : .ran line answer ∈ front ++ .ran line answer :: back := by simp
    rw [← split] at hmem
    exact absurd hmem (unspoken quiet)
  | @ran substep name command rest meanwhile trace answer' pair quiet more ih =>
    obtain ⟨mid, hfront, hmid⟩ := split_append_of_not_mem (unspoken quiet) split
    have hlines : lines (Console.substep name.display command.display ++ meanwhile) = [] := by
      rw [lines_append, lines_substep, quiet.lines_eq, List.append_nil]
    cases mid with
    | nil =>
      obtain ⟨hran, -⟩ := List.cons.inj hmid
      obtain ⟨hline, -⟩ := Event.ran.inj hran
      rw [List.append_nil] at hfront
      refine ⟨substep, name, command, [], meanwhile, ?_, pair, hline.symm, quiet, hfront⟩
      rw [hfront, hlines]
      rfl
    | cons e mid =>
      -- Behind the command of the first substep the rest of the trace is that of the others.
      obtain ⟨rfl, hrest⟩ := List.cons.inj hmid
      obtain ⟨next, name', command', ahead, meanwhile', hnext, pair', hline, quiet', hmid'⟩ :=
        ih hrest
      refine ⟨next, name', command', Console.substep name.display command.display ++ meanwhile ++
        .ran (L command) answer' :: ahead, meanwhile', ?_, pair', hline, quiet', ?_⟩
      · have hlength : (lines front).length = (lines mid).length + 1 := by
          rw [hfront, lines_append, hlines, List.nil_append]
          rfl
        rw [hlength, List.getElem?_cons_succ]
        exact hnext
      · rw [hfront, hmid']
        simp only [List.append_assoc, List.cons_append]

end Stage

theorem Step.orderly_perform (settings : Settings) (c : Console) (t : Target σ) {s : Step}
    {stage : Stage} (hstage : s.Stages stage) :
    (s.perform settings c t).Leaves fun tr _ =>
      Stage.Orderly (stage.line t (firstDirectory s.cwd t.workdir)) stage.substeps tr := by
  obtain ⟨hk, data, hdata, hmade⟩ := hstage
  unfold perform
  rw [hk]
  dsimp only
  rw [require_bind_of_ok hdata, require_bind_of_ok hmade]
  exact stage.orderly_runSubsteps c t _ _

end Provisioning
