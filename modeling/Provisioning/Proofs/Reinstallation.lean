import Provisioning.Proofs.Correspondence
import Provisioning.Proofs.FailFast
import Provisioning.Proofs.FailurePoints
import Provisioning.Proofs.ShellWords

/-!
Installing again. An installer goes through its four commands whether or not the tool is there
already: what the first question for the tool is answered with decides no more than whether a note
is printed. It succeeds exactly if the target serves the four commands, and then does so as often as
it is asked to.
-/
namespace Provisioning

open Activity

variable {σ σ' : Type}

/-- Before each of the lines the target is available, and it answers each with a status, which is 0
if the line is one that has to succeed. -/
def Target.Serves (t : Target σ) : List (String × Bool) → σ → σ → Prop
  | [], w, w' => w' = w
  | (line, required) :: rest, w, w' =>
    (t.available w).answer = .ok true ∧
      ∃ status, (t.perform line (t.available w).after).answer = .ok status ∧
        (required = true → status = 0) ∧
        t.Serves rest (t.perform line (t.available w).after).after w'

theorem Activity.bind_ends_iff {α β : Type} {x : Activity Event σ α} {f : α → Activity Event σ β}
    {w w' : σ} {b : β} :
    ((x >>= f) w).answer = .ok b ∧ ((x >>= f) w).after = w' ↔
      ∃ a, (x w).answer = .ok a ∧ (f a (x w).after).answer = .ok b ∧
        (f a (x w).after).after = w' := by
  cases answer : (x w).answer with
  | error e =>
    rw [bind_of_error answer]
    simp
  | ok a =>
    rw [bind_of_ok answer]
    simp

theorem Target.resembles_self (t : Target σ) : t.Resembles t Eq Eq where
  name := rfl
  workdir := rfl
  question := by
    intro w w' h
    rw [h]
    exact ⟨rfl, rfl⟩
  line := by
    intro line line' hline w w' h
    rw [hline, h]
    exact ⟨rfl, rfl⟩

/-- Two worlds that go the same way, but that a line, if it is the first to be handed over, may be
answered with different statuses. -/
structure Target.SameButStatus (t : Target σ) (t' : Target σ') (R : σ → σ' → Prop) (line : String)
    (status status' : Int) (w : σ) (w' : σ') : Prop where
  resembles : t.Resembles t' Eq R
  isRoot : t.isRoot = t'.isRoot
  question : (t.available w).answer = (t'.available w').answer
  first : (t.perform line (t.available w).after).answer = .ok status
  second : (t'.perform line (t'.available w').after).answer = .ok status'
  related : R (t.perform line (t.available w).after).after
    (t'.perform line (t'.available w').after).after

def Activity.repeated {ε : Type} (x : Activity ε σ Unit) : Nat → Activity ε σ Unit
  | 0 => return ()
  | n + 1 => do
    x
    x.repeated n

theorem Activity.repeated_ok {ε : Type} {x : Activity ε σ Unit} {G : σ → Prop}
    (kept : ∀ w, G w → (x w).answer = .ok () ∧ G (x w).after) (n : Nat) {w : σ} (hw : G w) :
    (x.repeated n w).answer = .ok () := by
  induction n generalizing w with
  | zero => rfl
  | succ n ih =>
    obtain ⟨answer, hafter⟩ := kept w hw
    rw [repeated, bind_of_ok answer]
    exact ih hafter

namespace Errand

variable (t : Target σ) (p : Privilege) (d : Option String)

def demand (e : Errand) : String × Bool := (e.line t p d, e.blame.isSome)

theorem ends_blamed_iff {e : Errand} {status : Int} {rest : Activity Event σ Unit} {w w' : σ} :
    let next := match e.blame with
      | none => rest
      | some blame => if status = 0 then rest else fail (blame status)
    (next w).answer = .ok () ∧ (next w).after = w' ↔
      (e.blame.isSome = true → status = 0) ∧ (rest w).answer = .ok () ∧ (rest w).after = w' := by
  cases e.blame with
  | none => simp
  | some blame => by_cases hstatus : status = 0 <;> simp [hstatus]

theorem carryOut_ends_iff (es : List Errand) (w w' : σ) :
    (carryOut t p d (es.map .ok) w).answer = .ok () ∧
        (carryOut t p d (es.map .ok) w).after = w' ↔
      t.Serves (es.map (demand t p d)) w w' := by
  induction es generalizing w with
  | nil => simp [carryOut, Target.Serves, eq_comm]
  | cons e es ih =>
    rw [List.map_cons, carryOut, require_bind_of_ok rfl, bind_ends_iff, t.checkAvailable_apply,
      List.map_cons, demand, Target.Serves]
    constructor
    · intro h
      obtain ⟨_, available, h⟩ := h
      obtain ⟨status, handed, h⟩ := bind_ends_iff.1 h
      rw [t.run_apply] at handed h
      obtain ⟨passes, h⟩ := ends_blamed_iff.1 h
      exact ⟨Target.demanded_eq_ok.1 available, status, handed, passes, (ih _).1 h⟩
    · intro h
      obtain ⟨available, status, handed, passes, h⟩ := h
      refine ⟨(), Target.demanded_eq_ok.2 available, bind_ends_iff.2 ⟨status, ?_, ?_⟩⟩
      · rw [t.run_apply]
        exact handed
      · rw [t.run_apply]
        exact ends_blamed_iff.2 ⟨passes, (ih _).2 h⟩

end Errand

theorem Text.head?_trim {c : Char} (cs : List Char) (h : isBlank c = false) :
    (trim (c :: cs)).head? = some c := by
  have hdrop : (c :: cs).dropWhile isBlank = c :: cs := by simp [h]
  rw [trim, hdrop, List.reverse_cons, List.dropWhile_append]
  split
  · simp [h]
  · simp

theorem Target.wrap_injective (t : Target σ) {p : Privilege} {d x y : String} (given : d ≠ "")
    (h : t.wrap x p (some d) = t.wrap y p (some d)) : x = y := by
  cases p with
  | unprivileged => exact (t.wrap_unprivileged_injective given given h).2
  | elevated =>
    cases root : t.isRoot with
    | true =>
      rw [t.wrap_elevated_of_root root, t.wrap_elevated_of_root root] at h
      exact (t.wrap_unprivileged_injective given given h).2
    | false =>
      rw [t.wrap_elevated root, t.wrap_elevated root] at h
      exact (t.wrap_unprivileged_injective given given (Shell.elevate_injective h)).2

namespace ScriptInstaller

variable (c : Console) (t : Target σ) {i : ScriptInstaller} {probe fetch run : String}

def line (i : ScriptInstaller) (x : String) : String := t.wrap x i.privilege (some "/")

def demands (i : ScriptInstaller) (probe fetch run : String) : List (String × Bool) :=
  [(i.line t probe, false), (i.line t fetch, true), (i.line t run, true), (i.line t probe, true)]

theorem exists_commands (t : Target σ) (tool : i.tool.Quotable) (url : i.url.Quotable)
    (path : i.scriptPath.Quotable) : ∃ probe fetch run, i.Commands probe fetch run := by
  obtain ⟨plan, hplan⟩ := plan_accepted t tool url path
  obtain ⟨probe, hprobe, h⟩ := Refusable.bind_eq_ok.1 hplan
  obtain ⟨fetch, hfetch, h⟩ := Refusable.bind_eq_ok.1 h
  obtain ⟨run, hrun, -⟩ := Refusable.bind_eq_ok.1 h
  exact ⟨probe, fetch, run, hprobe, hfetch, hrun⟩

theorem Commands.plan_eq (h : i.Commands probe fetch run) :
    i.plan t = .ok [i.line t probe, i.line t fetch, i.line t run, i.line t probe] :=
  Refusable.bind_eq_ok.2 ⟨probe, h.probe, Refusable.bind_eq_ok.2 ⟨fetch, h.fetch,
    Refusable.bind_eq_ok.2 ⟨run, h.run, rfl⟩⟩⟩

theorem Commands.probe_take (h : i.Commands probe fetch run) :
    probe.toList.take 2 = ['i', 'f'] ∨ probe.toList.take 2 = ['c', 'o'] := by
  obtain ⟨tool, -, hprobe⟩ := Refusable.bind_eq_ok.1 h.probe
  obtain rfl := Except.ok.inj hprobe
  unfold Shell.sourced
  split
  · left
    simp
  · right
    simp

theorem Commands.fetch_take (h : i.Commands probe fetch run) :
    fetch.toList.take 2 = ['c', 'u'] := by
  obtain ⟨script, -, hfetch⟩ := Refusable.bind_eq_ok.1 h.fetch
  obtain ⟨url, -, hfetch⟩ := Refusable.bind_eq_ok.1 hfetch
  obtain rfl := Except.ok.inj hfetch
  simp

theorem Commands.run_head (h : i.Commands probe fetch run) : run.toList.head? = some 's' := by
  obtain ⟨script, -, hrun⟩ := Refusable.bind_eq_ok.1 h.run
  obtain rfl := Except.ok.inj hrun
  simp only [String.toList_ofList, String.toList_append]
  exact Text.head?_trim _ rfl

theorem Commands.line_ne (h : i.Commands probe fetch run) :
    i.line t fetch ≠ i.line t probe ∧ i.line t run ≠ i.line t probe := by
  constructor
  · intro he
    obtain rfl := t.wrap_injective (by decide) he
    rcases h.probe_take with hp | hp <;> simp [h.fetch_take] at hp
  · intro he
    obtain rfl := t.wrap_injective (by decide) he
    have hrun : (run.toList.take 2).head? = some 's' := by
      rw [List.head?_take, if_neg (by decide)]
      exact h.run_head
    rcases h.probe_take with hp | hp <;> simp [hp] at hrun

/-- An installation ends well exactly if the target serves its four lines. -/
theorem Commands.install_ends_iff (h : i.Commands probe fetch run) (w w' : σ) :
    (i.install c t w).answer = .ok () ∧ (i.install c t w).after = w' ↔
      t.Serves (i.demands t probe fetch run) w w' := by
  have did := i.sameDeeds_install c t w w rfl
  rw [did.2.1, did.2.2, errands, h.probe, h.fetch, h.run]
  exact Errand.carryOut_ends_iff t i.privilege (some "/") [⟨probe, none⟩, ⟨fetch, _⟩, ⟨run, _⟩,
    ⟨probe, _⟩] w w'

theorem Commands.fetched (h : i.Commands probe fetch run) (w : σ)
    (issued : 2 < (lines (i.install c t w).trace).length) :
    (answered (i.install c t w).trace)[1]? = some (i.line t fetch, .ok 0) := by
  have did := i.sameDeeds_install c t
  have course := Errand.course_carryOut t i.privilege (some "/") i.errands w
  rw [← map_fst_answered, List.length_map] at issued
  rw [← did.answered_eq, errands, h.probe, h.fetch, h.run] at course
  obtain ⟨e, status, he, passes, hline⟩ := course.passed_of_lt (k := 1) issued
  obtain rfl := Except.ok.inj (Option.some.inj he)
  rw [hline, passes.resolve_right (by simp)]
  rfl

def remainder (i : ScriptInstaller) : Activity Event σ Unit := do
  i.fetch c t
  i.runScript c t
  i.confirm t

def opening (i : ScriptInstaller) (probe : String) (status : Int) : List Event :=
  [.asked (.ok true), .ran (i.line t probe) (.ok status)] ++
    if status = 0 then i.announce t else []

variable {c t} {t' : Target σ'} {R : σ → σ' → Prop}

theorem Commands.install_eq (h : i.Commands probe fetch run) :
    i.install c t = t.checkAvailable >>= fun _ => t.run probe i.privilege (some "/") >>=
      fun status => record (if status = 0 then i.announce t else []) >>= fun _ =>
        i.remainder c t := by
  have hprobe : Target.probe i.tool i.envFile = .ok probe := h.probe
  unfold install isInstalled
  rw [t.hasTool_bind, require_bind_of_ok hprobe]
  simp only [decide_eq_true_eq]
  rfl

theorem written_announced (i : ScriptInstaller) (t : Target σ) (status : Int) :
    Written (if status = 0 then i.announce t else []) := by
  split
  · exact Console.written_info _
  · exact .nil

theorem lines_opening (i : ScriptInstaller) (t : Target σ) (probe : String) (status : Int) :
    lines (i.opening t probe status) = [i.line t probe] := by
  rw [opening, lines_append, (written_announced i t status).lines_eq]
  rfl

theorem Commands.install_of_answered (h : i.Commands probe fetch run) {w : σ} {status : Int}
    (available : (t.available w).answer = .ok true)
    (answer : (t.perform (i.line t probe) (t.available w).after).answer = .ok status) :
    let r := i.remainder c t (t.perform (i.line t probe) (t.available w).after).after
    apparent (i.install c t w).trace = i.opening t probe status ++ apparent r.trace ∧
      (i.install c t w).answer = r.answer := by
  have question : (t.checkAvailable w).answer = .ok () := by
    rw [t.checkAvailable_apply]
    exact Target.demanded_eq_ok.2 available
  have asked : apparent (t.checkAvailable w).trace = [.asked (.ok true)] := by
    rw [t.checkAvailable_apply, apparent_noted _ rfl, available]
  have hafter : (t.checkAvailable w).after = (t.available w).after := by
    rw [t.checkAvailable_apply]
  have probed := t.run_apply probe i.privilege (some "/") (t.available w).after
  have hprobed : (t.run probe i.privilege (some "/") (t.available w).after).answer =
      .ok status := by
    rw [probed]
    exact answer
  have ran : apparent (t.run probe i.privilege (some "/") (t.available w).after).trace =
      [.ran (i.line t probe) (.ok status)] := by
    rw [probed, apparent_noted _ rfl]
    exact congrArg (fun a => [Event.ran (i.line t probe) a]) answer
  have hbehind : (t.run probe i.privilege (some "/") (t.available w).after).after =
      (t.perform (i.line t probe) (t.available w).after).after := by
    rw [probed]
    rfl
  rw [h.install_eq, bind_of_ok question, hafter, bind_of_ok hprobed, hbehind, record_bind_apply]
  refine ⟨?_, rfl⟩
  simp only [apparent_append, asked, ran, (written_announced i t status).apparent_eq, opening,
    List.append_assoc]
  rfl

theorem Commands.install_of_withheld (h : i.Commands probe fetch run) {w : σ}
    (withheld : (t.available w).answer ≠ .ok true) :
    apparent (i.install c t w).trace = [.asked (t.available w).answer] ∧
      (i.install c t w).answer = Target.demanded t.name (t.available w).answer := by
  cases question : (t.checkAvailable w).answer with
  | ok u => exact absurd (t.available_of_checkAvailable question) withheld
  | error f =>
    rw [h.install_eq, bind_of_error question, t.checkAvailable_apply]
    rw [t.checkAvailable_apply] at question
    exact ⟨apparent_noted _ rfl, question.symm⟩

theorem wrap_of_resembles {L : String → String → Prop} (h : t.Resembles t' L R)
    (root : t.isRoot = t'.isRoot) (x : String) (p : Privilege) (d : Option String) :
    t.wrap x p d = t'.wrap x p d := by
  unfold Target.wrap
  rw [h.workdir, root]

theorem corresponds_runInstruction (h : t.Resembles t' Eq R) (root : t.isRoot = t'.isRoot)
    (x : String) (p : Privilege) (d : Option String) :
    Corresponds Eq R (runInstruction c t x p d) (runInstruction c t' x p d) := by
  have hwrap := wrap_of_resembles h root x p d
  unfold runInstruction
  apply h.checkAvailable.bind
  intro _ _ _
  rw [h.name]
  apply relates_after (.of_written (c.written_debugLine _))
  exact h.run hwrap hwrap

theorem corresponds_remainder (h : t.Resembles t' Eq R) (root : t.isRoot = t'.isRoot) :
    Corresponds Eq R (i.remainder c t) (i.remainder c t') := by
  have checked {status : Int} (f : Fault) : Corresponds Eq R
      (if status = 0 then return () else fail f : Activity Event σ Unit)
      (if status = 0 then return () else fail f : Activity Event σ' Unit) := by
    split
    · exact relates_pure ()
    · exact relates_fail f
  have commanded (r : Except Refusal String) (blame : Int → Fault) : Corresponds Eq R
      (require r >>= fun x => runInstruction c t x i.privilege (some "/") >>= fun status =>
        if status = 0 then return () else fail (blame status))
      (require r >>= fun x => runInstruction c t' x i.privilege (some "/") >>= fun status =>
        if status = 0 then return () else fail (blame status)) :=
    relates_require fun x _ =>
      (corresponds_runInstruction h root x i.privilege (some "/")).bind fun _ _ _ => checked _
  have asked : Corresponds Eq R (i.isInstalled t) (i.isInstalled t') := by
    unfold isInstalled Target.hasTool
    apply relates_require
    intro x _
    apply h.checkAvailable.bind
    intro _ _ _
    have hwrap := wrap_of_resembles h root x i.privilege (some "/")
    exact (h.run hwrap hwrap).bind fun _ _ _ => relates_pure _
  apply (commanded _ _).bind
  intro _ _ _
  apply (commanded _ _).bind
  intro _ _ _
  apply asked.bind
  intro found _ _
  split
  · exact relates_pure ()
  · exact relates_fail _

theorem Commands.install_of_sameButStatus (h : i.Commands probe fetch run) {status status' : Int}
    {w : σ} {w' : σ'} (same : t.SameButStatus t' R (i.line t probe) status status' w w') :
    (i.install c t w).answer = (i.install c t' w').answer ∧
      (apparent (i.install c t w).trace = apparent (i.install c t' w').trace ∨
        ∃ rest, apparent (i.install c t w).trace = i.opening t probe status ++ rest ∧
          apparent (i.install c t' w').trace = i.opening t probe status' ++ rest) := by
  have hline : i.line t' probe = i.line t probe :=
    (wrap_of_resembles same.resembles same.isRoot probe i.privilege (some "/")).symm
  have hopening : i.opening t' probe status' = i.opening t probe status' := by
    rw [opening, opening, hline, announce, announce, same.resembles.name]
  by_cases available : (t.available w).answer = .ok true
  · have available' : (t'.available w').answer = .ok true := same.question ▸ available
    obtain ⟨htrace, hanswer⟩ := h.install_of_answered (c := c) available same.first
    obtain ⟨htrace', hanswer'⟩ :=
      h.install_of_answered (c := c) available' (hline.symm ▸ same.second)
    rw [hline] at htrace' hanswer'
    obtain ⟨hrest, hends, -⟩ :=
      corresponds_remainder (c := c) (i := i) same.resembles same.isRoot _ _ same.related
    rw [htrace, hanswer, htrace', hanswer', hopening]
    exact ⟨hends, .inr ⟨_, rfl, by rw [Event.Matches.eq_of_forall₂ hrest]⟩⟩
  · have withheld' : (t'.available w').answer ≠ .ok true := same.question ▸ available
    obtain ⟨htrace, hanswer⟩ := h.install_of_withheld (c := c) available
    obtain ⟨htrace', hanswer'⟩ := h.install_of_withheld (c := c) withheld'
    rw [htrace, hanswer, htrace', hanswer', same.question, same.resembles.name]
    exact ⟨rfl, .inl rfl⟩

/-- An installer goes through its four commands each time. It succeeds exactly if the target serves
them, and then has handed over two questions for the tool, with the fetch and the run between them;
the script is only run once it has been fetched. The status that the first question is answered
with makes no difference but for a note. So a target that goes on serving lets it succeed any number
of times. -/
theorem install_repeatable (tool : i.tool.Quotable) (url : i.url.Quotable)
    (path : i.scriptPath.Quotable) (c : Console) (t : Target σ) :
    ∃ probe fetch run, i.Commands probe fetch run ∧
      (∀ w, (i.install c t w).answer = .ok () ↔
        ∃ w', t.Serves (i.demands t probe fetch run) w w') ∧
      (∀ w, (i.install c t w).answer = .ok () →
        lines (i.install c t w).trace =
            [i.line t probe, i.line t fetch, i.line t run, i.line t probe] ∧
          i.line t fetch ≠ i.line t probe ∧ i.line t run ≠ i.line t probe) ∧
      (∀ w, lines (i.install c t w).trace <+:
          [i.line t probe, i.line t fetch, i.line t run, i.line t probe] ∧
        (2 < (lines (i.install c t w).trace).length →
          (answered (i.install c t w).trace)[1]? = some (i.line t fetch, .ok 0))) ∧
      (∀ (σ' : Type) (t' : Target σ') (R : σ → σ' → Prop) (status status' : Int) (w : σ) (w' : σ'),
        t.SameButStatus t' R (i.line t probe) status status' w w' →
        (i.install c t w).answer = (i.install c t' w').answer ∧
          lines (i.install c t w).trace = lines (i.install c t' w').trace ∧
          (apparent (i.install c t w).trace = apparent (i.install c t' w').trace ∨
            ∃ rest, apparent (i.install c t w).trace = i.opening t probe status ++ rest ∧
              apparent (i.install c t' w').trace = i.opening t probe status' ++ rest)) ∧
      ∀ G : σ → Prop,
        (∀ w, G w → ∃ w', t.Serves (i.demands t probe fetch run) w w' ∧ G w') →
        ∀ (n : Nat) (w : σ), G w → ((i.install c t).repeated n w).answer = .ok () := by
  obtain ⟨probe, fetch, run, h⟩ := exists_commands t tool url path
  have planned := i.follows_install c t (h.plan_eq t)
  refine ⟨probe, fetch, run, h, ?_, ?_, ?_, ?_, ?_⟩
  · intro w
    constructor
    · intro answer
      exact ⟨_, (h.install_ends_iff c t w _).1 ⟨answer, rfl⟩⟩
    · intro served
      obtain ⟨w', hw'⟩ := served
      exact ((h.install_ends_iff c t w w').2 hw').1
  · intro w answer
    exact ⟨(planned w).2 () answer, h.line_ne t⟩
  · intro w
    exact ⟨(planned w).1, h.fetched c t w⟩
  · intro σ' t' R status status' w w' same
    obtain ⟨hanswer, hshown⟩ := h.install_of_sameButStatus (c := c) same
    refine ⟨hanswer, ?_, hshown⟩
    rw [← lines_apparent, ← lines_apparent (i.install c t' w').trace]
    rcases hshown with hshown | ⟨rest, hshown, hshown'⟩
    · rw [hshown]
    · rw [hshown, hshown', lines_append, lines_append, lines_opening, lines_opening]
  · intro G keeps n w hw
    apply repeated_ok _ n hw
    intro w hw
    obtain ⟨w', served, hw'⟩ := keeps w hw
    obtain ⟨answer, hafter⟩ := (h.install_ends_iff c t w w').2 served
    exact ⟨answer, hafter ▸ hw'⟩

def rustInstaller : ScriptInstaller where
  url := .text "https://example.invalid/rust.sh"
  tool := .text "rustc"

theorem install_repeatable_rust :
    rustInstaller.tool.Quotable ∧ rustInstaller.url.Quotable ∧ rustInstaller.scriptPath.Quotable ∧
      ((rustInstaller.install {} Target.obliging).repeated 2 ()).answer = .ok () ∧
      ∃ probe, rustInstaller.probe = .ok probe ∧
        fetchingHost.SameButStatus fetchingHost Eq (rustInstaller.line fetchingHost probe) 0 1
          [.exited 0 "", .exited 22 ""] [.exited 1 "", .exited 22 ""] ∧
        lines (rustInstaller.install {} fetchingHost [.exited 0 "", .exited 22 ""]).trace =
          lines (rustInstaller.install {} fetchingHost [.exited 1 "", .exited 22 ""]).trace := by
  have tool : rustInstaller.tool.Quotable := Value.quotable_text _
  have url : rustInstaller.url.Quotable := Value.quotable_text _
  have path : rustInstaller.scriptPath.Quotable := Value.quotable_text _
  refine ⟨tool, url, path, ?_, ?_⟩
  · obtain ⟨probe, fetch, run, -, -, -, -, -, again⟩ :=
      install_repeatable tool url path {} Target.obliging
    apply again (fun _ => True) _ 2 () trivial
    intro w _
    exact ⟨(), ⟨rfl, 0, rfl, by simp, rfl, 0, rfl, by simp, rfl, 0, rfl, by simp, rfl, 0, rfl,
      by simp, rfl⟩, trivial⟩
  · obtain ⟨probe, fetch, run, commands, -, -, -, twoWorlds, -⟩ :=
      install_repeatable tool url path {} fetchingHost
    have same : fetchingHost.SameButStatus fetchingHost Eq (rustInstaller.line fetchingHost probe)
        0 1 [.exited 0 "", .exited 22 ""] [.exited 1 "", .exited 22 ""] :=
      ⟨Target.resembles_self fetchingHost, rfl, rfl, rfl, rfl, rfl⟩
    exact ⟨probe, commands.probe, same, (twoWorlds _ fetchingHost Eq 0 1 _ _ same).2.1⟩

end ScriptInstaller
end Provisioning
