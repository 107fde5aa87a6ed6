import Provisioning.Proofs.Errands
import Provisioning.Proofs.TargetCalls
import Provisioning.Proofs.Verdict

/-!
The course that a list of errands takes: which lines were handed over, how each of them was
answered, and how it ended. Either every errand was passed, or the course ends at one of them: its
status is blamed, or the target is unavailable, or raises a fault of its own, or the errand is
refused before its turn comes.
-/
namespace Provisioning

open Activity

variable {σ : Type}

abbrev Answered := String × Except Fault Int

def Event.answered? : Event → Option Answered
  | .ran line answer => some (line, answer)
  | _ => none

def answered (trace : List Event) : List Answered := trace.filterMap Event.answered?

@[simp] theorem answered_append (a b : List Event) :
    answered (a ++ b) = answered a ++ answered b :=
  List.filterMap_append

@[simp] theorem answered_exchanged (es : List Exchange) :
    answered (es.map Event.exchanged) = [] := by
  simp [answered, List.filterMap_map, Function.comp_def, Event.answered?]

theorem map_fst_answered (trace : List Event) : (answered trace).map Prod.fst = lines trace := by
  rw [answered, lines, List.map_filterMap]
  congr 1
  funext e
  cases e <;> rfl

theorem answered_deeds (trace : List Event) : answered (deeds trace) = answered trace := by
  have hsame : (fun e => if (!e.isText) = true then Event.answered? e else none) =
      Event.answered? := by
    funext e
    cases e <;> rfl
  rw [answered, deeds, List.filterMap_filter, hsame, answered]

theorem Activity.SameDeeds.answered_eq {α : Type} {x y : Activity Event σ α} (h : x.SameDeeds y)
    (w : σ) : answered (x w).trace = answered (y w).trace := by
  rw [← answered_deeds, (h w w rfl).1, answered_deeds]

def Target.Raises (t : Target σ) (f : Fault) : Prop :=
  (∃ w, (t.available w).answer = .error f) ∨ ∃ line w, (t.perform line w).answer = .error f

namespace Errand

variable (t : Target σ) (p : Privilege) (d : Option String)

def line (e : Errand) : String := t.wrap e.instruction p d

def Passes (e : Errand) (status : Int) : Prop := status = 0 ∨ e.blame = none

inductive Course : List (Except Refusal Errand) → List Answered → Except Fault Unit → Prop
  | finished : Course [] [] (.ok ())
  | refused {cause : Refusal} {rest : List (Except Refusal Errand)} :
      Course (.error cause :: rest) [] (.error (.refused cause))
  | unavailable {e : Errand} {rest : List (Except Refusal Errand)} :
      Course (.ok e :: rest) [] (.error (.unavailable t.name "not reachable"))
  | unanswered {e : Errand} {rest : List (Except Refusal Errand)} {f : Fault}
      (raised : t.Raises f) : Course (.ok e :: rest) [] (.error f)
  | broken {e : Errand} {rest : List (Except Refusal Errand)} {f : Fault} (raised : t.Raises f) :
      Course (.ok e :: rest) [(e.line t p d, .error f)] (.error f)
  | blamed {e : Errand} {rest : List (Except Refusal Errand)} {blame : Int → Fault} {status : Int}
      (blames : e.blame = some blame) (failed : status ≠ 0) :
      Course (.ok e :: rest) [(e.line t p d, .ok status)] (.error (blame status))
  | passed {e : Errand} {rest : List (Except Refusal Errand)} {status : Int}
      {ran : List Answered} {ended : Except Fault Unit} (passes : e.Passes status)
      (behind : Course rest ran ended) :
      Course (.ok e :: rest) ((e.line t p d, .ok status) :: ran) ended

end Errand

section Parts

variable (t : Target σ) {w : σ} {f : Fault}

theorem answered_checkAvailable (w : σ) : answered (t.checkAvailable w).trace = [] := by
  rw [t.trace_checkAvailable]
  simp [answered, Event.answered?]

theorem answered_run (x : String) (p : Privilege) (d : Option String) (w : σ) :
    answered (t.run x p d w).trace = [(t.wrap x p d, (t.run x p d w).answer)] := by
  rw [t.run_apply]
  simp [answered, Event.answered?]

theorem fault_of_checkAvailable (h : (t.checkAvailable w).answer = .error f) :
    f = .unavailable t.name "not reachable" ∨ t.Raises f := by
  rw [t.checkAvailable_apply] at h
  rcases asked : (t.available w).answer with e | _ | _
  all_goals
    rw [asked] at h
    cases h
  · exact .inr (.inl ⟨w, asked⟩)
  · exact .inl rfl

theorem raises_of_run {x : String} {p : Privilege} {d : Option String}
    (h : (t.run x p d w).answer = .error f) : t.Raises f := by
  rw [t.run_apply] at h
  exact .inr ⟨_, w, h⟩

end Parts

namespace Errand

variable {t : Target σ} {p : Privilege} {d : Option String} {es rest : List (Except Refusal Errand)}
  {ran done : List Answered} {ended : Except Fault Unit} {e : Errand} {f : Fault}

theorem course_carryOut (t : Target σ) (p : Privilege) (d : Option String)
    (es : List (Except Refusal Errand)) (w : σ) :
    Course t p d es (answered (carryOut t p d es w).trace) (carryOut t p d es w).answer := by
  induction es generalizing w with
  | nil => exact .finished
  | cons errand rest ih =>
    cases errand with
    | error cause => exact .refused
    | ok e =>
      rw [carryOut, require_bind_of_ok rfl]
      cases asked : (t.checkAvailable w).answer with
      | error f =>
        rw [bind_of_error asked, answered_checkAvailable]
        rcases fault_of_checkAvailable t asked with rfl | raised
        · exact .unavailable
        · exact .unanswered raised
      | ok u =>
        rw [bind_of_ok asked, answered_append, answered_checkAvailable, List.nil_append]
        cases handed : (t.run e.instruction p d (t.checkAvailable w).after).answer with
        | error f =>
          rw [bind_of_error handed, answered_run, handed]
          exact .broken (raises_of_run t handed)
        | ok status =>
          rw [bind_of_ok handed, answered_append, answered_run, handed]
          cases hblame : e.blame with
          | none => exact .passed (.inr hblame) (ih _)
          | some blame =>
            by_cases hstatus : status = 0
            · simp only [hstatus, if_true]
              exact .passed (.inl rfl) (ih _)
            · simp only [hstatus, if_false]
              exact .blamed hblame hstatus

/-- The errands that were passed, and the lines and answers that they took. -/
def Passed (t : Target σ) (p : Privilege) (d : Option String) (e : Errand) (x : Answered) : Prop :=
  ∃ status, e.Passes status ∧ x = (e.line t p d, .ok status)

theorem Course.blamed_of_error (h : Course t p d es ran (.error f)) :
    (∃ passed e rest done blame status, es = passed.map .ok ++ .ok e :: rest ∧
      List.Forall₂ (Passed t p d) passed done ∧ ran = done ++ [(e.line t p d, .ok status)] ∧
      e.blame = some blame ∧ status ≠ 0 ∧ f = blame status) ∨
    (∃ cause, f = .refused cause) ∨ f = .unavailable t.name "not reachable" ∨ t.Raises f := by
  generalize hended : (.error f : Except Fault Unit) = ended at h
  induction h with
  | finished => cases hended
  | refused => exact .inr (.inl ⟨_, Except.error.inj hended⟩)
  | unavailable => exact .inr (.inr (.inl (Except.error.inj hended)))
  | unanswered raised | broken raised =>
    obtain rfl := Except.error.inj hended
    exact .inr (.inr (.inr raised))
  | @blamed e rest blame status blames failed =>
    exact .inl ⟨[], e, rest, [], blame, status, rfl, .nil, rfl, blames, failed,
      Except.error.inj hended⟩
  | @passed e rest status ran ended passes behind ih =>
    rcases ih hended with blamed | other
    · obtain ⟨passed, e', rest', done, blame, status', rfl, hdone, rfl, hrest⟩ := blamed
      exact .inl ⟨e :: passed, e', rest', _ :: done, blame, status', rfl,
        .cons ⟨status, passes, rfl⟩ hdone, rfl, hrest⟩
    · exact .inr other

theorem Course.ended_of_blamed (h : Course t p d es ran ended) (before : List Errand)
    (done : List Answered) {blame : Int → Fault} {line : String} {status : Int}
    (errands : es = before.map .ok ++ .ok e :: rest) (blames : e.blame = some blame)
    (failed : status ≠ 0) (lines : ran = done ++ [(line, .ok status)])
    (length : done.length = before.length) : ended = .error (blame status) := by
  induction before generalizing es ran done with
  | nil =>
    obtain rfl := List.length_eq_zero_iff.1 length
    subst errands lines
    cases h with
    | blamed blames' => rw [Option.some.inj (blames.symm.trans blames')]
    | passed passes =>
      rcases passes with zero | unblamed
      · exact absurd zero failed
      · cases blames.symm.trans unblamed
  | cons first before ih =>
    cases done with
    | nil => cases length
    | cons x done =>
      subst errands lines
      rw [List.cons_append] at h
      generalize hran : done ++ [(line, (.ok status : Except Fault Int))] = ran at h
      cases h with
      | blamed | broken => exact absurd hran (List.append_ne_nil_of_right_ne_nil _ (by simp))
      | passed passes behind => exact ih behind done rfl hran.symm (Nat.succ.inj length)

theorem Course.passed_of_lt (h : Course t p d es ran ended) {k : Nat} (hk : k + 1 < ran.length) :
    ∃ e status, es[k]? = some (.ok e) ∧ e.Passes status ∧
      ran[k]? = some (e.line t p d, .ok status) := by
  induction h generalizing k with
  | finished | refused | unavailable | unanswered | broken | blamed => simp at hk
  | @passed e rest status ran ended passes behind ih =>
    cases k with
    | zero => exact ⟨e, status, rfl, passes, rfl⟩
    | succ k => exact ih (Nat.lt_of_succ_lt_succ hk)

theorem Course.length_eq (h : Course t p d es ran (.ok ())) : ran.length = es.length := by
  generalize hended : (.ok () : Except Fault Unit) = ended at h
  induction h with
  | finished => rfl
  | refused | unavailable | unanswered | broken | blamed => cases hended
  | passed passes behind ih => rw [List.length_cons, List.length_cons, ih hended]

/-- A line of a course that was answered with a status belongs to an errand with all before it
passed, and so was that one unless the line was the last. -/
theorem Course.errand_at (h : Course t p d es ran ended) {line : String} {status : Int}
    {behind : List Answered} (lines : ran = done ++ (line, .ok status) :: behind) :
    ∃ passed e rest, es = passed.map .ok ++ .ok e :: rest ∧
      List.Forall₂ (Passed t p d) passed done ∧ line = e.line t p d ∧
      (behind ≠ [] → e.Passes status) := by
  induction h generalizing done with
  | finished | refused | unavailable | unanswered =>
    exact absurd lines.symm (List.append_ne_nil_of_right_ne_nil _ (by simp))
  | broken =>
    cases done with
    | nil => cases (List.cons.inj lines).1
    | cons x done => simp at lines
  | @blamed e rest =>
    cases done with
    | nil =>
      obtain ⟨hfirst, hbehind⟩ := List.cons.inj lines
      obtain ⟨rfl, -⟩ := Prod.mk.inj hfirst
      exact ⟨[], e, rest, rfl, .nil, rfl, fun more => absurd hbehind.symm more⟩
    | cons x done => simp at lines
  | @passed e rest status' ran ended passes behind' ih =>
    cases done with
    | nil =>
      obtain ⟨hfirst, -⟩ := List.cons.inj lines
      obtain ⟨rfl, hstatus⟩ := Prod.mk.inj hfirst
      obtain rfl := Except.ok.inj hstatus
      exact ⟨[], e, rest, rfl, .nil, rfl, fun _ => passes⟩
    | cons x done =>
      obtain ⟨rfl, hrest⟩ := List.cons.inj lines
      obtain ⟨passed, e', rest', rfl, hdone, hline⟩ := ih hrest
      exact ⟨e :: passed, e', rest', rfl, .cons ⟨status', passes, rfl⟩ hdone, hline⟩

end Errand

theorem Step.course_perform (settings : Settings) (c : Console) (t : Target σ) (s : Step) (w : σ) :
    Errand.Course t s.privilege s.directory (s.errands settings)
      (answered (s.perform settings c t w).trace) (s.perform settings c t w).answer := by
  have same := s.sameDeeds_perform c t settings
  rw [same.answered_eq, (same w w rfl).2.1]
  exact Errand.course_carryOut t s.privilege s.directory (s.errands settings) w

namespace Pipeline

theorem answered_visit (c : Console) (v : Visit σ) :
    answered (v.trace c) = answered v.report.trace := by
  rw [← answered_deeds, v.deeds_trace, answered_deeds]

theorem answered_visitedTrace (settings : Settings) (c : Console) (t : Target σ)
    (steps : List Step) (w : σ) :
    answered (visitedTrace settings c t steps w) =
      (executedVisits settings c t steps w).flatMap fun v => answered v.report.trace := by
  rw [visitedTrace, answered_append, answered_checkAvailable, List.nil_append]
  induction executedVisits settings c t steps w with
  | nil => rfl
  | cons v vs ih =>
    rw [List.flatMap_cons, answered_append, answered_visit, ih, List.flatMap_cons]

theorem answered_visited {settings : Settings} {c : Console} {t : Target σ} {w : σ}
    {p q : Pipeline} {ended : Except Fault Outcome} (fresh : p.state = .notStarted)
    (h : (p.execute settings c t w).answer = .ok (q, ended)) :
    answered (p.execute settings c t w).trace =
      (visited settings c t p.steps w).flatMap fun v => answered v.report.trace := by
  have ending := ending_of_execute h
  generalize (p.execute settings c t w).trace = trace at ending ⊢
  cases ending with
  | repeated started => exact absurd fresh started
  | unavailable _ question | unanswered _ question =>
    rw [visited_of_withheld question, answered_checkAvailable]
    rfl
  | succeeded _ question | failed _ question | escaped _ question =>
    rw [visited_of_available question, answered_visitedTrace]

end Pipeline
end Provisioning
