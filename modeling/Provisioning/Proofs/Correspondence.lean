import Provisioning.Proofs.Courses
import Provisioning.Proofs.SideBySide
import Mathlib.Data.List.Forall2

/-!
Two runs side by side, in outside worlds that need not be the same. What one target raises and
answers, another in a world of its own raises and answers likewise, for lines that correspond. Then
activities that are put together in the same way from corresponding parts show the same, but for
the lines, and come to the same end; of the child processes behind that nothing is said.
-/
namespace Provisioning

open Activity

variable {σ σ' α β : Type}

def Event.isApparent : Event → Bool
  | .exchanged _ => false
  | _ => true

/-- The events of a trace but for the child processes. -/
def apparent (trace : List Event) : List Event := trace.filter Event.isApparent

@[simp] theorem apparent_append (a b : List Event) : apparent (a ++ b) = apparent a ++ apparent b :=
  List.filter_append ..

@[simp] theorem apparent_exchanged (es : List Exchange) :
    apparent (es.map Event.exchanged) = [] := by
  simp [apparent, Event.isApparent]

theorem apparent_noted (es : List Exchange) {e : Event} (h : e.isApparent = true) :
    apparent (es.map Event.exchanged ++ [e]) = [e] := by
  rw [apparent_append, apparent_exchanged, List.nil_append]
  exact List.filter_eq_self.2 (by simpa using h)

theorem Written.apparent_eq {a : List Event} (h : Written a) : apparent a = a := by
  apply List.filter_eq_self.2
  intro e he
  have htext := h e he
  cases e with
  | out | err | traceback => rfl
  | asked | ran | exchanged => cases htext

theorem answered_apparent (trace : List Event) : answered (apparent trace) = answered trace := by
  have hsame : (fun e => if e.isApparent = true then Event.answered? e else none) =
      Event.answered? := by
    funext e
    cases e <;> rfl
  rw [answered, apparent, List.filterMap_filter, hsame, answered]

theorem lines_apparent (trace : List Event) : lines (apparent trace) = lines trace := by
  rw [← map_fst_answered, answered_apparent, map_fst_answered]

inductive Event.Matches (L : String → String → Prop) : Event → Event → Prop
  | text {e : Event} (h : e.isText = true) : Matches L e e
  | asked (answer : Except Fault Bool) : Matches L (.asked answer) (.asked answer)
  | ran {line line' : String} (h : L line line') (answer : Except Fault Int) :
      Matches L (.ran line answer) (.ran line' answer)

namespace Event.Matches

variable {L : String → String → Prop} {trace trace' : List Event}

theorem eq_of_forall₂ (h : List.Forall₂ (Matches Eq) trace trace') : trace = trace' := by
  induction h with
  | nil => rfl
  | cons he _ ih =>
    cases he with
    | text | asked => rw [ih]
    | ran hline => rw [hline, ih]

theorem answered (h : List.Forall₂ (Matches L) trace trace') :
    List.Forall₂ (fun x x' => L x.1 x'.1 ∧ x.2 = x'.2) (Provisioning.answered trace)
      (Provisioning.answered trace') := by
  induction h with
  | nil => exact .nil
  | @cons e e' es es' he _ ih =>
    cases he with
    | asked => exact ih
    | ran hline answer => exact .cons ⟨hline, rfl⟩ ih
    | text htext =>
      cases e with
      | out | err | traceback => exact ih
      | asked | ran | exchanged => cases htext

theorem of_written (h : Written trace) : List.Forall₂ (Matches L) trace trace := by
  apply List.forall₂_same.2
  intro e he
  exact .text (h e he)

end Event.Matches

namespace Activity

/-- In worlds that are related both give the same answer, and leave related worlds behind. -/
def Alike {ε δ : Type} (R : σ → σ' → Prop) (x : Activity ε σ α) (x' : Activity δ σ' α) : Prop :=
  ∀ w w', R w w' → (x w).answer = (x' w').answer ∧ R (x w).after (x' w').after

def TracesMatch (L : String → String → Prop) (trace trace' : List Event) : Prop :=
  List.Forall₂ (Event.Matches L) (apparent trace) (apparent trace')

instance (L : String → String → Prop) : Composes (TracesMatch L) where
  nil := .nil
  append h h' := by
    rw [TracesMatch, apparent_append, apparent_append]
    exact List.rel_append h h'

theorem TracesMatch.of_written {L : String → String → Prop} {text : List Event}
    (written : Written text) : TracesMatch L text text := by
  rw [TracesMatch, written.apparent_eq]
  exact Event.Matches.of_written written

abbrev Corresponds (L : String → String → Prop) (R : σ → σ' → Prop) (x : Activity Event σ α)
    (x' : Activity Event σ' α) : Prop :=
  Relates (TracesMatch L) R x x'

end Activity

/-- A target that goes by the same name, works in the same directory and, in worlds that are
related, gives the same answers, be it to lines that correspond. -/
structure Target.Resembles (t : Target σ) (t' : Target σ') (L : String → String → Prop)
    (R : σ → σ' → Prop) : Prop where
  name : t.name = t'.name
  workdir : t.workdir = t'.workdir
  question : Alike R t.available t'.available
  line {line line' : String} (h : L line line') : Alike R (t.perform line) (t'.perform line')

namespace Target

variable {t : Target σ} {t' : Target σ'} {L M : String → String → Prop} {R : σ → σ' → Prop}

theorem Resembles.checkAvailable (h : t.Resembles t' L R) :
    Corresponds M R t.checkAvailable t'.checkAvailable := by
  intro w w' hw
  obtain ⟨hanswer, hafter⟩ := h.question w w' hw
  rw [t.checkAvailable_apply, t'.checkAvailable_apply, h.name, hanswer, TracesMatch,
    apparent_noted _ rfl, apparent_noted _ rfl]
  exact ⟨.cons (.asked _) .nil, rfl, hafter⟩

theorem Resembles.run (h : t.Resembles t' L R) {x : String} {p p' : Privilege}
    {d d' : Option String} (corresponds : L (t.wrap x p d) (t'.wrap x p' d'))
    (shown : M (t.wrap x p d) (t'.wrap x p' d')) :
    Corresponds M R (t.run x p d) (t'.run x p' d') := by
  intro w w' hw
  obtain ⟨hanswer, hafter⟩ := h.line corresponds w w' hw
  rw [t.run_apply, t'.run_apply, hanswer, TracesMatch, apparent_noted _ rfl, apparent_noted _ rfl]
  exact ⟨.cons (.ran shown _) .nil, rfl, hafter⟩

end Target

theorem Errand.corresponds_carryOut {t : Target σ} {t' : Target σ'} {L M : String → String → Prop}
    {R : σ → σ' → Prop} {p p' : Privilege} {d : Option String} (h : t.Resembles t' L R)
    {es : List (Except Refusal Errand)}
    (corresponds : ∀ e, .ok e ∈ es → L (e.line t p d) (e.line t' p' d))
    (shown : ∀ e, .ok e ∈ es → M (e.line t p d) (e.line t' p' d)) :
    Corresponds M R (carryOut t p d es) (carryOut t' p' d es) := by
  induction es with
  | nil => exact relates_pure ()
  | cons errand rest ih =>
    have hrest := ih (fun e he => corresponds e (List.mem_cons_of_mem _ he))
      fun e he => shown e (List.mem_cons_of_mem _ he)
    cases errand with
    | error cause => exact relates_fail _
    | ok e =>
      apply h.checkAvailable.bind
      intro _ _ _
      apply (h.run (corresponds e List.mem_cons_self) (shown e List.mem_cons_self)).bind
      intro status _ _
      cases e.blame with
      | none => exact hrest
      | some blame => exact relates_ite (fun _ => hrest) fun _ => relates_fail _

end Provisioning
