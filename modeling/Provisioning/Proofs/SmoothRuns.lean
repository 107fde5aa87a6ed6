import Provisioning.Proofs.Courses
import Provisioning.Proofs.ExitCodes
import Provisioning.Proofs.TraceLaws

/-!
Runs that meet no trouble. In the trace of such a run the target is available whenever it is asked,
and every line ends with status 0. Then a step whose errands can all be read off its data completes
and hands over every one of them, and so does a whole run of such steps.
-/
namespace Provisioning

open Activity

variable {σ α β : Type}

def Event.IsSmooth : Event → Prop
  | .asked answer => answer = .ok true
  | .ran _ answer => answer = .ok 0
  | _ => True

def Smooth (trace : List Event) : Prop := ∀ e ∈ trace, e.IsSmooth

theorem smooth_append {a b : List Event} : Smooth (a ++ b) ↔ Smooth a ∧ Smooth b :=
  List.forall_mem_append

theorem Written.smooth {a : List Event} (h : Written a) : Smooth a := by
  intro e he
  have htext := h e he
  cases e with
  | asked | ran => cases htext
  | out | err | traceback | exchanged => trivial

theorem smooth_deeds {trace : List Event} : Smooth (deeds trace) ↔ Smooth trace := by
  constructor
  · intro h e he
    cases htext : e.isText with
    | false => exact h e (List.mem_filter.2 ⟨he, by simp [htext]⟩)
    | true => exact Written.smooth (List.forall_mem_singleton.2 htext) e (List.mem_singleton_self e)
  · intro h e he
    exact h e (List.mem_filter.1 he).1

theorem Smooth.lawful : Lawful Smooth where
  written h := h.smooth
  append ha hb := smooth_append.2 ⟨ha, hb⟩

theorem Smooth.of_bind {x : Activity Event σ α} {f : α → Activity Event σ β} {w : σ}
    (h : Smooth ((x >>= f) w).trace) : Smooth (x w).trace := by
  cases answer : (x w).answer with
  | error e =>
    rw [bind_of_error answer] at h
    exact h
  | ok a =>
    rw [bind_of_ok answer] at h
    exact (smooth_append.1 h).1

theorem Smooth.of_bind_ok {x : Activity Event σ α} {f : α → Activity Event σ β} {w : σ} {a : α}
    (h : Smooth ((x >>= f) w).trace) (answer : (x w).answer = .ok a) :
    Smooth (f a (x w).after).trace := by
  rw [bind_of_ok answer] at h
  exact (smooth_append.1 h).2

section Errands

variable {t : Target σ} {p : Privilege} {d : Option String} {w : σ}

theorem available_of_smooth (h : Smooth (t.checkAvailable w).trace) :
    (t.checkAvailable w).answer = .ok () := by
  rw [t.checkAvailable_apply] at h ⊢
  have hasked : (t.available w).answer = .ok true := h (.asked _) (by simp)
  exact Target.demanded_eq_ok.2 hasked

theorem status_of_smooth {x : String} (h : Smooth (t.run x p d w).trace) :
    (t.run x p d w).answer = .ok 0 := by
  rw [t.run_apply] at h ⊢
  exact h (.ran (t.wrap x p d) (t.perform (t.wrap x p d) w).answer) (by simp)

def Errand.Comprise (errands : List (Except Refusal Errand)) (xs : List String) : Prop :=
  errands.map (Except.map Errand.instruction) = xs.map .ok

theorem Errand.comprise_cons {r : Except Refusal Errand} {rest : List (Except Refusal Errand)}
    {xs : List String} (h : Comprise (r :: rest) xs) :
    ∃ e xs', r = .ok e ∧ xs = e.instruction :: xs' ∧ Comprise rest xs' := by
  cases xs with
  | nil => cases h
  | cons x xs' =>
    obtain ⟨hfirst, hrest⟩ := List.cons.inj h
    cases r with
    | error cause => cases hfirst
    | ok e =>
      obtain rfl := Except.ok.inj hfirst
      exact ⟨e, xs', rfl, rfl, hrest⟩

theorem Errand.carryOut_of_smooth {errands : List (Except Refusal Errand)} {xs : List String}
    (h : Comprise errands xs) (smooth : Smooth (carryOut t p d errands w).trace) :
    (carryOut t p d errands w).answer = .ok () ∧
      answered (carryOut t p d errands w).trace = xs.map fun x => (t.wrap x p d, .ok 0) := by
  induction errands generalizing xs w with
  | nil =>
    obtain rfl := List.map_eq_nil_iff.1 h.symm
    exact ⟨rfl, rfl⟩
  | cons r rest ih =>
    obtain ⟨e, xs, rfl, rfl, hrest⟩ := comprise_cons h
    have hpassed : carryOut t p d (.ok e :: rest) = t.checkAvailable >>= fun _ =>
        t.run e.instruction p d >>= fun status =>
          e.blame.elim (carryOut t p d rest) fun blame =>
            if status = 0 then carryOut t p d rest else fail (blame status) := by
      obtain ⟨instruction, blame⟩ := e
      cases blame <;> rfl
    rw [hpassed] at smooth ⊢
    have available := available_of_smooth smooth.of_bind
    have hran := smooth.of_bind_ok available
    have status := status_of_smooth hran.of_bind
    have hbehind := hran.of_bind_ok status
    have hgoes : e.blame.elim (carryOut t p d rest) (fun blame =>
        if (0 : Int) = 0 then carryOut t p d rest else fail (blame 0)) = carryOut t p d rest := by
      cases e.blame <;> rfl
    rw [hgoes] at hbehind
    obtain ⟨answer, lines⟩ := ih hrest hbehind
    rw [bind_of_ok available, bind_of_ok status, hgoes]
    refine ⟨answer, ?_⟩
    simp only [answered_append, answered_checkAvailable, answered_run, status, lines]
    rfl

end Errands

section Steps

variable {settings : Settings} {c : Console} {t : Target σ} {w : σ}

theorem Step.perform_of_smooth {s : Step} {xs : List String}
    (h : Errand.Comprise (s.errands settings) xs)
    (smooth : Smooth (s.perform settings c t w).trace) :
    (s.perform settings c t w).answer = .ok () ∧
      lines (s.perform settings c t w).trace =
        xs.map fun x => t.wrap x s.privilege s.directory := by
  have did := s.sameDeeds_perform c t settings
  have hcarried : Smooth
      (Errand.carryOut t s.privilege s.directory (s.errands settings) w).trace := by
    rw [← smooth_deeds, ← (did w w rfl).1, smooth_deeds]
    exact smooth
  obtain ⟨answer, ran⟩ := Errand.carryOut_of_smooth h hcarried
  refine ⟨(did w w rfl).2.1.trans answer, ?_⟩
  rw [← map_fst_answered, did.answered_eq, ran, List.map_map]
  rfl

def agenda (t : Target σ) (plan : List (Step × List String)) : List String :=
  plan.flatMap fun x => x.2.map fun instruction => t.wrap instruction x.1.privilege x.1.directory

variable {plan : List (Step × List String)}

theorem first_mem_visits (s : Step) (rest : List Step) :
    ⟨s, s.perform settings c t w⟩ ∈ visits settings c t (s :: rest) w := by
  cases answer : (s.perform settings c t w).answer with
  | ok u => exact visits_of_ok answer ▸ List.mem_cons_self
  | error f => exact visits_of_error answer ▸ List.mem_cons_self

theorem visits_of_smooth (h : ∀ x ∈ plan, Errand.Comprise (x.1.errands settings) x.2)
    (smooth : ∀ v ∈ visits settings c t (plan.map Prod.fst) w, Smooth v.report.trace) :
    let vs := visits settings c t (plan.map Prod.fst) w
    vs.map Visit.step = plan.map Prod.fst ∧ (∀ v ∈ vs, v.Completed) ∧
      vs.flatMap (fun v => lines v.report.trace) = agenda t plan := by
  induction plan generalizing w with
  | nil => exact ⟨rfl, nofun, rfl⟩
  | cons x plan ih =>
    obtain ⟨hx, hplan⟩ := List.forall_mem_cons.1 h
    have hfirst : Smooth (x.1.perform settings c t w).trace :=
      smooth _ (first_mem_visits x.1 (plan.map Prod.fst))
    obtain ⟨answer, handed⟩ := Step.perform_of_smooth hx hfirst
    rw [List.map_cons, visits_of_ok answer] at smooth ⊢
    obtain ⟨hsteps, hcompleted, hlines⟩ := ih hplan (List.forall_mem_cons.1 smooth).2
    refine ⟨by rw [List.map_cons, hsteps], List.forall_mem_cons.2 ⟨answer, hcompleted⟩, ?_⟩
    rw [List.flatMap_cons, handed, hlines]
    rfl

end Steps

theorem smooth_exchanged (es : List Exchange) {e : Event} (h : e.IsSmooth) :
    Smooth (es.map Event.exchanged ++ [e]) := by
  refine smooth_append.2 ⟨?_, List.forall_mem_singleton.2 h⟩
  exact List.forall_mem_map.2 fun _ _ => trivial

theorem Target.obeys_smooth {t : Target σ} (available : ∀ w, (t.available w).answer = .ok true)
    (performs : ∀ line w, (t.perform line w).answer = .ok 0) : t.Obeys Smooth := by
  have asked (w : σ) : Smooth (t.checkAvailable w).trace := by
    rw [t.checkAvailable_apply]
    exact smooth_exchanged _ (available w)
  have handed (line : String) (w : σ) : Smooth (t.handOver line w).trace := by
    rw [t.handOver_apply]
    exact smooth_exchanged _ (performs line w)
  exact {
    toLawful := Smooth.lawful
    asked
    answered := fun _ _ written line w' =>
      smooth_append.2 ⟨asked _, smooth_append.2 ⟨written.smooth, handed line w'⟩⟩ }

namespace CommandLine

theorem execute_of_smooth {u : Surroundings} {w : World σ} {arguments : List String} {c : Console}
    {s after : σ} {t : Target σ} {plan : List (Step × List String)}
    (executes : Executes u w arguments c s t { steps := plan.map Prod.fst } after)
    (comprises : ∀ x ∈ plan, Errand.Comprise (x.1.errands u.settings) x.2)
    (smooth : Smooth (execute u w arguments s).trace) :
    (execute u w arguments s).answer = .ok 0 ∧
      lines (execute u w arguments s).trace = agenda t plan := by
  have hparts : Smooth (t.checkAvailable after).trace ∧
      ∀ v ∈ Pipeline.visited u.settings c t (plan.map Prod.fst) after, Smooth v.report.trace := by
    obtain ⟨commences, reached⟩ := executes
    obtain ⟨ahead, behind, -, -, htrace⟩ := visits_of_reaches commences reached
    simp only [htrace, smooth_append] at smooth
    obtain ⟨⟨-, asked, visited⟩, -⟩ := smooth
    refine ⟨asked, fun v hv e he => visited e ?_⟩
    rw [List.mem_flatMap]
    exact ⟨v, hv, by simp [Visit.trace, he]⟩
  obtain ⟨asked, visited⟩ := hparts
  have available := available_of_smooth asked
  rw [Pipeline.visited_of_available available] at visited
  obtain ⟨hsteps, hcompleted, hlines⟩ := visits_of_smooth comprises visited
  have all : Pipeline.CompletesAll u.settings c t (plan.map Prod.fst) after := by
    rw [Pipeline.CompletesAll, Pipeline.visited_of_available available]
    exact ⟨hsteps, hcompleted⟩
  refine ⟨answer_of_completesAll executes all, ?_⟩
  rw [lines_of_executes executes, Pipeline.visited_of_available available]
  exact hlines

/-- A command meets no trouble in such a target if it met none when the target was prepared. -/
theorem smooth_of_reaches {u : Surroundings} {w : World σ} {arguments : List String} {c : Console}
    {s : σ} {x : Undertaking σ} {t : Target σ} {p : Pipeline} {name : String}
    (commences : Commences u arguments c x) (reached : x.Reaches u w s t p name)
    (obeys : t.Obeys Smooth) (prepared : Smooth (x.preparation u w s).trace) :
    Smooth (execute u w arguments s).trace := by
  obtain ⟨ahead, behind, written, written', htrace⟩ := visits_of_reaches commences reached
  obtain ⟨q, ended, -, ending⟩ :=
    p.execute_ending u.settings c t (x.preparation u w s).after
  have executed := obeys.ending ending
  rw [ending.trace_eq reached.fresh] at executed
  rw [htrace]
  simp only [smooth_append]
  exact ⟨⟨⟨prepared, written.smooth⟩, smooth_append.1 executed⟩, written'.smooth⟩

end CommandLine
end Provisioning
