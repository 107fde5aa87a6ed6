import Provisioning.Proofs.Undertaking

/-!
The part of a trace that is not on the second output stream. Messages about failures, tracebacks
and what debugging shows are all on that stream, so nothing of them is overt.
-/
namespace Provisioning

def Event.isOvert : Event → Bool
  | .err _ | .traceback _ => false
  | _ => true

def overt (trace : List Event) : List Event := trace.filter Event.isOvert

@[simp] theorem overt_nil : overt [] = [] := rfl

@[simp] theorem overt_append (a b : List Event) : overt (a ++ b) = overt a ++ overt b :=
  List.filter_append ..

@[simp] theorem overt_exchanged (es : List Exchange) :
    overt (es.map Event.exchanged) = es.map Event.exchanged := by
  simp [overt, Event.isOvert]

theorem mem_overt {e : Event} (h : e.isOvert = true) {trace : List Event} :
    e ∈ overt trace ↔ e ∈ trace := by
  simp [overt, h]

@[simp] theorem exchanges_overt (trace : List Event) :
    exchanges (overt trace) = exchanges trace := by
  have hsame : (fun e => if e.isOvert = true then Event.exchange? e else none) =
      Event.exchange? := by
    funext e
    cases e <;> rfl
  rw [exchanges, overt, List.filterMap_filter, hsame, exchanges]

namespace Console

@[simp] theorem overt_debugLine (c : Console) (message : String) :
    overt (c.debugLine message) = [] := by
  by_cases debug : c.debug <;> simp [debugLine, debug, overt, Event.isOvert, Event.errLine]

@[simp] theorem overt_fault (c : Console) (handled : Option Fault) (f : Fault) :
    overt (c.fault handled f) = [] := by
  by_cases debug : c.debug <;> simp [fault, debug, overt, Event.isOvert, Event.errLine]

@[simp] theorem overt_error (title message : String) (details : List String)
    (suggestion : Option String) : overt (error title message details suggestion) = [] := by
  have hdetails : overt (details.map fun d => Event.errLine ("  " ++ d)) = [] := by
    simp [overt, Event.isOvert, Event.errLine]
  unfold error
  rw [overt_append, overt_append, hdetails]
  split <;> rfl

end Console

@[simp] theorem CommandLine.overt_handledReport (c : Console) (f : Fault) :
    overt (handledReport c f) = [] := by
  unfold handledReport
  split
  · exact Console.overt_error _ _ _ _
  · exact c.overt_fault _ _

theorem CommandLine.overt_parting (request : ExitRequest) : overt (parting request) = [] := by
  cases request <;> rfl

theorem CommandLine.overt_farewell (ended : Except Fault Int) : overt (farewell ended) = [] := by
  unfold farewell
  split
  · rfl
  · exact overt_parting _
  · rfl

end Provisioning
