import Provisioning.Activity
import Provisioning.Settings

/-!
The outside world: child processes and directories. A world answers each child process from its
own state, so its answers may depend on all that was asked before.
-/
namespace Provisioning

inductive Command
  | line (text : String)
  | words (arguments : List String)
  deriving DecidableEq, Repr

def Command.text : Command → String
  | .line text => text
  | .words arguments => String.intercalate " " arguments

def Command.program : Command → String
  | .line _ => "/bin/sh"
  | .words arguments => arguments.head?.getD ""

/-- A child process to start. Without variables of its own it has those of this process; a variable
may be handed over without a value. -/
structure Call where
  command : Command
  cwd : Option String
  captured : Bool
  environ : Option (List (String × Option String))
  deriving DecidableEq, Repr

inductive Reply
  | exited (status : Int) (output : String)
  | missing
  | interrupted
  deriving DecidableEq, Repr

structure Exchange where
  call : Call
  reply : Reply
  deriving DecidableEq, Repr

structure World (σ : Type) where
  start : Call → σ → Reply × σ
  isDirectory : σ → String → Except Refusal Bool

namespace World

variable {σ : Type}

def run (w : World σ) (call : Call) : Activity Exchange σ Reply := fun s =>
  let r := w.start call s
  ⟨[⟨call, r.1⟩], .ok r.1, r.2⟩

theorem trace_run (w : World σ) (call : Call) (s : σ) :
    (w.run call s).trace = [⟨call, (w.start call s).1⟩] := rfl

theorem run_bind_apply {α : Type} (w : World σ) (call : Call) (f : Reply → Activity Exchange σ α)
    (s : σ) :
    (w.run call >>= f) s =
      let r := w.start call s
      let q := f r.1 r.2
      ⟨⟨call, r.1⟩ :: q.trace, q.answer, q.after⟩ := rfl

end World
end Provisioning
