import DebugLink.Failure

/-!
# The peer

The peer is the gdb at the other end of the link. How it behaves is a function of the commands that
were sent to it before: that covers a peer with any memory, and makes what it does repeatable.
-/

namespace DebugLink

/-- A command as it was sent. -/
inductive Call
  /-- Nobody waits for an answer. -/
  | submit (command : String)
  | request (command : String)
  deriving DecidableEq, Repr

/-- The other end of a link. The commands sent before are listed with the last one first. -/
structure Peer where
  /-- The answer to a request. -/
  answer : List Call → String → Except Failure String
  /-- Whether a command can be submitted. -/
  accept : List Call → String → Except Failure Unit := fun _ _ => .ok ()
  /-- What the peer delivers before the call returns, one delivery after another. -/
  reactions : List Call → Call → List String := fun _ _ => []
  /-- Whether the link closes without a failure. -/
  closing : Except Failure Unit := .ok ()

/-- A monad in which commands can be asked and answered. -/
class Wire (m : Type → Type) where
  /-- The answer to a command. -/
  ask : String → m (Except Failure String)
  /-- Gives up because calls are nested too deeply. -/
  overrun : {α : Type} → m α

/-- The answer to a command, or the failure of the request. -/
def Wire.request {m : Type → Type} [Wire m] (command : String) : ExceptT Failure m String :=
  ExceptT.mk (ask command)

instance {m : Type → Type} {σ : Type} [Monad m] [Wire m] : Wire (StateT σ m) where
  ask command := StateT.lift (Wire.ask command)
  overrun := StateT.lift Wire.overrun

/-- A command and its answer. -/
structure Exchange where
  command : String
  answer : Except Failure String

/-- Asking a peer, with the exchanges so far, the last one first. -/
abbrev Dialogue := ReaderT Peer (EStateM Halt (List Exchange))

instance : Wire Dialogue where
  ask command := do
    let past := (← get).map fun e => Call.request e.command
    let answer := (← read).answer past command
    modify (⟨command, answer⟩ :: ·)
    return answer
  overrun := throw .overrun

end DebugLink
