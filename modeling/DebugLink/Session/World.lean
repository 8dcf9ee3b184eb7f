import DebugLink.Session.Basic
import DebugLink.Breakpoint.Bound
import DebugLink.Output.Notice
import DebugLink.Peer.Basic

/-!
# A session and its surroundings

A session talks to a peer and tells a host what happens. All of that is recorded, with the last
event first, so that what an operation did can be read off afterwards. Operations are steps on
the session together with its record; they end with a value or stop short.

A peer may deliver records before a call to it returns. The link holds what is done with them, and
with the notices that answers contain: both run one level deeper than the call.

* `holding_ok`: what is held during a step is given back after it.
-/

namespace DebugLink

open Breakpoint

/-- How important a message is. -/
inductive MessageLevel
  | info
  | warning
  | error
  deriving DecidableEq, Repr

/-- How important a line of the log is. -/
inductive LogLevel
  | error
  | warn
  | info
  | debug
  | trace
  deriving DecidableEq, Repr

/-- What the host is told. -/
inductive HostCall
  | breakpointHit (thread : Nat) (ids : List Nat)
  | asyncBreakComplete (thread : Nat)
  | stepCompleted
  | moduleLoaded
  | threadCreated (thread : Nat)
  | sessionEnded (code : Nat)
  | threadSelected (thread : Nat)
  /-- The line is the one that gdb gave. -/
  | currentLocation (thread : Nat) (file : String) (line : Nat)
  /-- The line is counted from zero. -/
  | documentContext (file : String) (line : Nat)
  | threadListOutdated
  | threadCachesOutdated
  | stackFramesOutdated
  | message (level : MessageLevel) (title text : String)
  | output (stream : Output.Stream) (text : String)
  deriving DecidableEq, Repr

/-- What happened during a session. -/
inductive Event
  | submitted (command : String)
  | requested (command : String) (answer : Except Failure String)
  /-- The peer delivered this before a call returned. -/
  | delivered (delivery : String)
  | closed
  | logged (level : LogLevel) (text : String)
  /-- The host was told this, and could look at the session as it was then. -/
  | told (call : HostCall) (session : Session)
  /-- The command line printed this. -/
  | printed (isError : Bool) (text : String)

/-- A session, the breakpoints bound to it, and what happened so far, the last of it first. -/
structure World where
  session : Session := {}
  bound : List Bound := []
  sent : List Call := []
  events : List Event := []

/-- What a session is linked to. The last three fields run one level deeper. -/
structure Link where
  peer : Peer
  config : Config
  /-- Handles what the peer delivers before a call returns. -/
  deliver : String → EStateM Halt World Unit
  /-- Handles a hit count that gdb reports. -/
  recount : (id hits : Nat) → EStateM Halt World Unit
  /-- Handles a hit. -/
  hit : (id : Nat) → (file : String) → (line thread : Nat) → EStateM Halt World Unit

/-- A step of a session over a link. -/
abbrev Act := ReaderT Link (EStateM Halt World)

namespace Act

/-- What the session knows. -/
def session : Act Session := return (← get).session

/-- Changes what the session knows. -/
def update (f : Session → Session) : Act Unit := modify fun w => { w with session := f w.session }

/-- Records what happened. -/
def record (event : Event) : Act Unit := modify fun w => { w with events := event :: w.events }

/-- Tells the host. -/
def tell (call : HostCall) : Act Unit := do record (.told call (← session))

/-- Writes a line of the log. -/
def log (level : LogLevel) (text : String) : Act Unit := record (.logged level text)

/-- Stops with a failure. -/
def fail {α : Type} (cause : Failure) : Act α := throw (.failed cause)

/-- Gives the value or stops with the failure. -/
def settle {α : Type} : Except Failure α → Act α
  | .ok value => pure value
  | .error cause => fail cause

/-- Runs a step and gives its value or its failure. -/
def attempt {α : Type} (act : Act α) : Act (Except Failure α) := fun link w =>
  match act link w with
  | .ok value w => .ok (.ok value) w
  | .error (.failed cause) w => .ok (.error cause) w
  | .error halt w => .error halt w

/-- Runs a step while something is held that is given back whatever becomes of the step. What is
held already by a caller of the step cannot be waited for. -/
def holding {α : Type} (take : World → Option World) (give : World → World) (act : Act α) :
    Act α :=
  fun link w =>
    match take w with
    | none => .error .blocked w
    | some w =>
      match act link w with
      | .ok value w => .ok value (give w)
      | .error .blocked w => .error .blocked w
      | .error halt w => .error halt (give w)

theorem holding_ok {α : Type} {take : World → Option World} {give : World → World}
    {act : Act α} {link : Link} {w w' : World} {value : α}
    (h : holding take give act link w = .ok value w') :
    ∃ v v', take w = some v ∧ act link v = .ok value v' ∧ w' = give v' := by
  simp only [holding] at h
  split at h
  · simp at h
  · split at h
    · simp only [EStateM.Result.ok.injEq] at h
      obtain ⟨rfl, rfl⟩ := h
      exact ⟨_, _, by assumption, by assumption, rfl⟩
    · simp at h
    · simp at h

/-- The breakpoint bound in this place. -/
def bound (i : Nat) : Act Bound := do
  match (← get).bound[i]? with
  | some b => return b
  | none => throw .assertion

/-- Changes the breakpoint bound in this place. -/
def updateBound (i : Nat) (f : Bound → Bound) : Act Unit :=
  modify fun w => { w with bound := w.bound.modify i f }

/-- The place of the first breakpoint bound to a number of gdb. -/
def findBound? (id : Nat) : Act (Option Nat) := return (← get).bound.findIdx? (·.gdbId == id)

/-- Runs a step inside the critical region. -/
def inRegion {α : Type} (act : Act α) : Act α :=
  holding
    (fun w => w.session.critical.tryTake.map fun critical =>
      { w with session := { w.session with critical } })
    (fun w => { w with session := { w.session with critical := w.session.critical.release } }) act

/-- The world with gates of a bound breakpoint held, when all of them were free. -/
def takeGates (i : Nat) (gates : Gates) (w : World) : Option World :=
  (w.bound[i]?.bind (·.tryHold gates)).map fun b => { w with bound := w.bound.set i b }

/-- The world with gates of a bound breakpoint given back. -/
def giveGates (i : Nat) (gates : Gates) (w : World) : World :=
  { w with bound := w.bound.modify i (·.free gates) }

/-- Runs a step while gates of a bound breakpoint are held. -/
def withGates {α : Type} (i : Nat) (gates : Gates) (act : Act α) : Act α :=
  holding (takeGates i gates) (giveGates i gates) act

/-- Handles one delivery that arrives before a call returns. -/
def takeDelivery (delivery : String) : Act Unit := do
  record (.delivered delivery)
  fun link => link.deliver delivery

/-- Handles what the peer delivers before a call returns. -/
def react (past : List Call) (call : Call) : Act Unit := do
  ((← read).peer.reactions past call).forM takeDelivery

/-- Sends a command that nobody waits for. -/
def submit (command : String) : Act Unit := do
  let past := (← get).sent
  let call := Call.submit command
  record (.submitted command)
  modify fun w => { w with sent := call :: w.sent }
  settle ((← read).peer.accept past command)
  react past call

/-- Sends a command and waits for its answer. -/
def request (command : String) : Act String := do
  let past := (← get).sent
  let call := Call.request command
  let answer := (← read).peer.answer past command
  record (.requested command answer)
  modify fun w => { w with sent := call :: w.sent }
  react past call
  settle answer

/-- Closes the link. -/
def close : Act Unit := do
  record .closed
  settle (← read).peer.closing

end Act

instance : Wire Act where
  ask command := Act.attempt (Act.request command)
  overrun := throw .overrun

/-- Runs a query about variables over the link of the session. -/
def Act.query {α : Type} (query : ExceptT Failure Act α) : Act α := do settle (← query.run)

end DebugLink
