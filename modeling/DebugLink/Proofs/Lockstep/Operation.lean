import DebugLink.Proofs.Lockstep.Edit

/-!
# Everything a session can be asked to do, in lockstep

A session is used through its operations: some are called by its host, others handle what arrives
over the link. A run is a list of them; an operation that stops short leaves the world in which it
stopped to the next.

* `EditBasis.operation`: every operation runs in lockstep.
-/

namespace DebugLink

open Breakpoint

/-- What a session can be asked to do. -/
inductive Operation
  | deliver (delivery : String)
  | receive (record : String)
  /-- The queue is handled, unless the reader was asked to stop before. -/
  | pump (stopped : Bool) (queue : List Pull)
  | supervise (queue : List Pull)
  | launch
  | resume
  | interrupt
  | pauseForEdit
  | resumeAfterEdit
  | step (kind : Act.StepKind)
  | stackDepth (thread : Nat)
  | selectThread (thread : Nat)
  | kill
  | finish (code : Nat)
  | insert (location : Location)
  | delete (id : Nat)
  | enable (id : Nat) (enabled : Bool)
  | setGdbCondition (id : Nat) (condition : String)
  | stopAtHit (id : Nat) (n : Int)
  | judgeHit (id thread : Nat)
  | setPassCount (i : Nat) (c : PassCount)
  | setCondition (i : Nat) (c : Condition)
  | setHitCount (i hits : Nat)
  | resetHitCount (i : Nat) (resetCondition : Bool)
  | updateHitCount (id hits : Nat)
  | refreshThreads
  | countQuit
  | setThread (thread : Nat)
  | setThreadLocation (thread : Nat) (file : String) (line : Nat)
  | publishLocation (file : String) (line : Nat)
  | completeStep (file : String) (line : Nat)
  | stopOnInterrupt (thread : Nat) (file : String) (line : Nat)
  /-- A command is sent without the session. -/
  | request (command : String)
  /-- A part of the session is set. -/
  | change (c : Change)
  /-- The host binds breakpoints and unbinds others. -/
  | bind (bounds : List Bound)

namespace Operation

/-- The step that an operation is, less its value. -/
def act : Operation → Act Unit
  | deliver delivery => Act.deliver delivery
  | receive record => Act.receive record
  | pump stopped queue => discard <| Act.pump stopped queue
  | supervise queue => Act.supervise queue
  | launch => Act.launch
  | resume => Act.resume
  | interrupt => Act.interrupt
  | pauseForEdit => Act.pauseForEdit
  | resumeAfterEdit => Act.resumeAfterEdit
  | step kind => Act.step kind
  | stackDepth thread => discard <| Act.stackDepth thread
  | selectThread thread => discard <| Act.selectThread thread
  | kill => discard Act.kill
  | finish code => Act.finish code
  | insert location => discard <| Act.insert location
  | delete id => discard <| Act.delete id
  | enable id enabled => discard <| Act.enable id enabled
  | setGdbCondition id condition => discard <| Act.setGdbCondition id condition
  | stopAtHit id n => discard <| Act.stopAtHit id n
  | judgeHit id thread => Act.judgeHit id thread
  | setPassCount i c => Act.setPassCount i c
  | setCondition i c => Act.setCondition i c
  | setHitCount i hits => Act.setHitCount i hits
  | resetHitCount i resetCondition => discard <| Act.resetHitCount i resetCondition
  | updateHitCount id hits => Act.updateHitCount id hits
  | refreshThreads => Act.refreshThreads
  | countQuit => discard Act.countQuit
  | setThread thread => Act.setThread thread
  | setThreadLocation thread file line => Act.setThreadLocation thread file line
  | publishLocation file line => Act.publishLocation file line
  | completeStep file line => Act.completeStep file line
  | stopOnInterrupt thread file line => Act.stopOnInterrupt thread file line
  | request command => discard <| Act.request command
  | change c => Act.update c.apply
  | bind bounds => modify fun w => { w with bound := bounds }

/-- The world after operations in a row. -/
def run (link : Link) (ops : List Operation) (w : World) : World :=
  ops.foldl (fun w op => op.act.after link w) w

end Operation

namespace Pairing.EditBasis

open Act

variable {p : Pairing} (b : p.EditBasis)

include b

theorem receive (record : String) : p.Lockstep (receive record) :=
  b.toBasis.receive (b.handleBreakpoint record)

/-- A failed pull logs its cause and ends the session. -/
theorem pullFailed (cause : Failure) : p.Lockstep (pullFailed cause) := by
  unfold Act.pullFailed
  extract_lets ended
  have h_ended : ∀ r, p.Lockstep (ended r) := fun _ => b.finish 0
  split
  · exact (b.log _ _).bind h_ended
  · exact (b.log _ _).bind h_ended

/-- The pump keeps step over any queue: each pull is delivered before the next one is looked at. -/
theorem pump (stopped : Bool) (queue : List Pull) : p.Lockstep (pump stopped queue) := by
  induction queue generalizing stopped with
  | nil =>
    cases stopped with
    | true => unfold Act.pump; exact .pure _
    | false =>
      unfold Act.pump
      refine b.look (fun _ => rfl) fun s => ?_
      extract_lets drained
      have h_drained : ∀ r, p.Lockstep (drained r) := fun _ => .pure _
      split
      · exact (b.pullFailed .linkClosed).bind h_drained
      · exact h_drained ()
  | cons pull queue ih =>
    cases stopped with
    | true => unfold Act.pump; exact .pure _
    | false =>
      unfold Act.pump
      refine b.look (fun _ => rfl) fun s => ?_
      split
      · cases pull with
        | delivery delivery => exact (b.deliver' delivery).bind fun _ => ih false
        | nothing => exact ih false
        | stop => exact ih true
        | failure cause => exact (b.pullFailed cause).bind fun _ => .pure _
      · exact .pure _

/-- A pump that fails is logged and nothing else. -/
theorem supervise (queue : List Pull) : p.Lockstep (supervise queue) := by
  have h := b.pump false queue
  have log := b.log .error "dispatcher thread panicked"
  have after : ∀ w, (Act.supervise queue).after p.right w = (Act.pump false queue).after p.right w ∨
      (Act.supervise queue).after p.right w = (Act.log .error "dispatcher thread panicked").after
        p.right ((Act.pump false queue).after p.right w) := by
    intro w
    unfold Act.after Act.supervise
    cases Act.pump false queue p.right w with
    | ok rest u => exact .inl rfl
    | error halt u => cases halt with
      | assertion => exact .inr rfl
      | failed cause => exact .inl rfl
      | blocked => exact .inl rfl
      | overrun => exact .inl rfl
  have parted : ∀ w, p.Parted ((Act.pump false queue).after p.right w) →
      p.Parted ((Act.supervise queue).after p.right w) := by
    intro w hw
    rcases after w with e | e <;> rw [e]
    · exact hw
    · exact log.parted _ hw
  constructor
  · exact fun w hw => parted w (h.parted w hw)
  · intro v w hr
    rcases h.same v w hr with hp | he
    · exact .inl (parted w hp)
    · unfold Act.after Act.supervise
      generalize Act.pump false queue p.left v = l at he
      generalize Act.pump false queue p.right w = r at he
      cases he with
      | ok rest hu => exact .inr (.ok () hu)
      | error halt hu => cases halt with
        | assertion => exact log.same _ _ hu
        | failed cause => exact .inr (.error _ hu)
        | blocked => exact .inr (.error _ hu)
        | overrun => exact .inr (.error _ hu)

/-- **Every operation runs in lockstep**, if the host is told in lockstep and the commands that move
a thread are sent so. -/
theorem operation (t : p.Telling) (move : ∀ m : Motion, p.Lockstep (submit m.command))
    (op : Operation) : p.Lockstep op.act := by
  -- one case for each operation the front end or the dispatcher may call
  cases op with
  | deliver delivery => exact b.deliver' delivery
  | receive record => exact b.receive record
  | pump stopped queue => exact (b.pump stopped queue).discard
  | supervise queue => exact b.supervise queue
  | launch =>
    exact (b.setPhase _).bind fun _ => (b.setRunMode _).bind fun _ =>
      (t.tell _ rfl).bind fun _ => move .run
  | resume => exact b.resume
  | interrupt => exact b.interrupt
  | pauseForEdit => exact b.pauseForEdit
  | resumeAfterEdit => exact b.resumeAfterEdit
  | step kind => exact b.step move kind
  | stackDepth thread => exact (b.stackDepth thread).discard
  | selectThread thread => exact (b.request _).discard
  | kill => exact (b.request _).discard
  | finish code => exact b.finish code
  | insert location => exact (b.insert location).discard
  | delete id => exact (b.delete id).discard
  | enable id enabled => exact (b.enable id enabled).discard
  | setGdbCondition id condition => exact (b.setGdbCondition id condition).discard
  | stopAtHit id n => exact (b.stopAtHit id n).discard
  | judgeHit id thread => exact b.judgeHit (t.reportHit b.stopAtHit) id thread
  | setPassCount i c => exact b.setPassCount i c
  | setCondition i c => exact b.setCondition i c
  | setHitCount i hits => exact b.setHitCount i hits
  | resetHitCount i resetCondition => exact (b.resetHitCount i resetCondition).discard
  | updateHitCount id hits => exact b.updateHitCount id hits
  | refreshThreads => exact t.refreshThreads
  | countQuit => exact t.countQuit.discard
  | setThread thread => exact t.setThread thread
  | setThreadLocation thread file line => exact t.setThreadLocation thread file line
  | publishLocation file line => exact t.publishLocation file line
  | completeStep file line => exact t.completeStep file line
  | stopOnInterrupt thread file line => exact t.stopOnInterrupt thread file line
  | request command => exact (b.request command).discard
  | change c => exact t.changes c
  | bind bounds => exact b.rebind fun _ => bounds

end Pairing.EditBasis

end DebugLink
