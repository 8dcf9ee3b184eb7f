import Mathlib.Data.List.Infix
import DebugLink.Proofs.Lifetime

/-!
# Malformed records

A record that the reader of its topic rejects is dropped: it is logged, and besides that at most the
interrupts of gdb are forgotten. Nothing that a session does depends on what was logged before, so
such a record may stand anywhere in a delivery.

* `Malformed`, `receive_malformed`: what such a record is and all that it does.
* `twin_nested`: every step does the same whatever the log holds, at any depth of nested calls.
* `Interspersed`: records among others that are malformed.
* `malformed_alone`: a malformed record fails alone, and a delivery is handled as if there was none.
-/

namespace DebugLink

open Act Record Text

/-- **A malformed record**, with the defect that the reader of its topic finds. -/
def Malformed (record : String) (defect : Defect) : Prop :=
  match Topic.ofRecord record with
  | .breakpoint => Breakpoint.Notice.read record = .error defect
  | .execution => Execution.Notice.read record = .error defect
  | .output => Output.Notice.read record = .error defect
  | .ignored => False

section Dropped

variable {record : String} {defect : Defect}

/-- No handler does anything before its record was read. -/
theorem handleRecord_malformed (h : Malformed record defect) (link : Link) (w : World) :
    handleRecord record link w = .error (.failed (.record defect)) w := by
  unfold Malformed at h
  unfold handleRecord
  split at h
  · rename_i topic
    rw [topic]
    dsimp only
    rw [discard_eq_bind, handleBreakpoint, h]
    rfl
  · rename_i topic
    rw [topic]
    dsimp only
    rw [discard_eq_bind, handleExecution, h]
    rfl
  · rename_i topic
    rw [topic]
    dsimp only
    rw [discard_eq_bind, handleOutput, h]
    rfl
  · exact h.elim

/-- **A malformed record** is logged, and gdb's interrupts are forgotten if any other record would
have them forgotten. -/
theorem receive_malformed (h : Malformed record defect) (link : Link) (w : World) :
    receive record link w = .ok () { w.receiving record with
      events := .logged .warn ("dropping " ++ quoted record ++ ": " ++ defect.message) ::
        w.events } := by
  have events : (w.receiving record).events = w.events := by
    unfold World.receiving
    split <;> rfl
  have failed : attempt (handleRecord record) link (w.receiving record) =
      .ok (.error (.record defect)) (w.receiving record) := by
    rw [attempt_apply, handleRecord_malformed h]
  rw [receive_apply, bind_ok failed, ← events]
  rfl

end Dropped

/-! ## What does not depend on the log -/

/-- Whether an event is a line of the log. -/
def Event.isLogged : Event → Bool
  | logged _ _ => true
  | _ => false

/-- A world without what was logged. -/
def World.unlogged (w : World) : World :=
  { w with events := w.events.filter fun e => !e.isLogged }

/-- How a step ends, but for what was logged. -/
def Act.seen {α : Type} (act : Act α) (link : Link) (w : World) : Except Halt α × World :=
  match act link w with
  | .ok value v => (.ok value, v.unlogged)
  | .error halt v => (.error halt, v.unlogged)

theorem World.session_of_unlogged {v w : World} (same : v.unlogged = w.unlogged) :
    v.session = w.session := (congrArg World.session same :)

theorem World.bound_of_unlogged {v w : World} (same : v.unlogged = w.unlogged) :
    v.bound = w.bound := (congrArg World.bound same :)

open Pairing

/-- A link beside itself, with worlds that differ in the log alone. -/
def twin (link : Link) : Pairing :=
  ⟨link, link, fun v w => v.unlogged = w.unlogged, fun _ => False⟩

section Twin

variable {α : Type} {link : Link}

theorem twin_modify {f g : World → World} (h : ∀ w, (f w).unlogged = g w.unlogged) :
    (twin link).Lockstep (modify f : Act PUnit) := by
  refine ⟨fun _ parted => parted, fun v w same => .inr (.ok _ ?_)⟩
  show (f v).unlogged = (f w).unlogged
  rw [h, h, same]

theorem twin_update (f : Session → Session) : (twin link).Lockstep (update f) :=
  twin_modify (g := fun w => { w with session := f w.session }) fun _ => rfl

/-- A line of the log is the one event by which the two worlds may differ. -/
theorem twin_record (e : Event) : (twin link).Lockstep (record e) := by
  cases logged : e.isLogged with
  | true =>
    refine twin_modify (g := id) fun w => ?_
    unfold World.unlogged
    rw [List.filter_cons_of_neg (by simp [logged])]
    rfl
  | false =>
    refine twin_modify (g := fun w => { w with events := e :: w.events }) fun w => ?_
    unfold World.unlogged
    rw [List.filter_cons_of_pos (by simp [logged])]

theorem twin_sent (call : Call) :
    (twin link).Lockstep (modify fun w => { w with sent := call :: w.sent } : Act PUnit) :=
  twin_modify (g := fun w => { w with sent := call :: w.sent }) fun _ => rfl

/-- A step may look at all of a world but the log. -/
theorem twin_get {next : World → Act α} (looks : ∀ w, next w = next w.unlogged)
    (each : ∀ w, (twin link).Lockstep (next w)) : (twin link).Lockstep (get >>= next) := by
  refine ⟨fun w parted => (each w).parted w parted, fun v w same => ?_⟩
  have e : next v = next w := by rw [looks v, looks w, same]
  show _ ∨ (twin link).SameEnd (next v link v) (next w link w)
  rw [e]
  exact (each w).same v w same

theorem twin_look {next : Session → Act α} (each : ∀ s, (twin link).Lockstep (next s)) :
    (twin link).Lockstep (session >>= next) := by
  show (twin link).Lockstep (get >>= fun w => next w.session)
  exact twin_get (fun _ => rfl) fun w => each w.session

theorem twin_read {next : Link → Act α} (each : (twin link).Lockstep (next link)) :
    (twin link).Lockstep (read >>= next) := ⟨each.parted, each.same⟩

theorem twin_tell (call : HostCall) : (twin link).Lockstep (tell call) :=
  twin_look fun _ => twin_record _

/-- Both sessions end together. -/
theorem twin_finish (code : Nat) : (twin link).Lockstep (finish code) := by
  unfold finish
  refine twin_look fun s => ?_
  split
  · refine (twin_update _).bind fun _ => (twin_record _).bind fun _ => (twin_update _).bind fun _ =>
      (twin_update _).bind fun _ => (twin_tell _).bind fun _ => ?_
    have closed : (twin link).Lockstep close :=
      (twin_record _).bind fun _ => twin_read (.settle _)
    refine closed.attempt.bind fun outcome => ?_
    split
    · exact .pure _
    · exact twin_record _
  · exact .pure _

section Nested

variable (nested : (twin link).Nested)

include nested

theorem twin_react (past : List Call) (call : Call) : (twin link).Lockstep (react past call) :=
  twin_read <| .forM fun delivery _ =>
    (twin_record _).bind fun _ => nested.deliver delivery

theorem twin_submit (command : String) : (twin link).Lockstep (submit command) :=
  twin_get (fun _ => rfl) fun _ => (twin_record _).bind fun _ => (twin_sent _).bind fun _ =>
    twin_read <| (Lockstep.settle _).bind fun _ => twin_react nested _ _

theorem twin_request (command : String) : (twin link).Lockstep (request command) :=
  twin_get (fun _ => rfl) fun _ => twin_read <| (twin_record _).bind fun _ =>
    (twin_sent _).bind fun _ => (twin_react nested _ _).bind fun _ => .settle _

/-- Both are resumed together. -/
theorem twin_resume : (twin link).Lockstep resume := by
  unfold resume
  refine twin_look fun s => ?_
  split
  · exact .pure _
  · exact (twin_update _).bind fun _ => (twin_update _).bind fun _ => twin_read <|
      (twin_submit nested _).attempt.bind fun _ => (twin_update _).bind fun _ =>
        (twin_update _).bind fun _ => .settle _

omit nested in
/-- Both wait for the same interruption. -/
theorem twin_awaitInterrupt : (twin link).Lockstep awaitInterrupt := by
  unfold awaitInterrupt
  refine twin_look fun s => ?_
  split
  · exact .pure _
  · exact .halt _
  · refine twin_read ?_
    split <;> exact .halt _
  · refine twin_read ?_
    split <;> exact .halt _

/-- Both are interrupted together, or find the gate closed. -/
theorem twin_interrupt : (twin link).Lockstep interrupt := by
  have awaited : (twin link).Lockstep (attempt (submit "-exec-interrupt" >>= fun _ =>
      awaitInterrupt) >>= fun outcome =>
        update (fun s => { s with breakAll := s.breakAll.release }) >>= fun _ => settle outcome) :=
    ((twin_submit nested _).bind fun _ => twin_awaitInterrupt).attempt.bind fun _ =>
      (twin_update _).bind fun _ => .settle _
  unfold interrupt
  refine twin_look fun s => ?_
  split
  · refine (twin_update _).bind fun _ => twin_look fun t => ?_
    split
    · exact (Lockstep.halt _).bind fun _ => awaited
    · exact (twin_update _).bind fun _ => awaited
  · exact .pure _

/-- **What the host is told** does not depend on the log. -/
theorem twin_telling : (twin link).Telling where
  config := rfl
  view same := congrArg Session.view (World.session_of_unlogged same)
  bound same := World.bound_of_unlogged same
  change c _ _ := twin_update c.apply
  phase _ := twin_update _
  rebind f := twin_modify (g := fun w => { w with bound := f w.bound }) fun _ => rfl
  log _ _ := twin_record _
  request := twin_request nested
  resume := twin_resume nested
  finish := twin_finish
  hit := nested.hit
  pass call _ _ := twin_tell call
  stop call _ := twin_tell call
  lost := twin_tell _
  count _ := twin_update _

/-- **Edits** do not depend on the log. -/
theorem twin_edits : (twin link).EditBasis :=
  { (twin_telling nested).toGround, (twin_telling nested).basis with
    flag := fun _ => twin_update _
    interrupt := twin_interrupt nested
    whenRunning := by
      intro α next other hn ho
      unfold isRunning
      rw [bind_assoc]
      refine twin_look fun s => ?_
      rw [pure_bind]
      split
      · exact ((twin_telling nested).toGround.pauseForEdit (fun _ => twin_update _)
          (twin_interrupt nested)).bind (hn _)
      · exact ho _
    recount := nested.recount }

end Nested

end Twin

/-- **What is nested in a call** does not depend on the log. -/
theorem twin_nested (peer : Peer) (config : Config) (depth : Nat) :
    (twin (.within peer config depth)).Nested := by
  show (level peer peer config (fun v w => v.unlogged = w.unlogged) (fun _ => False) depth).Nested
  exact nested_within (fun _ nested => twin_edits nested)
    (fun _ nested => (twin_telling nested).handleHit (twin_edits nested).stopAtHit) depth

/-! ## Deliveries with malformed records among the others -/

/-- **Records among others that are malformed.** The others may stand anywhere. -/
inductive Interspersed : List String → List String → Prop
  | nil : Interspersed [] []
  | keep (record : String) {records mixed : List String} :
      Interspersed records mixed → Interspersed (record :: records) (record :: mixed)
  | insert {record : String} {defect : Defect} (malformed : Malformed record defect)
      {records mixed : List String} :
      Interspersed records mixed → Interspersed records (record :: mixed)

/-- Where no interrupts of gdb were counted, a malformed record is only logged. -/
theorem receiveAlive_malformed {record : String} {defect : Defect} (h : Malformed record defect)
    (link : Link) {w : World} (uncounted : w.session.quits = 0) :
    ∃ v, receiveAlive record link w = .ok () v ∧ v.unlogged = w.unlogged := by
  have same : w.receiving record = w := World.receiving_of_uncounted uncounted record
  unfold receiveAlive
  rw [look_apply]
  split
  · refine ⟨_, receive_malformed h link w, ?_⟩
    rw [same]
    rfl
  · exact ⟨w, rfl, rfl⟩

/-- What is seen of two acts is what is seen of each, in turn. -/
theorem seen_bind {α β : Type} (act : Act α) (next : α → Act β) (link : Link) (w : World) :
    (act >>= next).seen link w = match act link w with
      | .ok value v => (next value).seen link v
      | .error halt v => (.error halt, v.unlogged) := by
  unfold seen
  rw [bind_apply]
  cases act link w <;> rfl

section Mixed

variable (peer : Peer) (config : Config) (depth : Nat)

theorem receiveAlive_twin (record : String) :
    (twin (.within peer config depth)).Lockstep (receiveAlive record) := by
  have edits := twin_edits (twin_nested peer config depth)
  exact edits.toBasis.receiveAlive (edits.handleBreakpoint record)

/-- Records are handled alike whether malformed ones stand among them or not. -/
theorem seen_interspersed {records mixed : List String} (h : Interspersed records mixed) :
    ∀ {v w : World}, v.unlogged = w.unlogged →
      (∀ before, before <+: records → ((before.forM receiveAlive : Act PUnit).after
        (.within peer config depth) v).session.quits = 0) →
      (records.forM receiveAlive : Act PUnit).seen (.within peer config depth) v =
        (mixed.forM receiveAlive : Act PUnit).seen (.within peer config depth) w := by
  -- a malformed record between two others only writes its line, so the worlds stay twins
  induction h with
  | nil =>
    intro v w same _
    exact congrArg (Except.ok PUnit.unit, ·) same
  | @keep record records mixed _ ih =>
    intro v w same uncounted
    show (receiveAlive record >>= fun _ => records.forM receiveAlive : Act PUnit).seen _ v =
      (receiveAlive record >>= fun _ => mixed.forM receiveAlive : Act PUnit).seen _ w
    rw [seen_bind, seen_bind]
    have handled := ((receiveAlive_twin peer config depth record).same v w same).resolve_left id
    have later : ∀ before, before <+: records → ∀ u, receiveAlive record
        (.within peer config depth) v = .ok () u → ((before.forM receiveAlive : Act PUnit).after
          (.within peer config depth) u).session.quits = 0 := by
      intro before leads u e
      have counted := uncounted (record :: before) (List.cons_prefix_cons.2 ⟨rfl, leads⟩)
      have first : ((record :: before).forM receiveAlive : Act PUnit) =
          (receiveAlive record >>= fun _ => before.forM receiveAlive : Act PUnit) := rfl
      rw [first, after_bind, e] at counted
      exact counted
    dsimp only [twin] at handled
    generalize receiveAlive record (.within peer config depth) v = l at handled later
    generalize receiveAlive record (.within peer config depth) w = r at handled
    cases handled with
    | ok value same => exact ih same fun before leads => later before leads _ rfl
    | error halt same => exact congrArg (Except.error halt, ·) same
  | @insert record defect malformed records mixed _ ih =>
    intro v w same uncounted
    have none : w.session.quits = 0 := by
      rw [← World.session_of_unlogged same]
      exact uncounted [] List.nil_prefix
    obtain ⟨u, dropped, unseen⟩ :=
      receiveAlive_malformed malformed (.within peer config depth) none
    show _ = (receiveAlive record >>= fun _ => mixed.forM receiveAlive : Act PUnit).seen _ w
    rw [seen_bind, dropped]
    exact ih (same.trans unseen.symm) uncounted

end Mixed

/-- **A malformed record fails alone.** Over any link and in any session, a record that the reader
of its topic rejects leaves nothing but a line of the log, and has gdb's interrupts forgotten if any
other record would; no breakpoint is touched, nothing is sent and the host is told nothing. So such
records may be inserted anywhere into a delivery during which no interrupts of gdb are counted:
whatever the peer does, the delivery is handled to the same end, with the same session and
breakpoints, the same commands and the same events but for the log. -/
theorem malformed_alone (peer : Peer) (config : Config) (depth : Nat) (w : World) :
    let link := Link.within peer config depth
    (∀ record defect, Malformed record defect →
      receive record link w = .ok () { w.receiving record with
        events := .logged .warn ("dropping " ++ quoted record ++ ": " ++ defect.message) ::
          w.events }) ∧
      ∀ delivery mixed, Interspersed (recordsOf delivery) (recordsOf mixed) →
        (∀ before, before <+: recordsOf delivery →
          ((before.forM receiveAlive : Act PUnit).after link w).session.quits = 0) →
        (deliver mixed).seen link w = (deliver delivery).seen link w := by
  intro link
  refine ⟨fun record defect h => receive_malformed h link w, ?_⟩
  intro delivery mixed interspersed uncounted
  exact (seen_interspersed peer config depth interspersed rfl uncounted).symm

set_option maxRecDepth 100000 in
/-- A hit whose number cannot be read and a stop without a place stand before and after a hit that
is told to the host: they add two lines to the log, and nothing else is seen of them. -/
theorem malformed_alone_hit :
    let link := Link.within ({} : Script).peer {} 2
    let w : World :=
      { session := { phase := .running }, bound := [{ gdbId := 1, location := .function "main" }] }
    let delivery := "27;1;a.c;5;2\r\n41;2"
    let mixed := "27;x;a.c;5;2\r\n27;1;a.c;5;2\r\n44;0x1\r\n41;2"
    let v := (deliver mixed).after link w
    (Malformed "27;x;a.c;5;2" (.notNumeric "27;x;a.c;5;2" "id" "x") ∧
        Malformed "44;0x1" (.missing "44;0x1" "address") ∧
        Interspersed (recordsOf delivery) (recordsOf mixed) ∧
        ∀ before, before <+: recordsOf delivery →
          ((before.forM receiveAlive : Act PUnit).after link w).session.quits = 0) ∧
      (deliver mixed).seen link w = (deliver delivery).seen link w ∧
      v.calls.contains (.breakpointHit 2 [1]) = true ∧
      v.events.length = ((deliver delivery).after link w).events.length + 2 := by
  intro link w delivery mixed v
  have number : Malformed "27;x;a.c;5;2" (.notNumeric "27;x;a.c;5;2" "id" "x") := rfl
  have place : Malformed "44;0x1" (.missing "44;0x1" "address") := rfl
  have records : recordsOf delivery = ["27;1;a.c;5;2", "41;2"] := by decide +kernel
  have mixedRecords : recordsOf mixed = ["27;x;a.c;5;2", "27;1;a.c;5;2", "44;0x1", "41;2"] := by
    decide +kernel
  have interspersed : Interspersed (recordsOf delivery) (recordsOf mixed) := by
    rw [records, mixedRecords]
    exact .insert number <| .keep _ <| .insert place <| .keep _ .nil
  have uncounted : ∀ before, before <+: recordsOf delivery →
      ((before.forM receiveAlive : Act PUnit).after link w).session.quits = 0 := by
    intro before leads
    rw [records, ← List.mem_inits] at leads
    revert before
    decide +kernel
  exact ⟨⟨number, place, interspersed, uncounted⟩,
    (malformed_alone ({} : Script).peer {} 2 w).2 delivery mixed interspersed uncounted,
    by decide +kernel, by decide +kernel⟩

end DebugLink
