import DebugLink.Proofs.Lockstep.Invariant
import DebugLink.Proofs.Steps
import DebugLink.Peer.Script

/-!
# The lifetime of a session

A session ends once, whoever asks for it: the host is told of the end and the link is closed as
often as the session stopped being alive. After that nothing that arrives over the link has any
effect.

* `Orderly`: the ends told, the links closed and the session being alive go together.
* `orderly_run`: every run keeps a session orderly, whatever the peer does meanwhile.
* `deliver_dead`, `deliver_of_prefix`: a session that has ended is silent, also for the rest of the
  delivery in which it ended.
* `session_ends_once`: the lifetime of a session.
-/

namespace DebugLink

open Act

/-- How often the host was told that the session ended. -/
def World.endings (w : World) : Nat :=
  w.events.countP fun e => match e with
    | .told (.sessionEnded _) _ => true
    | _ => false

/-- How often the link was closed. -/
def World.closings (w : World) : Nat :=
  w.events.countP fun e => match e with
    | .closed => true
    | _ => false

/-- **An orderly session**: it was ended and its link closed once if it is not alive, and neither if
it is; and it was alive before if it is now. -/
structure Orderly (origin w : World) : Prop where
  endings : w.endings = if w.session.alive then 0 else 1
  closings : w.closings = w.endings
  alive : w.session.alive → origin.session.alive

namespace Orderly

variable {origin w v : World}

/-- Everything besides being alive and the ends of the session may change. -/
theorem congr (h : Orderly origin w) (ha : v.session.alive = w.session.alive)
    (he : v.endings = w.endings) (hc : v.closings = w.closings) : Orderly origin v where
  endings := by rw [he, ha]; exact h.endings
  closings := by rw [hc, he]; exact h.closings
  alive hv := h.alive (ha ▸ hv)

theorem note (h : Orderly origin w) {e : Event} (he : e.endsSession = false) :
    Orderly origin { w with events := e :: w.events } := by
  refine h.congr rfl (List.countP_cons_of_neg ?_) (List.countP_cons_of_neg ?_)
  · intro ht
    split at ht
    · exact absurd he (by simp [Event.endsSession])
    · exact absurd ht (by simp)
  · intro ht
    split at ht
    · exact absurd he (by simp [Event.endsSession])
    · exact absurd ht (by simp)

end Orderly

/-- Nothing but the end of a session has to do with being orderly. -/
theorem orderly_pliant (origin : World) : Pairing.Pliant (Orderly origin) where
  session hf _ h := h.congr (hf _) rfl rfl
  rebind _ _ h := h.congr rfl rfl rfl
  note _ he _ h := h.note (Event.endsSession_of_isRemark he)
  send _ _ h := h.congr rfl rfl rfl

/-- **The end of a session** is told and the link closed exactly when it stops being alive. -/
theorem orderly_finish (origin : World) (link : Link) (code : Nat) :
    (finish code).Keeps (Orderly origin) link := by
  intro w h
  cases ha : w.session.alive with
  | false =>
    rw [after_of_ok (finish_dead ha code)]
    exact h
  | true =>
    obtain ⟨notes, logged, e⟩ := finish_alive link ha code
    have ended : w.endings = 0 := by rw [h.endings, if_pos ha]
    have closed : w.closings = 0 := by rw [h.closings, ended]
    -- what closing the link has logged is neither an end nor a closing
    have quiet : ∀ P : Event → Bool, (∀ level text, P (.logged level text) = false) →
        notes.countP P = 0 := by
      intro P hP
      refine List.countP_eq_zero.2 fun x hx => ?_
      obtain ⟨level, text, rfl⟩ := logged x hx
      simp [hP]
    unfold World.endings at ended
    unfold World.closings at closed
    rw [after_of_ok e]
    refine ⟨?_, ?_, fun _ => h.alive ha⟩
    · simp [World.endings, Session.ended, List.countP_append, quiet, ended]
    · simp [World.endings, World.closings, List.countP_append, quiet, ended, closed]

/-- **Every run keeps a session orderly.** -/
theorem orderly_run {peer : Peer} {config : Config} {origin w : World} (depth : Nat)
    (ops : List Operation) (h : Orderly origin w) :
    Orderly origin (Operation.run (.within peer config depth) ops w) :=
  ((orderly_pliant origin).invariant (fun _ hc _ h => h.note (Event.endsSession_told hc _))
    fun code _ => orderly_finish origin _ code).run depth ops h

/-- Deliveries are handled as their records. -/
theorem forM_deliver (deliveries : List String) :
    deliveries.forM deliver = ((deliveries.flatMap recordsOf).forM receiveAlive : Act PUnit) := by
  induction deliveries with
  | nil => rfl
  | cons d deliveries ih =>
    show deliver d >>= (fun _ => deliveries.forM deliver) = _
    rw [ih, List.flatMap_cons]
    exact List.forM_append.symm

/-! ## Silence after the end -/

section Silence

variable {link : Link} {w : World}

theorem receiveAlive_dead (h : w.session.alive = false) (record : String) :
    receiveAlive record link w = .ok () w := by
  show (if w.session.alive && decide (1 < Text.utf8Length record.toList) then _ else _ : Act Unit)
    link w = _
  rw [h]
  rfl

theorem forM_receiveAlive_dead (h : w.session.alive = false) (records : List String) :
    (records.forM receiveAlive : Act PUnit) link w = .ok () w := by
  induction records with
  | nil => rfl
  | cons record records ih =>
    show (receiveAlive record >>= fun _ => records.forM receiveAlive : Act PUnit) link w = _
    rw [bind_apply, receiveAlive_dead h]
    exact ih

/-- **A session that has ended is silent**: a delivery does nothing at all. -/
theorem deliver_dead (h : w.session.alive = false) (delivery : String) :
    deliver delivery link w = .ok () w := forM_receiveAlive_dead h _

/-- **The rest of the delivery in which a session ended** does nothing either. -/
theorem deliver_of_prefix {delivery : String} {before rest : List String}
    (split : Act.recordsOf delivery = before ++ rest)
    (h : ((before.forM receiveAlive : Act PUnit).after link w).session.alive = false) :
    deliver delivery link w = (before.forM receiveAlive : Act PUnit) link w := by
  have parts : deliver delivery = ((before.forM receiveAlive : Act PUnit) >>= fun _ =>
      (rest.forM receiveAlive : Act PUnit)) := by
    unfold deliver
    rw [split]
    exact List.forM_append
  rw [parts, bind_apply]
  cases hb : (before.forM receiveAlive : Act PUnit) link w with
  | ok value v =>
    rw [after_of_ok hb] at h
    exact forM_receiveAlive_dead h rest
  | error halt v => rfl

/-- The queue of a session that has ended is not looked at. -/
theorem after_pump_dead (h : w.session.alive = false) (stopped : Bool) (queue : List Pull) :
    (pump stopped queue).after link w = w := by
  cases stopped with
  | true => cases queue <;> rfl
  | false =>
    cases queue with
    | nil =>
      show (if w.session.alive then _ else _ : Act _).after link w = w
      rw [h]
      rfl
    | cons pull queue =>
      show (if w.session.alive then _ else _ : Act _).after link w = w
      rw [h]
      rfl

end Silence

/-- **The lifetime of a session.** From any session that is alive and of which the host was told
nothing yet, and after any run of operations with any peer: the end was told at most once, the link
was closed exactly as often, and the session is not alive exactly when its end was told. A session
that is not alive stays so in any further run and its queue is not looked at. And in every world, so
also in those between the calls of an operation, a session that is not alive handles no delivery,
and not the rest of one in which it ended. -/
theorem session_ends_once (peer : Peer) (config : Config) (depth : Nat) (ops : List Operation)
    (w : World) (alive : w.session.alive = true) (untold : w.events = []) :
    let link := Link.within peer config depth
    let v := Operation.run link ops w
    v.endings ≤ 1 ∧ v.closings = v.endings ∧ (v.session.alive = false ↔ v.endings = 1) ∧
      (v.session.alive = false → ∀ more, (Operation.run link more v).session.alive = false) ∧
      (v.session.alive = false → ∀ stopped queue, (pump stopped queue).after link v = v) ∧
      ∀ (inner : Link) (u : World) (delivery : String),
        (u.session.alive = false → deliver delivery inner u = .ok () u) ∧
        ∀ before rest, Act.recordsOf delivery = before ++ rest →
          ((before.forM receiveAlive : Act PUnit).after inner u).session.alive = false →
          deliver delivery inner u = (before.forM receiveAlive : Act PUnit) inner u := by
  intro link v
  have start : Orderly w w := by
    refine ⟨?_, ?_, id⟩
    · rw [alive]; unfold World.endings; rw [untold]; rfl
    · unfold World.endings World.closings; rw [untold]; rfl
  have orderly : Orderly w v := orderly_run depth ops start
  refine ⟨?_, orderly.closings, ?_, ?_, fun dead => after_pump_dead dead, ?_⟩
  · rw [orderly.endings]
    split <;> omega
  · rw [orderly.endings]
    cases v.session.alive <;> simp
  · intro dead more
    -- what is alive after the further run was alive before it
    have later : Orderly v (Operation.run link more v) :=
      orderly_run depth more ⟨orderly.endings, orderly.closings, id⟩
    cases ha : (Operation.run link more v).session.alive with
    | false => rfl
    | true => rw [later.alive ha] at dead; exact dead
  · exact fun inner u delivery => ⟨fun dead => deliver_dead dead delivery,
      fun before rest split h => deliver_of_prefix split h⟩

set_option maxRecDepth 100000 in
/-- The target exits in the delivery in which it was interrupted, and the host ends the session once
more. -/
theorem session_ends_once_exited :
    let link := Link.within ({} : Script).peer {} 2
    let v := Operation.run link [.launch, .deliver "42\r\n47;2", .finish 3] {}
    (({} : World).session.alive = true ∧ ({} : World).events = []) ∧
      v.session.alive = false ∧ v.endings = 1 ∧ v.closings = 1 ∧
      ∀ more, (Operation.run link more v).session.alive = false := by
  intro link v
  have h := session_ends_once ({} : Script).peer {} 2 [.launch, .deliver "42\r\n47;2", .finish 3]
    {} rfl rfl
  have dead : v.session.alive = false := by decide +kernel
  have once : v.endings = 1 := h.2.2.1.1 dead
  exact ⟨⟨rfl, rfl⟩, dead, once, h.2.1.trans once, h.2.2.2.1 dead⟩

end DebugLink
