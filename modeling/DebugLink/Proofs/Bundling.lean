import DebugLink.Proofs.Lifetime

/-!
# How records are bundled into deliveries

The same text can reach a session in one delivery, or cut at line ends into several of them, with
any number of polls in between that find nothing. Handling a queue comes to handling the records of
its text one after another, so none of that can be told from what the session does.

* `splitCrlf_append`, `deliver_append`: a text is split at a line end wherever that stands, and a
  delivery is handled as the two parts in order.
* `pump_apply`: a queue is handled as its records, and then the link is closed.
* `bundling_unseen`: two queues with the same text are handled alike.
-/

namespace DebugLink

open Act Text

/-! ## Splitting a text -/

namespace Text

theorem splitCrlf_ne_nil (s : List Char) : splitCrlf s ≠ [] := by
  fun_cases splitCrlf s <;> simp_all

/-- The first piece grows by a character that starts no line end. -/
theorem splitCrlf_cons {c : Char} {s f : List Char} {fs : List (List Char)}
    (apart : ∀ t, c = '\r' → s = '\n' :: t → False) (cut : splitCrlf s = f :: fs) :
    splitCrlf (c :: s) = (c :: f) :: fs := by
  rw [splitCrlf.eq_3 c s apart, cut]

/-- **A text is split at every line end**, whatever stands before and after it. -/
theorem splitCrlf_append (a b : List Char) :
    splitCrlf (a ++ '\r' :: '\n' :: b) = splitCrlf a ++ splitCrlf b := by
  fun_induction splitCrlf a with
  | case1 => rfl
  | case2 s ih =>
    show [] :: splitCrlf (s ++ '\r' :: '\n' :: b) = _
    rw [ih]
    rfl
  | case3 c s apart empty => exact absurd empty (splitCrlf_ne_nil s)
  | case4 c s apart f fs cut ih =>
    -- a carriage return at the end of `c :: s` is followed by another one, and not by a line feed
    have apart' : ∀ t, c = '\r' → s ++ '\r' :: '\n' :: b = '\n' :: t → False := by
      intro t hc hs
      cases s with
      | nil => simp at hs
      | cons d s =>
        simp only [List.cons_append, List.cons.injEq] at hs
        exact apart s hc (by rw [hs.1])
    rw [cut] at ih
    rw [List.cons_append, splitCrlf_cons apart' ih]
    rfl

end Text

namespace Act

theorem recordsOf_append (d e : String) :
    recordsOf (d ++ "\r\n" ++ e) = recordsOf d ++ recordsOf e := by
  have lineEnd : (d ++ "\r\n" ++ e).toList = d.toList ++ '\r' :: '\n' :: e.toList := by
    simp [String.toList_append]
  unfold recordsOf
  rw [lineEnd, splitCrlf_append, List.map_append]

/-- **A delivery is handled as its parts**, wherever it is cut at a line end. -/
theorem deliver_append (d e : String) :
    deliver (d ++ "\r\n" ++ e) = deliver d >>= fun _ => deliver e := by
  unfold deliver
  rw [recordsOf_append]
  exact List.forM_append

/-- What has no room for a tag does nothing. -/
theorem receiveAlive_empty : receiveAlive "" = pure () := by
  funext link w
  show (if w.session.alive && decide (1 < utf8Length []) then receive "" else pure ()) link w = _
  cases w.session.alive <;> rfl

/-- **Deliveries in a row** are handled as their text, with a line end between two of them. -/
theorem deliver_intercalate (deliveries : List String) :
    deliver ("\r\n".intercalate deliveries) = deliveries.forM deliver := by
  induction deliveries with
  | nil =>
    show receiveAlive "" >>= (fun _ => pure ()) = _
    rw [receiveAlive_empty]
    rfl
  | cons d deliveries ih =>
    cases deliveries with
    | nil =>
      rw [String.intercalate_singleton]
      exact (bind_pure (deliver d)).symm
    | cons e deliveries =>
      rw [String.intercalate_cons_cons, deliver_append, ih]
      rfl

end Act

/-! ## Queues -/

/-- What a pull has taken from the queue. -/
def Pull.delivery? : Pull → Option String
  | delivery d => some d
  | nothing | stop | failure _ => none

/-- Whether a pull is a poll: it gives a delivery or finds that nothing has arrived. -/
def Pull.isPoll : Pull → Bool
  | delivery _ | nothing => true
  | stop | failure _ => false

/-- The text of a queue, with a line end between two deliveries. -/
def queueText (queue : List Pull) : String := "\r\n".intercalate (queue.filterMap Pull.delivery?)

/-- What is done when the queue is at its end: the link was closed. -/
def Act.hangUp : Act Unit := do
  if (← session).alive then pullFailed .linkClosed

section Queue

variable {link : Link} {w : World}

theorem hangUp_dead (h : w.session.alive = false) : hangUp link w = .ok () w := by
  show (if w.session.alive then _ else _ : Act Unit) link w = _
  rw [h]
  rfl

theorem forM_deliver_dead (h : w.session.alive = false) (deliveries : List String) :
    (deliveries.forM deliver : Act PUnit) link w = .ok () w := by
  rw [← deliver_intercalate]
  exact deliver_dead h _

/-- A session that has ended leaves the queue as it is. -/
theorem pump_dead (h : w.session.alive = false) (queue : List Pull) :
    pump false queue link w = .ok queue w := by
  cases queue with
  | nil =>
    show (if w.session.alive then _ else _ : Act _) link w = _
    rw [h]
    rfl
  | cons pull queue =>
    show (if w.session.alive then _ else _ : Act _) link w = _
    rw [h]
    rfl

theorem hangUp_alive (h : w.session.alive = true) :
    hangUp link w = pullFailed .linkClosed link w := by
  rw [hangUp, look_apply, if_pos h]

theorem pump_nil (h : w.session.alive = true) :
    pump false [] link w = (pullFailed .linkClosed >>= fun _ => pure []) link w := by
  rw [pump, look_apply, if_pos h]

theorem pump_delivery (h : w.session.alive = true) (d : String) (queue : List Pull) :
    pump false (.delivery d :: queue) link w =
      (deliver d >>= fun _ => pump false queue) link w := by
  rw [pump, look_apply, if_pos h]

theorem pump_nothing (h : w.session.alive = true) (queue : List Pull) :
    pump false (.nothing :: queue) link w = pump false queue link w := by
  rw [pump, look_apply, if_pos h]

/-- **A queue is handled as its text**, and then the link is closed. -/
theorem pump_apply {queue : List Pull} (polls : ∀ pull ∈ queue, pull.isPoll = true) (w : World) :
    (Functor.discard (pump false queue)) link w =
      (deliver (queueText queue) >>= fun _ => hangUp) link w := by
  unfold queueText
  rw [deliver_intercalate, discard_eq_bind]
  induction queue generalizing w with
  | nil =>
    show (pump false [] >>= fun _ => pure ()) link w = hangUp link w
    cases alive : w.session.alive with
    | false => rw [bind_ok (pump_dead alive []), hangUp_dead alive]; rfl
    | true =>
      rw [bind_apply, pump_nil alive, ← bind_apply, hangUp_alive alive, bind_assoc]
      exact congrFun (congrFun (bind_pure (pullFailed .linkClosed)) link) w
  | cons pull queue ih =>
    have rest : ∀ pull ∈ queue, pull.isPoll = true :=
      fun pull mem => polls pull (List.mem_cons_of_mem _ mem)
    cases alive : w.session.alive with
    | false =>
      -- the rest of the queue is not looked at, and its deliveries would do nothing
      rw [bind_ok (pump_dead alive _), bind_ok (forM_deliver_dead alive _), hangUp_dead alive]
      rfl
    | true =>
      cases pull with
      | delivery d =>
        rw [bind_apply, pump_delivery alive, ← bind_apply, bind_assoc, bind_apply]
        show _ = ((deliver d >>= fun _ => (queue.filterMap Pull.delivery?).forM deliver) >>=
          fun _ => hangUp) link w
        rw [bind_assoc, bind_apply]
        cases deliver d link w with
        | ok _ v => exact ih rest v
        | error halt v => rfl
      | nothing =>
        rw [bind_apply, pump_nothing alive, ← bind_apply]
        exact ih rest w
      | stop => exact absurd (polls .stop List.mem_cons_self) (by simp [Pull.isPoll])
      | failure cause =>
        exact absurd (polls (.failure cause) List.mem_cons_self) (by simp [Pull.isPoll])

end Queue

/-- **The bundling of records cannot be seen.** Over any link and from any session, two queues that
hold deliveries and polls that find nothing, and that have the same text, are handled to the same
end until the link is closed: with the same session and breakpoints, the same commands sent and the
same events, so also the same news to the host. And wherever a text is cut at a line end, it is
handled as its two parts are one after the other. -/
theorem bundling_unseen (link : Link) (w : World) (queue queue' : List Pull)
    (polls : ∀ pull ∈ queue, pull.isPoll = true) (polls' : ∀ pull ∈ queue', pull.isPoll = true)
    (same : queueText queue = queueText queue') :
    (Functor.discard (pump false queue)) link w = (Functor.discard (pump false queue')) link w ∧
      ∀ d e : String, deliver (d ++ "\r\n" ++ e) link w =
        (deliver d >>= fun _ => deliver e) link w := by
  constructor
  · calc (Functor.discard (pump false queue)) link w
        = (deliver (queueText queue) >>= fun _ => hangUp) link w := pump_apply polls w
      _ = (deliver (queueText queue') >>= fun _ => hangUp) link w := by rw [same]
      _ = (Functor.discard (pump false queue')) link w := (pump_apply polls' w).symm
  · intro d e
    rw [deliver_append]

set_option maxRecDepth 100000 in
/-- The target exits in the middle of a text whose first record ends in a carriage return of its
own. The text arrives in one delivery, or cut after that record with a poll in between: the session
ends once, and what follows in the text is not told. -/
theorem bundling_unseen_exited :
    let link := Link.within ({} : Script).peer {} 2
    let whole : List Pull := [.delivery "41;1\r\r\n42\r\n40;3;1"]
    let cut : List Pull := [.delivery "41;1\r", .nothing, .delivery "42\r\n40;3;1"]
    let v := (Functor.discard (pump false whole)).after link {}
    ((∀ pull ∈ whole, pull.isPoll = true) ∧ (∀ pull ∈ cut, pull.isPoll = true) ∧
        queueText whole = queueText cut) ∧
      (Functor.discard (pump false whole)) link {} = (Functor.discard (pump false cut)) link {} ∧
      v.session.alive = false ∧ v.session.runMode = true ∧ v.calls = [.sessionEnded 0] := by
  intro link whole cut v
  have polls : ∀ pull ∈ whole, pull.isPoll = true := by decide
  have polls' : ∀ pull ∈ cut, pull.isPoll = true := by decide
  have same : queueText whole = queueText cut := by decide +kernel
  exact ⟨⟨polls, polls', same⟩, (bundling_unseen link {} whole cut polls polls' same).1,
    by decide +kernel, by decide +kernel, by decide +kernel⟩

end DebugLink
