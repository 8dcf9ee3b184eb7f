import DebugLink.Proofs.HitStep

/-!
# A resumption that could not be sent

Starting the target, resuming it and stepping all announce what the target will be doing before
their command is sent: what the peer delivers in return may be handled before the call is back, and
it has to find the session as it will be. Nothing is taken back when the command cannot be sent, as
the peer is gone then. So a failure leaves the session as it was announced. Only the number of
frames is asked for before anything is announced.

* `Resumption.announced`: the session while the command is sent.
* `submit_failed`, `resume_failed`, `stackDepth_failed`: what a failure says of each step.
* `unsent_resumption`: **what a failure leaves** of the session.
* `unsent_resumption_announced`: that is not what was there before.
-/

namespace DebugLink

open Act Text

/-- An operation that has the target run on. -/
inductive Resumption
  | launch
  | resume
  | step (kind : StepKind)
  deriving DecidableEq, Repr

/-- The command that asks for the number of frames of a thread. -/
def depthCommand (thread : Nat) : String := s!"-stack-info-depth --thread {thread} --frame 0"

namespace Resumption

def act : Resumption → Act Unit
  | launch => Act.launch
  | resume => Act.resume
  | step kind => Act.step kind

/-- The number of frames is asked for first. -/
def Asks (op : Resumption) (s : Session) : Prop := op = step .out ∧ s.unknownCode = false

instance (op : Resumption) (s : Session) : Decidable (op.Asks s) :=
  inferInstanceAs (Decidable (_ ∧ _))

/-- The session while the command is sent, when the operation was called in code with source or
without. The gate on resuming is free again by the time of a failure. -/
def announced : Resumption → Bool → Session → Session
  | step _, false, s => { s with phase := .stepping }
  | _, _, s => { s with phase := .running, runMode := true }

/-- The world that is found when what the operation asks was answered: it is left by the request and
by what is delivered during it. -/
def Asked (op : Resumption) (link : Link) (w v : World) : Prop :=
  if op.Asks w.session then
    react w.sent (.request (depthCommand w.session.thread)) link
      (w.requesting (depthCommand w.session.thread)
        (link.peer.answer w.sent (depthCommand w.session.thread))) = .ok () v
  else v = w

end Resumption

/-! ## Steps that fail -/

section Failures

variable {peer : Peer} {config : Config} {depth : Nat} {w v : World} {cause : Failure}

/-- What fails in the end failed at first or later. -/
theorem Act.of_bind_failed {α β : Type} {act : Act α} {next : α → Act β} {link : Link}
    (h : (act >>= next) link w = .error (.failed cause) v) :
    act link w = .error (.failed cause) v ∨
      ∃ a u, act link w = .ok a u ∧ next a link u = .error (.failed cause) v := by
  rw [bind_apply] at h
  cases e : act link w with
  | ok a u =>
    rw [e] at h
    exact .inr ⟨a, u, rfl, h⟩
  | error halt u =>
    rw [e] at h
    cases h
    exact .inl rfl

/-- A failure that was caught was a failure of the act. -/
theorem Act.failed_of_attempt {α : Type} {act : Act α} {link : Link}
    (h : attempt act link w = .ok (.error cause) v) : act link w = .error (.failed cause) v := by
  rw [attempt_apply] at h
  cases e : act link w with
  | ok a u =>
    rw [e] at h
    cases h
  | error halt u =>
    rw [e] at h
    cases halt with
    | failed cause => cases h; rfl
    | _ => cases h

/-- **A command that cannot be sent** is recorded, and nothing else happens. -/
theorem submit_failed {command : String}
    (run : submit command (.within peer config depth) w = .error (.failed cause) v) :
    peer.accept w.sent command = .error cause ∧ v = w.submitting command := by
  rw [submit_apply, Link.within_peer] at run
  cases sent : peer.accept w.sent command with
  | ok _ =>
    rw [sent] at run
    exact absurd run (Unfailing.react peer config depth _ _ _ cause v)
  | error cause' =>
    rw [sent] at run
    cases run
    exact ⟨rfl, rfl⟩

/-- **A failure to resume** is one to send its command, and the gate is free as it was before. -/
theorem resume_failed (run : resume (.within peer config depth) w = .error (.failed cause) v) :
    peer.accept w.sent config.continueCommand = .error cause ∧
      v.session = { w.session with phase := .running, runMode := true } ∧ v.bound = w.bound := by
  cases free : w.session.breakAll.isFree with
  | false =>
    rw [resume_barred free] at run
    cases run
  | true =>
    rw [resume_free free, Link.within_config] at run
    obtain failed | ⟨outcome, u, tried, settled⟩ := of_bind_failed run
    · exact absurd failed (Unfailing.attempt _ _ _ _)
    change settle outcome _ { u with session := u.session.resumed } = _ at settled
    cases outcome with
    | ok _ => cases settled
    | error cause' =>
      cases settled
      obtain ⟨refused, rfl⟩ := submit_failed (failed_of_attempt tried)
      have was : (⟨true⟩ : Permit) = w.session.breakAll := (Permit.eq_of_isFree free).symm
      refine ⟨refused, ?_, rfl⟩
      show { w.session with phase := .running, runMode := true, breakAll := ⟨true⟩ } = _
      rw [was]

/-- **A request ends** as it is answered, in the world that what is delivered meanwhile leaves. -/
theorem request_failed {command : String}
    (run : request command (.within peer config depth) w = .error (.failed cause) v) :
    peer.answer w.sent command = .error cause ∧
      react w.sent (.request command) (.within peer config depth)
        (w.requesting command (peer.answer w.sent command)) = .ok () v := by
  rw [request_apply, Link.within_peer] at run
  obtain failed | ⟨_, u, reacted, settled⟩ := of_bind_failed run
  · exact absurd failed (Unfailing.react peer config depth _ _ _ cause v)
  · change settle (peer.answer w.sent command) _ u = _ at settled
    cases answer : peer.answer w.sent command with
    | ok text =>
      rw [answer] at settled
      cases settled
    | error cause' =>
      rw [answer] at settled reacted
      cases settled
      exact ⟨rfl, reacted⟩

/-- A request that returned was answered, and its reactions were handled. -/
theorem request_ok {command text : String}
    (run : request command (.within peer config depth) w = .ok text v) :
    peer.answer w.sent command = .ok text ∧
      react w.sent (.request command) (.within peer config depth)
        (w.requesting command (peer.answer w.sent command)) = .ok () v := by
  rw [request_apply, Link.within_peer] at run
  obtain ⟨_, u, reacted, settled⟩ := of_bind_ok run
  change settle (peer.answer w.sent command) _ u = _ at settled
  cases answer : peer.answer w.sent command with
  | error cause' =>
    rw [answer] at settled
    cases settled
  | ok text' =>
    rw [answer] at settled reacted
    cases settled
    exact ⟨rfl, reacted⟩

/-- **The number of frames** is not known if the request fails or its answer is no number. -/
theorem stackDepth_failed {thread : Nat}
    (run : stackDepth thread (.within peer config depth) w = .error (.failed cause) v) :
    (peer.answer w.sent (depthCommand thread) = .error cause ∨
      ∃ text, peer.answer w.sent (depthCommand thread) = .ok text ∧
        readTrimmed32 text.toList = none) ∧
      react w.sent (.request (depthCommand thread)) (.within peer config depth)
        (w.requesting (depthCommand thread) (peer.answer w.sent (depthCommand thread))) =
          .ok () v := by
  obtain failed | ⟨text, u, answered, unread⟩ := of_bind_failed run
  · obtain ⟨answer, reacted⟩ := request_failed failed
    exact ⟨.inl answer, reacted⟩
  · obtain ⟨answer, reacted⟩ := request_ok answered
    cases number : readTrimmed32 text.toList with
    | some frames =>
      rw [number] at unread
      cases unread
    | none =>
      rw [number] at unread
      cases unread
      exact ⟨.inr ⟨text, answer, number⟩, reacted⟩

/-- A stack depth that was read came from an answer. -/
theorem stackDepth_ok {thread frames : Nat}
    (run : stackDepth thread (.within peer config depth) w = .ok frames v) :
    react w.sent (.request (depthCommand thread)) (.within peer config depth)
      (w.requesting (depthCommand thread) (peer.answer w.sent (depthCommand thread))) =
        .ok () v := by
  obtain ⟨text, u, answered, read⟩ := of_bind_ok run
  obtain ⟨-, reacted⟩ := request_ok answered
  cases number : readTrimmed32 text.toList with
  | none =>
    rw [number] at read
    cases read
  | some frames' =>
    rw [number] at read
    cases read
    exact reacted

end Failures

/-! ## What a failure leaves -/

namespace Resumption

variable {peer : Peer} {config : Config} {depth : Nat} {op : Resumption} {w v w' : World}
  {cause : Failure}

theorem asked_of_not (silent : ¬op.Asks w.session) (link : Link) : op.Asked link w w := by
  rw [Asked, if_neg silent]

/-- Without deliveries a request leaves the session as it is. -/
theorem Asked.same (asked : op.Asked (.within peer config depth) w v)
    (quiet : op.Asks w.session →
      peer.reactions w.sent (.request (depthCommand w.session.thread)) = []) :
    v.session = w.session ∧ v.bound = w.bound := by
  unfold Asked at asked
  split at asked
  · rename_i asks
    rw [react_apply, Link.within_peer, quiet asks] at asked
    cases asked
    exact ⟨rfl, rfl⟩
  · rw [asked]
    exact ⟨rfl, rfl⟩

/-- What a failure leaves: the operation had nothing announced yet, or its command could not be sent
and the session is as it was announced. -/
structure Failed (op : Resumption) (peer : Peer) (w v : World) (cause : Failure) (w' : World) :
    Prop where
  breakAll : w'.session.breakAll = v.session.breakAll
  ends :
    (op.Asks w.session ∧ w' = v ∧
      (peer.answer w.sent (depthCommand w.session.thread) = .error cause ∨
        ∃ text, peer.answer w.sent (depthCommand w.session.thread) = .ok text ∧
          readTrimmed32 text.toList = none)) ∨
    (∃ command, peer.accept v.sent command = .error cause) ∧
      w'.session = op.announced w.session.unknownCode v.session ∧ w'.bound = v.bound

/-- A refused command leaves the session as it was announced. -/
theorem Failed.of_announced {command : String} (refused : peer.accept v.sent command = .error cause)
    (session : w'.session = op.announced w.session.unknownCode v.session)
    (bound : w'.bound = v.bound) : op.Failed peer w v cause w' where
  breakAll := by
    rw [session]
    unfold announced
    split <;> rfl
  ends := .inr ⟨⟨command, refused⟩, session, bound⟩

/-- The command of a step is known, or it is not because the number of frames is not. -/
theorem stepCommand_failed {kind : StepKind} (sighted : w.session.unknownCode = false)
    (run : stepCommand kind w.session.thread (.within peer config depth) w =
      .error (.failed cause) w') :
    (step kind).Asks w.session ∧
      stackDepth w.session.thread (.within peer config depth) w = .error (.failed cause) w' := by
  cases kind with
  | out =>
    refine ⟨⟨rfl, sighted⟩, ?_⟩
    obtain failed | ⟨frames, v, -, chosen⟩ := of_bind_failed run
    · exact failed
    · split at chosen <;> cases chosen
  | _ => cases run

/-- Choosing the command of a step asks for the depth of the stack, or for nothing. -/
theorem stepCommand_ok {kind : StepKind} {command : String}
    (sighted : w.session.unknownCode = false)
    (run : stepCommand kind w.session.thread (.within peer config depth) w = .ok command v) :
    (step kind).Asked (.within peer config depth) w v := by
  unfold Asked
  cases kind with
  | out =>
    rw [if_pos ⟨rfl, sighted⟩, Link.within_peer]
    obtain ⟨frames, u, counted, chosen⟩ := of_bind_ok run
    have reacted := stackDepth_ok counted
    split at chosen <;> cases chosen <;> exact reacted
  | _ =>
    rw [if_neg (by rintro ⟨⟨⟩, -⟩)]
    cases run
    rfl

/-- **In code without source** a step is a resumption. -/
theorem step_failed_blindly {kind : StepKind} (blind : w.session.unknownCode = true)
    (run : Act.step kind (.within peer config depth) w = .error (.failed cause) w') :
    (step kind).Failed peer w w cause w' := by
  unfold Act.step at run
  rw [look_apply, if_pos blind] at run
  obtain ⟨refused, session, bound⟩ := resume_failed
    (w := { w with session := { w.session with phase := .stepping } }) run
  refine .of_announced refused ?_ bound
  rw [session, blind]
  rfl

/-- **In code with source** the session is in the step by the time its command is sent. -/
theorem step_failed_sighted {kind : StepKind} (sighted : w.session.unknownCode = false)
    (run : Act.step kind (.within peer config depth) w = .error (.failed cause) w') :
    ∃ v, (step kind).Asked (.within peer config depth) w v ∧
      (step kind).Failed peer w v cause w' := by
  unfold Act.step at run
  rw [look_apply, if_neg (by simp [sighted])] at run
  obtain failed | ⟨command, v, given, failed⟩ := of_bind_failed run
  · obtain ⟨asks, failed⟩ := stepCommand_failed sighted failed
    obtain ⟨answer, reacted⟩ := stackDepth_failed failed
    refine ⟨w', ?_, rfl, .inl ⟨asks, rfl, answer⟩⟩
    rwa [Asked, if_pos asks, Link.within_peer]
  · obtain ⟨refused, rfl⟩ := submit_failed
      (w := { v with session := { v.session with phase := .stepping } }) failed
    exact ⟨v, stepCommand_ok sighted given, .of_announced refused (by rw [sighted]; rfl) rfl⟩

end Resumption

/-- **A resumption that fails** changes nothing but what it announces. The gate on resuming is as it
was. If the number of frames could not be found out, the session is the one that the request for it
left, as it was before if nothing was delivered meanwhile. Otherwise the command could not be sent,
and the session is as it was announced: running, or in a step when a step was to be taken in code
with source. -/
theorem unsent_resumption (peer : Peer) (config : Config) (depth : Nat) (op : Resumption)
    {w w' : World} {cause : Failure}
    (run : op.act (.within peer config depth) w = .error (.failed cause) w') :
    ∃ v, op.Asked (.within peer config depth) w v ∧
      ((op.Asks w.session →
          peer.reactions w.sent (.request (depthCommand w.session.thread)) = []) →
        v.session = w.session ∧ v.bound = w.bound) ∧
      op.Failed peer w v cause w' := by
  suffices ended : ∃ v, op.Asked (.within peer config depth) w v ∧ op.Failed peer w v cause w' by
    obtain ⟨v, asked, failed⟩ := ended
    exact ⟨v, asked, asked.same, failed⟩
  cases op with
  | launch =>
    obtain ⟨refused, rfl⟩ := submit_failed (w := { w with
      session := { w.session with phase := .running, runMode := true }
      events := .told .moduleLoaded { w.session with phase := .running, runMode := true } ::
        w.events }) run
    exact ⟨w, Resumption.asked_of_not (by rintro ⟨⟨⟩, -⟩) _, .of_announced refused rfl rfl⟩
  | resume =>
    obtain ⟨refused, session, bound⟩ := resume_failed run
    exact ⟨w, Resumption.asked_of_not (by rintro ⟨⟨⟩, -⟩) _, .of_announced refused session bound⟩
  | step kind =>
    cases known : w.session.unknownCode with
    | true =>
      have silent : ¬(Resumption.step kind).Asks w.session := by
        rintro ⟨-, sighted⟩
        rw [known] at sighted
        cases sighted
      exact ⟨w, Resumption.asked_of_not silent _, Resumption.step_failed_blindly known run⟩
    | false => exact Resumption.step_failed_sighted known run

/-- A peer that takes no command. -/
def Peer.gone : Peer where
  answer _ _ := .error .linkClosed
  accept _ _ := .error .linkClosed

/-- Nothing is sent, and the target is taken to run. -/
theorem unsent_resumption_launch : ∃ w' v,
    Resumption.launch.act (.within .gone {} 0) {} = .error (.failed .linkClosed) w' ∧
      w'.session.phase = .running ∧ Resumption.launch.Asked (.within .gone {} 0) {} v ∧
      Resumption.launch.Failed .gone {} v .linkClosed w' := by
  have run : Resumption.launch.act (.within .gone {} 0) {} = .error (.failed .linkClosed) _ := rfl
  obtain ⟨v, asked, -, failed⟩ := unsent_resumption .gone {} 0 .launch run
  exact ⟨_, v, run, rfl, asked, failed⟩

/-- **A failure does change something**: what was announced is not taken back. -/
theorem unsent_resumption_announced :
    ¬∀ (peer : Peer) (config : Config) (depth : Nat) (op : Resumption) (w w' : World)
      (cause : Failure),
      op.act (.within peer config depth) w = .error (.failed cause) w' →
        w'.session.phase = w.session.phase ∧ w'.session.runMode = w.session.runMode ∧
          w'.session.breakAll = w.session.breakAll := by
  intro unchanged
  have run : Resumption.launch.act (.within .gone {} 0) {} = .error (.failed .linkClosed) _ := rfl
  exact nomatch (unchanged _ _ _ _ _ _ _ run).1

end DebugLink
