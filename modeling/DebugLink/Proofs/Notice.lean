import DebugLink.Proofs.Gentle

/-!
# What the notice in an answer leaves behind

The answer to a command that edits a breakpoint holds a plain notice. Applying it touches what is
known of breakpoints in gdb, and neither the breakpoints that are bound nor what was sent. So the
commands that set ignore counts and conditions end with one request sent, whatever its answer.

* `World.Noted`: what applying a notice may touch.
* `settles_requestNotice`: a command whose answer is a notice sends one request.
* `settles_stopAtHit`: letting hits pass sends one ignore count.
-/

namespace DebugLink

open Act Breakpoint

/-- **A notice was noted**: nothing changed but what is known of the breakpoints of gdb. -/
structure World.Noted (w v : World) : Prop where
  session : v.session =
    { w.session with unknownCode := v.session.unknownCode, table := v.session.table }
  bound : v.bound = w.bound
  sent : v.sent = w.sent
  calls : v.calls = w.calls

/-- The command tells the ignore count. -/
theorem breakAfter_inj {id m n : Nat} (h : breakAfter id m = breakAfter id n) : m = n := by
  have lists := congrArg String.toList h
  rw [toList_breakAfter, toList_breakAfter] at lists
  have counts : (toString m).toList = (toString n).toList := by simpa using lists
  exact Text.toString_inj (String.toList_inj.1 counts)

/-- The words of the command are its verb, the number of the breakpoint and the ignore count. -/
theorem words_breakAfter (id count : Nat) : Text.words (breakAfter id count).toList =
    ["-break-after".toList, (toString id).toList, (toString count).toList] := by
  have digits : ∀ c ∈ (toString id).toList, Text.isBlank c = false := fun _ h =>
    Text.isBlank_of_isDigit (Text.isDigit_of_mem_toString h)
  rw [Mi.words_edit (show "-break-after" ∈ Mi.editVerbs by decide) (toList_breakAfter id count),
    Text.words_append digits (Text.toString_ne_nil id) (by decide), Text.words_toString]

namespace Act

variable {link : Link} {w : World}

/-- A plain notice is applied, and noted by that. -/
theorem applyNotice_noted {notice : Notice} (plain : notice.isPlain = true) (link : Link)
    (w : World) : ∃ v, applyNotice notice link w = .ok () v ∧ w.Noted v := by
  cases notice with
  | inserted snapshot => exact ⟨_, applyNotice_inserted snapshot link w, rfl, rfl, rfl, rfl⟩
  | modified snapshot => cases plain
  | hit id file line thread => cases plain
  | _ => exact ⟨_, rfl, rfl, rfl, rfl, rfl⟩

/-- A record of plain notices is handled or cannot be read. -/
theorem settles_handleBreakpoint {record : String}
    (plain : ∀ n, Notice.read record = .ok n → n.isPlain = true) (link : Link) (w : World) :
    ∃ v, (handleBreakpoint record).Settles link w v ∧ w.Noted v := by
  unfold handleBreakpoint
  cases hr : Notice.read record with
  | error defect => exact ⟨w, .of_failed rfl, rfl, rfl, rfl, rfl⟩
  | ok notice =>
    obtain ⟨v, applied, noted⟩ := applyNotice_noted (plain notice hr) link w
    exact ⟨v, .dropped (.of_ok applied) _, noted⟩

section Attentive

variable (attentive : link.peer.Attentive)

include attentive

/-- **A command whose answer is a notice** sends one request, whatever the answer. -/
theorem settles_requestNotice {command : String} (verb : String) (hv : verb ∈ Mi.editVerbs)
    (rest : List Char) (h : command.toList = verb.toList ++ ' ' :: rest) (w : World) :
    ∃ v, (requestNotice command).Settles link w v ∧
      (w.requesting command (link.peer.answer w.sent command)).Noted v := by
  unfold requestNotice
  cases ha : link.peer.answer w.sent command with
  | error cause =>
    have failed : request command link w =
        .error (.failed cause) (w.requesting command (.error cause)) := by
      rw [request_attentive attentive, ha]
    exact ⟨_, .of_failed (bind_failed failed _), rfl, rfl, rfl, rfl⟩
  | ok answer =>
    obtain ⟨response, rfl⟩ := attentive.answers _ _ _ ha
    have answered : request command link w = .ok (Mi.answer command response)
        (w.requesting command (.ok (Mi.answer command response))) := by
      rw [request_attentive attentive, ha]
    have plain : ∀ n, Notice.read (Mi.answer command response) = .ok n → n.isPlain = true :=
      fun n => Mi.plain_of_answer hv (Mi.head_words hv h)
    obtain ⟨v, handled, noted⟩ := settles_handleBreakpoint plain link
      (w.requesting command (.ok (Mi.answer command response)))
    by_cases refused :
        (Mi.answer command response).isEmpty || Mi.answer command response = Mi.errorAnswer
    · refine ⟨_, .after_ok answered ?_, rfl, rfl, rfl, rfl⟩
      rw [if_pos refused]
      exact .of_ok rfl
    · refine ⟨v, .after_ok answered ?_, noted⟩
      rw [if_neg refused]
      exact handled.discard.dropped _

/-- **Letting hits pass** sends one ignore count. -/
theorem settles_stopAtHit (id : Nat) {n : Int} (bounded : n ≠ leastInt64) (w : World) :
    ∃ v, (stopAtHit id n).Settles link w v ∧
      (w.requesting (breakAfter id (ignoreCountFor n))
        (link.peer.answer w.sent (breakAfter id (ignoreCountFor n)))).Noted v := by
  have sent : stopAtHit id n = requestNotice (breakAfter id (ignoreCountFor n)) := by
    unfold stopAtHit
    rw [if_neg bounded]
    rfl
  rw [sent]
  exact settles_requestNotice attentive "-break-after" (by decide) _ (toList_breakAfter id _) w

end Attentive

end Act

end DebugLink
