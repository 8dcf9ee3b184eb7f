import DebugLink.Proofs.Notice
import DebugLink.Proofs.Pause
import DebugLink.Proofs.Written
import DebugLink.Session.Scripted

/-!
# Edits that are answered by an echo

The answer to an edit of a breakpoint is made from the text of the command alone, and read as if gdb
had sent it on its own. So what is written into the command comes back and is applied: exactly what
was asked for, to the breakpoint it was asked for.

* `Echoed`: the edits, the command of each and what it makes of a snapshot.
* `read_answer`: the answer to a command says what the command asked for.
* `echoed_exactly`: the edit changes the table in the place of its number, and nothing when it was
  refused.
-/

namespace DebugLink

open Act Breakpoint Text

/-- An edit of one breakpoint that is answered by a record that repeats it. -/
inductive Echoed
  | delete
  | enable (on : Bool)
  | condition (text : String)
  /-- The `n`-th hit from now on is to stop. -/
  | stopAt (n : Int)
  deriving DecidableEq

namespace Echoed

/-- The edit of a breakpoint. -/
def act (id : Nat) : Echoed → Act Bool
  | delete => Act.delete id
  | enable on => Act.enable id on
  | condition text => setGdbCondition id text
  | stopAt n => stopAtHit id n

/-- The command of the edit. -/
def command (id : Nat) : Echoed → String
  | delete => s!"-break-delete {id}"
  | enable on =>
    let verb := if on then "enable" else "disable"
    s!"-break-{verb} {id}"
  | condition text =>
    if text.isEmpty then s!"-break-condition {id}" else s!"-break-condition {id} {text}"
  | stopAt n => breakAfter id (ignoreCountFor n)

/-- What the edit makes of the snapshot of its breakpoint. -/
def change : Echoed → Snapshot → Option Snapshot
  | delete, _ => none
  | enable on, s => some { s with enabled := on }
  | condition text, s => some { s with condition := String.ofList (trim text.toList) }
  | stopAt n, s =>
    some { s with ignoreCount := if 1 ≤ n then min (n - 1).toNat 2147483647 else 2147483647 }

/-- Only the least number of 64 bits cannot be asked for. -/
def Allowed : Echoed → Prop
  | stopAt n => n ≠ leastInt64
  | _ => True

instance (e : Echoed) : Decidable e.Allowed := by
  cases e <;> (unfold Allowed; infer_instance)

/-- What the answer says. -/
def notice (id : Nat) : Echoed → Notice
  | delete => .deleted id
  | enable true => .enabled id
  | enable false => .disabled id
  | condition text => .condition id (String.ofList (trim text.toList))
  | stopAt n => .ignoreCount id (ignoreCountFor n)

/-- The table after the edit. -/
def applied (id : Nat) (t : Table) : Echoed → Table
  | delete => t.erase id
  | enable on => t.markEnabled id on
  | condition text =>
    t.modify id fun s => { s with condition := String.ofList (trim text.toList) }
  | stopAt n => t.modify id fun s => { s with ignoreCount := ignoreCountFor n }

/-! ## The table after an edit -/

/-- The hits before the `n`-th are ignored, as many as gdb can count. -/
theorem ignoreCountFor_eq (n : Int) :
    ignoreCountFor n = if 1 ≤ n then min (n - 1).toNat 2147483647 else 2147483647 := by
  unfold ignoreCountFor ignoreForever
  split <;> split <;> omega

theorem ignoreCountFor_lt (n : Int) : ignoreCountFor n < limit32 := by
  unfold ignoreCountFor ignoreForever limit32
  split <;> omega

theorem change_stopAt (n : Int) (s : Snapshot) :
    (stopAt n).change s = some { s with ignoreCount := ignoreCountFor n } := by
  rw [ignoreCountFor_eq]
  rfl

section Table

variable {id : Nat} (one : id ≠ allBreakpoints)

include one

/-- **The edit changes one entry.** -/
theorem find?_applied (e : Echoed) (t : Table) (k : Nat) :
    (e.applied id t).find? k = if k = id then (t.find? id).bind e.change else t.find? k := by
  -- a snapshot that is changed in place keeps its number
  have modified : ∀ (f : Snapshot → Snapshot) (keeps : ∀ s, (f s).id = s.id),
      (t.modify id f).find? k =
        if k = id then (t.find? id).bind (fun s => some (f s)) else t.find? k := by
    intro f keeps
    rw [Table.find?_modify t id k f keeps]
    by_cases same : k = id
    · rw [if_pos same, if_pos same, same]
      cases t.find? id <;> rfl
    · rw [if_neg same, if_neg same]
  cases e with
  | delete =>
    refine (Table.find?_erase t k one).trans ?_
    rw [show (t.find? id).bind delete.change = none by cases t.find? id <;> rfl]
  | enable on =>
    show (t.markEnabled id on).find? k = _
    rw [Table.markEnabled_of_ne t one]
    exact modified _ fun _ => rfl
  | condition text => exact modified _ fun _ => rfl
  | stopAt n =>
    rw [show (stopAt n).change = fun s => some { s with ignoreCount := ignoreCountFor n } from
      funext (change_stopAt n)]
    exact modified _ fun _ => rfl

/-- **An edit of an unknown breakpoint** changes nothing. -/
theorem applied_eq_self (e : Echoed) {t : Table} (h : t.find? id = none) : e.applied id t = t := by
  cases e with
  | delete => exact Table.erase_eq_self one h
  | enable on => exact (Table.markEnabled_of_ne t one on).trans (Table.modify_eq_self h _)
  | condition text => exact Table.modify_eq_self h _
  | stopAt n => exact Table.modify_eq_self h _

end Table

/-- The notice in the answer is applied to the table, and to nothing else. -/
theorem applyNotice_notice (e : Echoed) (id : Nat) (link : Link) (w : World) :
    applyNotice (e.notice id) link w =
      .ok () { w with session := { w.session with table := e.applied id w.session.table } } := by
  cases e with
  | enable on => cases on <;> rfl
  | _ => rfl

/-! ## The answer to an edit -/

end Echoed

namespace Mi

/-- The words of a command made of a verb and one number. -/
theorem words_one {command verb : String} (hv : verb ∈ editVerbs) {id : Nat}
    (h : command.toList = verb.toList ++ ' ' :: (toString id).toList) :
    (words command.toList).map String.ofList = [verb, toString id] := by
  rw [words_edit hv h, words_toString]
  simp only [List.map_cons, List.map_nil, String.ofList_toList]

/-- The verb of a condition holds no blank. -/
theorem blank_not_mem_conditionVerb : ' ' ∉ "-break-condition".toList := by decide

/-- **The record of a condition** repeats its text without the blanks around it. -/
theorem conditionRecord_eq {command : String} {id : Nat} {text : List Char}
    (h : command.toList =
      "-break-condition".toList ++ ' ' :: ((toString id).toList ++ ' ' :: text)) :
    conditionRecord command = "28;" ++ String.ofList ((toString id).toList ++
      if (trim text).isEmpty then [] else ';' :: trim text) := by
  -- the text is the third field, which is not cut any more
  have fields : fieldsUpTo ' ' 3 command.toList =
      ["-break-condition".toList, (toString id).toList, text] := by
    rw [h, fieldsUpTo, cutWhere?_append blank_not_mem_conditionVerb]
    dsimp only
    rw [fieldsUpTo, cutWhere?_append (not_mem_toString (by decide) id)]
    rfl
  unfold conditionRecord
  rw [fields]

/-- The answer to a condition is made from the command alone. -/
theorem acceptedAnswer_condition {command : String} {rest : List Char} {response : Response}
    (h : command.toList = "-break-condition".toList ++ ' ' :: rest) :
    acceptedAnswer command response = conditionRecord command := by
  have head : ((words command.toList).map String.ofList).headD "" = "-break-condition" := by
    rw [words_edit (show "-break-condition" ∈ editVerbs by decide) h]
    exact String.ofList_toList
  unfold acceptedAnswer
  simp only [head]

/-- The record of a condition that is taken away. -/
theorem conditionRecord_none {command : String} {id : Nat}
    (h : command.toList = "-break-condition".toList ++ ' ' :: (toString id).toList) :
    conditionRecord command = "28;" ++ toString id := by
  have fields : fieldsUpTo ' ' 3 command.toList =
      ["-break-condition".toList, (toString id).toList] := by
    rw [h, fieldsUpTo, cutWhere?_append blank_not_mem_conditionVerb]
    dsimp only
    rw [fieldsUpTo, cutWhere?_eq_none (not_mem_toString (by decide) id)]
  unfold conditionRecord
  rw [fields]
  show "28;" ++ String.ofList (toString id).toList = _
  rw [String.ofList_toList]

end Mi

namespace Echoed

variable {id : Nat}

theorem toList_enable (on : Bool) (id : Nat) : ((enable on).command id).toList =
    (if on then "-break-enable" else "-break-disable").toList ++ ' ' :: (toString id).toList := by
  cases on with
  | true =>
    show ("-break-" ++ "enable" ++ " " ++ toString id).toList = _
    simp only [String.toList_append]
    rfl
  | false =>
    show ("-break-" ++ "disable" ++ " " ++ toString id).toList = _
    simp only [String.toList_append]
    rfl

theorem toList_condition {text : String} (given : text.isEmpty = false) (id : Nat) :
    ((condition text).command id).toList =
      "-break-condition".toList ++ ' ' :: ((toString id).toList ++ ' ' :: text.toList) := by
  dsimp only [command]
  rw [given, if_neg Bool.false_ne_true]
  simp only [String.toList_append, List.append_assoc]
  rfl

theorem toList_noCondition {text : String} (none : text.isEmpty = true) (id : Nat) :
    ((condition text).command id).toList =
      "-break-condition".toList ++ ' ' :: (toString id).toList := by
  dsimp only [command]
  rw [if_pos none]
  simp only [String.toList_append]
  rfl

theorem toList_delete (id : Nat) : (delete.command id).toList =
    "-break-delete".toList ++ ' ' :: (toString id).toList := by
  show ("-break-delete " ++ toString id).toList = _
  simp only [String.toList_append]
  rfl

/-- The command of an edit is a verb and what it is about. -/
theorem exists_verb (e : Echoed) (id : Nat) : ∃ verb ∈ Mi.editVerbs,
    (verb = "-break-delete" → e = .delete) ∧
      ∃ rest, (e.command id).toList = verb.toList ++ ' ' :: rest := by
  cases e with
  | delete => exact ⟨"-break-delete", by decide, fun _ => rfl, _, toList_delete id⟩
  | enable on =>
    refine ⟨if on then "-break-enable" else "-break-disable", ?_, ?_, _, toList_enable on id⟩
    · cases on <;> decide
    · cases on <;> exact fun same => absurd same (by decide)
  | condition text =>
    refine ⟨"-break-condition", by decide, fun same => absurd same (by decide), ?_⟩
    cases given : text.isEmpty with
    | true => exact ⟨_, toList_noCondition given id⟩
    | false => exact ⟨_, toList_condition given id⟩
  | stopAt n =>
    exact ⟨"-break-after", by decide, fun same => absurd same (by decide), _,
      toList_breakAfter id _⟩

theorem acceptedAnswer_delete (id : Nat) (response : Mi.Response) :
    Mi.acceptedAnswer (delete.command id) response = "25;" ++ toString id := by
  unfold Mi.acceptedAnswer
  simp only [Mi.words_one (by decide) (toList_delete id)]
  rfl

/-- An accepted mark is echoed with its number. -/
theorem acceptedAnswer_enable (on : Bool) (id : Nat) (response : Mi.Response) :
    Mi.acceptedAnswer ((enable on).command id) response =
      (if on then "23;" else "24;") ++ toString id := by
  unfold Mi.acceptedAnswer
  cases on with
  | true =>
    simp only [Mi.words_one (by decide) (toList_enable true id)]
    rfl
  | false =>
    simp only [Mi.words_one (by decide) (toList_enable false id)]
    rfl

/-- An accepted ignore count is echoed with its number and the count. -/
theorem acceptedAnswer_stopAt (n : Int) (id : Nat) (response : Mi.Response) :
    Mi.acceptedAnswer ((stopAt n).command id) response =
      "26;" ++ toString id ++ ";" ++ toString (ignoreCountFor n) := by
  have words : (words ((stopAt n).command id).toList).map String.ofList =
      ["-break-after", toString id, toString (ignoreCountFor n)] := by
    show (words (breakAfter id (ignoreCountFor n)).toList).map String.ofList = _
    rw [words_breakAfter]
    simp only [List.map_cons, List.map_nil, String.ofList_toList]
  unfold Mi.acceptedAnswer
  simp only [words]
  rfl

/-- The text of a condition comes back without the blanks around it, also where it holds blanks or
delimiters itself. -/
theorem read_conditionAnswer (text : String) {id : Nat} (small : id < limit32)
    (response : Mi.Response) :
    Notice.read (Mi.acceptedAnswer ((condition text).command id) response) =
      .ok (.condition id (String.ofList (trim text.toList))) := by
  -- without a text the command ends after the number
  cases given : text.isEmpty with
  | true =>
    have empty : text = "" := by simpa using given
    rw [Mi.acceptedAnswer_condition (toList_noCondition given id),
      Mi.conditionRecord_none (toList_noCondition given id), empty]
    exact Notice.read_noCondition small
  | false =>
    rw [Mi.acceptedAnswer_condition (toList_condition given id),
      Mi.conditionRecord_eq (toList_condition given id)]
    -- a text of nothing but blanks is no condition
    cases shown : trim text.toList with
    | nil =>
      rw [List.isEmpty_nil, if_pos rfl, List.append_nil, String.ofList_toList]
      exact Notice.read_noCondition small
    | cons c rest => exact Notice.read_condition small (List.cons_ne_nil c rest)

/-- **The answer says what the command asked for**, whatever gdb printed. -/
theorem read_answer (e : Echoed) {id : Nat} (small : id < limit32) (response : Mi.Response) :
    Notice.read (Mi.acceptedAnswer (e.command id) response) = .ok (e.notice id) := by
  cases e with
  | delete =>
    rw [acceptedAnswer_delete]
    exact Notice.read_deleted small
  | enable on =>
    rw [acceptedAnswer_enable]
    cases on with
    | true => exact Notice.read_enabled small
    | false => exact Notice.read_disabled small
  | condition text => exact read_conditionAnswer text small response
  | stopAt n =>
    rw [acceptedAnswer_stopAt]
    exact Notice.read_ignoreCount small (ignoreCountFor_lt n)

end Echoed

/-! ## What becomes of an edit -/

/-- **An echoing peer** answers a command with what is made of a response of gdb, and delivers
nothing meanwhile. A target that is still to be resumed from an earlier edit can be. -/
structure Link.Echoes (link : Link) (w : World) (command : String) (response : Mi.Response) :
    Prop where
  answers : link.peer.answer w.sent command = .ok (Mi.answer command response)
  quiet : link.peer.reactions w.sent (.request command) = []
  resumes : w.session.needsResume = true →
    link.peer.accept (.request command :: w.sent) link.config.continueCommand = .ok () ∧
      link.peer.reactions (.request command :: w.sent) (.submit link.config.continueCommand) = []

/-- The world after a command for which the table became another one: whatever else there is to it
was there before, unless the target was resumed. -/
structure World.Tabled (w v : World) (t : Table) : Prop where
  table : v.session.table = t
  bound : v.bound = w.bound
  session : w.session.needsResume = false → v.session = { w.session with table := t }

section Echo

variable {link : Link} {w : World} {command : String} {response : Mi.Response}

/-- The answer of an echoing peer is there at once. -/
theorem request_echoes (echoes : link.Echoes w command response) :
    request command link w = .ok (Mi.answer command response)
      (w.requesting command (.ok (Mi.answer command response))) := by
  rw [request_quiet echoes.quiet, echoes.answers]

/-- **The end of an edit** changes neither the table nor what is bound. -/
theorem resumeAfterEdit_echoes (resumes : w.session.needsResume = true →
      link.peer.accept w.sent link.config.continueCommand = .ok () ∧
        link.peer.reactions w.sent (.submit link.config.continueCommand) = []) :
    ∃ v, resumeAfterEdit link w = .ok () v ∧ w.Tabled v w.session.table := by
  cases flag : w.session.needsResume with
  | false => exact ⟨w, resumeAfterEdit_idle flag, rfl, rfl, fun _ => rfl⟩
  | true =>
    -- an earlier edit left the target to be resumed, and this one does it
    obtain ⟨accepted, quiet⟩ := resumes flag
    rw [resumeAfterEdit_apply, flag, if_pos rfl]
    cases free : w.session.breakAll.isFree with
    | false =>
      exact ⟨_, resume_barred free, rfl, rfl, fun no => absurd (flag.symm.trans no) (by simp)⟩
    | true =>
      have reacted : react (w.flagged false).sent (.submit link.config.continueCommand) link =
          (pure () : Act Unit) link := by
        funext u
        rw [react_apply, show link.peer.reactions (w.flagged false).sent _ = [] from quiet]
        rfl
      refine ⟨(w.flagged false).continued link.config, ?_, rfl, rfl,
        fun no => absurd (flag.symm.trans no) (by simp)⟩
      rw [resume_accepted (w := w.flagged false) free accepted, bind_apply, attempt_apply, reacted]
      rfl

/-- **An edit that pauses a target** that is stopped already. -/
theorem whilePaused_echoes {edit : Act Bool} {accepted : Bool} {u : World}
    (stopped : w.session.phase = .stopped) (echoes : link.Echoes w command response)
    (edited : edit link w = .ok accepted u) (sent : u.sent = .request command :: w.sent)
    (flag : u.session.needsResume = w.session.needsResume) :
    ∃ v, whilePaused edit link w = .ok accepted v ∧ u.Tabled v u.session.table := by
  obtain ⟨v, resumed, tabled⟩ : ∃ v, resumeAfterEdit link u = .ok () v ∧
      u.Tabled v u.session.table := by
    refine resumeAfterEdit_echoes ?_
    rw [flag, sent]
    exact echoes.resumes
  refine ⟨v, ?_, tabled⟩
  unfold whilePaused
  rw [bind_ok (pauseForEdit_stopped stopped), bind_ok (attempt_ok edited), bind_ok resumed]
  rfl

end Echo

namespace Echoed

/-- The request of an edit. -/
def ask (id : Nat) (e : Echoed) : Act Bool :=
  match e with
  | delete | enable _ => requestEcho (e.command id) id
  | condition _ | stopAt _ => requestNotice (e.command id)

/-- Whether the target is paused for the edit. -/
def pauses : Echoed → Bool
  | delete | enable _ => true
  | condition _ | stopAt _ => false

variable {link : Link} {w : World} {id : Nat} {response : Mi.Response} {e : Echoed}

/-- The edit is its request, with the target paused or not. -/
theorem act_apply (alive : w.session.alive = true) (allowed : e.Allowed) :
    e.act id link w = (if e.pauses then whilePaused (e.ask id) else e.ask id) link w := by
  cases e with
  | delete => exact delete_alive alive id
  | enable on => rfl
  | condition text =>
    show (requestNotice _) link w = (requestNotice _) link w
    dsimp only [command]
  | stopAt n =>
    show stopAtHit id n link w = _
    unfold stopAtHit
    rw [if_neg allowed]
    rfl

/-- The world after a request that was accepted. -/
def edited (id : Nat) (response : Mi.Response) (w : World) (e : Echoed) : World :=
  { w.requesting (e.command id) (.ok (Mi.answer (e.command id) response)) with
    session := { w.session with table := e.applied id w.session.table } }

/-- What is answered to an accepted request is a record about a breakpoint. -/
theorem answer_written (e : Echoed) (id : Nat) (accepted : response.isError = false) :
    ∃ k rest, (Mi.answer (e.command id) response).toList = '2' :: k :: rest := by
  obtain ⟨verb, hv, -, rest, h⟩ := e.exists_verb id
  obtain ⟨k, rest, written, -⟩ := Mi.toList_acceptedAnswer response hv (Mi.head_words hv h)
  exact ⟨k, rest, by rw [Mi.answer_accepted (e.command id) accepted, written]⟩

section Accepted

variable (small : id < limit32) (echoes : link.Echoes w (e.command id) response)
  (accepted : response.isError = false)

include small accepted

/-- The answer is handled as the notice of the edit. -/
theorem handleBreakpoint_answer :
    handleBreakpoint (Mi.answer (e.command id) response) link
      (w.requesting (e.command id) (.ok (Mi.answer (e.command id) response))) =
        .ok (e.notice id) (e.edited id response w) := by
  have read := e.read_answer small response
  rw [← Mi.answer_accepted (e.command id) accepted] at read
  unfold handleBreakpoint
  rw [read]
  exact bind_ok (applyNotice_notice e id link _) _

include echoes

/-- A request whose answer has to name the breakpoint. -/
theorem requestEcho_accepted (names : e.notice id = .deleted id ∨ e.notice id = .enabled id ∨
    e.notice id = .disabled id) :
    requestEcho (e.command id) id link w = .ok true (e.edited id response w) := by
  obtain ⟨k, rest, written⟩ := e.answer_written id accepted
  -- the answer begins with a digit, so it is taken for a record
  have digits : ¬(utf8Length (Mi.answer (e.command id) response).toList < 2 ||
      !(Mi.answer (e.command id) response).toList.head?.any Char.isDigit) = true := by
    have long : ¬utf8Length ('2' :: k :: rest) < 2 := Nat.not_lt.2 (one_lt_utf8Length '2' k rest)
    rw [written, decide_eq_false long]
    exact Bool.false_ne_true
  unfold requestEcho
  rw [bind_ok (request_echoes echoes), if_neg digits,
    bind_ok (handleBreakpoint_answer small accepted)]
  rcases names with same | same | same
  all_goals
    rw [same]
    dsimp only
    rw [decide_eq_true rfl]
    rfl

/-- A request whose answer only has to be there. -/
theorem requestNotice_accepted :
    requestNotice (e.command id) link w = .ok true (e.edited id response w) := by
  obtain ⟨k, rest, written⟩ := e.answer_written id accepted
  have answered : ¬((Mi.answer (e.command id) response).isEmpty ||
      Mi.answer (e.command id) response = Mi.errorAnswer) = true := by
    intro unfit
    rcases Bool.or_eq_true _ _ ▸ unfit with empty | error
    · rw [String.isEmpty_iff.1 empty] at written
      cases written
    · rw [of_decide_eq_true error] at written
      cases written
  unfold requestNotice
  rw [bind_ok (request_echoes echoes), if_neg answered, discard_eq_bind, bind_assoc,
    bind_ok (handleBreakpoint_answer small accepted)]
  rfl

/-- **A request that was accepted** is applied. -/
theorem ask_accepted : e.ask id link w = .ok true (e.edited id response w) := by
  cases e with
  | delete => exact requestEcho_accepted small echoes accepted (.inl rfl)
  | enable on => cases on with
    | true => exact requestEcho_accepted small echoes accepted (.inr (.inl rfl))
    | false => exact requestEcho_accepted small echoes accepted (.inr (.inr rfl))
  | condition text => exact requestNotice_accepted small echoes accepted
  | stopAt n => exact requestNotice_accepted small echoes accepted

end Accepted

/-- **A request that was refused** changes nothing. -/
theorem ask_refused (echoes : link.Echoes w (e.command id) response)
    (refused : response.isError = true) : ∃ v, e.ask id link w = .ok false v ∧
      v.session = w.session ∧ v.bound = w.bound ∧ v.sent = .request (e.command id) :: w.sent := by
  obtain ⟨verb, hv, -, rest, h⟩ := e.exists_verb id
  have error := Mi.answer_refused hv (Mi.head_words hv h) refused
  have answered := request_echoes echoes
  rw [error] at answered
  have echoed : ∃ v, requestEcho (e.command id) id link w = .ok false v ∧
      v.session = w.session ∧ v.bound = w.bound ∧ v.sent = .request (e.command id) :: w.sent := by
    unfold requestEcho
    rw [bind_ok answered]
    exact ⟨_, rfl, rfl, rfl, rfl⟩
  have noticed : ∃ v, requestNotice (e.command id) link w = .ok false v ∧
      v.session = w.session ∧ v.bound = w.bound ∧ v.sent = .request (e.command id) :: w.sent := by
    unfold requestNotice
    rw [bind_ok answered]
    exact ⟨_, rfl, rfl, rfl, rfl⟩
  cases e with
  | delete => exact echoed
  | enable on => exact echoed
  | condition text => exact noticed
  | stopAt n => exact noticed

end Echoed

/-- What an edit comes to while the target is stopped, if its request ends so. -/
theorem Echoed.act_of_ask {link : Link} {w u : World} {id : Nat} {response : Mi.Response}
    {e : Echoed} {accepted : Bool} (alive : w.session.alive = true)
    (stopped : w.session.phase = .stopped) (allowed : e.Allowed)
    (echoes : link.Echoes w (e.command id) response) (asked : e.ask id link w = .ok accepted u)
    (sent : u.sent = .request (e.command id) :: w.sent)
    (session : u.session = { w.session with table := u.session.table }) :
    ∃ v, e.act id link w = .ok accepted v ∧ u.Tabled v u.session.table := by
  rw [e.act_apply alive allowed]
  split
  · exact whilePaused_echoes stopped echoes asked sent (by rw [session])
  · exact ⟨u, asked, rfl, rfl, fun _ => rfl⟩

/-- **An edit does exactly what its command says.** On a live session whose target is stopped, with
a peer that answers by an echo: an edit that gdb accepted succeeds and changes the table in the
place of its number only, as it was asked to, and not at all where there is no such breakpoint. An
edit that gdb refused says so and changes nothing. -/
theorem echoed_exactly {link : Link} {w : World} {id : Nat} {response : Mi.Response} (e : Echoed)
    (alive : w.session.alive = true) (stopped : w.session.phase = .stopped) (one : 1 ≤ id)
    (small : id < limit32) (allowed : e.Allowed)
    (echoes : link.Echoes w (e.command id) response) :
    (response.isError = false → ∃ v t, e.act id link w = .ok true v ∧ w.Tabled v t ∧
        (∀ k, t.find? k =
          if k = id then (w.session.table.find? id).bind e.change
          else w.session.table.find? k) ∧
        (w.session.table.find? id = none → t = w.session.table)) ∧
      (response.isError = true → ∃ v, e.act id link w = .ok false v ∧
        w.Tabled v w.session.table) := by
  have some : id ≠ allBreakpoints := Nat.one_le_iff_ne_zero.1 one
  constructor
  · intro accepted
    obtain ⟨v, done, tabled⟩ := Echoed.act_of_ask alive stopped allowed echoes
      (Echoed.ask_accepted small echoes accepted) rfl rfl
    exact ⟨v, _, done, ⟨tabled.table, tabled.bound, tabled.session⟩, e.find?_applied some _,
      e.applied_eq_self some⟩
  · intro refused
    obtain ⟨u, asked, session, bound, sent⟩ := e.ask_refused echoes refused
    obtain ⟨v, done, tabled⟩ := Echoed.act_of_ask alive stopped allowed echoes asked sent
      (by rw [session])
    refine ⟨v, done, tabled.table.trans (by rw [session]), tabled.bound.trans bound, fun flag => ?_⟩
    rw [tabled.session (by rw [session, flag]), session]

/-- A stopped session that knows two breakpoints. -/
def twoBreakpoints : World where
  session :=
    { phase := .stopped
      table := ⟨[⟨1, true, .pending, "??", "", 0, 0, 0, ""⟩,
        ⟨2, true, .resolved 4096, "main", "a.c", 3, 0, 0, "n"⟩]⟩ }

/-- A peer that accepts every command but that of one ignore count. -/
def mostlyAccepting : Script where
  accepting := true
  replies := [("-break-after 2 4", [.result "^error,msg=\"No breakpoint number 2.\"" []])]

theorem echoes_mostlyAccepting : (mostlyAccepting.link {} 0).Echoes twoBreakpoints
      ((Echoed.condition " n > 1; m ").command 2) (.ofResult "^done" []) ∧
    (mostlyAccepting.link {} 0).Echoes twoBreakpoints ((Echoed.stopAt 5).command 2)
      (.ofResult "^error,msg=\"No breakpoint number 2.\"" []) := by
  constructor
  · exact ⟨rfl, rfl, fun flag => by cases flag⟩
  · exact ⟨rfl, rfl, fun flag => by cases flag⟩

/-- A condition is given without the blanks around it, whatever delimiters it holds, and an ignore
count that is refused is not given. -/
theorem condition_echoed :
    (∃ v, (Echoed.condition " n > 1; m ").act 2 (mostlyAccepting.link {} 0) twoBreakpoints =
        .ok true v ∧ v.session.table.find? 2 =
          some ⟨2, true, .resolved 4096, "main", "a.c", 3, 0, 0, "n > 1; m"⟩) ∧
      ∃ v, (Echoed.stopAt 5).act 2 (mostlyAccepting.link {} 0) twoBreakpoints = .ok false v ∧
        v.session = twoBreakpoints.session := by
  constructor
  · obtain ⟨v, t, done, tabled, changed, -⟩ := (echoed_exactly (.condition " n > 1; m ") rfl rfl
      (by decide) (by decide) trivial echoes_mostlyAccepting.1).1 (by decide +kernel)
    refine ⟨v, done, ?_⟩
    rw [tabled.table, changed 2]
    decide +kernel
  · obtain ⟨v, done, tabled⟩ := (echoed_exactly (.stopAt 5) rfl rfl (by decide) (by decide)
      (by decide) echoes_mostlyAccepting.2).2 (by decide +kernel)
    exact ⟨v, done, tabled.session rfl⟩

end DebugLink
