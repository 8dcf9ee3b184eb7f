import DebugLink.Mi.Answer
import DebugLink.Breakpoint.Notice
import DebugLink.Peer.Basic

/-!
# What the answers to edits say

The answer to a command that edits a breakpoint is made from the result of gdb and applied as if gdb
had sent it on its own. It is never a hit and never gives a hit count, so applying it changes
nothing but what is known of breakpoints.

* `Gives`: what the values are that a reading can give.
* `Notice.plain_of_read`: the second digit of a record tells hits and hit counts from the rest.
* `Notice.of_snapshot`: what holds of every snapshot that can be read holds of the one that was.
* `answer_refused`, `answer_accepted`: what the answer to an edit says of the result of gdb.
* `plain_of_answer`: the answer to an edit is plain.
* `Peer.Attentive`: a peer that gives such answers.
-/

namespace DebugLink

open Text Record Reading

namespace Record

/-! ## What a reading gives -/

namespace Reading

/-- A reading gives nothing but values of a kind. -/
def Gives {α : Type} (P : α → Prop) (reading : Reading α) : Prop :=
  ∀ c a d, reading c = .ok a d → P a

theorem Gives.pure {α : Type} {P : α → Prop} {a : α} (h : P a) : Gives P (Pure.pure a) := by
  intro c b d e
  cases e
  exact h

/-- What follows a reading is about what it gives. -/
theorem Gives.bind_of {α β : Type} {Q : α → Prop} {P : β → Prop} {reading : Reading α}
    {next : α → Reading β} (first : Gives Q reading) (second : ∀ a, Q a → Gives P (next a)) :
    Gives P (reading >>= next) := by
  intro c b d e
  change EStateM.bind reading next c = _ at e
  unfold EStateM.bind at e
  cases hr : reading c with
  | ok a c' => rw [hr] at e; exact second a (first c a c' hr) c' b d e
  | error defect c' => rw [hr] at e; cases e

theorem Gives.bind {α β : Type} {P : β → Prop} {reading : Reading α} {next : α → Reading β}
    (h : ∀ a, Gives P (next a)) : Gives P (reading >>= next) :=
  bind_of (Q := fun _ => True) (fun _ _ _ _ => trivial) fun a _ => h a

/-- The numbers of a record have 32 bits. -/
theorem gives_numberField (name : String) : Gives (· < limit32) (numberField name) := by
  refine .bind fun raw => ?_
  intro c n d e
  unfold number at e
  split at e
  · rename_i read
    cases e
    exact lt_of_readWord read
  · cases e

/-- What was read of a record was read after its tag. -/
theorem of_run {α : Type} {reading : Reading α} {record : String} {a : α}
    (h : reading.run record = .ok a) :
    ∃ c d, Cursor.start record = .ok c ∧ reading c = .ok a d := by
  unfold Reading.run at h
  cases hs : Cursor.start record with
  | error defect => rw [hs] at h; cases h
  | ok c =>
    rw [hs] at h
    dsimp only [bind, Except.bind, EStateM.run] at h
    cases hr : reading c with
    | error defect d => rw [hr] at h; cases h
    | ok b d =>
      rw [hr] at h
      cases h
      exact ⟨c, d, rfl, hr⟩

end Reading

/-- A cursor has the tag that is read from its record. -/
theorem tag_of_start {record : String} {c : Cursor} (h : Cursor.start record = .ok c) :
    Tag.read record = .ok c.tag := by
  unfold Cursor.start at h
  cases ht : Tag.read record with
  | error defect => rw [ht] at h; cases h
  | ok tag =>
    rw [ht] at h
    dsimp only [bind, Except.bind] at h
    split at h
    · split at h
      · cases h; rfl
      · cases h
    · cases h; rfl

end Record

namespace Breakpoint

/-- Whether a notice only says something about breakpoints: it is no hit and no new state of one. -/
def Notice.isPlain : Notice → Bool
  | hit _ _ _ _ | modified _ => false
  | _ => true

namespace Notice

/-- Of all kinds only a modification and a hit do more than change the table. -/
theorem plain_reading {c d : Cursor} {n : Notice} (h : reading c = .ok n d)
    (modified : c.tag.kind ≠ 1) (hit : c.tag.kind ≠ 7) : n.isPlain = true := by
  have looked : ∀ {next : Cursor → Reading Notice}, (get >>= next) c = next c c := rfl
  unfold reading at h
  rw [looked] at h
  refine (?_ : Gives (·.isPlain = true) _) c n d h
  -- one case for each second digit
  split
  · exact .bind fun _ => .pure rfl
  · contradiction
  · exact .bind fun _ => .pure rfl
  · exact .bind fun _ => .pure rfl
  · exact .bind fun _ => .pure rfl
  · exact .bind fun _ => .pure rfl
  · exact .bind fun _ => .bind fun _ => .pure rfl
  · contradiction
  · split
    · exact .bind fun _ => .bind fun _ => .pure rfl
    · exact .bind fun _ => .pure rfl
  · exact .pure rfl
  · exact .pure rfl

/-- **A record is plain** unless its second digit says that it is a hit or a new state. -/
theorem plain_of_read {record : String} {tag : Tag} {n : Notice} (ht : Tag.read record = .ok tag)
    (h : read record = .ok n) (modified : tag.kind ≠ 1) (hit : tag.kind ≠ 7) :
    n.isPlain = true := by
  obtain ⟨c, d, start, hr⟩ := of_run h
  cases (tag_of_start start).symm.trans ht
  exact plain_reading hr modified hit

/-- **A snapshot is given by two kinds of records only**: what holds of all that can be read as a
snapshot holds of the snapshot in a record. -/
theorem of_snapshot {P : Snapshot → Prop} (gives : ∀ mayBePending, Gives P (snapshot mayBePending))
    {record : String} {n : Notice} (h : read record = .ok n) {s : Snapshot}
    (given : n = .inserted s ∨ n = .modified s) : P s := by
  have looked : ∀ {next : Cursor → Reading Notice} c, (get >>= next) c = next c c := fun _ => rfl
  have silent : ∀ {n : Notice}, n.isPlain = true → (∀ s, n ≠ .inserted s) →
      ∀ s, n = .inserted s ∨ n = .modified s → P s := by
    rintro n plain other s (rfl | rfl)
    · exact absurd rfl (other s)
    · cases plain
  obtain ⟨c, d, -, reads⟩ := of_run h
  unfold reading at reads
  rw [looked] at reads
  refine (?_ : Gives (fun n : Notice => ∀ s, n = .inserted s ∨ n = .modified s → P s) _)
    c n d reads s given
  -- one case for each second digit
  split
  · refine (gives true).bind_of fun _ holds => .pure fun s given => ?_
    rcases given with h | h <;> cases h
    exact holds
  · refine (gives false).bind_of fun _ holds => .pure fun s given => ?_
    rcases given with h | h <;> cases h
    exact holds
  · exact .bind fun _ => .pure (silent rfl fun _ => Notice.noConfusion)
  · exact .bind fun _ => .pure (silent rfl fun _ => Notice.noConfusion)
  · exact .bind fun _ => .pure (silent rfl fun _ => Notice.noConfusion)
  · exact .bind fun _ => .pure (silent rfl fun _ => Notice.noConfusion)
  · exact .bind fun _ => .bind fun _ => .pure (silent rfl fun _ => Notice.noConfusion)
  · refine .bind fun _ => .bind fun _ => .bind fun _ => .bind fun _ => .pure fun s given => ?_
    rcases given with h | h <;> cases h
  · split
    · exact .bind fun _ => .bind fun _ => .pure (silent rfl fun _ => Notice.noConfusion)
    · exact .bind fun _ => .pure (silent rfl fun _ => Notice.noConfusion)
  · exact .pure (silent rfl fun _ => Notice.noConfusion)
  · exact .pure (silent rfl fun _ => Notice.noConfusion)

/-- The number of a breakpoint has 32 bits. -/
theorem id_lt_of_read {record : String} {s : Snapshot} (h : read record = .ok (.inserted s)) :
    s.id < limit32 := by
  refine of_snapshot (P := (·.id < limit32)) (fun mayBePending => ?_) h (.inl rfl)
  unfold snapshot
  refine (gives_numberField "id").bind_of fun _ small => .bind fun _ => .bind fun _ => ?_
  extract_lets
  split
  · exact .pure small
  · exact .bind fun _ => .bind fun _ => .bind fun _ => .bind fun _ => .bind fun _ => .pure small

end Notice

end Breakpoint

/-! ## Answers -/

namespace Text

/-- A word ends at the first blank. -/
theorem words_go_append {w : List Char} (hw : ∀ c ∈ w, isBlank c = false) {b : Char}
    (hb : isBlank b = true) (s : List Char) : words.go (w ++ b :: s) = w :: words.go s := by
  induction w with
  | nil => simp only [List.nil_append, words.go, hb, if_true]
  | cons c w ih =>
    have hc := hw c List.mem_cons_self
    rw [List.cons_append, words.go, ih fun d hd => hw d (List.mem_cons_of_mem c hd), hc]
    rfl

/-- The word before the first blank is the first word. -/
theorem words_append {w : List Char} (hw : ∀ c ∈ w, isBlank c = false) (ne : w ≠ []) {b : Char}
    (hb : isBlank b = true) (s : List Char) : words (w ++ b :: s) = w :: words s := by
  unfold words
  rw [words_go_append hw hb]
  exact List.filter_cons_of_pos (by simpa using ne)

/-- The last word has no blank behind it. -/
theorem words_go_word {w : List Char} (hw : ∀ c ∈ w, isBlank c = false) : words.go w = [w] := by
  induction w with
  | nil => rfl
  | cons c w ih =>
    have hc := hw c List.mem_cons_self
    rw [words.go, ih fun d hd => hw d (List.mem_cons_of_mem c hd), hc]
    rfl

/-- A text without blanks is one word. -/
theorem words_word {w : List Char} (hw : ∀ c ∈ w, isBlank c = false) (ne : w ≠ []) :
    words w = [w] := by
  unfold words
  rw [words_go_word hw]
  exact List.filter_cons_of_pos (by simpa using ne)

theorem words_toString (n : Nat) : words (toString n).toList = [(toString n).toList] :=
  words_word (fun _ h => isBlank_of_isDigit (isDigit_of_mem_toString h)) (toString_ne_nil n)

end Text

namespace Mi

/-- The verbs of the commands with which breakpoints are edited, but for the one that inserts. -/
def editVerbs : List String :=
  ["-break-delete", "-break-enable", "-break-disable", "-break-after", "-break-condition"]

/-- An accepted condition is answered with a record of its own tag. -/
theorem toList_conditionRecord (command : String) :
    ∃ rest, (conditionRecord command).toList = '2' :: '8' :: rest := by
  unfold conditionRecord
  split
  · rw [String.toList_append]
    exact ⟨_, rfl⟩
  · rw [String.toList_append]
    exact ⟨_, rfl⟩
  · exact ⟨_, rfl⟩

/-- **The answer to an edit that was accepted** starts with the digits of a plain notice. -/
theorem toList_acceptedAnswer {command verb : String} (response : Response) (hv : verb ∈ editVerbs)
    (first : (words command.toList).head? = some verb.toList) :
    ∃ k rest, (acceptedAnswer command response).toList = '2' :: k :: rest ∧
      k ∈ ['3', '4', '5', '6', '8'] ∧ (k = '5' → verb = "-break-delete") := by
  have head : ((words command.toList).map String.ofList).headD "" = verb := by
    cases hs : words command.toList with
    | nil => rw [hs] at first; cases first
    | cons w ws =>
      rw [hs] at first
      cases first
      exact String.ofList_toList
  unfold editVerbs at hv
  simp only [List.mem_cons, List.not_mem_nil, or_false] at hv
  let id := ((words command.toList).map String.ofList)[1]?.getD ""
  -- each verb has a record of its own
  rcases hv with rfl | rfl | rfl | rfl | rfl
  · have e : acceptedAnswer command response = "25;" ++ id := by
      unfold acceptedAnswer
      simp only [head, id]
    rw [e, String.toList_append]
    exact ⟨'5', _, rfl, by decide, fun _ => rfl⟩
  · have e : acceptedAnswer command response = "23;" ++ id := by
      unfold acceptedAnswer
      simp only [head, id]
    rw [e, String.toList_append]
    exact ⟨'3', _, rfl, by decide, fun e => absurd e (by decide)⟩
  · have e : acceptedAnswer command response = "24;" ++ id := by
      unfold acceptedAnswer
      simp only [head, id]
    rw [e, String.toList_append]
    exact ⟨'4', _, rfl, by decide, fun e => absurd e (by decide)⟩
  · have e : acceptedAnswer command response =
        "26;" ++ id ++ ";" ++ ((words command.toList).map String.ofList)[2]?.getD "0" := by
      unfold acceptedAnswer
      simp only [head, id]
    rw [e, String.toList_append, String.toList_append, String.toList_append]
    exact ⟨'6', _, rfl, by decide, fun e => absurd e (by decide)⟩
  · have e : acceptedAnswer command response = conditionRecord command := by
      unfold acceptedAnswer
      simp only [head]
    obtain ⟨rest, eq⟩ := toList_conditionRecord command
    rw [e]
    exact ⟨'8', rest, eq, by decide, fun e => absurd e (by decide)⟩

/-- An edit that was refused is answered by a text that is no record. -/
theorem answer_refused {command verb : String} {response : Response} (hv : verb ∈ editVerbs)
    (first : (words command.toList).head? = some verb.toList) (refused : response.isError = true) :
    answer command response = errorAnswer := by
  have word : String.ofList (firstWord command.toList) = verb := by
    unfold firstWord
    cases hs : words command.toList with
    | nil => rw [hs] at first; cases first
    | cons w ws =>
      rw [hs] at first
      cases first
      exact String.ofList_toList
  have other : verb ≠ "-data-evaluate-expression" := by
    rintro rfl
    revert hv
    decide
  unfold answer
  unfold Response.isError at refused
  split
  · rw [word, if_neg other]
  · rename_i no_error
    split at refused
    · rename_i message e
      exact absurd e (no_error message)
    · cases refused

/-- An accepted response is answered by its command's own record. -/
theorem answer_accepted (command : String) {response : Response}
    (accepted : response.isError = false) :
    answer command response = acceptedAnswer command response := by
  unfold answer
  unfold Response.isError at accepted
  split
  · rename_i message e
    rw [e] at accepted
    cases accepted
  · rfl

/-- What can be read of the answer to an edit is a notice of its own kind. -/
theorem tag_of_answer {command verb : String} {response : Response} {n : Breakpoint.Notice}
    (hv : verb ∈ editVerbs) (first : (words command.toList).head? = some verb.toList)
    (h : Breakpoint.Notice.read (answer command response) = .ok n) :
    ∃ kind, Tag.read (answer command response) = .ok ⟨2, kind⟩ ∧ kind ∈ [3, 4, 5, 6, 8] ∧
      (kind = 5 → verb = "-break-delete") := by
  cases status : response.isError with
  | true =>
    -- the text for an error has no tag
    rw [answer_refused hv first status] at h
    cases h
  | false =>
    rw [answer_accepted command status]
    obtain ⟨k, rest, e, hk, delete⟩ := toList_acceptedAnswer response hv first
    have tag : ∀ kind, digit? 10 k = some kind →
        Tag.read (acceptedAnswer command response) = .ok ⟨2, kind⟩ := fun _ hd =>
      Tag.read_eq_ok_iff.2 ⟨'2', k, rest, e, rfl, hd⟩
    simp only [List.mem_cons, List.not_mem_nil, or_false] at hk
    rcases hk with rfl | rfl | rfl | rfl | rfl
    · exact ⟨3, tag 3 rfl, by decide, fun e => absurd e (by decide)⟩
    · exact ⟨4, tag 4 rfl, by decide, fun e => absurd e (by decide)⟩
    · exact ⟨5, tag 5 rfl, by decide, fun _ => delete rfl⟩
    · exact ⟨6, tag 6 rfl, by decide, fun e => absurd e (by decide)⟩
    · exact ⟨8, tag 8 rfl, by decide, fun e => absurd e (by decide)⟩

/-- **The answer to an edit is plain**, whatever the result of gdb. -/
theorem plain_of_answer {command verb : String} {response : Response} {n : Breakpoint.Notice}
    (hv : verb ∈ editVerbs) (first : (words command.toList).head? = some verb.toList)
    (h : Breakpoint.Notice.read (answer command response) = .ok n) : n.isPlain = true := by
  obtain ⟨kind, tag, known, -⟩ := tag_of_answer hv first h
  -- none of these kinds is the one of a hit or of a new state
  refine Breakpoint.Notice.plain_of_read tag h ?_ ?_
  · rintro rfl
    exact absurd known (by decide)
  · rintro rfl
    exact absurd known (by decide)

theorem editVerbs_areWords :
    (editVerbs.all fun verb => verb.toList ≠ [] && verb.toList.all (!isBlank ·)) = true := by
  decide +kernel

/-- Such a verb is the first word of a command. -/
theorem words_edit {command verb : String} (hv : verb ∈ editVerbs) {rest : List Char}
    (h : command.toList = verb.toList ++ ' ' :: rest) :
    words command.toList = verb.toList :: words rest := by
  have word := List.all_eq_true.1 editVerbs_areWords verb hv
  simp only [Bool.and_eq_true, decide_eq_true_eq, List.all_eq_true, Bool.not_eq_true'] at word
  rw [h, words_append word.2 word.1 (by decide)]

theorem head_words {command verb : String} (hv : verb ∈ editVerbs) {rest : List Char}
    (h : command.toList = verb.toList ++ ' ' :: rest) :
    (words command.toList).head? = some verb.toList := by
  rw [words_edit hv h]
  rfl

/-- **An answer that inserts a breakpoint is plain**, whoever made it. -/
theorem plain_of_inserted {answer : String} {n : Breakpoint.Notice}
    (inserted : startsWith "20" answer) (h : Breakpoint.Notice.read answer = .ok n) :
    n.isPlain = true := by
  obtain ⟨rest, e⟩ := List.isPrefixOf_iff_prefix.1 inserted
  have tag : Tag.read answer = .ok ⟨2, 0⟩ :=
    Tag.read_eq_ok_iff.2 ⟨'2', '0', rest, e.symm, rfl, rfl⟩
  exact Breakpoint.Notice.plain_of_read tag h (by decide) (by decide)

end Mi

/-! ## Peers -/

/-- **A peer that answers with what it makes of the results of gdb**, and delivers something before
a call returns only while an interrupt is awaited. -/
structure Peer.Attentive (p : Peer) : Prop where
  answers : ∀ past command answer, p.answer past command = .ok answer →
    ∃ response, answer = Mi.answer command response
  reactions : ∀ past call, call ≠ .submit "-exec-interrupt" → p.reactions past call = []

end DebugLink
