import DebugLink.Mi.Answer
import DebugLink.Proofs.Barred
import DebugLink.Proofs.Bundling
import DebugLink.Proofs.Written

/-!
# The text of a stream

Text of a stream is put between quotes into a record, and records are told apart by line ends. So
the line ends of the text are folded before, in one pass. The record is closed by a terminator, and
since the last one counts, the text may hold terminators of its own.

* `lineEnd_infix_foldLineEnds_iff`: the pass leaves a line end exactly where a carriage return stood
  before one.
* `Notice.payload_closed`: what is read between the quotes is the text, whatever it holds.
* `deliver_torn`: a text that still holds a line end is not told as a whole.
* `stream_told_once_iff`: exactly the texts that are not torn are told, once and as a whole.
-/

namespace DebugLink

open Act Record Text

/-! ## Line ends in a text -/

namespace Text

/-- The text with a line feed alone in the place of every line end. -/
def foldLineEnds : List Char → List Char
  | [] => []
  | '\r' :: '\n' :: s => '\n' :: foldLineEnds s
  | c :: s => c :: foldLineEnds s

theorem not_prefix_lineEnd {c : Char} {s : List Char}
    (apart : ∀ t, c = '\r' → s = '\n' :: t → False) : ¬['\r', '\n'] <+: c :: s := by
  rintro ⟨t, e⟩
  cases e
  exact apart t rfl rfl

/-- The replacement is one pass over the text: what it writes is not looked at again. -/
theorem replace_eq_foldLineEnds (s : List Char) :
    replace ['\r', '\n'] ['\n'] s = foldLineEnds s := by
  unfold replace
  fun_induction foldLineEnds s with
  | case1 => rfl
  | case2 s ih =>
    rw [← ih]
    rfl
  | case3 c s apart ih =>
    have other : ¬(['\r', '\n'].isPrefixOf (c :: s) = true) := fun leads =>
      not_prefix_lineEnd apart (List.isPrefixOf_iff_prefix.1 leads)
    rw [replaceFrom, if_neg other, ih]

/-- Where there was no line feed at the start, there is one now only in the place of a line end. -/
theorem lineFeed_prefix_foldLineEnds_iff {s : List Char} (apart : ¬['\n'] <+: s) :
    ['\n'] <+: foldLineEnds s ↔ ['\r', '\n'] <+: s := by
  fun_cases foldLineEnds s with
  | case1 => simp
  | case2 s => simp
  | case3 c s other =>
    refine iff_of_false (fun leads => ?_) (not_prefix_lineEnd other)
    rw [List.cons_prefix_cons] at leads
    exact apart (List.cons_prefix_cons.2 ⟨leads.1, List.nil_prefix⟩)

/-- **One pass leaves a line end** exactly where a carriage return stood before one: the line feed
that takes its place follows that carriage return then. -/
theorem lineEnd_infix_foldLineEnds_iff (s : List Char) :
    ['\r', '\n'] <:+: foldLineEnds s ↔ ['\r', '\r', '\n'] <:+: s := by
  fun_induction foldLineEnds s with
  | case1 => simp
  | case2 s ih => simp [List.infix_cons_iff, ih]
  | case3 c s apart ih =>
    have first : ['\r', '\n'] <+: c :: foldLineEnds s ↔ ['\r', '\r', '\n'] <+: c :: s := by
      rw [List.cons_prefix_cons, List.cons_prefix_cons]
      refine and_congr_right fun carriage => lineFeed_prefix_foldLineEnds_iff ?_
      rintro ⟨t, rfl⟩
      exact apart t carriage.symm rfl
    rw [List.infix_cons_iff, List.infix_cons_iff, first, ih]

/-- A line end lies on one side of a cut that is not before a line feed. -/
theorem lineEnd_infix_append_iff {a b : List Char} (apart : ¬['\n'] <+: b) :
    ['\r', '\n'] <:+: a ++ b ↔ ['\r', '\n'] <:+: a ∨ ['\r', '\n'] <:+: b := by
  induction a with
  | nil => simp
  | cons c a ih =>
    have first : ['\r', '\n'] <+: c :: (a ++ b) ↔ ['\r', '\n'] <+: c :: a := by
      rw [List.cons_prefix_cons, List.cons_prefix_cons]
      refine and_congr_right fun _ => ?_
      cases a with
      | nil => simpa using apart
      | cons d a => simp [List.cons_prefix_cons]
    rw [List.cons_append, List.infix_cons_iff, List.infix_cons_iff, first, ih, or_assoc]

/-- A text with a line end has a first one. -/
theorem exists_first_lineEnd {s : List Char} (h : ['\r', '\n'] <:+: s) :
    ∃ a b, s = a ++ '\r' :: '\n' :: b ∧ ¬['\r', '\n'] <:+: a := by
  induction s with
  | nil => simp at h
  | cons c s ih =>
    by_cases here : ['\r', '\n'] <+: c :: s
    · obtain ⟨b, e⟩ := here
      exact ⟨[], b, e.symm, by simp⟩
    · obtain ⟨a, b, rfl, free⟩ := ih ((List.infix_cons_iff.1 h).resolve_left here)
      refine ⟨c :: a, b, rfl, fun inside => ?_⟩
      rcases List.infix_cons_iff.1 inside with leads | later
      · exact here (leads.trans (List.prefix_append (c :: a) _))
      · exact free later

/-- A text without a line end is one piece. -/
theorem splitCrlf_whole {s : List Char} (h : ¬['\r', '\n'] <:+: s) : splitCrlf s = [s] := by
  induction s with
  | nil => rfl
  | cons c s ih =>
    rw [List.infix_cons_iff, not_or] at h
    refine splitCrlf_cons (fun t carriage feed => h.1 ⟨t, ?_⟩) (ih h.2)
    rw [carriage, feed]
    rfl

/-! ## The last occurrence of a terminator -/

theorem cutLast?_of_length_lt {pat s : List Char} (h : s.length < pat.length) :
    cutLast? pat s = none := by
  induction s with
  | nil => rw [cutLast?, if_neg (by simpa using List.ne_nil_of_length_pos h)]
  | cons c s ih =>
    have none : ¬(pat.isPrefixOf (c :: s) = true) := fun leads =>
      absurd (List.isPrefixOf_iff_prefix.1 leads).length_le (by omega)
    rw [cutLast?, ih (by rw [List.length_cons] at h; omega)]
    exact if_neg none

/-- **The last occurrence** is the one at the end of the text. -/
theorem cutLast?_append {pat : List Char} (given : pat ≠ []) (s : List Char) :
    cutLast? pat (s ++ pat) = some (s, []) := by
  induction s with
  | nil =>
    obtain ⟨c, rest, rfl⟩ := List.exists_cons_of_ne_nil given
    rw [List.nil_append, cutLast?, cutLast?_of_length_lt (by simp)]
    simp
  | cons c s ih => rw [List.cons_append, cutLast?, ih]

theorem length_of_cutLast? {pat s a b : List Char} (h : cutLast? pat s = some (a, b)) :
    a.length ≤ s.length := by
  induction s generalizing a with
  | nil =>
    unfold cutLast? at h
    split at h
    · cases h
      exact Nat.le_refl _
    · cases h
  | cons c s ih =>
    rw [cutLast?] at h
    split at h
    · rename_i cut found
      cases h
      exact Nat.succ_le_succ (ih found)
    · split at h
      · cases h
        exact Nat.zero_le _
      · cases h

end Text

/-! ## Records of a stream -/

namespace Output

/-- A record of a stream with this text after the opening quote. -/
def Stream.opened (stream : Stream) (text : List Char) : String :=
  String.ofList (stream.tag.toList ++ ';' :: '"' :: text)

/-- What closes the text of a record. -/
def Stream.closing (stream : Stream) : List Char := '"' :: '!' :: stream.tag.toList

theorem toList_opened (stream : Stream) (text : List Char) :
    ∃ kind, (stream.opened text).toList = '8' :: kind :: ';' :: '"' :: text ∧
      kind.utf8Size = 1 := by
  cases stream with
  | console => exact ⟨'0', String.toList_ofList, rfl⟩
  | target => exact ⟨'1', String.toList_ofList, rfl⟩

theorem body_opened (stream : Stream) (text : List Char) :
    fromByte 4 (stream.opened text).toList = text := by
  obtain ⟨kind, written, ascii⟩ := toList_opened stream text
  rw [written, fromByte_ascii rfl, fromByte_ascii ascii, fromByte_ascii rfl, fromByte_ascii rfl,
    fromByte]

/-- A record that opens a stream is output. -/
theorem topic_opened (stream : Stream) (text : List Char) :
    Topic.ofRecord (stream.opened text) = .output := by
  obtain ⟨kind, written, -⟩ := toList_opened stream text
  unfold Topic.ofRecord
  rw [written]
  rfl

/-- A record falls apart at a line end of its text. -/
theorem opened_append (stream : Stream) (a b : List Char) :
    stream.opened (a ++ '\r' :: '\n' :: b) = stream.opened a ++ "\r\n" ++ String.ofList b := by
  rw [← String.toList_inj]
  simp [Stream.opened]

/-- The frame of a record adds no line end to its text. -/
theorem lineEnd_infix_opened_iff (stream : Stream) (text : List Char) :
    ['\r', '\n'] <:+: (stream.opened text).toList ↔ ['\r', '\n'] <:+: text := by
  obtain ⟨kind, written, -⟩ := toList_opened stream text
  rw [written]
  simp [List.infix_cons_iff]

/-- The closing marks bring no line end of their own. -/
theorem lineEnd_infix_closed_iff (stream : Stream) (text : List Char) :
    ['\r', '\n'] <:+: text ++ stream.closing ↔ ['\r', '\n'] <:+: text := by
  have none : ¬['\r', '\n'] <:+: stream.closing := by
    cases stream <;> decide
  have apart : ¬['\n'] <+: stream.closing := by
    cases stream <;> decide
  rw [lineEnd_infix_append_iff apart, or_iff_left none]

namespace Notice

/-- A record of a stream is read, however its text ends. -/
theorem read_opened (stream : Stream) (text : List Char) :
    read (stream.opened text) = .ok (.text stream (payload (stream.opened text) stream)) := by
  unfold read
  cases stream with
  | console =>
    have written : (Stream.console.opened text).toList = '8' :: '0' :: ';' :: '"' :: text :=
      String.toList_ofList
    rw [start_written written rfl rfl]
    rfl
  | target =>
    have written : (Stream.target.opened text).toList = '8' :: '1' :: ';' :: '"' :: text :=
      String.toList_ofList
    rw [start_written written rfl rfl]
    rfl

/-- **What is read of a record that is closed** is the text between its quotes, whatever the text
holds. -/
theorem payload_closed (stream : Stream) (text : List Char) :
    payload (stream.opened (text ++ stream.closing)) stream = String.ofList text := by
  have last : cutLast? ('"' :: '!' :: stream.tag.toList) (text ++ stream.closing) =
      some (text, []) := cutLast?_append (List.cons_ne_nil _ _) text
  unfold payload
  rw [body_opened]
  dsimp only
  rw [last]

/-- The text of a record is no longer than what was written. -/
theorem length_payload_le (stream : Stream) (text : List Char) :
    (payload (stream.opened text) stream).toList.length ≤ text.length := by
  unfold payload
  rw [body_opened]
  dsimp only
  split
  · rename_i cut found
    rw [String.toList_ofList]
    exact length_of_cutLast? found
  · exact Nat.le_of_eq (congrArg List.length String.toList_ofList)

end Notice

end Output

open Output

theorem Mi.streamRecord_eq (stream : Stream) (text : String) :
    Mi.streamRecord stream text =
      stream.opened (foldLineEnds text.toList ++ stream.closing) := by
  unfold Mi.streamRecord Stream.opened Stream.closing
  rw [replace_eq_foldLineEnds, ← String.toList_inj]
  cases stream <;> simp [toString]

/-! ## What the host is told -/

/-- The world in which the host was told this. -/
def World.telling (w : World) (call : HostCall) : World :=
  { w with events := .told call w.session :: w.events }

theorem recordsOf_of_whole {record : String} (whole : ¬['\r', '\n'] <:+: record.toList) :
    recordsOf record = [record] := by
  unfold recordsOf
  rw [splitCrlf_whole whole]
  simp

section Told

variable {link : Link} {w : World} (alive : w.session.alive = true)
  (uncounted : w.session.quits = 0) (stream : Stream) {text : List Char}

include alive uncounted

/-- **A record of a stream** has the host told what is read of it, and does nothing else. -/
theorem receiveAlive_opened (text : List Char) :
    receiveAlive (stream.opened text) link w =
      .ok () (w.telling (.output stream (Notice.payload (stream.opened text) stream))) := by
  obtain ⟨kind, written, -⟩ := toList_opened stream text
  have room : 1 < utf8Length (stream.opened text).toList := by
    rw [written]
    exact one_lt_utf8Length _ _ _
  have handled : handleRecord (stream.opened text) link w =
      .ok () (w.telling (.output stream (Notice.payload (stream.opened text) stream))) := by
    unfold handleRecord
    rw [topic_opened]
    dsimp only
    rw [discard_eq_bind, handleOutput, Notice.read_opened]
    rfl
  unfold receiveAlive
  rw [look_apply, if_pos (by simp [alive, room]), receive_apply,
    World.receiving_of_uncounted uncounted, bind_ok (attempt_ok handled)]
  rfl

/-- A text without a line end is delivered in one record. -/
theorem deliver_opened (whole : ¬['\r', '\n'] <:+: text) :
    deliver (stream.opened text) link w =
      .ok () (w.telling (.output stream (Notice.payload (stream.opened text) stream))) := by
  unfold deliver
  rw [recordsOf_of_whole (mt (lineEnd_infix_opened_iff stream text).1 whole)]
  exact bind_ok (receiveAlive_opened alive uncounted stream text) _

/-- **A text that still holds a line end** is torn there: the host is told at most what stands
before, and that is not taken back. -/
theorem deliver_torn (torn : ['\r', '\n'] <:+: text) (peer : Peer) (config : Config)
    (depth : Nat) :
    deliver (stream.opened (text ++ stream.closing)) (.within peer config depth) w ≠
      .ok () (w.telling (.output stream (String.ofList text))) := by
  intro whole
  obtain ⟨a, b, rfl, free⟩ := exists_first_lineEnd torn
  let rest := String.ofList (b ++ stream.closing)
  let start := Notice.payload (stream.opened a) stream
  rw [List.append_assoc, List.cons_append, List.cons_append, opened_append, deliver_append,
    bind_ok (deliver_opened alive uncounted stream free)] at whole
  have grown := Operation.suffix_events peer config depth (.deliver rest)
    (w.telling (.output stream start))
  rw [show (Operation.deliver rest).act.after (.within peer config depth)
    (w.telling (.output stream start)) = _ from after_of_ok whole] at grown
  -- one event was added to those of `w`, and it is the one of the first piece
  have told := grown.eq_of_length (by simp only [World.telling, List.length_cons])
  have same : start = String.ofList (a ++ '\r' :: '\n' :: b) := by
    simp only [World.telling, List.cons.injEq, Event.told.injEq, HostCall.output.injEq] at told
    exact told.1.1.2
  have short : start.toList.length ≤ a.length := Notice.length_payload_le stream a
  rw [same, String.toList_ofList, List.length_append, List.length_cons] at short
  omega

end Told

/-- **Text of a stream is told as a whole**, unless it is torn. Over any link, in a session that is
alive and in which no interrupts of gdb are counted, the record that is made of a text of either
stream is delivered as one record, and all that this does is to tell the host the text once, with a
line feed in the place of every line end, exactly if no carriage return stands before a line end of
the text. Quotes, terminators and all other characters may stand anywhere. -/
theorem stream_told_once_iff (peer : Peer) (config : Config) (depth : Nat) (w : World)
    (stream : Stream) (text : String) (alive : w.session.alive = true)
    (uncounted : w.session.quits = 0) :
    let link := Link.within peer config depth
    let record := Mi.streamRecord stream text
    let folded := String.ofList (foldLineEnds text.toList)
    (recordsOf record = [record] ∧
        deliver record link w = .ok () (w.telling (.output stream folded))) ↔
      ¬['\r', '\r', '\n'] <:+: text.toList := by
  intro link record folded
  have written : record = stream.opened (foldLineEnds text.toList ++ stream.closing) :=
    Mi.streamRecord_eq stream text
  rw [← lineEnd_infix_foldLineEnds_iff, written]
  constructor
  · rintro ⟨-, told⟩ torn
    exact deliver_torn alive uncounted stream torn peer config depth told
  · intro free
    have whole : ¬['\r', '\n'] <:+: foldLineEnds text.toList ++ stream.closing :=
      mt (lineEnd_infix_closed_iff stream _).1 free
    refine ⟨recordsOf_of_whole (mt (lineEnd_infix_opened_iff stream _).1 whole), ?_⟩
    rw [deliver_opened alive uncounted stream whole, Notice.payload_closed]

set_option maxRecDepth 100000 in
/-- A text with a line end, a terminator, quotes and single carriage returns of its own is told as a
whole. -/
theorem stream_told_once_quoted :
    let link := Link.within ({} : Script).peer {} 1
    let text := "say \"!80\r\n42\r\";x\n\r"
    let record := Mi.streamRecord .console text
    let folded := String.ofList (foldLineEnds text.toList)
    (({} : World).session.alive = true ∧ ({} : World).session.quits = 0) ∧
      ¬['\r', '\r', '\n'] <:+: text.toList ∧ folded = "say \"!80\n42\r\";x\n\r" ∧
      recordsOf record = [record] ∧
      deliver record link {} = .ok () (({} : World).telling (.output .console folded)) := by
  intro link text record folded
  have untorn : ¬['\r', '\r', '\n'] <:+: text.toList := by decide +kernel
  have told := (stream_told_once_iff ({} : Script).peer {} 1 {} .console text rfl rfl).2 untorn
  exact ⟨⟨rfl, rfl⟩, untorn, by decide +kernel, told⟩

set_option maxRecDepth 100000 in
/-- A carriage return before a line end: the record that is made still holds a line end, so it is
split into two, and the host is told an empty text. -/
theorem stream_told_once_torn :
    let link := Link.within ({} : Script).peer {} 1
    let record := Mi.streamRecord .console "\r\r\n"
    let folded := String.ofList (foldLineEnds "\r\r\n".toList)
    folded = "\r\n" ∧ recordsOf record = ["80;\"", "\"!80"] ∧
      ((deliver record).after link {}).calls = [.output .console ""] ∧
      deliver record link {} ≠ .ok () (({} : World).telling (.output .console folded)) := by
  intro link record folded
  have written : record = Stream.console.opened (foldLineEnds "\r\r\n".toList ++
    Stream.console.closing) := Mi.streamRecord_eq .console "\r\r\n"
  have torn : ['\r', '\n'] <:+: foldLineEnds "\r\r\n".toList := by decide +kernel
  refine ⟨by decide +kernel, by decide +kernel, by decide +kernel, ?_⟩
  rw [written]
  exact deliver_torn rfl rfl .console torn ({} : Script).peer {} 1

end DebugLink
