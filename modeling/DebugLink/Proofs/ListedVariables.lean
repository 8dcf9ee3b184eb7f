import DebugLink.Proofs.Dialogue
import DebugLink.Proofs.ListedFields
import DebugLink.Proofs.Separated

/-!
# Listed variables

The variables of a frame are listed by gdb as tuples, put together into one answer with a sign
between each two and another between their parts, and cut apart again. A sign is not written in any
special way where a name, a type or a value holds it. So a variable is lost whose name or type holds
one of the signs, or whose value holds the one between variables; the value comes last, so that it
may hold the other.

* `ListedVariable`: a variable as gdb lists it.
* `addVariable_listed`, `foldlM_addVariable_listed`: variables without signs are read.
* `foldlM_addVariable_cases`: whatever is read without asking holds no sign.
* `frameVariables_iff`: when the variables of a frame are read as they are listed.
-/

namespace DebugLink.Variable

open Text Mi Recorded

/-- None of the characters occurs in the text. -/
def Without (marks : List Char) (s : String) : Prop := ∀ c ∈ marks, c ∉ s.toList

instance (marks : List Char) (s : String) : Decidable (Without marks s) :=
  List.decidableBAll (fun c => c ∉ s.toList) marks

theorem without_ofList {marks s : List Char} :
    Without marks (String.ofList s) ↔ ∀ c ∈ marks, c ∉ s := by
  rw [Without, String.toList_ofList]

/-! ## Variables in a listing -/

/-- A variable as gdb lists it. -/
structure ListedVariable where
  name : String
  isArgument : Bool := false
  type : String
  /-- There is none for a compound value. -/
  value? : Option String

namespace ListedVariable

/-- The fields that are read of a listed variable. -/
def sought : List String := ["name", "arg", "type", "value"]

/-- The fields before that of the type; only an argument has a mark. -/
def leading (v : ListedVariable) : List (Label × String) :=
  (⟨"name", .refl true⟩, v.name) :: if v.isArgument then [(⟨"arg", .refl true⟩, "1")] else []

/-- The fields of the tuple that gdb writes. -/
def fields (v : ListedVariable) : List (Label × String) :=
  v.leading ++ (⟨"type", .refl true⟩, v.type) ::
    v.value?.toList.map fun value => (⟨"value", .refl true⟩, value)

/-- The node that the variable calls for. -/
def node (v : ListedVariable) : Node := { name := v.name, type := v.type, value := v.value? }

/-- The variable is not expanded: it has a value, and is no pointer that leads somewhere. -/
def Settled (v : ListedVariable) : Prop :=
  needsExpansion v.type (v.value?.filter (· ≠ "")) = false

instance (v : ListedVariable) : Decidable v.Settled := inferInstanceAs (Decidable (_ = _))

/-- The variable has a name, and holds no sign where one would be taken for a separator. -/
structure Separable (v : ListedVariable) : Prop where
  named : v.name ≠ ""
  name : Without [';', '#'] v.name
  type : Without [';', '#'] v.type
  value : ∀ value ∈ v.value?, Without ['#'] value

/-- What holds a sign is told by the node. -/
theorem Separable.of_node_eq {v w : ListedVariable} (separable : w.Separable)
    (same : w.node = v.node) : v.Separable := by
  obtain ⟨name, kind, type, value?⟩ := v
  cases same
  exact ⟨separable.named, separable.name, separable.type, separable.value⟩

/-- The entry for the variable in the answer. -/
def entry (v : ListedVariable) : List Char :=
  v.name.toList ++ ';' :: ((if v.isArgument then ['1'] else ['0']) ++
    ';' :: (v.type.toList ++ ';' :: (v.value?.getD "").toList))

/-- The entry of a separable variable has no separator of entries in it. -/
theorem Separable.single {v : ListedVariable} (separable : v.Separable) : '#' ∉ v.entry := by
  have name := separable.name '#' (by decide)
  have type := separable.type '#' (by decide)
  have value : '#' ∉ (v.value?.getD "").toList := by
    cases h : v.value? with
    | none => exact List.not_mem_nil
    | some value => exact separable.value value h '#' (by decide)
  unfold entry
  cases v.isArgument <;> simp [name, type, value]

/-- A settled variable has a value, and one that nothing is expanded for. -/
theorem exists_value {v : ListedVariable} (settled : v.Settled) : ∃ value, v.value? = some value ∧
    value ≠ "" ∧ needsExpansion v.type (some value) = false := by
  unfold Settled at settled
  cases h : v.value? with
  | none => rw [h] at settled; cases settled
  | some value =>
    have shown : value ≠ "" := by
      rintro rfl
      rw [h] at settled
      cases settled
    rw [h, Option.filter_some_pos (by simpa using shown)] at settled
    exact ⟨value, rfl, shown, settled⟩

end ListedVariable

/-- The frame with these variables behind its own, arguments and locals apart. -/
def Frame.listing (frame : Frame) (vs : List ListedVariable) : Frame where
  locals := frame.locals ++ (vs.filter (!·.isArgument)).map (·.node)
  arguments := frame.arguments ++ (vs.filter (·.isArgument)).map (·.node)

namespace Frame

theorem listing_nil (frame : Frame) : frame.listing [] = frame := by
  simp [listing]

theorem listing_append (frame : Frame) (vs ws : List ListedVariable) :
    frame.listing (vs ++ ws) = (frame.listing vs).listing ws := by
  simp [listing]

theorem listing_singleton (frame : Frame) (v : ListedVariable) : frame.listing [v] =
    if v.isArgument then { frame with arguments := frame.arguments ++ [v.node] }
    else { frame with locals := frame.locals ++ [v.node] } := by
  cases h : v.isArgument <;> simp [listing, h]

/-- A variable in a frame is told by its node. -/
theorem exists_node_eq {vs ws : List ListedVariable}
    (same : ({} : Frame).listing vs = ({} : Frame).listing ws) {v : ListedVariable} (mem : v ∈ vs) :
    ∃ w ∈ ws, w.node = v.node := by
  obtain ⟨locals, arguments⟩ := Frame.mk.inj same
  cases kind : v.isArgument with
  | false =>
    have listed : v.node ∈ [] ++ (vs.filter (!·.isArgument)).map (·.node) :=
      List.mem_map_of_mem (List.mem_filter.2 ⟨mem, by rw [kind]; rfl⟩)
    obtain ⟨w, found, e⟩ := List.mem_map.1 (locals ▸ listed)
    exact ⟨w, (List.mem_filter.1 found).1, e⟩
  | true =>
    have listed : v.node ∈ [] ++ (vs.filter (·.isArgument)).map (·.node) :=
      List.mem_map_of_mem (List.mem_filter.2 ⟨mem, kind⟩)
    obtain ⟨w, found, e⟩ := List.mem_map.1 (arguments ▸ listed)
    exact ⟨w, (List.mem_filter.1 found).1, e⟩

end Frame

/-! ## The answer -/

namespace ListedVariable

variable {v : ListedVariable} (legible : Legible sought v.fields)

theorem names_leading (v : ListedVariable) :
    v.leading.map (·.1.text) = if v.isArgument then ["name", "arg"] else ["name"] := by
  unfold leading
  cases v.isArgument <;> rfl

/-- A local variable is never taken for an argument. -/
theorem rawString?_arg_local (kind : v.isArgument = false) :
    rawString? "arg" (tupleText v.fields) ≠ some "1" := by
  intro read
  obtain ⟨s, raw, text⟩ := Option.map_eq_some_iff.1 read
  have fresh : "arg" ∉ v.fields.map (·.1.text) := by
    rw [fields, List.map_append, names_leading, kind]
    cases v.value? <;> simp
  have start := rawField?_missing ⟨"arg", rfl⟩ fresh raw
  rw [← String.toList_ofList (l := s), text] at start
  exact absurd start (by decide)

include legible

/-- An argument is told by its mark. -/
theorem rawString?_arg (kind : v.isArgument = true) :
    rawString? "arg" (tupleText v.fields) = some "1" := by
  have shape : v.fields = [(⟨"name", rfl⟩, v.name)] ++ (⟨"arg", rfl⟩, "1") ::
      (⟨"type", rfl⟩, v.type) ::
        v.value?.toList.map fun value => (⟨"value", rfl⟩, value) := by
    rw [fields, leading, kind]
    rfl
  have raw : rawField? "arg" (tupleText v.fields) = some (escape "1".toList) := by
    rw [shape]
    exact rawField?_tuple [(⟨"name", rfl⟩, v.name)] ⟨"arg", rfl⟩ (by simp)
      (Legible.before _ _ (shape ▸ legible) (by decide))
  rw [rawString?, raw]
  rfl

/-- **The entry for a variable** holds its strings as they are. -/
theorem frameEntry_fields (settled : v.Settled) :
    (frameEntry (tupleText v.fields)).toList = v.entry := by
  obtain ⟨value, valued, -, -⟩ := exists_value settled
  have name : stringOrEmpty "name" (tupleText v.fields) = v.name :=
    stringOrEmpty_tuple [] ⟨"name", rfl⟩ List.not_mem_nil (List.forall_mem_nil _)
  have type : stringOrEmpty "type" (tupleText v.fields) = v.type := by
    refine stringOrEmpty_tuple v.leading ⟨"type", rfl⟩ ?_
      (Legible.before _ _ legible (by decide))
    rw [names_leading]
    cases v.isArgument <;> decide
  have shown : stringOrEmpty "value" (tupleText v.fields) = value := by
    have shape : v.fields = (v.leading ++ [(⟨"type", rfl⟩, v.type)]) ++
        [(⟨"value", rfl⟩, value)] := by
      rw [fields, valued, List.append_assoc]
      rfl
    rw [shape]
    refine stringOrEmpty_tuple _ ⟨"value", rfl⟩ ?_
      (Legible.before _ _ (shape ▸ legible) (by decide))
    rw [List.map_append, names_leading]
    cases v.isArgument <;> simp
  have flag : (if rawString? "arg" (tupleText v.fields) = some "1" then "1" else "0").toList =
      if v.isArgument then ['1'] else ['0'] := by
    cases kind : v.isArgument with
    | true => rw [if_pos (rawString?_arg legible kind)]; rfl
    | false => rw [if_neg (rawString?_arg_local kind)]; rfl
  rw [frameEntry, name, type, shown, entry, valued, ← flag]
  simp

end ListedVariable

/-! ## Reading variables -/

section Read

variable {m : Type → Type} [Monad m] [LawfulMonad m] [Wire m] (limits : Limits)

/-- **A variable without signs is read** as it is listed. -/
theorem addVariable_listed (frame : Frame) {v : ListedVariable} (settled : v.Settled)
    (separable : v.Separable) : (addVariable limits frame v.entry : ExceptT Failure m Frame) =
      pure (frame.listing [v]) := by
  obtain ⟨value, valued, shown, plain⟩ := v.exists_value settled
  have cut : fieldsUpTo ';' 4 v.entry = [v.name.toList,
      if v.isArgument then ['1'] else ['0'], v.type.toList, value.toList] := by
    have flag : ';' ∉ if v.isArgument then ['1'] else ['0'] := by split <;> decide
    rw [ListedVariable.entry, valued, fieldsUpTo_append (separable.name ';' (by decide)),
      fieldsUpTo_append flag, fieldsUpTo_append (separable.type ';' (by decide))]
    rfl
  have named : ¬v.name.toList.isEmpty = true := by simpa using separable.named
  have kept : ((some value.toList).filter fun s => !s.isEmpty).map String.ofList = some value := by
    rw [Option.filter_some_pos (by simpa using shown), Option.map_some, String.ofList_toList]
  unfold addVariable
  simp only [cut, List.head?_cons]
  rw [if_neg named, kept, String.ofList_toList, String.ofList_toList, create, build_settled plain,
    pure_bind, Frame.listing_singleton, ListedVariable.node, valued]
  cases v.isArgument <;> rfl

/-- **Settled and separable variables are added in the order of their listing**, and nothing is
asked. -/
theorem foldlM_addVariable_listed (frame : Frame) {vs : List ListedVariable}
    (settled : ∀ v ∈ vs, v.Settled) (separable : ∀ v ∈ vs, v.Separable) :
    ((vs.map (·.entry)).foldlM (addVariable limits) frame : ExceptT Failure m Frame) =
      pure (frame.listing vs) := by
  induction vs generalizing frame with
  | nil => rw [Frame.listing_nil]; rfl
  | cons v vs ih =>
    obtain ⟨settled, settled'⟩ := List.forall_mem_cons.1 settled
    obtain ⟨separable, separable'⟩ := List.forall_mem_cons.1 separable
    rw [List.map_cons, List.foldlM_cons, addVariable_listed limits frame settled separable,
      pure_bind, ih _ settled' separable', ← Frame.listing_append, List.singleton_append]

variable [RecordedWire m]

/-- Whatever an entry says, adding it only lengthens the history. -/
theorem grows_addVariable (frame : Frame) (entry : List Char) :
    Grows (addVariable limits frame entry : ExceptT Failure m Frame) := by
  unfold addVariable
  split
  · split
    · exact grows_pure _
    · refine grows_bind (grows_build limits _ _ _ _) fun node => ?_
      split
      · exact grows_pure _
      · exact grows_pure _
  · exact grows_pure _

/-- What is read of an entry without asking is a variable without signs, if anything is. -/
theorem addVariable_cases (frame : Frame) {entry : List Char} (single : '#' ∉ entry) :
    (∃ ws : List ListedVariable, (∀ w ∈ ws, w.Separable) ∧
        (addVariable limits frame entry : ExceptT Failure m Frame) = pure (frame.listing ws)) ∨
      Asks (addVariable limits frame entry : ExceptT Failure m Frame) := by
  unfold addVariable
  split
  · rename_i name argument type more cut
    -- the cut leaves no separator in the first three parts, but it may leave one in the value
    have part : ∀ i f, (fieldsUpTo ';' 4 entry)[i]? = some f →
        (i < 3 → ';' ∉ f) ∧ '#' ∉ f := fun i f here =>
      have ⟨separate, inside⟩ := not_mem_of_fieldsUpTo here
      ⟨fun less => separate (Nat.succ_lt_succ less), fun mem => single (inside mem)⟩
    rw [cut] at part
    split
    · exact .inl ⟨[], List.forall_mem_nil _, by rw [Frame.listing_nil]⟩
    rename_i named
    extract_lets value
    obtain ⟨shown, valued, known⟩ | asks := build_cases (m := m) limits (String.ofList name)
      (String.ofList type) (String.ofList type) (value.map String.ofList)
    · let w : ListedVariable :=
        ⟨String.ofList name, argument = ['1'], String.ofList type, some shown⟩
      refine .inl ⟨[w], List.forall_mem_singleton.2 ?_, ?_⟩
      · obtain ⟨s, kept, rfl⟩ := Option.map_eq_some_iff.1 valued
        have last : (name :: argument :: type :: more)[3]? = some s := by
          have first := (Option.filter_eq_some_iff.1 kept).1
          rwa [List.head?_eq_getElem?] at first
        have whole : ∀ i f, i < 3 → (name :: argument :: type :: more)[i]? = some f →
            Without [';', '#'] (String.ofList f) := fun i f less here =>
          without_ofList.2 (by simp [(part i f here).1 less, (part i f here).2])
        refine ⟨by simpa [w] using named, whole 0 name (by decide) rfl,
          whole 2 type (by decide) rfl, ?_⟩
        rintro _ ⟨⟩
        exact without_ofList.2 (by simp [(part 3 s last).2])
      · rw [create, known, pure_bind, Frame.listing_singleton]
        by_cases flagged : argument = ['1'] <;> simp [w, flagged, ListedVariable.node]
    · refine .inr (asks_bind asks fun node => ?_)
      split
      · exact grows_pure _
      · exact grows_pure _
  · exact .inl ⟨[], List.forall_mem_nil _, by rw [Frame.listing_nil]⟩

/-- **Whatever is read without asking** is variables without signs. -/
theorem foldlM_addVariable_cases (frame : Frame) {entries : List (List Char)}
    (single : ∀ entry ∈ entries, '#' ∉ entry) :
    (∃ ws : List ListedVariable, (∀ w ∈ ws, w.Separable) ∧
        (entries.foldlM (addVariable limits) frame : ExceptT Failure m Frame) =
          pure (frame.listing ws)) ∨
      Asks (entries.foldlM (addVariable limits) frame : ExceptT Failure m Frame) := by
  induction entries generalizing frame with
  | nil => exact .inl ⟨[], List.forall_mem_nil _, by rw [Frame.listing_nil]; rfl⟩
  | cons entry entries ih =>
    obtain ⟨first, later⟩ := List.forall_mem_cons.1 single
    rw [List.foldlM_cons]
    obtain ⟨ws, separable, known⟩ | asks := addVariable_cases (m := m) limits frame first
    · obtain ⟨vs, separable', known'⟩ | asks := ih (frame.listing ws) later
      · refine .inl ⟨ws ++ vs, List.forall_mem_append.2 ⟨separable, separable'⟩, ?_⟩
        rw [known, pure_bind, known', Frame.listing_append]
      · rw [known, pure_bind]
        exact .inr asks
    · exact .inr (asks_bind asks fun next => grows_foldlM (grows_addVariable limits) entries next)

end Read

/-! ## The variables of a frame -/

/-- The command that lists the variables of a frame. -/
def variablesCommand (thread frame : Nat) : String :=
  s!"-stack-list-variables --thread {thread} --frame {frame} --simple-values"

/-- The results that list the variables. -/
def variablesResults (vs : List ListedVariable) : List (Option Label × Tree) :=
  [(some ⟨"variables", .refl true⟩, listed none (vs.map (·.fields)))]

/-- The answer that is made of the listing. -/
def variablesAnswer (thread frame : Nat) (vs : List ListedVariable) (console : List String) :
    String :=
  Mi.answer (variablesCommand thread frame)
    (.ofResult (acceptedResult (variablesResults vs)) console)

/-- gdb lists the variables of a frame. -/
def variablesExchange (thread frame : Nat) (vs : List ListedVariable) (console : List String) :
    Exchange :=
  ⟨variablesCommand thread frame, .ok (variablesAnswer thread frame vs console)⟩

/-- The variables of an accepted listing are found as the tuples they were written as. -/
theorem tuples_variables (vs : List ListedVariable) :
    tuples "variables" (acceptedResult (variablesResults vs)).toList =
      vs.map fun v => tupleText v.fields := by
  have found : valueAt? "variables" (acceptedResult (variablesResults vs)).toList =
      some ((listed none (vs.map (·.fields))).written ++ []) := by
    have search := valueAt?_acceptedResult ⟨"variables", rfl⟩ (variablesResults vs)
    refine search.trans ?_
    rw [variablesResults, bareItems_cons, leadIn, List.append_assoc]
    exact lookUp_found rfl _
  rw [tuples_listed found, List.map_map]
  rfl

theorem headD_variablesCommand (thread frame : Nat) :
    ((words (variablesCommand thread frame).toList).map String.ofList).headD "" =
      "-stack-list-variables" := by
  have lead : "-stack-list-variables --thread ".toList =
      "-stack-list-variables".toList ++ ' ' :: "--thread ".toList := by decide
  unfold variablesCommand
  simp only [String.append_assoc]
  exact headD_words lead (by decide +kernel) (by decide) _

/-- **The answer to the listing** holds the variables with a sign between each two. -/
theorem toList_variablesAnswer {thread frame : Nat} {vs : List ListedVariable}
    (console : List String) (settled : ∀ v ∈ vs, v.Settled)
    (legible : ∀ v ∈ vs, Legible ListedVariable.sought v.fields) :
    (variablesAnswer thread frame vs console).toList =
      '1' :: '1' :: ';' :: ['#'].intercalate (vs.map (·.entry)) := by
  have entries : ((vs.map fun v => tupleText v.fields).map frameEntry).map String.toList =
      vs.map (·.entry) := by
    rw [List.map_map, List.map_map]
    exact List.map_congr_left fun v mem =>
      ListedVariable.frameEntry_fields (legible v mem) (settled v mem)
  rw [variablesAnswer, answer_acceptedResult]
  unfold acceptedAnswer
  simp only [headD_variablesCommand, Response.ofResult]
  rw [tuples_variables, toList_tagged (by decide : "11;".toList = ['1', '1', ';']), entries]

/-- The variables in an answer to the listing. -/
def readVariables {m : Type → Type} [Monad m] [Wire m] (limits : Limits) (answer : String) :
    ExceptT Failure m Frame :=
  if answer = errorAnswer then pure {}
  else (Text.fields '#' (fromByte 3 answer.toList)).foldlM (addVariable limits) {}

section ReadVariables

variable {m : Type → Type} [Monad m] [LawfulMonad m] [Wire m] (limits : Limits)

/-- Of any answer, what is read without asking is variables without signs. -/
theorem readVariables_cases [RecordedWire m] (answer : String) :
    (∃ ws : List ListedVariable, (∀ w ∈ ws, w.Separable) ∧
        (readVariables limits answer : ExceptT Failure m Frame) = pure (({} : Frame).listing ws)) ∨
      Asks (readVariables limits answer : ExceptT Failure m Frame) := by
  unfold readVariables
  split
  · exact .inl ⟨[], List.forall_mem_nil _, rfl⟩
  · exact foldlM_addVariable_cases limits {} fun _ mem => (not_mem_of_mem_fields mem).1

/-- Of the answer to a listing, the variables are read as they are listed. -/
theorem readVariables_listed {answer : String} {vs : List ListedVariable}
    (written : answer.toList = '1' :: '1' :: ';' :: ['#'].intercalate (vs.map (·.entry)))
    (settled : ∀ v ∈ vs, v.Settled) (separable : ∀ v ∈ vs, v.Separable) :
    (readVariables limits answer : ExceptT Failure m Frame) = pure (({} : Frame).listing vs) := by
  have accepted : answer ≠ errorAnswer := by
    rintro rfl
    cases written
  have body : fromByte 3 answer.toList = ['#'].intercalate (vs.map (·.entry)) := by
    rw [written, fromByte_ascii rfl, fromByte_ascii rfl, fromByte_ascii rfl, fromByte]
  unfold readVariables
  rw [if_neg accepted, body]
  by_cases none_listed : vs = []
  · subst none_listed
    exact bind_pure _
  · have single : ∀ entry ∈ vs.map (·.entry), '#' ∉ entry := by
      intro entry mem
      obtain ⟨v, listed, rfl⟩ := List.mem_map.1 mem
      exact (separable v listed).single
    rw [fields_intercalate (by simpa using none_listed) single,
      foldlM_addVariable_listed limits {} settled separable]

end ReadVariables

theorem run_frameVariables (limits : Limits) {peer : Peer} {past : List Exchange}
    {thread frame : Nat} {answer : String}
    (spoken : peer.Says past ⟨variablesCommand thread frame, .ok answer⟩) :
    ((frameVariables limits thread frame : ExceptT Failure Dialogue Frame).run.run peer).run past =
      ((readVariables limits answer : ExceptT Failure Dialogue Frame).run.run peer).run
        (⟨variablesCommand thread frame, .ok answer⟩ :: past) :=
  Dialogue.run_request spoken (readVariables limits)

/-- **When the variables of a frame are read** as they are listed, at the cost of one question. -/
theorem frameVariables_iff (limits : Limits) {peer : Peer} {past : List Exchange}
    {thread frame : Nat} {vs : List ListedVariable} {console : List String}
    (settled : ∀ v ∈ vs, v.Settled)
    (legible : ∀ v ∈ vs, Legible ListedVariable.sought v.fields)
    (spoken : peer.Says past (variablesExchange thread frame vs console)) :
    ((frameVariables limits thread frame : ExceptT Failure Dialogue Frame).run.run peer).run past =
        .ok (.ok (({} : Frame).listing vs)) (variablesExchange thread frame vs console :: past) ↔
      ∀ v ∈ vs, v.Separable := by
  rw [run_frameVariables limits spoken]
  constructor
  · intro run v mem
    obtain ⟨ws, separable, known⟩ | asks := readVariables_cases (m := Dialogue) limits
      (variablesAnswer thread frame vs console)
    · rw [known] at run
      have same : ({} : Frame).listing ws = ({} : Frame).listing vs :=
        Except.ok.inj (EStateM.Result.ok.inj run).1
      obtain ⟨w, listed, node⟩ := Frame.exists_node_eq same.symm mem
      exact (separable w listed).of_node_eq node
    · exact absurd (Dialogue.length_lt asks run) (Nat.lt_irrefl _)
  · intro separable
    rw [readVariables_listed limits (toList_variablesAnswer console settled legible) settled
      separable]
    rfl

end DebugLink.Variable
