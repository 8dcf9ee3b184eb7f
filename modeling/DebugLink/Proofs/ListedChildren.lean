import DebugLink.Proofs.ListedEntries

/-!
# Listed children

The answer to a listing is cut into entries, and each is read as a child. All children are read as
they are listed exactly if none of them holds a sign at which the answer is cut.

* `listingEntries_written`: the entries of an answer that was written from them.
* `run_listChildren_listed`: children without signs are added.
* `listChildren_iff`: when children are read as they are listed.
* `listings_read_iff`: both listings.
-/

namespace DebugLink.Variable

open Text Mi Recorded

/-! ## The children of a node -/

/-- The command that lists the children of a variable object. -/
def childrenCommand (limits : Limits) (object : String) : String :=
  s!"-var-list-children --all-values {object} 0 {limits.maxChildren}"

/-- The results that list the children. -/
def childrenResults (cs : List ListedChild) (hasMore : Bool) : List (Option Label × Tree) :=
  [(some ⟨"numchild", .refl true⟩, .text (toString cs.length)),
    (some ⟨"children", .refl true⟩, listed (some ⟨"child", .refl true⟩) (cs.map (·.fields))),
    (some ⟨"has_more", .refl true⟩, .text (if hasMore then "1" else "0"))]

/-- The variable object that is asked for first when the children of a node are listed. -/
def listedObject (node : Node) (renamed : Bool) (via : Option String) : String :=
  via.getD (if renamed then node.gdbName.getD node.name else node.name)

/-- The answer that is made of the listing. -/
def childrenAnswer (limits : Limits) (object : String) (cs : List ListedChild) (hasMore : Bool)
    (console : List String) : String :=
  Mi.answer (childrenCommand limits object)
    (.ofResult (acceptedResult (childrenResults cs hasMore)) console)

/-- gdb lists the children of a variable object. -/
def childrenExchange (limits : Limits) (object : String) (cs : List ListedChild) (hasMore : Bool)
    (console : List String) : Exchange :=
  ⟨childrenCommand limits object, .ok (childrenAnswer limits object cs hasMore console)⟩

section Answer

variable {cs : List ListedChild} {hasMore : Bool} {limits : Limits} {object : String}

/-- The children of an accepted listing are found as the tuples they were written as. -/
theorem tuples_children : tuples "children" (acceptedResult (childrenResults cs hasMore)).toList =
    cs.map fun c => tupleText c.fields := by
  let key : Label := ⟨"children", rfl⟩
  have search := valueAt?_acceptedResult key (childrenResults cs hasMore)
  have digits : ¬Resembles key.text (toString cs.length).toList := fun looks =>
    not_resembles_of_undivided (not_mem_toString (by decide) _) ','
      (looks.mono (List.suffix_cons ',' _).isInfix)
  have found : valueAt? "children" (acceptedResult (childrenResults cs hasMore)).toList =
      some ((listed (some ⟨"child", rfl⟩) (cs.map (·.fields))).written ++
        writtenItems [(some ⟨"has_more", rfl⟩, .text (if hasMore then "1" else "0"))]) := by
    refine search.trans ?_
    rw [childrenResults, bareItems_text_cons, lookUp_string key (by decide) digits,
      writtenItems_cons, leadIn, List.append_assoc]
    have passed := lookUp_past (s := []) key.undivided
      (not_resembles_of_undivided List.not_mem_nil '"') (key.not_mem (c := ',') rfl) (by decide)
    exact (passed _).trans (lookUp_found rfl _)
  rw [tuples_listed found, List.map_map]
  rfl

theorem headD_childrenCommand :
    ((words (childrenCommand limits object).toList).map String.ofList).headD "" =
      "-var-list-children" := by
  have lead : "-var-list-children --all-values ".toList =
      "-var-list-children".toList ++ ' ' :: "--all-values ".toList := by decide
  unfold childrenCommand
  simp only [String.append_assoc]
  exact headD_words lead (by decide +kernel) (by decide) _

/-- **The answer to the listing** holds the children with a sign between each two. -/
theorem toList_childrenAnswer (console : List String) (readable : ∀ c ∈ cs, c.Readable) :
    (childrenAnswer limits object cs hasMore console).toList =
      '6' :: '5' :: ';' :: ['#'].intercalate
        ((cs.map (·.asRead)).map fun c => [';'].intercalate c.entry) := by
  have entries : ((cs.map fun c => tupleText c.fields).map childEntry).map String.toList =
      (cs.map (·.asRead)).map fun c => [';'].intercalate c.entry := by
    rw [List.map_map, List.map_map, List.map_map]
    exact List.map_congr_left fun c mem => ListedChild.childEntry_fields (readable c mem)
  rw [childrenAnswer, answer_acceptedResult]
  unfold acceptedAnswer
  simp only [headD_childrenCommand, Response.ofResult]
  rw [tuples_children, toList_tagged (by decide : "65;".toList = ['6', '5', ';']), entries]

theorem map_asRead (legible : ∀ c ∈ cs, Legible ListedChild.sought c.fields) :
    cs.map (·.asRead) = cs :=
  (List.map_congr_left fun c mem => ListedChild.asRead_of_legible (legible c mem)).trans
    (List.map_id cs)

end Answer

/-- Which object is asked for, and that the first answer is taken unless it is refused. -/
theorem requestListing_eq {m : Type → Type} [Monad m] [LawfulMonad m] [Wire m] (limits : Limits)
    (node : Node) (renamed : Bool) (via : Option String) :
    ∃ taken : String → ExceptT Failure m String, (∀ answer, answer ≠ errorAnswer →
        taken answer = pure answer) ∧ requestListing limits node renamed via =
      Wire.request (childrenCommand limits (listedObject node renamed via)) >>= taken := by
  have whole : ∀ object : String, (requestChildren limits object : ExceptT Failure m String) =
      Wire.request (childrenCommand limits object) >>= pure := fun object => (bind_pure _).symm
  unfold requestListing listedObject
  cases via with
  | some object => exact ⟨pure, fun _ _ => rfl, whole object⟩
  | none =>
    cases node.gdbName with
    | none => exact ⟨pure, fun _ _ => rfl, by cases renamed <;> exact whole node.name⟩
    | some gdbName =>
      cases renamed with
      | true => exact ⟨pure, fun _ _ => rfl, whole gdbName⟩
      | false => exact ⟨_, fun answer accepted => if_neg accepted, rfl⟩

/-- No part of any entry of any answer holds a sign. -/
theorem not_mem_listingEntries (answer : String) : ∀ entry ∈ listingEntries answer,
    ∀ part ∈ entry, ∀ sign ∈ [';', '#'], sign ∉ part := by
  intro entry mem part inside
  obtain ⟨piece, cut, rfl⟩ := List.mem_map.1 mem
  obtain ⟨separate, within⟩ := not_mem_of_mem_fields inside
  have single := (not_mem_of_mem_fields cut).1
  exact List.forall_mem_cons.2
    ⟨separate, List.forall_mem_singleton.2 fun sign => single (within sign)⟩

/-- **The answer to a listing is cut** into its entries, if each of them starts with a name and no
sign stands in a part. -/
theorem listingEntries_written {answer : String} {entries : List (List (List Char))}
    (written : answer.toList =
      '6' :: '5' :: ';' :: ['#'].intercalate (entries.map fun entry => [';'].intercalate entry))
    (single : ∀ entry ∈ entries, ∀ part ∈ entry, ∀ sign ∈ [';', '#'], sign ∉ part)
    (named : ∀ entry ∈ entries, ∃ c name details, entry = (c :: name) :: details)
    (listed : entries ≠ []) : listingEntries answer = entries := by
  -- neither separator is in a part, so each cut falls where it was written
  have apart : ∀ piece ∈ entries.map fun entry => [';'].intercalate entry, '#' ∉ piece := by
    intro piece mem
    obtain ⟨entry, listed, rfl⟩ := List.mem_map.1 mem
    exact not_mem_intercalate (by decide) fun part inside => single entry listed part inside _
      (by decide)
  have starts : ∀ piece ∈ entries.map fun entry => [';'].intercalate entry,
      ∃ d s, piece = d :: s ∧ d ≠ ';' := by
    intro piece mem
    obtain ⟨entry, listed, rfl⟩ := List.mem_map.1 mem
    obtain ⟨c, name, details, rfl⟩ := named entry listed
    have first : c ≠ ';' := by
      rintro rfl
      exact single _ listed _ List.mem_cons_self ';' (by decide) List.mem_cons_self
    cases details with
    | nil => exact ⟨c, name, List.intercalate_singleton, first⟩
    | cons detail details => exact ⟨c, _, List.intercalate_cons_cons, first⟩
  have body : fromByte 3 answer.toList =
      ['#'].intercalate (entries.map fun entry => [';'].intercalate entry) := by
    rw [written, fromByte_ascii rfl, fromByte_ascii rfl, fromByte_ascii rfl, fromByte]
  have cut : ∀ entry ∈ entries, Text.fields ';' ([';'].intercalate entry) = entry := by
    intro entry listed
    obtain ⟨c, name, details, rfl⟩ := named entry listed
    exact fields_intercalate (List.cons_ne_nil _ _) fun part inside =>
      single _ listed part inside ';' (by decide)
  have unreplaced : ¬"#;;;".toList <:+:
      ['#'].intercalate (entries.map fun entry => [';'].intercalate entry) :=
    not_infix_intercalate apart starts
  rw [listingEntries, body, replace_nothing [] unreplaced,
    fields_intercalate (by simpa using listed) apart, List.map_map]
  exact (List.map_congr_left cut).trans (List.map_id entries)

/-- Of the answer to a listing, the entries are added as they are listed. -/
theorem forM_listingEntries {m : Type → Type} [Monad m] [LawfulMonad m] [Wire m] (shape : Shape)
    (enter : String → ExceptT Failure (StateT Growth m) Unit) {answer : String}
    {entries : List (List (List Char))} (written : answer.toList =
      '6' :: '5' :: ';' :: ['#'].intercalate (entries.map fun entry => [';'].intercalate entry))
    (single : ∀ entry ∈ entries, ∀ part ∈ entry, ∀ sign ∈ [';', '#'], sign ∉ part)
    (named : ∀ entry ∈ entries, ∃ c name details, entry = (c :: name) :: details) :
    (listingEntries answer).forM (addEntry shape enter) = entries.forM (addEntry shape enter) := by
  by_cases listed : entries = []
  · subst listed
    have empty : listingEntries answer = [[[]]] := by
      rw [listingEntries, written, fromByte_ascii rfl, fromByte_ascii rfl, fromByte_ascii rfl,
        fromByte]
      rfl
    rw [empty]
    exact pure_bind _ _
  · rw [listingEntries_written written single named listed]

/-- With a listing that the peer has given, the call goes on with its entries, one by one. -/
theorem run_listChildren (limits : Limits) (shape : Shape) (renamed : Bool) (depth : Nat)
    (via : Option String) (growth : Growth) {peer : Peer} {past : List Exchange} {answer : String}
    (accepted : answer ≠ errorAnswer)
    (spoken : peer.Says past
      ⟨childrenCommand limits (listedObject growth.node renamed via), .ok answer⟩) :
    (((listChildren limits shape renamed (depth + 1) via :
        ExceptT Failure (StateT Growth Dialogue) Unit).run.run growth).run peer).run past =
      ((((listingEntries answer).forM (addEntry shape fun level =>
        listChildren limits shape renamed depth (some level)) :
          ExceptT Failure (StateT Growth Dialogue) Unit).run.run growth).run peer).run
        (⟨childrenCommand limits (listedObject growth.node renamed via), .ok answer⟩ :: past) := by
  obtain ⟨taken, kept, asked⟩ :=
    requestListing_eq (m := StateT Growth Dialogue) limits growth.node renamed via
  rw [listChildren, run_bind_of_pure (run_get growth), asked, bind_assoc,
    Dialogue.run_request_state spoken, kept _ accepted, pure_bind, if_neg accepted]

theorem ne_errorAnswer {answer : String} {rest : List Char}
    (written : answer.toList = '6' :: rest) : answer ≠ errorAnswer := by
  rintro rfl
  cases written

/-- **Children without signs are added** as they stand in the answer. -/
theorem run_listChildren_listed (limits : Limits) (shape : Shape) (renamed : Bool) (depth : Nat)
    (via : Option String) (growth : Growth) {peer : Peer} {past : List Exchange} {answer : String}
    {cs : List ListedChild} (settled : ∀ c ∈ cs, c.Settled) (separable : ∀ c ∈ cs, c.Separable)
    (written : answer.toList =
      '6' :: '5' :: ';' :: ['#'].intercalate (cs.map fun c => [';'].intercalate c.entry))
    (spoken : peer.Says past
      ⟨childrenCommand limits (listedObject growth.node renamed via), .ok answer⟩) :
    (((listChildren limits shape renamed (depth + 1) via :
        ExceptT Failure (StateT Growth Dialogue) Unit).run.run growth).run peer).run past =
      .ok (.ok (), growth.grown (cs.map (·.node shape growth.names)))
        (⟨childrenCommand limits (listedObject growth.node renamed via), .ok answer⟩ :: past) := by
  have accepted := ne_errorAnswer written
  have entries : (cs.map fun c => [';'].intercalate c.entry) =
      (cs.map (·.entry)).map fun entry => [';'].intercalate entry := by
    rw [List.map_map]
    rfl
  rw [entries] at written
  rw [run_listChildren limits shape renamed depth via growth accepted spoken,
    forM_listingEntries shape _ written ?single ?named,
    forM_addEntry_listed shape _ growth settled separable]
  · rfl
  case single =>
    intro entry mem part inside
    obtain ⟨c, listed, rfl⟩ := List.mem_map.1 mem
    obtain ⟨first, second⟩ := (separable c listed).not_mem inside
    exact List.forall_mem_cons.2 ⟨first, List.forall_mem_singleton.2 second⟩
  case named =>
    intro entry mem
    obtain ⟨c, listed, rfl⟩ := List.mem_map.1 mem
    obtain ⟨d, name, e⟩ :=
      List.exists_cons_of_ne_nil (mt String.toList_eq_nil_iff.1 (separable c listed).named)
    exact ⟨d, name, _, congrArg (· :: c.entry.tail) e⟩

/-- **When children are read** as they are listed, at the cost of one question. -/
theorem listChildren_iff (limits : Limits) (shape : Shape) (renamed : Bool) (depth : Nat)
    (via : Option String) (growth : Growth) {peer : Peer} {past : List Exchange}
    {cs : List ListedChild} {hasMore : Bool} {console : List String}
    (settled : ∀ c ∈ cs, c.Settled) (legible : ∀ c ∈ cs, Legible ListedChild.sought c.fields)
    (spoken : peer.Says past
      (childrenExchange limits (listedObject growth.node renamed via) cs hasMore console)) :
    (((listChildren limits shape renamed (depth + 1) via :
        ExceptT Failure (StateT Growth Dialogue) Unit).run.run growth).run peer).run past =
        .ok (.ok (), growth.grown (cs.map (·.node shape growth.names)))
          (childrenExchange limits (listedObject growth.node renamed via) cs hasMore console ::
            past) ↔
      ∀ c ∈ cs, c.Separable := by
  have written : (childrenAnswer limits (listedObject growth.node renamed via) cs hasMore
      console).toList = _ :=
    toList_childrenAnswer console fun c mem => ListedChild.readable_of_legible (legible c mem)
  rw [map_asRead legible] at written
  refine ⟨fun run c mem => ?_, fun separable =>
    run_listChildren_listed limits shape renamed depth via growth settled separable written spoken⟩
  rw [run_listChildren limits shape renamed depth via growth (ne_errorAnswer written) spoken] at run
  have asking : ∀ level, Asks (listChildren limits shape renamed depth (some level) :
      ExceptT Failure (StateT Growth Dialogue) Unit) := fun level =>
    asks_listChildren limits shape renamed depth (some level)
  obtain ⟨ds, separable, known⟩ | asks :=
    forM_addEntry_cases shape asking growth (not_mem_listingEntries _)
  · rw [known] at run
    have same := Growth.grown_inj (Prod.mk.inj (EStateM.Result.ok.inj run).1).2
    have node : c.node shape growth.names ∈ ds.map (·.node shape growth.names) :=
      same ▸ List.mem_map_of_mem mem
    obtain ⟨d, listed, e⟩ := List.mem_map.1 node
    exact (separable d listed).of_node_eq e
  · exact absurd (Dialogue.length_lt asks run) (Nat.lt_irrefl _)

/-! ## Both listings -/

/-- **Listings are read as they are written**, at the cost of one question, exactly if no sign is
taken for a separator. Of the variables of a frame, locals and arguments come apart, in order and
with their types and values, whatever else a value holds but the sign between variables. Of the
children of a node there is one for each that is listed, in order and with its type and value,
whatever else a value holds but one of the two signs. Nothing is expanded or asked for again, and no
string looks like a later field. -/
theorem listings_read_iff (limits : Limits) (peer : Peer) (past : List Exchange)
    (console : List String) :
    (∀ (thread frame : Nat) (vs : List ListedVariable), (∀ v ∈ vs, v.Settled) →
      (∀ v ∈ vs, Legible ListedVariable.sought v.fields) →
      peer.Says past (variablesExchange thread frame vs console) →
      (((frameVariables limits thread frame :
          ExceptT Failure Dialogue Frame).run.run peer).run past =
          .ok (.ok (({} : Frame).listing vs)) (variablesExchange thread frame vs console :: past) ↔
        ∀ v ∈ vs, v.Separable)) ∧
    (∀ (shape : Shape) (renamed : Bool) (depth : Nat) (via : Option String) (growth : Growth)
      (cs : List ListedChild) (hasMore : Bool), (∀ c ∈ cs, c.Settled) →
      (∀ c ∈ cs, Legible ListedChild.sought c.fields) →
      peer.Says past
        (childrenExchange limits (listedObject growth.node renamed via) cs hasMore console) →
      ((((listChildren limits shape renamed (depth + 1) via :
          ExceptT Failure (StateT Growth Dialogue) Unit).run.run growth).run peer).run past =
          .ok (.ok (), growth.grown (cs.map (·.node shape growth.names)))
            (childrenExchange limits (listedObject growth.node renamed via) cs hasMore console ::
              past) ↔
        ∀ c ∈ cs, c.Separable)) :=
  ⟨fun _ _ _ settled legible spoken => frameVariables_iff limits settled legible spoken,
    fun shape renamed depth via growth _ _ settled legible spoken =>
      listChildren_iff limits shape renamed depth via growth settled legible spoken⟩

/-- An argument with the sign between parts in its value is read, and a child with quotes and
commas. -/
theorem listings_read_signs :
    (((frameVariables ⟨50, 1⟩ 1 0 : ExceptT Failure Dialogue Frame).run.run
        (.repeating
          (variablesExchange 1 0 [⟨"c", true, "char", some "59 ';'"⟩] []).answer)).run [] =
      .ok (.ok (({} : Frame).listing [⟨"c", true, "char", some "59 ';'"⟩]))
        [variablesExchange 1 0 [⟨"c", true, "char", some "59 ';'"⟩] []]) ∧
    ((((listChildren ⟨50, 1⟩ .struct false 1 none :
        ExceptT Failure (StateT Growth Dialogue) Unit).run.run
          ⟨{ name := "g", type := "struct s", value := none }, {}⟩).run
        (.repeating (childrenExchange ⟨50, 1⟩ "g" [⟨"g.f", "f", 0, "0x1 \"a, b\"", "char *", []⟩]
          false []).answer)).run [] =
      .ok (.ok (), (⟨{ name := "g", type := "struct s", value := none }, {}⟩ : Growth).grown
          ([⟨"g.f", "f", 0, "0x1 \"a, b\"", "char *", []⟩].map (ListedChild.node .struct {})))
        [childrenExchange ⟨50, 1⟩ "g" [⟨"g.f", "f", 0, "0x1 \"a, b\"", "char *", []⟩] false []]) :=
  ⟨((listings_read_iff ⟨50, 1⟩ _ [] []).1 1 0 [⟨"c", true, "char", some "59 ';'"⟩] (by decide)
      (by decide) (Peer.says_repeating [] _)).2 (List.forall_mem_singleton.2
        ⟨by decide, by decide, by decide, by rintro _ ⟨⟩; decide⟩),
    ((listings_read_iff ⟨50, 1⟩ _ [] []).2 .struct false 0 none
      ⟨{ name := "g", type := "struct s", value := none }, {}⟩
      [⟨"g.f", "f", 0, "0x1 \"a, b\"", "char *", []⟩] false (by decide) (by decide +kernel)
      (Peer.says_repeating [] _)).2 (List.forall_mem_singleton.2
        ⟨by decide, by decide, by decide, by decide, by decide, by decide⟩)⟩

/-- What comes of a variable with the sign between variables in its value, and of a child with the
one between parts: the value `35 '#'` of the variable comes to be `35 '`, the value `59 ';'` of the
child comes to be `59 '`, and its type the rest. -/
theorem listings_torn :
    (((frameVariables ⟨50, 1⟩ 1 0 : ExceptT Failure Dialogue Frame).run.run
        (.repeating
          (variablesExchange 1 0 [⟨"c", false, "char", some "35 '#'"⟩] []).answer)).run [] =
      .ok (.ok (({} : Frame).listing [⟨"c", false, "char", some "35 '"⟩]))
        [variablesExchange 1 0 [⟨"c", false, "char", some "35 '#'"⟩] []]) ∧
    ((((listChildren ⟨50, 1⟩ .struct false 1 none :
        ExceptT Failure (StateT Growth Dialogue) Unit).run.run
          ⟨{ name := "g", type := "struct s", value := none }, {}⟩).run
        (.repeating (childrenExchange ⟨50, 1⟩ "g" [⟨"g.f", "f", 0, "59 ';'", "char", []⟩]
          false []).answer)).run [] =
      .ok (.ok (), (⟨{ name := "g", type := "struct s", value := none }, {}⟩ : Growth).grown
          [{ name := "g.f", gdbName := some "g.f", type := "'", value := some "59 '" }])
        [childrenExchange ⟨50, 1⟩ "g" [⟨"g.f", "f", 0, "59 ';'", "char", []⟩] false []]) := by
  constructor
  · have answer : variablesAnswer 1 0 [⟨"c", false, "char", some "35 '#'"⟩] [] =
        "11;c;0;char;35 '#'" := by
      rw [← String.toList_inj, toList_variablesAnswer [] (by decide) (by decide)]
      decide
    -- the value ends at the sign in the first listing and at the semicolon in the second
    have read : (readVariables ⟨50, 1⟩ "11;c;0;char;35 '#'" : ExceptT Failure Dialogue Frame) =
        pure (({} : Frame).listing [⟨"c", false, "char", some "35 '"⟩]) := rfl
    refine (run_frameVariables ⟨50, 1⟩ (Peer.says_repeating []
      (variablesExchange 1 0 _ []))).trans ?_
    rw [variablesExchange, answer, read]
    rfl
  · have answer : childrenAnswer ⟨50, 1⟩ "g" [⟨"g.f", "f", 0, "59 ';'", "char", []⟩] false [] =
        "65;g.f;0;59 ';';char" := by
      rw [← String.toList_inj, toList_childrenAnswer [] (by decide +kernel),
        map_asRead (by decide +kernel)]
      decide
    have entries : listingEntries "65;g.f;0;59 ';';char" =
        [["g.f".toList, ['0'], "59 '".toList, ['\''], "char".toList]] := by
      decide
    have child : (listedChild .struct {} "g.f".toList
        ["g.f".toList, ['0'], "59 '".toList, ['\''], "char".toList] :
          ExceptT Failure (StateT Growth Dialogue) Node) =
        pure { name := "g.f", gdbName := some "g.f", type := "'", value := some "59 '" } := by
      have name : displayName "g.f".toList .struct {} = "g.f".toList := by decide
      rw [listedChild_settled (by decide), childOf, name]
      rfl
    have read := fun enter => addEntry_child (m := Dialogue) .struct enter
      (g := ⟨{ name := "g", type := "struct s", value := none }, {}⟩) (by decide) (by decide) child
    have accepted : childrenAnswer ⟨50, 1⟩ "g" [⟨"g.f", "f", 0, "59 ';'", "char", []⟩] false [] ≠
        errorAnswer := by
      rw [answer]
      decide
    refine (run_listChildren ⟨50, 1⟩ .struct false 0 none _ accepted
      (Peer.says_repeating [] _)).trans ?_
    rw [childrenExchange, answer, entries, run_forM_cons (read _)]
    rfl

end DebugLink.Variable
