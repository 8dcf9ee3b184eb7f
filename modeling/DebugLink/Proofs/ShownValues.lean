import DebugLink.Proofs.CutStrings
import DebugLink.Proofs.ListedChildren
import DebugLink.Proofs.TendedObjects

/-!
# Values that are shown

A child is shown with the value that it is listed with, and after it was evaluated again with what
was made of the answer to that. gdb writes the value in the same way both times. The listing gives
it back whatever it holds but the signs of the answer; the evaluation does so only if nothing in it
is written with a backslash.

* `ofAnswer_value`: the evaluation that an answer stands for.
* `run_listChildren_readable`: children are listed with their values.
* `GivesValue`, `run_evaluate`: the value that is given for a path.
* `value_of_reevaluate`: a node that is evaluated again.
* `values_agree_iff`: when listing and evaluation show the same value.
-/

namespace DebugLink.Variable

open Text Mi Traced

/-! ## The answer to an evaluation -/

/-- The answer that gives the value of an expression. -/
def valueAnswer (expression value : String) (console : List String) : String :=
  Mi.answer (evaluateCommand expression)
    (.ofResult (acceptedResult (strings [(⟨"value", .refl true⟩, value)])) console)

/-- gdb gives the value of an expression. -/
def valueExchange (expression value : String) (console : List String) : Exchange :=
  ⟨evaluateCommand expression, .ok (valueAnswer expression value console)⟩

section Answer

variable (expression value : String) (console : List String)

/-- The answer holds the value as gdb writes it. -/
theorem toList_valueAnswer : (valueAnswer expression value console).toList =
    '6' :: '0' :: ';' :: '"' :: (escape value.toList ++ ['"']) := by
  have lead : "-data-evaluate-expression ".toList =
      "-data-evaluate-expression".toList ++ ' ' :: [] := by decide
  have verb : ((words (evaluateCommand expression).toList).map String.ofList).headD "" =
      "-data-evaluate-expression" :=
    headD_words lead (by decide +kernel) (by decide) _
  have raw : rawString? "value" (acceptedResult (strings [(⟨"value", rfl⟩, value)])).toList =
      some (String.ofList (escape value.toList)) := by
    let key : Label := ⟨"value", rfl⟩
    -- the value is the only field, so nothing before it can be taken for it
    have found : valueAt? key.text (acceptedResult (strings [(key, value)])).toList =
        lookUp key.text ',' (bareItems (strings ([] ++ (key, value) :: [])) ++ []) := by
      rw [List.append_nil]
      exact valueAt?_acceptedResult key _
    have whole : rawField? key.text (acceptedResult (strings [(key, value)])).toList =
        some (escape value.toList) :=
      rawField?_strings (List.forall_mem_nil _) (List.forall_mem_nil _) found
    exact congrArg (Option.map String.ofList) whole
  rw [valueAnswer, answer_acceptedResult]
  unfold acceptedAnswer
  simp only [verb, Response.ofResult, raw]
  simp

theorem isValue_valueAnswer : isValue (valueAnswer expression value console) = true := by
  rw [isValue, startsWith, toList_valueAnswer]
  rfl

/-- **The evaluation** that the answer stands for has the evaluated text of the value. -/
theorem ofAnswer_value : Evaluation.ofAnswer (valueAnswer expression value console) =
    ⟨true, String.ofList (evaluatedText value.toList)⟩ := by
  have written := toList_valueAnswer expression value console
  have body : withoutQuotes (fromByte 3 (valueAnswer expression value console).toList) =
      escape value.toList := by
    rw [written, fromByte_ascii rfl, fromByte_ascii rfl, fromByte_ascii rfl, fromByte,
      withoutQuotes_quoted]
  rw [Evaluation.ofAnswer, if_pos (isValue_valueAnswer expression value console), body,
    replace_escape, stripGarbage_eq, String.toList_ofList]
  rfl

end Answer

/-! ## Evaluating -/

/-- The expression that is asked for first when a path is evaluated. -/
def askedFor (path : String) : String :=
  String.ofList ((before? ['.'] path.toList).getD path.toList)

/-- Asked for the value of a path, the peer gives it, or gives it under the other name after it has
refused the path. With the exchanges afterwards. -/
inductive GivesValue (peer : Peer) (past : List Exchange) (path : String) (gdbName : Option String)
    (value : String) : List Exchange → Prop
  | path {console : List String} (named : askedFor path ≠ "")
      (spoken : peer.Says past (valueExchange (askedFor path) value console)) :
      GivesValue peer past path gdbName value (valueExchange (askedFor path) value console :: past)
  | object {console : List String} {refusal object : String} (named : askedFor path ≠ "")
      (refused : isValue refusal = false)
      (first : peer.Says past ⟨evaluateCommand (askedFor path), .ok refusal⟩)
      (known : gdbName = some object)
      (spoken : peer.Says (⟨evaluateCommand (askedFor path), .ok refusal⟩ :: past)
        (valueExchange object value console)) :
      GivesValue peer past path gdbName value (valueExchange object value console ::
        ⟨evaluateCommand (askedFor path), .ok refusal⟩ :: past)

section Evaluate

variable {peer : Peer} {past now : List Exchange} {path : String} {gdbName : Option String}
  {value : String}

/-- **What is given is what is evaluated**, with the evaluated text of the value. -/
theorem run_evaluate (given : GivesValue peer past path gdbName value now) :
    ((evaluate path gdbName : ExceptT Failure Dialogue Evaluation).run.run peer).run past =
      .ok (.ok ⟨true, String.ofList (evaluatedText value.toList)⟩) now := by
  have asked : askedFor path ≠ "" := by cases given <;> assumption
  have named : ¬(((before? ['.'] path.toList).getD path.toList).isEmpty = true) := fun empty =>
    asked (congrArg String.ofList (List.isEmpty_iff.1 empty))
  unfold evaluate
  rw [if_neg named]
  cases given with
  | path _ spoken =>
    refine (Dialogue.run_request spoken _).trans ?_
    cases gdbName with
    | none => rw [ofAnswer_value]; rfl
    | some object =>
      dsimp only
      rw [if_pos (isValue_valueAnswer _ _ _), ofAnswer_value]
      rfl
  | object _ refused first known spoken =>
    subst known
    refine (Dialogue.run_request first _).trans ?_
    dsimp only
    -- what is refused under the path is asked for once more, under the name of gdb
    rw [refused, if_neg Bool.false_ne_true]
    refine (Dialogue.run_request spoken _).trans ?_
    rw [if_pos (isValue_valueAnswer _ _ _), ofAnswer_value]
    rfl

/-- An evaluation leaves the state alone. -/
theorem evaluate_lift {m : Type → Type} [Monad m] [LawfulMonad m] [Wire m] {σ : Type}
    (path : String) (gdbName : Option String) (s : σ) :
    (evaluate path gdbName : ExceptT Failure (StateT σ m) Evaluation).run.run s =
      (evaluate path gdbName : ExceptT Failure m Evaluation).run >>= fun outcome =>
        pure (outcome, s) := by
  have request : ∀ command, (Wire.request command : ExceptT Failure (StateT σ m) String).run.run s =
      (Wire.request command : ExceptT Failure m String).run >>= fun outcome => pure (outcome, s) :=
    fun _ => rfl
  unfold evaluate
  extract_lets shown
  split
  · simp
  simp only [ExceptT.run_bind, StateT.run_bind, request, bind_assoc, pure_bind]
  -- the state is passed along, whatever the answer
  refine bind_congr fun outcome => ?_
  cases outcome with
  | error failure => simp
  | ok first =>
    dsimp only
    split
    · split
      · simp
      · simp only [ExceptT.run_bind, StateT.run_bind, request, bind_assoc, pure_bind]
        refine bind_congr fun outcome => ?_
        cases outcome <;> simp
    · simp

/-- **A node that is evaluated again** comes to have the evaluated text for its value, whatever is
asked when it is expanded then. -/
theorem value_of_reevaluate {limits : Limits} {isRoot : Bool} {node after : Node}
    {outcome : Except Failure Unit} {later : List Exchange} (reliable : peer.Reliable)
    (given : GivesValue peer past path node.gdbName value now)
    (run : (((reevaluate limits path isRoot : ExceptT Failure (StateT Node Dialogue) Unit).run.run
      node).run peer).run past = .ok (outcome, after) later) :
    after.value = some (String.ofList (evaluatedText value.toList)) := by
  let evaluation : Evaluation := ⟨true, String.ofList (evaluatedText value.toList)⟩
  have evaluated : (((evaluate path node.gdbName :
      ExceptT Failure (StateT Node Dialogue) Evaluation).run.run node).run peer).run past =
        .ok (.ok evaluation, node) now := by
    rw [evaluate_lift]
    exact Dialogue.run_bind (run_evaluate given)
  unfold reevaluate at run
  rw [run_bind_of_pure (run_get node), Dialogue.run_bind_of_run evaluated] at run
  have kept : Leaves (if node.value = some evaluation.value && isRoot then pure ()
      else do
        set { node with value := some evaluation.value }
        if needsExpansion node.type (some evaluation.value) then expand limits node.type
        else pure () : ExceptT Failure (StateT Node Dialogue) Unit) (node, ())
      fun _ now _ => now.1.value = some evaluation.value := by
    split
    · rename_i same
      exact leaves_pure (of_decide_eq_true (Bool.and_eq_true_iff.1 same).1)
    · -- the value is set before the node is expanded, which leaves it alone
      refine leaves_bind (leaves_set ?_)
      split
      · exact leaves_mono (leaves_expand limits node.type _) fun _ _ _ expanded => expanded.value
      · exact leaves_pure rfl
  obtain ⟨-, -, -, -, valued⟩ := kept peer reliable now _ later run
  exact valued

end Evaluate

/-! ## Listing and evaluation -/

/-- Wherever the value is given for a node, it is evaluated as what is shown then, and that is the
value of the node afterwards. -/
def EvaluatesTo (limits : Limits) (node : Node) (value shown : String) : Prop :=
  ∀ {peer : Peer} {past now : List Exchange} {path : String},
    GivesValue peer past path node.gdbName value now →
      ((evaluate path node.gdbName : ExceptT Failure Dialogue Evaluation).run.run peer).run past =
        .ok (.ok ⟨true, shown⟩) now ∧
      ∀ {isRoot : Bool} {outcome : Except Failure Unit} {after : Node} {later : List Exchange},
        peer.Reliable →
        (((reevaluate limits path isRoot :
            ExceptT Failure (StateT Node Dialogue) Unit).run.run node).run peer).run past =
          .ok (outcome, after) later → after.value = some shown

theorem evaluatesTo_evaluatedText (limits : Limits) (node : Node) (value : String) :
    EvaluatesTo limits node value (String.ofList (evaluatedText value.toList)) := fun given =>
  ⟨run_evaluate given, fun reliable run => value_of_reevaluate reliable given run⟩

/-- **Children are listed with their values**, whatever a value holds but the signs of the
answer. -/
theorem run_listChildren_readable (limits : Limits) (shape : Shape) (renamed : Bool) (depth : Nat)
    (via : Option String) (growth : Growth) {peer : Peer} {past : List Exchange}
    {cs : List ListedChild} {hasMore : Bool} {console : List String}
    (settled : ∀ c ∈ cs, c.Settled) (readable : ∀ c ∈ cs, c.Readable)
    (separable : ∀ c ∈ cs, c.Separable)
    (spoken : peer.Says past
      (childrenExchange limits (listedObject growth.node renamed via) cs hasMore console)) :
    (((listChildren limits shape renamed (depth + 1) via :
        ExceptT Failure (StateT Growth Dialogue) Unit).run.run growth).run peer).run past =
      .ok (.ok (), growth.grown (cs.map (·.asRead.node shape growth.names)))
        (childrenExchange limits (listedObject growth.node renamed via) cs hasMore console ::
          past) := by
  have settled : ∀ d ∈ cs.map (·.asRead), d.Settled := List.forall_mem_map.2 settled
  have separable : ∀ d ∈ cs.map (·.asRead), d.Separable :=
    List.forall_mem_map.2 fun c mem => (separable c mem).asRead (readable c mem)
  have run := run_listChildren_listed limits shape renamed depth via growth settled separable
    (toList_childrenAnswer console readable) spoken
  rw [List.map_map] at run
  exact run

/-- **Listing and evaluation show the same value** of a child exactly if nothing in it, but for
quotes, is written with a backslash. Whatever the values of the children hold but the signs of the
answer, there is a node for each child with its very value. Wherever gdb gives that value again, the
node is evaluated as one text, which the value alone determines, and has it for its value then. -/
theorem values_agree_iff (limits : Limits) (shape : Shape) (renamed : Bool) (depth : Nat)
    (via : Option String) (growth : Growth) {peer : Peer} {past : List Exchange}
    {cs : List ListedChild} {hasMore : Bool} {console : List String}
    (settled : ∀ c ∈ cs, c.Settled) (readable : ∀ c ∈ cs, c.Readable)
    (separable : ∀ c ∈ cs, c.Separable)
    (spoken : peer.Says past
      (childrenExchange limits (listedObject growth.node renamed via) cs hasMore console)) :
    ∃ nodes : List Node,
      (((listChildren limits shape renamed (depth + 1) via :
          ExceptT Failure (StateT Growth Dialogue) Unit).run.run growth).run peer).run past =
        .ok (.ok (), growth.grown nodes)
          (childrenExchange limits (listedObject growth.node renamed via) cs hasMore console ::
            past) ∧
      List.Forall₂ (fun (c : ListedChild) (node : Node) =>
        node.gdbName = some c.name ∧ node.value = some c.value ∧
          ∃ shown, EvaluatesTo limits node c.value shown ∧
            (shown = c.value ↔ Without slashed c.value)) cs nodes := by
  refine ⟨_, run_listChildren_readable limits shape renamed depth via growth settled readable
    separable spoken, ?_⟩
  rw [List.forall₂_map_right_iff]
  refine List.forall₂_same.2 fun c _ => ⟨rfl, rfl, _, evaluatesTo_evaluatedText limits _ _, ?_⟩
  rw [← String.toList_inj, String.toList_ofList, evaluatedText_eq_iff]
  exact ⟨fun plain sign special mem => plain sign mem special,
    fun plain sign mem special => plain sign special mem⟩

/-- A structure before its children are listed. -/
def plainStruct : Growth := { node := { name := "s", type := "struct s", value := none } }

/-- A pointer to a text. -/
def quotedText : ListedChild := ⟨"s.p", "p", 0, "0x1 \"a, b\"", "char *", []⟩

/-- A text with quotes is shown in the same way by both. -/
theorem values_agree_quoted : ∃ node : Node,
    (((listChildren ⟨50, 1⟩ .struct false 1 none :
        ExceptT Failure (StateT Growth Dialogue) Unit).run.run plainStruct).run
        (.repeating (childrenExchange ⟨50, 1⟩ "s" [quotedText] false []).answer)).run [] =
      .ok (.ok (), plainStruct.grown [node])
        [childrenExchange ⟨50, 1⟩ "s" [quotedText] false []] ∧
    node.value = some "0x1 \"a, b\"" ∧
    ((evaluate "s.p" node.gdbName : ExceptT Failure Dialogue Evaluation).run.run
        (.repeating (valueExchange "s.p" "0x1 \"a, b\"" []).answer)).run [] =
      .ok (.ok ⟨true, "0x1 \"a, b\""⟩) [valueExchange "s.p" "0x1 \"a, b\"" []] := by
  have settled : ∀ c ∈ [quotedText], c.Settled := by decide
  have separable : ∀ c ∈ [quotedText], c.Separable := List.forall_mem_singleton.2
    ⟨by decide, by decide, by decide, by decide, by decide, by decide⟩
  obtain ⟨nodes, run, shown⟩ := values_agree_iff ⟨50, 1⟩ .struct false 0 none plainStruct settled
    (by decide +kernel) separable (Peer.says_repeating [] _)
  obtain ⟨node, rest, ⟨-, value, text, evaluates, same⟩, none, rfl⟩ :=
    List.forall₂_cons_left_iff.1 shown
  obtain rfl := List.forall₂_nil_left_iff.1 none
  obtain rfl := same.2 (by decide)
  have given : GivesValue (.repeating (valueExchange "s.p" quotedText.value []).answer) [] "s.p"
      node.gdbName quotedText.value [valueExchange "s.p" quotedText.value []] :=
    .path (by decide) (Peer.says_repeating [] _)
  exact ⟨node, run, value, (evaluates given).1⟩

/-- A character with an escape for its value. -/
def zeroChar : ListedChild := ⟨"s.c", "c", 0, "0 '\\000'", "char", []⟩

/-- An array of characters with garbage behind the string in it. -/
def filledArray : ListedChild := ⟨"s.t", "t", 0, "\"hi\\000\\000xx\"", "char [8]", []⟩

/-- Both are listed with their values. Evaluated, the backslash of the one is doubled, and the
string of the other is cut at its end. -/
theorem values_differ :
    (((listChildren ⟨50, 1⟩ .struct false 1 none :
        ExceptT Failure (StateT Growth Dialogue) Unit).run.run plainStruct).run
        (.repeating (childrenExchange ⟨50, 1⟩ "s" [zeroChar, filledArray] false []).answer)).run
        [] =
      .ok (.ok (), plainStruct.grown [
          { name := "s.c", gdbName := some "s.c", type := "char", value := some "0 '\\000'" },
          { name := "s.t", gdbName := some "s.t", type := "char [8]",
            value := some "\"hi\\000\\000xx\"" }])
        [childrenExchange ⟨50, 1⟩ "s" [zeroChar, filledArray] false []] ∧
    ((evaluate "s.c" (some "s.c") : ExceptT Failure Dialogue Evaluation).run.run
        (.repeating (valueExchange "s.c" "0 '\\000'" []).answer)).run [] =
      .ok (.ok ⟨true, "0 '\\\\000'"⟩) [valueExchange "s.c" "0 '\\000'" []] ∧
    ((evaluate "s.t" (some "s.t") : ExceptT Failure Dialogue Evaluation).run.run
        (.repeating (valueExchange "s.t" "\"hi\\000\\000xx\"" []).answer)).run [] =
      .ok (.ok ⟨true, "\"hi\""⟩) [valueExchange "s.t" "\"hi\\000\\000xx\"" []] := by
  have doubled : evaluatedText zeroChar.value.toList = "0 '\\\\000'".toList := by
    decide +kernel
  have cut : evaluatedText filledArray.value.toList = "\"hi\"".toList := by decide +kernel
  have legible : ∀ c ∈ [zeroChar, filledArray], Legible ListedChild.sought c.fields := by
    decide +kernel
  refine ⟨?_, ?_, ?_⟩
  · have separable : ∀ c ∈ [zeroChar, filledArray], c.Separable :=
      List.forall_mem_cons.2 ⟨⟨by decide, by decide, by decide, by decide, by decide, by decide⟩,
        List.forall_mem_singleton.2
          ⟨by decide, by decide, by decide, by decide, by decide, by decide⟩⟩
    exact (listChildren_iff ⟨50, 1⟩ .struct false 0 none plainStruct (by decide) legible
      (Peer.says_repeating [] _)).2 separable
  · have given : GivesValue (.repeating (valueExchange "s.c" zeroChar.value []).answer) [] "s.c"
        (some "s.c") zeroChar.value [valueExchange "s.c" zeroChar.value []] :=
      .path (by decide) (Peer.says_repeating [] _)
    have run := run_evaluate given
    rw [doubled, String.ofList_toList] at run
    exact run
  · have given : GivesValue (.repeating (valueExchange "s.t" filledArray.value []).answer) [] "s.t"
        (some "s.t") filledArray.value [valueExchange "s.t" filledArray.value []] :=
      .path (by decide) (Peer.says_repeating [] _)
    have run := run_evaluate given
    rw [cut, String.ofList_toList] at run
    exact run

end DebugLink.Variable
