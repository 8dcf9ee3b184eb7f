import DebugLink.Variable.Resolve

/-!
# What is asked of a peer

Variables are looked at by asking a peer, and the exchanges are kept. Nothing is ever taken out of
them, so what asks anything at all leaves more of them than there were: a computation that leaves
none has asked nothing, and is the value that it gives.

* `Recorded`: the rules by which it is told whether a computation asks anything.
* `Dialogue.length_lt`: after a question there are more exchanges than before.
* `evaluate_cases`, `listedChild_cases`, `build_cases`: what is evaluated, listed or built comes
  from what is known already, or something is asked.
* `asks_listChildren`, `asks_expand`: to list children and to expand is to ask.
-/

namespace DebugLink

/-- A monad in which it is recorded what computations ask, with the rules for how they are put
together. -/
class Recorded (m : Type → Type) [Monad m] where
  /-- The exchanges so far are kept. -/
  Grows {α : Type} : m α → Prop
  /-- The exchanges so far are kept, and there is one more at least. -/
  Asks {α : Type} : m α → Prop
  grows_of_asks {α : Type} {x : m α} : Asks x → Grows x
  grows_pure {α : Type} (a : α) : Grows (pure a : m α)
  grows_bind {α β : Type} {x : m α} {f : α → m β} :
    Grows x → (∀ a, Grows (f a)) → Grows (x >>= f)
  asks_bind {α β : Type} {x : m α} {f : α → m β} : Asks x → (∀ a, Grows (f a)) → Asks (x >>= f)

/-- What is asked over a wire is recorded. To give up is to have no value, and counts as well. -/
class RecordedWire (m : Type → Type) [Monad m] [Wire m] extends Recorded m where
  asks_ask (command : String) : Asks (Wire.ask command : m (Except Failure String))
  asks_overrun {α : Type} : Asks (Wire.overrun : m α)

open Recorded RecordedWire

/-! ## Dialogues -/

/-- A dialogue in two parts that returned returned in both. -/
theorem Dialogue.of_bind_ok {α β : Type} {x : Dialogue α} {f : α → Dialogue β} {peer : Peer}
    {past now : List Exchange} {b : β} (run : ((x >>= f).run peer).run past = .ok b now) :
    ∃ a mid, (x.run peer).run past = .ok a mid ∧ ((f a).run peer).run mid = .ok b now := by
  change EStateM.bind (x peer) (fun a => f a peer) past = .ok b now at run
  unfold EStateM.bind at run
  cases first : x peer past with
  | ok a mid =>
    rw [first] at run
    exact ⟨a, mid, first, run⟩
  | error halt mid =>
    rw [first] at run
    cases run

instance : RecordedWire Dialogue where
  Grows x := ∀ peer past a now, (x.run peer).run past = .ok a now → past <:+ now
  Asks x := ∀ peer past a now, (x.run peer).run past = .ok a now →
    past <:+ now ∧ past.length < now.length
  grows_of_asks asks := fun peer past a now run => (asks peer past a now run).1
  grows_pure a := by
    intro peer past b now run
    cases run
    exact List.suffix_refl past
  grows_bind hx hf := by
    intro peer past b now run
    obtain ⟨a, mid, first, second⟩ := Dialogue.of_bind_ok run
    exact (hx peer past a mid first).trans (hf a peer mid b now second)
  asks_bind hx hf := by
    intro peer past b now run
    obtain ⟨a, mid, first, second⟩ := Dialogue.of_bind_ok run
    obtain ⟨kept, more⟩ := hx peer past a mid first
    have later := hf a peer mid b now second
    exact ⟨kept.trans later, Nat.lt_of_lt_of_le more later.length_le⟩
  asks_ask command := by
    intro peer past b now run
    cases run
    exact ⟨List.suffix_cons _ _, Nat.lt_succ_self _⟩
  asks_overrun := by
    intro α peer past b now run
    cases run

/-- After a question there are more exchanges than before. -/
theorem Dialogue.length_lt {α : Type} {x : Dialogue α} (asks : Asks x) {peer : Peer}
    {past now : List Exchange} {a : α} (run : (x.run peer).run past = .ok a now) :
    past.length < now.length :=
  (asks peer past a now run).2

/-- Asked this after these exchanges, the peer answers so. -/
def Peer.Says (peer : Peer) (past : List Exchange) (e : Exchange) : Prop :=
  peer.answer (past.map fun e => .request e.command) e.command = e.answer

/-- A peer that gives one answer to everything. -/
def Peer.repeating (answer : Except Failure String) : Peer where
  answer _ _ := answer

theorem Peer.says_repeating (past : List Exchange) (e : Exchange) :
    (repeating e.answer).Says past e := rfl

/-- A peer that answers these commands so, and any other with nothing. -/
def Peer.answering (answers : List (String × String)) : Peer where
  answer _ command := .ok ((answers.lookup command).getD "")

/-- What is answered to a command stands with it, or is nothing. -/
theorem Peer.mem_of_answering {answers : List (String × String)} {past : List Exchange}
    {command answer : String} (said : (answering answers).Says past ⟨command, .ok answer⟩) :
    answer = "" ∨ (command, answer) ∈ answers := by
  have given : (answers.lookup command).getD "" = answer := Except.ok.inj said
  cases known : answers.lookup command with
  | none => exact .inl (by rw [← given, known, Option.getD_none])
  | some found =>
    rw [known, Option.getD_some] at given
    obtain ⟨before, behind, rfl, -⟩ := List.lookup_eq_some_iff.1 known
    exact .inr (given ▸ List.mem_append_right _ List.mem_cons_self)

/-- What a computation has come to, if it came to an end without a failure, and the exchanges by
then. -/
def Dialogue.outcome? {α : Type} :
    EStateM.Result Halt (List Exchange) (Except Failure α) → Option (α × List Exchange)
  | .ok (.ok a) now => some (a, now)
  | _ => none

/-- A check of the outcome is passed only if there is one. -/
theorem Dialogue.exists_of_outcome? {α : Type} {check : α × List Exchange → Bool}
    {result : EStateM.Result Halt (List Exchange) (Except Failure α)}
    (checked : (outcome? result).any check = true) :
    ∃ a now, result = .ok (.ok a) now ∧ check (a, now) = true := by
  match result, checked with
  | .ok (.ok a) now, checked => exact ⟨a, now, rfl, checked⟩

/-- A question is answered, and the exchange is kept. -/
theorem Dialogue.run_ask {peer : Peer} {past : List Exchange} {e : Exchange}
    (spoken : peer.Says past e) {α : Type} (f : Except Failure String → Dialogue α) :
    ((Wire.ask e.command >>= f : Dialogue α).run peer).run past =
      ((f e.answer).run peer).run (e :: past) := by
  have asked : ((Wire.ask e.command >>= f : Dialogue α).run peer).run past =
      ((f (peer.answer (past.map fun e => .request e.command) e.command)).run peer).run
        (⟨e.command, peer.answer (past.map fun e => .request e.command) e.command⟩ :: past) := rfl
  rw [asked, spoken]

theorem Dialogue.run_request {peer : Peer} {past : List Exchange} {command answer : String}
    (spoken : peer.Says past ⟨command, .ok answer⟩) {α : Type}
    (f : String → ExceptT Failure Dialogue α) :
    ((Wire.request command >>= f : ExceptT Failure Dialogue α).run.run peer).run past =
      ((f answer).run.run peer).run (⟨command, .ok answer⟩ :: past) :=
  run_ask spoken (ExceptT.bindCont f)

theorem Dialogue.run_request_state {peer : Peer} {past : List Exchange} {command answer : String}
    (spoken : peer.Says past ⟨command, .ok answer⟩) {σ α : Type}
    (f : String → ExceptT Failure (StateT σ Dialogue) α) (s : σ) :
    (((Wire.request command >>= f).run.run s).run peer).run past =
      (((f answer).run.run s).run peer).run (⟨command, .ok answer⟩ :: past) :=
  run_ask spoken fun outcome => ExceptT.bindCont f outcome s

/-- What follows goes on with what was left. -/
theorem Dialogue.run_bind {α β : Type} {x : Dialogue α} {f : α → Dialogue β} {peer : Peer}
    {past mid : List Exchange} {a : α} (run : (x.run peer).run past = .ok a mid) :
    ((x >>= f).run peer).run past = ((f a).run peer).run mid := by
  change EStateM.bind (x peer) (fun a => f a peer) past = _
  unfold EStateM.bind
  rw [show x peer past = .ok a mid from run]
  rfl

theorem Dialogue.run_bind_of_run {σ α β : Type} {x : ExceptT Failure (StateT σ Dialogue) α}
    {f : α → ExceptT Failure (StateT σ Dialogue) β} {s now : σ} {peer : Peer}
    {past mid : List Exchange} {a : α}
    (run : ((x.run.run s).run peer).run past = .ok (.ok a, now) mid) :
    (((x >>= f).run.run s).run peer).run past = (((f a).run.run now).run peer).run mid :=
  run_bind run

/-! ## Failures and states on top -/

section Layers

variable {m : Type → Type} [Monad m] {ε σ α : Type}

instance [Recorded m] : Recorded (ExceptT ε m) where
  Grows x := Grows x.run
  Asks x := Asks x.run
  grows_of_asks asks := grows_of_asks asks
  grows_pure a := grows_pure (Except.ok a)
  grows_bind {α β x f} hx hf := by
    refine grows_bind hx fun outcome => ?_
    cases outcome with
    | ok a => exact hf a
    | error e => exact grows_pure _
  asks_bind {α β x f} hx hf := by
    refine asks_bind hx fun outcome => ?_
    cases outcome with
    | ok a => exact hf a
    | error e => exact grows_pure _

instance [Recorded m] : Recorded (StateT σ m) where
  Grows x := ∀ s, Grows (x.run s)
  Asks x := ∀ s, Asks (x.run s)
  grows_of_asks asks s := grows_of_asks (asks s)
  grows_pure a s := grows_pure (a, s)
  grows_bind hx hf s := grows_bind (hx s) fun next => hf next.1 next.2
  asks_bind hx hf s := asks_bind (hx s) fun next => hf next.1 next.2

instance [Wire m] [RecordedWire m] : RecordedWire (StateT σ m) where
  asks_ask command s := asks_bind (asks_ask command) fun answer => grows_pure (answer, s)
  asks_overrun s := asks_bind asks_overrun fun a => grows_pure (a, s)

section Known

variable [LawfulMonad m]

/-- What follows a computation without questions is that with its value. -/
theorem run_bind_of_pure {β : Type} {x : ExceptT ε (StateT σ m) α}
    {f : α → ExceptT ε (StateT σ m) β} {s now : σ} {a : α}
    (known : x.run.run s = pure (Except.ok a, now)) :
    (x >>= f).run.run s = (f a).run.run now := by
  show x.run.run s >>= _ = _
  rw [known, pure_bind]
  rfl

theorem run_get (s : σ) :
    (get : ExceptT ε (StateT σ m) σ).run.run s = pure (Except.ok s, s) :=
  pure_bind (s, s) fun next : σ × σ => (pure (Except.ok next.1, next.2) : m (Except ε σ × σ))

theorem run_modify (f : σ → σ) (s : σ) :
    (modify f : ExceptT ε (StateT σ m) Unit).run.run s = pure (Except.ok (), f s) :=
  pure_bind ((), f s) fun next : Unit × σ =>
    (pure (Except.ok next.1, next.2) : m (Except ε Unit × σ))

end Known

section Rules

variable [Recorded m]

/-- What is known already or asks something keeps the exchanges. -/
theorem grows_of_cases {x : m α} (h : (∃ a, x = pure a) ∨ Asks x) : Grows x := by
  obtain ⟨a, rfl⟩ | asks := h
  · exact grows_pure a
  · exact grows_of_asks asks

theorem grows_modify (f : σ → σ) : Grows (modify f : ExceptT ε (StateT σ m) Unit) := fun s =>
  grows_bind (grows_pure ((), f s)) fun next => grows_pure (Except.ok next.1, next.2)

theorem grows_discard {x : ExceptT ε m α} (h : Grows x) : Grows (discard x) :=
  grows_bind h fun _ => grows_pure (Except.ok ())

/-- What looks at the state asks what follows. -/
theorem asks_get [LawfulMonad m] {f : σ → ExceptT ε (StateT σ m) α} (h : ∀ s, Asks (f s)) :
    Asks (get >>= f) := by
  intro s
  have asks := h s s
  rwa [← run_bind_of_pure (f := f) (run_get s)] at asks

theorem grows_get : Grows (get : ExceptT ε (StateT σ m) σ) := fun s =>
  grows_bind (grows_pure (s, s)) fun next => grows_pure (Except.ok next.1, next.2)

/-- What follows a question is asked in the state that it leaves. -/
theorem asks_run_bind {β : Type} {x : ExceptT ε (StateT σ m) α} {f : α → ExceptT ε (StateT σ m) β}
    {s : σ} (hx : Asks (x.run.run s)) (hf : ∀ a, Grows (f a)) : Asks ((x >>= f).run.run s) := by
  refine asks_bind hx fun next => ?_
  obtain ⟨outcome, now⟩ := next
  cases outcome with
  | ok a => exact hf a now
  | error e => exact grows_pure (Except.error e, now)

theorem asks_map [LawfulMonad m] {β : Type} {f : α → β} {x : m α} (h : Asks x) :
    Asks (f <$> x) := by
  rw [map_eq_pure_bind]
  exact asks_bind h fun _ => grows_pure _

theorem grows_forM {β : Type} {f : β → m PUnit} (h : ∀ b, Grows (f b)) (l : List β) :
    Grows (l.forM f) := by
  induction l with
  | nil => exact grows_pure _
  | cons b l ih => exact grows_bind (h b) fun _ => ih

theorem grows_foldlM {β : Type} {f : α → β → m α} (h : ∀ a b, Grows (f a b)) (l : List β) (a : α) :
    Grows (l.foldlM f a) := by
  induction l generalizing a with
  | nil => exact grows_pure a
  | cons b l ih => exact grows_bind (h a b) fun a => ih a

end Rules

end Layers

namespace Variable

open Text

variable {m : Type → Type} [Monad m] [Wire m]

/-! ## What is known already -/

section Known

variable [LawfulMonad m]

/-- The child for an entry, with this evaluation of it. -/
def childOf (shape : Shape) (names : NameMap) (raw : List Char) (entry : List (List Char))
    (evaluation : Evaluation) : Node where
  name := String.ofList (displayName raw shape names)
  gdbName := some (String.ofList raw)
  type := String.ofList (entry[3]?.getD [])
  value := some evaluation.value
  children := if evaluation.valid && (readTrimmed32 (entry[1]?.getD [])).getD 0 != 0 &&
    evaluation.value != nullPointer then some [] else none

/-- The child for an entry is made of it alone, if its value need not be asked for again. -/
theorem listedChild_settled {shape : Shape} {names : NameMap} {raw : List Char}
    {entry : List (List Char)} (settled : needsReevaluation (entry[2]?.getD []) = false) :
    (listedChild shape names raw entry : ExceptT Failure m Node) =
      pure (childOf shape names raw entry ⟨true, String.ofList (entry[2]?.getD [])⟩) := by
  unfold listedChild
  simp only [settled]
  exact pure_bind _ _

theorem listedChild_unsettled {shape : Shape} {names : NameMap} {raw : List Char}
    {entry : List (List Char)} (unsettled : needsReevaluation (entry[2]?.getD []) = true) :
    (listedChild shape names raw entry : ExceptT Failure m Node) =
      childOf shape names raw entry <$>
        evaluate (String.ofList (displayName raw shape names)) (some (String.ofList raw)) := by
  unfold listedChild
  simp only [unsettled]
  exact bind_pure_comp _ _

/-- A node is made of what is known, if it has a value and is not expanded. -/
theorem build_settled {limits : Limits} {name declared shape : String} {value : Option String}
    (settled : needsExpansion shape value = false) :
    (build limits name declared shape value : ExceptT Failure m Node) =
      pure { name, type := declared, value } := by
  have valued : value.isSome = true := by
    cases value with
    | none => cases settled
    | some value => rfl
  unfold build
  simp only [settled]
  refine (pure_bind _ _).trans ?_
  exact if_pos valued

end Known

section Asking

variable [RecordedWire m]

theorem asks_request (command : String) : Asks (Wire.request command : ExceptT Failure m String) :=
  asks_ask command

/-! ## Evaluating -/

/-- To evaluate is to ask, unless there is nothing to evaluate. -/
theorem evaluate_cases (name : String) (gdbName : Option String) :
    (evaluate name gdbName : ExceptT Failure m Evaluation) = pure ⟨false, ""⟩ ∨
      Asks (evaluate name gdbName : ExceptT Failure m Evaluation) := by
  unfold evaluate
  extract_lets shown
  split
  · exact .inl rfl
  · refine .inr (asks_bind (asks_request _) fun first => ?_)
    split
    · split
      · exact grows_pure _
      · exact grows_bind (grows_of_asks (asks_request _)) fun _ => grows_pure _
    · exact grows_pure _

theorem grows_evaluate (name : String) (gdbName : Option String) :
    Grows (evaluate name gdbName : ExceptT Failure m Evaluation) :=
  grows_of_cases ((evaluate_cases name gdbName).imp_left fun known => ⟨_, known⟩)

/-! ## Listing and expanding -/

theorem asks_requestListing (limits : Limits) (node : Node) (renamed : Bool) (via : Option String) :
    Asks (requestListing limits node renamed via : ExceptT Failure m String) := by
  unfold requestListing
  split
  · exact asks_request _
  · exact asks_request _
  · split
    · exact asks_request _
    · refine asks_bind (asks_request _) fun answer => ?_
      split
      · exact grows_of_asks (asks_request _)
      · exact grows_pure _

/-- Creating an object asks once, and again where it is refused. -/
theorem asks_createObject (name : String) :
    Asks (createObject name : ExceptT Failure m (Option VarObject)) := by
  have creating : ∀ object : String,
      Asks (createAs object name : ExceptT Failure m (Option VarObject)) := by
    intro object
    refine asks_bind (asks_request _) fun answer => ?_
    split
    · exact grows_pure _
    · exact grows_pure _
  refine asks_bind (creating name) fun created => ?_
  split
  · exact grows_pure _
  · exact grows_of_asks (creating _)

variable [LawfulMonad m]

/-- **The child for an entry** is made of it, or something is asked. Without a name there is nothing
to ask for; then it has no value. -/
theorem listedChild_cases (shape : Shape) (names : NameMap) (raw : List Char)
    (entry : List (List Char)) :
    (∃ evaluation : Evaluation,
        (evaluation.value = String.ofList (entry[2]?.getD []) ∨ evaluation.value = "") ∧
        (listedChild shape names raw entry : ExceptT Failure m Node) =
          pure (childOf shape names raw entry evaluation)) ∨
      Asks (listedChild shape names raw entry : ExceptT Failure m Node) := by
  cases settled : needsReevaluation (entry[2]?.getD []) with
  | false => exact .inl ⟨_, .inl rfl, listedChild_settled settled⟩
  | true =>
    rw [listedChild_unsettled settled]
    obtain unnamed | asks := evaluate_cases (m := m) (String.ofList (displayName raw shape names))
      (some (String.ofList raw))
    · rw [unnamed]
      exact .inl ⟨_, .inr rfl, map_pure _ _⟩
    · exact .inr (asks_map asks)

theorem grows_listedChild (shape : Shape) (names : NameMap) (raw : List Char)
    (entry : List (List Char)) :
    Grows (listedChild shape names raw entry : ExceptT Failure m Node) :=
  grows_of_cases ((listedChild_cases shape names raw entry).imp_left
    fun ⟨_, _, known⟩ => ⟨_, known⟩)

/-- Adding an entry grows the history if entering a level does. -/
theorem grows_addEntry (shape : Shape)
    {enter : String → ExceptT Failure (StateT Growth m) Unit}
    (entering : ∀ level, Grows (enter level))
    (entry : List (List Char)) : Grows (addEntry shape enter entry) := by
  unfold addEntry
  extract_lets raw
  split
  · exact grows_pure _
  split
  · exact grows_bind (grows_modify _) fun _ => entering _
  · exact grows_bind grows_get fun _ =>
      grows_bind (grows_listedChild shape _ raw entry) fun _ => grows_modify _

/-- **To list children is to ask.** -/
theorem asks_listChildren (limits : Limits) (shape : Shape) (renamed : Bool) (depth : Nat)
    (via : Option String) :
    Asks (listChildren limits shape renamed depth via :
      ExceptT Failure (StateT Growth m) Unit) := by
  induction depth generalizing via with
  | zero =>
    exact fun s => asks_bind (asks_bind asks_overrun fun _ => grows_pure _) fun _ => grows_pure _
  | succ depth ih =>
    refine asks_get fun growth => asks_bind (asks_requestListing limits growth.node renamed via) ?_
    intro answer
    split
    · exact grows_pure _
    · refine grows_forM (fun entry => ?_) _
      exact grows_addEntry shape (fun level => grows_of_asks (ih (some level))) entry

theorem asks_growFrom (limits : Limits) (shape : Shape) (object : VarObject) :
    Asks (growFrom limits shape object : ExceptT Failure (StateT Node m) Unit) := fun _ =>
  asks_bind (asks_listChildren limits shape object.renamed limits.maxDepth none _) fun _ =>
    grows_pure _

/-- **To expand a node is to ask.** -/
theorem asks_expand (limits : Limits) (type : String) :
    Asks (expand limits type : ExceptT Failure (StateT Node m) Unit) := by
  refine asks_get fun node => asks_bind (asks_createObject node.name) fun created => ?_
  split
  · exact grows_pure _
  rename_i object
  extract_lets delete list
  have deleted : ∀ u, Grows (delete u) := fun _ =>
    grows_discard (grows_of_asks (asks_request (m := StateT Node m) _))
  have listed : ∀ u, Grows (list u) := by
    intro u
    refine grows_bind (grows_modify _) fun _ => ?_
    split
    · exact grows_bind (grows_of_asks (asks_growFrom limits _ object)) deleted
    · exact deleted ()
  split
  · exact grows_bind (grows_modify _) listed
  · exact listed ()

/-- **A node is made of what is known**, or something is asked. -/
theorem build_cases (limits : Limits) (name declared shape : String) (value : Option String) :
    (∃ shown, value = some shown ∧
      (build limits name declared shape value : ExceptT Failure m Node) =
        pure { name, type := declared, value := some shown }) ∨
      Asks (build limits name declared shape value : ExceptT Failure m Node) := by
  cases settled : needsExpansion shape value with
  | false =>
    cases value with
    | none => cases settled
    | some shown => exact .inl ⟨shown, rfl, build_settled settled⟩
  | true =>
    unfold build
    simp only [settled]
    refine .inr (asks_bind (x := ExceptT.mk _) ?_ fun node => ?_)
    · exact asks_bind (asks_expand limits shape _) fun _ => grows_pure _
    · split
      · exact grows_pure _
      · exact grows_bind (grows_evaluate name none) fun _ => grows_pure _

theorem grows_build (limits : Limits) (name declared shape : String) (value : Option String) :
    Grows (build limits name declared shape value : ExceptT Failure m Node) :=
  grows_of_cases ((build_cases limits name declared shape value).imp_left
    fun ⟨_, _, known⟩ => ⟨_, known⟩)

end Asking

end Variable

end DebugLink
