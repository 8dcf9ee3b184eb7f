import DebugLink.Proofs.AccessLevels
import DebugLink.Proofs.FiniteNesting

/-!
# Nodes that are added for a listing

What the entries of a listing add to a node is said here without the program: nothing for a base
class, one child for a part, and for an access level what the entries of its own listing add. While
that goes on, exchanges are added, and what is known of names changes, which is all that an entry
learns from those before it.

* `Adds`: the nodes that entries add, by recursion into the access levels among them.
* `Adds.exists_append`, `Adds.exists_between`: entries add their nodes one after another.
* `Adds.of_part`: a part adds one child of its own.
* `Peer.Agrees`, `Adds.alike`: the answers of the peer alone decide about the nodes.
* `ends_adds`: adding the entries of a listing comes to an end with these nodes.
-/

namespace DebugLink

open Text Ending

theorem Peer.reliable_answering (answers : List (String × String)) : (answering answers).Reliable :=
  fun _ _ => ⟨_, rfl⟩

/-- Conversations of which a relation holds are alike to a peer: it answers the same in them, and
with that they are still alike. -/
structure Peer.Agrees (peer : Peer) (Alike : List Exchange → List Exchange → Prop) : Prop where
  same {past past' : List Exchange} {command answer other : String} : Alike past past' →
    peer.Says past ⟨command, .ok answer⟩ → peer.Says past' ⟨command, .ok other⟩ → answer = other
  further {past past' : List Exchange} : Alike past past' →
    ∀ e, Alike (e :: past) (e :: past')

/-- A peer gives one answer to a command after the same exchanges. -/
theorem Peer.agrees_eq (peer : Peer) : peer.Agrees Eq where
  same alike said said' := by
    subst alike
    exact Except.ok.inj (Eq.trans (Eq.symm said) said')
  further alike e := congrArg (e :: ·) alike

namespace Variable

/-- For a peer that has its answers from a table, it is enough that the levels in each of them rank
lower than what is listed by it. -/
theorem nestsFinitely_answering {answers : List (String × String)} {limits : Limits}
    (rank : String → Nat) (falls : ∀ entry ∈ answers, ∀ level ∈ listedLevels entry.2,
      rank (childrenCommand limits level) < rank entry.1) :
    NestsFinitely (.answering answers) limits := by
  refine nestsFinitely_of_rank (fun object => rank (childrenCommand limits object)) ?_
  intro past object answer said level listed
  obtain rfl | mem := Peer.mem_of_answering said
  · cases listed
  · exact falls _ mem level listed

/-! ## What entries add -/

/-- The entry stands for nothing: it has no name, or it is a base class. -/
def isVoid (entry : List (List Char)) : Bool :=
  (entry.headD []).isEmpty || contains [':', ':'] (entry.headD [])

/-- The entry is a part: it stands for something, and is not taken for an access level. -/
def IsPart (entry : List (List Char)) : Prop :=
  isVoid entry = false ∧ isAccessLevel (entry.headD []) = false

instance (entry : List (List Char)) : Decidable (IsPart entry) :=
  inferInstanceAs (Decidable (_ ∧ _))

/-- The entries of a listing; none of one that is refused. -/
def entriesOf (answer : String) : List (List (List Char)) :=
  if answer = Mi.errorAnswer then [] else listingEntries answer

/-- How far a listing has come: what is known of names, and the exchanges so far. -/
structure Stage where
  names : NameMap
  past : List Exchange

/-- The value of a part that is shown under this name, with the exchanges in the end: as it is
listed, or as it is evaluated if that says too little. -/
inductive Valued (peer : Peer) (past : List Exchange) (shown : String)
    (entry : List (List Char)) : Evaluation → List Exchange → Prop
  | listed (settled : needsReevaluation (entry[2]?.getD []) = false) :
      Valued peer past shown entry ⟨true, String.ofList (entry[2]?.getD [])⟩ past
  | evaluated {evaluation : Evaluation} {later : List Exchange}
      (unsettled : needsReevaluation (entry[2]?.getD []) = true)
      (evaluates : Evaluates peer past shown (some (String.ofList (entry.headD []))) evaluation
        later) : Valued peer past shown entry evaluation later

/-- **The entries add these nodes** to a node of the name `owner`, from one stage to another. -/
inductive Adds (peer : Peer) (limits : Limits) (shape : Shape) (owner : String) :
    Stage → List (List (List Char)) → List Node → Stage → Prop
  | nil {stage : Stage} : Adds peer limits shape owner stage [] [] stage
  | void {stage after : Stage} {entry : List (List Char)} {entries : List (List (List Char))}
      {nodes : List Node} (void : isVoid entry = true)
      (rest : Adds peer limits shape owner stage entries nodes after) :
      Adds peer limits shape owner stage (entry :: entries) nodes after
  | part {stage after : Stage} {entry : List (List Char)} {entries : List (List (List Char))}
      {nodes : List Node} {evaluation : Evaluation} {later : List Exchange} (part : IsPart entry)
      (valued : Valued peer stage.past
        (String.ofList (displayName (entry.headD []) shape stage.names)) entry evaluation later)
      (rest : Adds peer limits shape owner ⟨stage.names, later⟩ entries nodes after) :
      Adds peer limits shape owner stage (entry :: entries)
        (childOf shape stage.names (entry.headD []) entry evaluation :: nodes) after
  | level {stage left after : Stage} {entry : List (List Char)}
      {entries : List (List (List Char))} {inner nodes : List Node} {answer : String}
      (given : isVoid entry = false) (level : isAccessLevel (entry.headD []) = true)
      (said : peer.Says stage.past
        ⟨childrenCommand limits (String.ofList (entry.headD [])), .ok answer⟩)
      (within : Adds peer limits shape owner
        ⟨stage.names.bind (entry.headD []) owner.toList,
          ⟨childrenCommand limits (String.ofList (entry.headD [])), .ok answer⟩ :: stage.past⟩
        (entriesOf answer) inner left)
      (rest : Adds peer limits shape owner left entries nodes after) :
      Adds peer limits shape owner stage (entry :: entries) (inner ++ nodes) after

namespace Adds

variable {peer : Peer} {limits : Limits} {shape : Shape} {owner : String} {stage mid after : Stage}
  {entries more : List (List (List Char))} {nodes others : List Node}

/-- Entries added in two goes are added in one. -/
theorem append (first : Adds peer limits shape owner stage entries nodes mid)
    (second : Adds peer limits shape owner mid more others after) :
    Adds peer limits shape owner stage (entries ++ more) (nodes ++ others) after := by
  induction first with
  | nil => exact second
  | void void _ ih => exact .void void (ih second)
  | part part valued _ ih => exact .part part valued (ih second)
  | level given level said within _ _ ih =>
    rw [List.append_assoc]
    exact .level given level said within (ih second)

/-- **Entries add their nodes** one after another. -/
theorem exists_append (adds : Adds peer limits shape owner stage (entries ++ more) nodes after) :
    ∃ mid earlier later, nodes = earlier ++ later ∧
      Adds peer limits shape owner stage entries earlier mid ∧
      Adds peer limits shape owner mid more later after := by
  induction entries generalizing stage nodes with
  | nil => exact ⟨stage, [], nodes, rfl, .nil, adds⟩
  | cons entry entries ih =>
    cases adds with
    | void void rest =>
      obtain ⟨mid, earlier, later, rfl, first, second⟩ := ih rest
      exact ⟨mid, earlier, later, rfl, .void void first, second⟩
    | part part valued rest =>
      obtain ⟨mid, earlier, later, rfl, first, second⟩ := ih rest
      exact ⟨mid, _ :: earlier, later, rfl, .part part valued first, second⟩
    | level given level said within rest =>
      obtain ⟨mid, earlier, later, rfl, first, second⟩ := ih rest
      exact ⟨mid, _ ++ earlier, later, (List.append_assoc ..).symm,
        .level given level said within first, second⟩

/-- Whatever is added is a part, and known to gdb by the name of one. -/
theorem isAccessLevel_eq (adds : Adds peer limits shape owner stage entries nodes after) :
    ∀ node ∈ nodes, ∃ raw, node.gdbName = some (String.ofList raw) ∧ isAccessLevel raw = false := by
  induction adds with
  | nil => exact List.forall_mem_nil _
  | void _ _ ih => exact ih
  | part part _ _ ih => exact List.forall_mem_cons.2 ⟨⟨_, rfl, part.2⟩, ih⟩
  | level _ _ _ _ _ ihInner ihRest => exact List.forall_mem_append.2 ⟨ihInner, ihRest⟩

/-- **A part** adds one child of its own. -/
theorem of_part {entry : List (List Char)} (part : IsPart entry)
    (adds : Adds peer limits shape owner stage [entry] nodes after) :
    ∃ evaluation, Valued peer stage.past
        (String.ofList (displayName (entry.headD []) shape stage.names)) entry evaluation
        after.past ∧ nodes = [childOf shape stage.names (entry.headD []) entry evaluation] := by
  cases adds with
  | void void => exact absurd (part.1.symm.trans void) Bool.false_ne_true
  | part _ valued rest =>
    cases rest
    exact ⟨_, valued, rfl⟩
  | level _ level => exact absurd (part.2.symm.trans level) Bool.false_ne_true

/-- What one of the entries adds stands between what those before and behind it add. -/
theorem exists_between {entry : List (List Char)}
    (adds : Adds peer limits shape owner stage (entries ++ entry :: more) nodes after) :
    ∃ first second earlier own further, nodes = earlier ++ own ++ further ∧
      Adds peer limits shape owner stage entries earlier first ∧
      Adds peer limits shape owner first [entry] own second ∧
      Adds peer limits shape owner second more further after := by
  obtain ⟨first, earlier, rest, rfl, before, others⟩ := adds.exists_append
  have others : Adds peer limits shape owner first ([entry] ++ more) rest after := others
  obtain ⟨second, own, further, rfl, within, behind⟩ := others.exists_append
  exact ⟨first, second, earlier, own, further, (List.append_assoc ..).symm, before, within, behind⟩

end Adds

/-! ## One way only -/

section Alike

variable {peer : Peer} {Alike : List Exchange → List Exchange → Prop} {past past' : List Exchange}

/-- After alike histories a path or an object evaluates to the same. -/
theorem Evaluates.alike (agrees : peer.Agrees Alike) {path : String} {gdbName : Option String}
    {evaluation other : Evaluation} {later later' : List Exchange}
    (first : Evaluates peer past path gdbName evaluation later)
    (second : Evaluates peer past' path gdbName other later') (given : Alike past past') :
    evaluation = other ∧ Alike later later' := by
  -- what is asked depends on the path and the name alone
  cases first with
  | empty unnamed =>
    cases second with
    | empty => exact ⟨rfl, given⟩
    | path named => exact absurd unnamed named
    | object named => exact absurd unnamed named
  | path named said settled =>
    cases second with
    | empty unnamed => exact absurd unnamed named
    | path _ said' =>
      cases agrees.same given said said'
      exact ⟨rfl, agrees.further given _⟩
    | object _ said' refused known =>
      cases agrees.same given said said'
      obtain valid | unknown := settled
      · exact absurd (refused.symm.trans valid) Bool.false_ne_true
      · exact absurd (unknown.symm.trans known) nofun
  | object named said refused known second₁ =>
    cases second with
    | empty unnamed => exact absurd unnamed named
    | path _ said' settled =>
      cases agrees.same given said said'
      obtain valid | unknown := settled
      · exact absurd (refused.symm.trans valid) Bool.false_ne_true
      · exact absurd (unknown.symm.trans known) nofun
    | object _ said' _ known' second₂ =>
      cases agrees.same given said said'
      cases known.symm.trans known'
      cases agrees.same (agrees.further given _) second₁ second₂
      exact ⟨rfl, agrees.further (agrees.further given _) _⟩

/-- After alike histories an entry gets the same value, whether the listing has it or the peer is
asked. -/
theorem Valued.alike (agrees : peer.Agrees Alike) {shown : String} {entry : List (List Char)}
    {evaluation other : Evaluation} {later later' : List Exchange}
    (first : Valued peer past shown entry evaluation later)
    (second : Valued peer past' shown entry other later') (given : Alike past past') :
    evaluation = other ∧ Alike later later' := by
  cases first with
  | listed settled =>
    cases second with
    | listed => exact ⟨rfl, given⟩
    | evaluated unsettled => exact absurd (settled.symm.trans unsettled) Bool.false_ne_true
  | evaluated unsettled evaluates =>
    cases second with
    | listed settled => exact absurd (settled.symm.trans unsettled) Bool.false_ne_true
    | evaluated _ evaluates' => exact evaluates.alike agrees evaluates' given

/-- **Entries add the same nodes** in conversations that are alike. -/
theorem Adds.alike (agrees : peer.Agrees Alike) {limits : Limits} {shape : Shape} {owner : String}
    {stage stage' after after' : Stage} {entries : List (List (List Char))}
    {nodes others : List Node} (first : Adds peer limits shape owner stage entries nodes after)
    (second : Adds peer limits shape owner stage' entries others after')
    (known : stage.names = stage'.names) (given : Alike stage.past stage'.past) :
    nodes = others ∧ after.names = after'.names ∧ Alike after.past after'.past := by
  -- the marks of an entry decide its case, so both runs take the same one
  induction first generalizing stage' others after' with
  | nil =>
    cases second
    exact ⟨rfl, known, given⟩
  | void void rest ih =>
    cases second with
    | void _ rest' => exact ih rest' known given
    | part part => exact absurd (part.1.symm.trans void) Bool.false_ne_true
    | level given => exact absurd (given.symm.trans void) Bool.false_ne_true
  | part part valued rest ih =>
    cases second with
    | void void => exact absurd (part.1.symm.trans void) Bool.false_ne_true
    | part _ valued' rest' =>
      rw [known] at valued ⊢
      obtain ⟨rfl, given⟩ := valued.alike agrees valued' given
      obtain ⟨rfl, left⟩ := ih rest' known given
      exact ⟨rfl, left⟩
    | level _ level => exact absurd (part.2.symm.trans level) Bool.false_ne_true
  | @level _ _ _ entry _ _ _ _ present level said within rest ihInner ihRest =>
    cases second with
    | void void => exact absurd (present.symm.trans void) Bool.false_ne_true
    | part part => exact absurd (part.2.symm.trans level) Bool.false_ne_true
    | level _ _ said' within' rest' =>
      cases agrees.same given said said'
      have bound := congrArg (NameMap.bind · (entry.headD []) owner.toList) known
      obtain ⟨rfl, known, given⟩ := ihInner within' bound (agrees.further given _)
      obtain ⟨rfl, left⟩ := ihRest rest' known given
      exact ⟨rfl, left⟩

end Alike

/-! ## Adding them -/

section Walk

variable {m : Type → Type} {S : Type} [Monad m] [Wire m] [EndingWire m S] [LawfulMonad m]
  {peer : Peer} {past : List Exchange}

/-- Giving an entry its value ends, and asks only where the listing left the value open. -/
theorem ends_valued (reliable : peer.Reliable) (shape : Shape) (names : NameMap)
    (entry : List (List Char)) {s : S} :
    Ends peer (fun _ => (listedChild shape names (entry.headD []) entry :
        ExceptT Failure m Node)) s past fun child now later => now = s ∧ ∃ evaluation,
      Valued peer past (String.ofList (displayName (entry.headD []) shape names)) entry evaluation
        later ∧ child = childOf shape names (entry.headD []) entry evaluation := by
  cases settled : needsReevaluation (entry[2]?.getD []) with
  | false =>
    rw [listedChild_settled settled]
    exact ends_pure ⟨rfl, _, .listed settled, rfl⟩
  | true =>
    rw [listedChild_unsettled settled]
    refine ends_map (ends_mono (ends_evaluate reliable _ _) ?_)
    rintro evaluation now later ⟨rfl, evaluates⟩
    exact ⟨rfl, evaluation, .evaluated settled evaluates, rfl⟩

/-- Giving an entry its value puts inquiries after the history, and nothing else. -/
theorem Valued.continues {shown : String} {entry : List (List Char)} {evaluation : Evaluation}
    {later : List Exchange} (given : isVoid entry = false)
    (valued : Valued peer past shown entry evaluation later) :
    Continues peer Inquiry past later := by
  cases valued with
  | listed => exact .here
  | evaluated unsettled evaluates =>
    refine evaluates.continues fun unnamed => ?_
    have empty : entry.headD [] = [] := String.ofList_injective (Option.some.inj unnamed)
    rw [isVoid, empty] at given
    cases given

/-- Adding entries, levels included, puts only inquiries after the history. -/
theorem Adds.continues {limits : Limits} {shape : Shape} {owner : String} {stage after : Stage}
    {entries : List (List (List Char))} {nodes : List Node}
    (adds : Adds peer limits shape owner stage entries nodes after) :
    Continues peer Inquiry stage.past after.past := by
  induction adds with
  | nil => exact .here
  | void _ _ ih => exact ih
  | part part valued _ ih => exact (valued.continues part.1).trans ih
  | level _ _ said _ _ ihInner ihRest =>
    exact ((Continues.here.further (Inquiry.list limits _) said).trans ihInner).trans ihRest

/-- The nodes are behind the children of the node, and nothing else of it has changed. -/
def Added (peer : Peer) (limits : Limits) (shape : Shape) (entries : List (List (List Char)))
    (past : List Exchange) (before now : Growth × S) (later : List Exchange) : Prop :=
  ∃ nodes names, Adds peer limits shape before.1.node.name ⟨before.1.names, past⟩ entries nodes
      ⟨names, later⟩ ∧
    now = ((⟨before.1.node, names⟩ : Growth).grown nodes, before.2)

/-- Two runs over the entries in a row are one run over all of them. -/
theorem Added.append {limits : Limits} {shape : Shape} {entries more : List (List (List Char))}
    {before between now : Growth × S} {mid later : List Exchange}
    (first : Added peer limits shape entries past before between mid)
    (second : Added peer limits shape more mid between now later) :
    Added peer limits shape (entries ++ more) past before now later := by
  obtain ⟨nodes, names, adds, rfl⟩ := first
  obtain ⟨others, names', adds', rfl⟩ := second
  rw [Growth.name_grown, Growth.names_grown] at adds'
  refine ⟨nodes ++ others, names', adds.append adds', ?_⟩
  rw [Growth.mk_grown, ← Growth.grown_append]

/-- **The entries of a listing are added**, if the levels among them are nested only finitely. -/
theorem ends_adds (reliable : peer.Reliable) (limits : Limits) (shape : Shape) (renamed : Bool)
    {before : List Exchange} {object : String}
    (nests : Acc (LevelOf peer limits) (before, object)) {answer : String}
    (said : peer.Says before ⟨childrenCommand limits object, .ok answer⟩) (depth : Nat → Nat)
    {entries : List (List (List Char))} (within : ∀ entry ∈ entries, entry ∈ listingEntries answer)
    {g : Growth × S}
    (listed : Continues peer Inquiry (⟨childrenCommand limits object, .ok answer⟩ :: before) past) :
    Ends peer (fun bound => (entries.forM (addEntry shape fun level =>
        listChildren { limits with maxDepth := depth bound } shape renamed bound (some level)) :
        ExceptT Failure (StateT Growth m) Unit)) g past fun _ =>
      Added peer limits shape entries past g := by
  -- the entries of a level are those of an object further down, after more exchanges
  generalize outer : (before, object) = asked at nests
  induction nests generalizing before object answer depth entries g past with
  | intro asked _ ih =>
    subst outer
    induction entries generalizing g past with
    | nil => exact ends_pure ⟨[], g.1.names, .nil, rfl⟩
    | cons entry entries row =>
      obtain ⟨mem, others⟩ := List.forall_mem_cons.1 within
      have first : Ends peer (fun bound => (addEntry shape (fun level =>
          listChildren { limits with maxDepth := depth bound } shape renamed bound (some level))
          entry : ExceptT Failure (StateT Growth m) Unit)) g past fun _ =>
            Added peer limits shape [entry] past g := by
        unfold addEntry
        extract_lets raw
        refine ends_ite (fun void => ?_) fun given => ?_
        · exact ends_pure ⟨[], g.1.names, .void void .nil, rfl⟩
        have given : isVoid entry = false := Bool.eq_false_iff.2 given
        refine ends_ite (fun level => ?_) fun plain => ?_
        · -- all that was asked since the outer listing came between it and that of the level
          have single : contains [':', ':'] raw = false := (Bool.or_eq_false_iff.1 given).2
          have inner : LevelOf peer limits (past, String.ofList raw) (before, object) :=
            ⟨answer, said, mem_listedLevels mem single level, listed⟩
          refine ends_bind (ends_modify (ends_succ ?_))
          refine ends_bind (ends_get ?_)
          refine ends_seq (ends_requestChildren reliable limits (String.ofList raw)) ?_
          rintro answer' now later ⟨rfl, said', rfl⟩
          refine ends_ite (fun refused => ?_) fun accepted => ?_
          · refine ends_pure ⟨[] ++ [], _, .level given level said' ?_ .nil, rfl⟩
            rw [entriesOf, if_pos refused]
            exact .nil
          · refine ends_mono (ih _ inner said' (fun bound => depth (bound + 1))
              (fun _ mem => mem) .here rfl) ?_
            rintro _ now later ⟨nodes, names, adds, rfl⟩
            have shown : entriesOf answer' = listingEntries answer' := if_neg accepted
            refine ⟨nodes, names, ?_, rfl⟩
            rw [← List.append_nil nodes]
            exact .level given level said' (shown ▸ adds) .nil
        · refine ends_bind (ends_get ?_)
          refine ends_seq (ends_valued reliable shape g.1.names entry) ?_
          rintro child now later ⟨rfl, evaluation, valued, rfl⟩
          have plain : isAccessLevel raw = false := Bool.eq_false_iff.2 plain
          exact ends_modify ⟨_, _, .part ⟨given, plain⟩ valued .nil, rfl⟩
      refine ends_seq first fun _ mid later added => ?_
      have further : Continues peer Inquiry past later := by
        obtain ⟨nodes, names, adds, -⟩ := added
        exact adds.continues
      exact ends_mono (row others (listed.trans further)) fun _ _ _ more => added.append more

end Walk

end Variable

end DebugLink
