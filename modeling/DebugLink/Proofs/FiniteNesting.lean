import DebugLink.Proofs.Ending
import DebugLink.Proofs.ShownValues

/-!
# Access levels that are nested only finitely

The parts of a class are listed level by level, and a level may hold levels. So it is up to the peer
whether the children of a node are ever listed to the end: it could list a level in every level. If
it does not, whatever is done to look at a node comes to an end. It is done by evaluating, and by
creating, listing and deleting variable objects.

* `Inquiry`: the commands by which a node is looked at.
* `Evaluates`: how an expression is evaluated.
* `NestsFinitely`: there is no endless row of levels, each of them listed in the one before.
-/

namespace DebugLink

open Text Ending

namespace Variable

/-! ## Evaluating -/

/-- A command by which a node is looked at. -/
inductive Inquiry : String → Prop
  | evaluate {expression : String} (named : expression ≠ "") :
      Inquiry (evaluateCommand expression)
  | create (object name : String) : Inquiry (createCommand object name)
  | list (limits : Limits) (object : String) : Inquiry (childrenCommand limits object)
  | delete (object : String) : Inquiry (deleteCommand object)

/-- A path is evaluated after the exchanges `past`, with the exchanges in the end. When gdb refuses
it, the other name is evaluated instead. An empty path has no value. -/
inductive Evaluates (peer : Peer) (past : List Exchange) (path : String)
    (gdbName : Option String) : Evaluation → List Exchange → Prop
  | empty (unnamed : askedFor path = "") : Evaluates peer past path gdbName ⟨false, ""⟩ past
  | path {answer : String} (named : askedFor path ≠ "")
      (said : peer.Says past ⟨evaluateCommand (askedFor path), .ok answer⟩)
      (settled : isValue answer = true ∨ gdbName = none) :
      Evaluates peer past path gdbName (.ofAnswer answer)
        (⟨evaluateCommand (askedFor path), .ok answer⟩ :: past)
  | object {refusal object answer : String} (named : askedFor path ≠ "")
      (first : peer.Says past ⟨evaluateCommand (askedFor path), .ok refusal⟩)
      (refused : isValue refusal = false) (known : gdbName = some object)
      (said : peer.Says (⟨evaluateCommand (askedFor path), .ok refusal⟩ :: past)
        ⟨evaluateCommand object, .ok answer⟩) :
      Evaluates peer past path gdbName (.ofAnswer (if isValue answer then answer else refusal))
        (⟨evaluateCommand object, .ok answer⟩ ::
          ⟨evaluateCommand (askedFor path), .ok refusal⟩ :: past)

/-- An evaluation puts inquiries after the history. -/
theorem Evaluates.continues {peer : Peer} {past later : List Exchange} {path : String}
    {gdbName : Option String} {evaluation : Evaluation}
    (evaluates : Evaluates peer past path gdbName evaluation later) (known : gdbName ≠ some "") :
    Continues peer Inquiry past later := by
  cases evaluates with
  | empty => exact .here
  | path named said => exact .further .here (.evaluate named) said
  | object named first refused known' said =>
    refine .further (.further .here (.evaluate named) first) (.evaluate ?_) said
    rintro rfl
    exact known known'

/-! ## Nesting -/

/-- The access levels among the entries of a listing. -/
def listedLevels (answer : String) : List String :=
  (((listingEntries answer).map (·.headD [])).filter fun raw =>
    !contains [':', ':'] raw && isAccessLevel raw).map String.ofList

theorem mem_listedLevels {answer : String} {entry : List (List Char)}
    (mem : entry ∈ listingEntries answer) (single : contains [':', ':'] (entry.headD []) = false)
    (level : isAccessLevel (entry.headD []) = true) :
    String.ofList (entry.headD []) ∈ listedLevels answer := by
  refine List.mem_map_of_mem (List.mem_filter.2 ⟨List.mem_map.2 ⟨entry, mem, rfl⟩, ?_⟩)
  rw [single, level]
  rfl

/-- An object, asked for after these exchanges, is an access level in the listing of the other one,
which was asked for before. -/
def LevelOf (peer : Peer) (limits : Limits) (inner outer : List Exchange × String) : Prop :=
  ∃ answer, peer.Says outer.1 ⟨childrenCommand limits outer.2, .ok answer⟩ ∧
    inner.2 ∈ listedLevels answer ∧
    Continues peer Inquiry (⟨childrenCommand limits outer.2, .ok answer⟩ :: outer.1) inner.1

/-- **Access levels are nested only finitely**: each row of levels in levels ends. -/
def NestsFinitely (peer : Peer) (limits : Limits) : Prop := WellFounded (LevelOf peer limits)

/-- It is enough that the levels in a listing always rank lower than what is listed. -/
theorem nestsFinitely_of_rank {peer : Peer} {limits : Limits} (rank : String → Nat)
    (falls : ∀ {past : List Exchange} {object answer : String},
      peer.Says past ⟨childrenCommand limits object, .ok answer⟩ →
        ∀ level ∈ listedLevels answer, rank level < rank object) : NestsFinitely peer limits := by
  refine Subrelation.wf ?_ (InvImage.wf (fun asked : List Exchange × String => rank asked.2)
    Nat.lt_wfRel.wf)
  rintro inner outer ⟨answer, said, listed, -⟩
  exact falls said inner.2 listed

/-! ## Looking at nodes -/

section Walk

variable {m : Type → Type} {S : Type} [Monad m] [Wire m] [EndingWire m S] {peer : Peer} {s : S}
  {past : List Exchange}

theorem ends_evaluate (reliable : peer.Reliable) (path : String) (gdbName : Option String) :
    Ends peer (fun _ => (evaluate path gdbName : ExceptT Failure m Evaluation)) s past
      fun evaluation now later => now = s ∧ Evaluates peer past path gdbName evaluation later := by
  unfold evaluate
  refine ends_ite (fun empty => ?_) fun named => ?_
  · exact ends_pure ⟨rfl, .empty (congrArg String.ofList (List.isEmpty_iff.1 empty))⟩
  have named : askedFor path ≠ "" := fun empty =>
    named (List.isEmpty_iff.2 (String.ofList_injective empty))
  refine ends_bind (ends_request reliable fun answer said => ?_)
  cases gdbName with
  | none => exact ends_pure ⟨rfl, .path named said (.inr rfl)⟩
  | some object =>
    refine ends_ite (fun settled => ?_) fun refused => ?_
    · exact ends_pure ⟨rfl, .path named said (.inl settled)⟩
    refine ends_bind (ends_request reliable fun second said' => ?_)
    exact ends_pure ⟨rfl, .object named said (Bool.eq_false_iff.2 refused) rfl said'⟩

theorem ends_requestChildren (reliable : peer.Reliable) (limits : Limits) (object : String) :
    Ends peer (fun _ => (requestChildren limits object : ExceptT Failure m String)) s past
      fun answer now later => now = s ∧
        peer.Says past ⟨childrenCommand limits object, .ok answer⟩ ∧
        later = ⟨childrenCommand limits object, .ok answer⟩ :: past :=
  ends_request reliable fun _ said => ⟨rfl, said, rfl⟩

end Walk

end Variable

end DebugLink
