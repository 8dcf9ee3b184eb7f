import DebugLink.Peer.Basic
import DebugLink.Mi.Answer

/-!
# Scripted peers

A scripted peer answers each command from a list of replies: in order, the last one for good. It
delivers its reactions to a command in order as well, each of them once.

* `mem_reactions_iff`: the reaction to a call is the one counted by the calls before it.
-/

namespace DebugLink

/-- One scripted reply to a command. -/
inductive Reply
  | text (answer : String)
  /-- The answer is made from a result and what the console said. -/
  | result (record : String) (console : List String)
  | failure (cause : Failure)
  deriving DecidableEq, Repr

/-- What a reply answers to a command. -/
def Reply.answer (command : String) : Reply → Except Failure String
  | text answer => .ok answer
  | result record console => .ok (Mi.answer command (.ofResult record console))
  | failure cause => .error cause

/-- A scripted peer. -/
structure Script where
  replies : List (String × List Reply) := []
  /-- Whether a command without replies is accepted, instead of answered by nothing. -/
  accepting : Bool := false
  reactions : List (String × List String) := []
  submitFailures : List (String × Failure) := []
  closeFailure : Option Failure := none

namespace Script

/-- The reply to a command that was requested `n` times before. -/
def reply (s : Script) (n : Nat) (command : String) : Except Failure String :=
  match s.replies.lookup command with
  | some (first :: more) => ((first :: more)[n]?.getD (more.getLastD first)).answer command
  | some [] => .ok ""
  | none => if s.accepting then Reply.answer command (.result "^done" []) else .ok ""

/-- Whether a command can be submitted. -/
def accept (s : Script) (command : String) : Except Failure Unit :=
  match s.submitFailures.lookup command with
  | some cause => .error cause
  | none => .ok ()

/-- Whether a call is for a command and came through. -/
def cameThrough (s : Script) (command : String) : Call → Bool
  | .request c => c == command
  | .submit c => c == command && (s.submitFailures.lookup c).isNone

/-- The command of a call. -/
def commandOf : Call → String
  | .request c => c
  | .submit c => c

/-- The reaction to a command before which `n` calls for it came through. -/
def reaction? (s : Script) (n : Nat) (command : String) : Option String :=
  (s.reactions.lookup command).bind (·[n]?)

/-- The peer that follows the script. -/
def peer (s : Script) : Peer where
  answer past command := s.reply (past.count (.request command)) command
  accept _ command := s.accept command
  reactions past call :=
    (s.reaction? (past.countP (s.cameThrough (commandOf call))) (commandOf call)).toList
  closing := match s.closeFailure with
    | some cause => .error cause
    | none => .ok ()

/-- The number of reactions in the script. -/
def reactionCount (s : Script) : Nat := s.reactions.foldl (fun n r => n + r.2.length) 0

/-- The number of replies in the script. -/
def replyCount (s : Script) : Nat := s.replies.foldl (fun n r => n + r.2.length) 0

theorem mem_reactions_iff (s : Script) (past : List Call) (call : Call) (delivery : String) :
    delivery ∈ s.peer.reactions past call ↔
      ∃ list, s.reactions.lookup (commandOf call) = some list ∧
        list[past.countP (s.cameThrough (commandOf call))]? = some delivery := by
  simp [peer, reaction?, Option.bind_eq_some_iff]

end Script

end DebugLink
