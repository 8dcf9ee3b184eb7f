import DebugLink.Session.Receive
import DebugLink.Peer.Script
import DebugLink.Variable.Expand

/-!
# Sessions with a scripted peer

A script is finite, so calls over a link to it are nested only so deep. Between two reactions the
nesting grows by one for the hit being handled and by one for each bound breakpoint whose hit count
is set back inside an edit of another one, of which each holds a gate.
-/

namespace DebugLink

/-- A depth that nested calls do not reach. -/
def Script.callDepth (s : Script) (bound : Nat) : Nat :=
  (s.reactionCount + 1) * ((bound + 1) * (bound + 1) + 4)

/-- The link to a scripted peer, for a number of bound breakpoints. -/
def Script.link (s : Script) (config : Config) (bound : Nat) : Link :=
  .within s.peer config (s.callDepth bound)

/-- The bounds on listings from a scripted peer. A listing inside another one is of a command that
was not listed yet or uses up a reply. -/
def Script.limits (s : Script) (maxChildren : Nat) : Variable.Limits :=
  { maxChildren, maxDepth := (s.replyCount + 1) * (s.replies.length + 1) + 1 }

end DebugLink
