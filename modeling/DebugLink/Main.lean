import DebugLink.Console.Loop
import DebugLink.Session.Scripted

/-!
# The command line

The command line on standard input. The peer is a dry run: it accepts every command and the target
never stops, which is enough to try commands out.
-/

namespace DebugLink.Main

open Console

/-- A peer that accepts every command and says nothing more. -/
def dryRun : Script := { accepting := true }

/-- Prints what happened since an earlier state of the world. -/
def display (before after : World) : IO Unit := do
  let events := after.events.take (after.events.length - before.events.length)
  for printed in events.reverse.filterMap printedOn do
    let out ← if printed.isError then IO.getStderr else IO.getStdout
    out.putStr printed.text
    out.flush

/-- Runs a step, prints what it has to say, and gives its value unless it stopped short. -/
def runStep {α : Type} (act : Act α) (world : World) : IO (Option α × World) := do
  match act (dryRun.link {} world.bound.length) world with
  | .ok value after =>
    display world after
    return (some value, after)
  | .error _ after =>
    display world after
    return (none, after)

/-- Takes lines from standard input until the session has ended, the user quits or there are no
more. -/
partial def takeInput (world : World) : IO Unit := do
  if !world.session.alive then return
  let (_, world) ← runStep (put "bridge> ") world
  let line ← (← IO.getStdin).getLine
  if line.isEmpty then
    discard <| runStep (putLine "") world
  else
    let (goesOn, world) ← runStep (takeLine (dryRun.limits 50) line) world
    if goesOn = some true then takeInput world

end DebugLink.Main

/-- Prints the commands at a glance and takes lines. -/
def main : IO Unit := do
  let (_, world) ← DebugLink.Main.runStep (DebugLink.Console.putLine DebugLink.Console.banner) {}
  DebugLink.Main.takeInput world
