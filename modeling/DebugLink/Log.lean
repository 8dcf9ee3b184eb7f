import DebugLink.Session.World

/-!
# The log file

Lines are appended to the file with their level and the part of the program they come from. Only
levels up to a limit are written, and nothing before the file was opened.

* `text_write`: what a write adds to the file.
-/

namespace DebugLink

namespace LogLevel

/-- How talkative a level is. -/
def rank : LogLevel → Nat
  | error => 1
  | warn => 2
  | info => 3
  | debug => 4
  | trace => 5

/-- The level as it is written, in five characters. -/
def label : LogLevel → String
  | error => "ERROR"
  | warn => "WARN "
  | info => "INFO "
  | debug => "DEBUG"
  | trace => "TRACE"

end LogLevel

/-- A log file and the levels that are written to it. -/
structure Log where
  /-- The last level that is written. -/
  limit : LogLevel := .info
  /-- What the file holds, once it was opened. -/
  file : Option String := none
  deriving DecidableEq, Repr

namespace Log

/-- Opens the file; what it holds already stays. -/
def openFile (log : Log) (verbose : Bool) : Log :=
  { limit := if verbose then .debug else .info, file := some (log.file.getD "") }

/-- Whether lines of a level are written. -/
def enabled (log : Log) (level : LogLevel) : Bool := level.rank ≤ log.limit.rank

/-- The line for a message. -/
def line (level : LogLevel) (origin message : String) : String :=
  level.label ++ s!" [{origin}] {message}\n"

/-- Writes a message, if its level is written. -/
def write (log : Log) (level : LogLevel) (origin message : String) : Log :=
  if log.enabled level then { log with file := log.file.map (· ++ line level origin message) }
  else log

/-- What the file holds. -/
def text (log : Log) : String := log.file.getD ""

theorem text_write (log : Log) (level : LogLevel) (origin message : String)
    (opened : log.file.isSome) :
    (log.write level origin message).text =
      log.text ++ if log.enabled level then line level origin message else "" := by
  obtain ⟨file, hf⟩ := Option.isSome_iff_exists.1 opened
  cases h : log.enabled level <;> simp [write, text, h, hf]

end Log

end DebugLink
