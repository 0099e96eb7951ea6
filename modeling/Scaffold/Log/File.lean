import Scaffold.Host
import Scaffold.Log.Json
import Scaffold.Text.Lines

/-!
# The log file

A log is a file with one entry a line. Entries are added at its end; a log that does not exist has
no entries. Lines that are blank or do not describe an entry are passed over, but bytes that are
not text make the whole log unreadable.

* `LogEntry.ofLines`: the entries in the lines of a file.
* `Log.add`, `Log.load`: adding an entry and reading them all.
-/

namespace Scaffold

open Text (Bytes)

/-- The entry on a line, unless the line is passed over. -/
def LogEntry.ofLine? (line : String) : Option LogEntry :=
  if Text.isBlankText line then none
  else
    match LogEntry.ofJson line with
    | .ok entry => some entry
    | .error _ => none

/-- The entries on some lines. -/
def LogEntry.ofLines : List Bytes → Except Fault (List LogEntry)
  | [] => .ok []
  | bytes :: lines =>
    match Text.decode? bytes with
    | none => .error .notText
    | some line => do
      let entries ← ofLines lines
      return (ofLine? (Text.withoutEnding line)).toList ++ entries

/-- The line of an entry. -/
def LogEntry.line (e : LogEntry) : String := e.json.compact ++ "\n"

namespace Log

variable {m : Type → Type} [Monad m]

/-- Adds an entry to the end of the log. -/
def add (host : Host m) (log : Path) (e : LogEntry) : m (Except Fault Unit) :=
  host.append log (Text.encode e.line)

/-- The entries of the log. -/
def load (host : Host m) (log : Path) : m (Except Fault (List LogEntry)) := do
  if ← host.holds log then
    match ← host.read log with
    | .error fault => return .error fault
    | .ok bytes => return LogEntry.ofLines (Text.splitLines bytes)
  else return .ok []

end Log

end Scaffold
