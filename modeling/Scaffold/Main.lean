import Scaffold.Program
import Std.Time.DateTime.Timestamp

/-!
# The machine as a host

The host on which the programs run in earnest: files, terminal and clock are those of the machine.
Nothing is decided here. A program is chosen by the name under which it is started, or else by the
first argument.
-/

namespace Scaffold.Machine

open Text (Bytes)

/-- The number of a fault. Some layers of the machine report it with its sign turned. -/
def faultNumber (code : UInt32) : Nat := code.toInt32.toInt.natAbs

/-- The fault behind an error that the machine reports. -/
def fault : IO.Error → Fault
  | .alreadyExists _ code _ | .otherError code _ | .resourceBusy code _
  | .resourceVanished code _ | .unsupportedOperation code _ | .hardwareFault code _
  | .unsatisfiedConstraints code _ | .illegalOperation code _ | .protocolError code _
  | .timeExpired code _ | .interrupted _ code _ | .noFileOrDirectory _ code _
  | .invalidArgument _ code _ | .permissionDenied _ code _ | .resourceExhausted _ code _
  | .inappropriateType _ code _ | .noSuchThing _ code _ => .system (faultNumber code)
  | .unexpectedEof => .described .unexpectedEnd "unexpected end of file"
  | .userError text => .described .other text

/-- An action together with the fault it may end in. -/
def attempt {α : Type} (action : IO α) : IO (Except Fault α) := do
  try
    return .ok (← action)
  catch e =>
    return .error (fault e)

/-- An action on a path. A NUL cannot be handed over to the machine. -/
def atPath {α : Type} (p : Path) (action : String → IO α) : IO (Except Fault α) :=
  if p.text.toList.contains '\x00' then return .error .nulInPath else attempt (action p.text)

/-- The bytes as the machine takes them. -/
def packed (bytes : Bytes) : ByteArray := ⟨bytes.toArray⟩

/-- Reads bytes of the input up to a newline or the end. -/
partial def lineBytes : IO Bytes := do
  let byte ← (← IO.getStdin).read 1
  match byte.data.toList with
  | [] => return []
  | b :: _ => if b = Text.newline then return [b] else return b :: (← lineBytes)

/-- Reads all bytes of the input. -/
partial def allBytes : IO Bytes := do
  let chunk ← (← IO.getStdin).read 65536
  if chunk.isEmpty then return [] else return chunk.data.toList ++ (← allBytes)

/-- Writes a text and shows it at once. -/
def display (text : String) : IO Unit := do
  let output ← IO.getStdout
  output.putStr text
  output.flush

/-- Takes a line of the input without its ending. -/
def readLine : IO (Except Fault (Option String)) := do
  return ((⟨← lineBytes, [], none⟩ : Terminal).readLine).1

/-- Takes lines of the input up to the end marker. -/
partial def readDefinition : IO (Except Fault String) := do
  match ← readLine with
  | .error fault => return .error fault
  | .ok none => return .ok ""
  | .ok (some line) =>
    if line = endMarker then return .ok ""
    match ← readDefinition with
    | .error fault => return .error fault
    | .ok text => return .ok (line ++ "\n" ++ text)

/-- The machine. -/
def host : Host IO where
  read p := atPath p fun path => return (← IO.FS.readBinFile path).data.toList
  holds p := return (← atPath p fun path => IO.FS.realPath path).isOk
  isDirectory p := do
    match ← atPath p fun path => do (← IO.FS.realPath path).isDir with
    | .ok found => return found
    | .error _ => return false
  makeDirectory p := atPath p fun path => IO.FS.createDir path
  write p bytes := atPath p fun path => IO.FS.writeBinFile path (packed bytes)
  append p bytes := atPath p fun path => do
    (← IO.FS.Handle.mk path .append).write (packed bytes)
  workingDirectory := attempt do return ⟨(← IO.currentDir).toString⟩
  say text := attempt (display text)
  ask question := do
    match ← attempt (display question) with
    | .error fault => return .error fault
    | .ok () => readLine
  readDefinition := readDefinition
  readAll := allBytes
  warn := IO.eprint
  now := do
    let nanos := (← Std.Time.Timestamp.now).toNanosecondsSinceUnixEpoch.val
    return (Instant.of? (nanos / nanosInSecond) (nanos % nanosInSecond).toNat).getD default
  uptime := IO.monoMsNow

/-- Runs a program and gives its exit code. -/
def start (p : Program) (args : List String) : IO UInt32 := do
  match ← p.run host args with
  | .exit code => return code.toUInt32
  | .abort message =>
    IO.eprintln message
    return 101

end Scaffold.Machine

open Scaffold in
/-- Runs the program that is asked for. -/
def main (args : List String) : IO UInt32 := do
  match Program.ofName? ((← IO.appPath).fileName.getD ""), args with
  | some p, args => Machine.start p args
  | none, name :: args =>
    match Program.ofName? name with
    | some p => Machine.start p args
    | none =>
      IO.eprintln ("unknown program: " ++ name)
      return 64
  | none, [] =>
    IO.eprintln "no program given"
    return 64
