import A2dp.Probe.Run
import Std.Time

/-!
# The command line

Runs the probe on the disk and writes what it leaves behind.
-/

namespace A2dp.Probe.Disk

/-- The cause behind an error of the system. -/
def fault (e : IO.Error) : FileFault :=
  match e with
  | .noFileOrDirectory .. => .missing
  | .alreadyExists _ code _ | .inappropriateType _ code _ | .invalidArgument _ code _
  | .illegalOperation code _ =>
    if code == 17 then .occupied
    else if code == 20 then .notDirectory
    else if code == 21 then .isDirectory
    else if code == 36 then .nameTooLong
    else .other (toString e)
  | e => .other (toString e)

/-- A request about a path, with the cause of its refusal. -/
def request (path : String) (action : IO Unit) : IO (Except FileFault Unit) := do
  if path.toList.contains '\x00' then return .error .nullCharacter
  try
    action
    return .ok ()
  catch e =>
    return .error (fault e)

def readText (path : String) : IO (Option String) := do
  try
    return some (← IO.FS.readFile path)
  catch _ =>
    return none

def isDirectory (path : String) : IO Bool := do
  try
    (← IO.FS.realPath path).isDir
  catch _ =>
    return false

def fileSystem : FileSystem IO where
  readText := readText
  makeDirectory path := request path (IO.FS.createDir path)
  isDirectory := isDirectory
  openToAppend path := request path do
    let _ ← IO.FS.Handle.mk path .append

/-- A number in at least the given number of places. -/
def places (width n : Nat) : String :=
  let digits := toString n
  String.ofList (List.replicate (width - digits.length) '0') ++ digits

def monthDay (date : Std.Time.PlainDate) : String :=
  places 2 date.month.val.toNat ++ "-" ++ places 2 date.day.val.toNat

/-- The moment at which a run starts: the day of universal time, and the time of the place. -/
def now : IO Moment := do
  let day := Std.Time.PlainDate.ofWallTime ((← Std.Time.Timestamp.now).toWallTime .zero)
  let here ← Std.Time.PlainDateTime.now
  let time := places 2 here.hour.val.toNat ++ ":" ++ places 2 here.minute.val.toNat ++ ":" ++
    places 2 here.second.val.toNat ++ "." ++ places 3 (here.nanosecond.val.toNat / 1000000)
  return ⟨toString day.year.toInt ++ "-" ++ monthDay day, monthDay here.date ++ " " ++ time⟩

/-- Writes what a run leaves behind. -/
def write (outcome : Outcome) : IO Unit := do
  match outcome.logFile with
  | some path =>
    let file ← IO.FS.Handle.mk path .append
    file.putStr outcome.logText
  | none => pure ()
  (← IO.getStderr).putStr outcome.stderr
  (← IO.getStdout).putStr outcome.stdout

end A2dp.Probe.Disk

def main (args : List String) : IO UInt32 := do
  let outcome ← A2dp.Probe.run .builtin A2dp.Probe.Disk.fileSystem (← A2dp.Probe.Disk.now) args
  A2dp.Probe.Disk.write outcome
  return outcome.exitCode.toUInt32
