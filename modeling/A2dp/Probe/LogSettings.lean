import A2dp.Text.JsonReader

/-!
# Log settings

Where records go. Settings are read from a JSON object, or from an array of the members in their
order; what is not given has its default. Unknown members are passed over, a known one must have
the right type and may not be given twice.
-/

namespace A2dp.Probe

/-- Where records go. -/
structure LogSettings where
  /-- The least level that is shown on the console. -/
  consoleLevel : String := "warn"
  /-- Records are also written to a file. -/
  fileOutput : Bool := true
  /-- The directory of the file. -/
  directory : String := "logs"
  /-- The start of the file's name. -/
  fileStem : String := "lanyin-probe"
  deriving DecidableEq, Repr

inductive LogMember where
  | consoleLevel
  | fileOutput
  | directory
  | fileStem
  deriving DecidableEq, Repr

namespace LogMember

def all : List LogMember := [.consoleLevel, .fileOutput, .directory, .fileStem]

def name : LogMember → String
  | .consoleLevel => "console_level"
  | .fileOutput => "file_output"
  | .directory => "directory"
  | .fileStem => "file_prefix"

end LogMember

namespace LogSettings

open Text (JsonReader.string JsonReader.bool JsonReader.mark JsonReader.skip)

def readMember (s : LogSettings) (member : LogMember) (cs : List Char) :
    Option (LogSettings × List Char) :=
  match member with
  | .consoleLevel =>
    (JsonReader.string cs).map fun value => ({ s with consoleLevel := value.1 }, value.2)
  | .fileOutput => (JsonReader.bool cs).map fun value => ({ s with fileOutput := value.1 }, value.2)
  | .directory => (JsonReader.string cs).map fun value => ({ s with directory := value.1 }, value.2)
  | .fileStem => (JsonReader.string cs).map fun value => ({ s with fileStem := value.1 }, value.2)

/-- Reads the members of an object up to its closing bracket. The members in the list have not
been given yet. -/
def readMembers : Nat → LogSettings → List LogMember → List Char → Option (LogSettings × List Char)
  | 0, _, _, _ => none
  | fuel + 1, s, missing, cs => do
    let name ← JsonReader.string cs
    let rest ← JsonReader.mark ':' name.2
    let next ← match LogMember.all.find? fun member => member.name == name.1 with
      | some member => if member ∈ missing then s.readMember member rest else none
      | none => (JsonReader.skip rest).map fun rest => (s, rest)
    match JsonReader.mark ',' next.2 with
    | some rest =>
      readMembers fuel next.1 (missing.filter fun member => member.name != name.1) rest
    | none => do return (next.1, ← JsonReader.mark '\x7d' next.2)

/-- Reads the items of an array up to its closing bracket, one for each of the members. -/
def readItems : LogSettings → List LogMember → List Char → Option (LogSettings × List Char)
  | _, [], _ => none
  | s, member :: members, cs => do
    let next ← s.readMember member cs
    match JsonReader.mark ',' next.2 with
    | some rest => readItems next.1 members rest
    | none => do return (next.1, ← JsonReader.mark ']' next.2)

def readValue (cs : List Char) : Option (LogSettings × List Char) :=
  match JsonReader.mark '\x7b' cs, JsonReader.mark '[' cs with
  | some rest, _ =>
    match JsonReader.mark '\x7d' rest with
    | some rest => some ({}, rest)
    | none => readMembers rest.length {} LogMember.all rest
  | none, some rest =>
    match JsonReader.mark ']' rest with
    | some rest => some ({}, rest)
    | none => readItems {} LogMember.all rest
  | none, none => none

/-- The settings in a text. Nothing but blanks may follow them. -/
def ofText? (text : String) : Option LogSettings := do
  let result ← readValue text.toList
  if (Text.JsonReader.skipBlanks result.2).isEmpty then some result.1 else none

end LogSettings

end A2dp.Probe
