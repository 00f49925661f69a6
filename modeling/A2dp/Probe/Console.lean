import A2dp.Diagnostic

/-!
# Console records

How records are chosen and shown. A threshold lets through its level and all heavier ones.
-/

namespace A2dp.Probe

/-- A record with the part of the program that it comes from. -/
structure Record where
  level : Level
  target : String
  message : String
  deriving DecidableEq, Repr

def Record.ofDiagnostic (d : Diagnostic) : Record := ⟨d.level, "log", d.message⟩

/-- A record of the command line itself. -/
def Record.ofProbe (level : Level) (message : String) : Record := ⟨level, "lanyin_probe", message⟩

/-- The least level that passes. Nothing passes without one. -/
abbrev Threshold := Option Level

namespace Threshold

/-- The threshold with a name, in letters of either case. Any other name stands for a part of
the program that writes no records, so that nothing passes. -/
def ofName (name : String) : Threshold :=
  [Level.trace, .debug, .info, .warn, .error].find? fun level =>
    level.text.toList == name.toList.map Char.toUpper

def passes (threshold : Threshold) (record : Record) : Bool :=
  match threshold with
  | some level => level.rank ≤ record.level.rank
  | none => false

end Threshold

/-- The threshold of the console: asked for more, it shows more than the settings say. -/
def consoleThreshold (setting : String) (verbosity : Nat) : Threshold :=
  match verbosity with
  | 0 => .ofName setting
  | 1 => some .debug
  | _ => some .trace

def fileThreshold (verbosity : Nat) : Threshold :=
  match verbosity with
  | 0 => some .info
  | 1 => some .debug
  | _ => some .trace

namespace Record

/-- The name of the level in five places. -/
def paddedLevel (record : Record) : String :=
  let name := record.level.text
  name ++ String.ofList (List.replicate (5 - name.length) ' ')

def colour (record : Record) : String :=
  match record.level with
  | .error => "\x1b[31m"
  | .warn => "\x1b[33m"
  | .info => "\x1b[32m"
  | .debug | .trace => "\x1b[34m"

def consoleLine (record : Record) (time : String) : String :=
  "[" ++ time ++ "] " ++ record.colour ++ record.paddedLevel ++ "\x1b[0m " ++ record.target ++
    " > " ++ record.message ++ "\n"

def fileLine (record : Record) (time : String) : String :=
  "[" ++ time ++ "] " ++ record.paddedLevel ++ " > " ++ record.message ++ "\n"

end Record

end A2dp.Probe
