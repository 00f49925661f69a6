import A2dp.Probe.FileSystem
import A2dp.Probe.LogSettings

/-!
# The log file

Its name holds the day. The directory of the settings is made first; if the file cannot be
opened then, the directories that its name adds are made and it is tried once more.
-/

namespace A2dp.Probe

/-- What was being made when the log file failed. -/
inductive LogStep where
  | directory
  | file
  deriving DecidableEq, Repr

def LogStep.text : LogStep → String
  | .directory => "failed to create log directory"
  | .file => "failed to create log file"

/-- Why there is no log file. -/
inductive LogFault where
  /-- The directory of the settings cannot be made. -/
  | noDirectory (fault : FileFault)
  /-- The file, or a directory that its name adds, cannot be made. -/
  | noFile (step : LogStep) (fault : FileFault)
  deriving DecidableEq, Repr

namespace LogFile

variable {m : Type → Type} [Monad m]

/-- The name of the log file of a day. Without a stem it is the day alone. -/
def name (stem date : String) : String :=
  (if stem.isEmpty then "" else stem ++ ".") ++ date ++ ".log"

def path (settings : LogSettings) (date : String) : String :=
  Path.join settings.directory (name settings.fileStem date)

/-- Opens the file at a path, if need be after making the directories above it. -/
def openAt (fs : FileSystem m) (path : String) : m (Except LogFault Unit) := do
  match ← fs.openToAppend path with
  | .ok () => return .ok ()
  | .error _ =>
    match ← fs.makeEach (Path.above path) with
    | .error fault => return .error (.noFile .directory fault)
    | .ok () => return (← fs.openToAppend path).mapError (.noFile .file)

/-- Makes the log file of a day, and gives its path. -/
def create (fs : FileSystem m) (settings : LogSettings) (date : String) :
    m (Except LogFault String) := do
  match ← fs.makeDirectories settings.directory with
  | .error fault => return .error (.noDirectory fault)
  | .ok () => return (← openAt fs (path settings date)).map fun _ => path settings date

end LogFile

end A2dp.Probe
