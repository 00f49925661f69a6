import A2dp.Probe.Path

/-!
# File systems

What a run asks of the files around it, with the causes of refusal. Making a directory with all
those above it and opening a file below them are made of these requests, whatever answers them.
-/

namespace A2dp.Probe

/-- Why a request about a file is refused. -/
inductive FileFault where
  /-- A name on the path leads nowhere. -/
  | missing
  /-- There is something at the path already. -/
  | occupied
  /-- The path goes on after a file. -/
  | notDirectory
  /-- The path leads to a directory. -/
  | isDirectory
  /-- A name, or the whole path, is too long. -/
  | nameTooLong
  /-- The path has a null character. -/
  | nullCharacter
  /-- Any other cause, with its wording. -/
  | other (text : String)
  deriving DecidableEq, Repr

def FileFault.text : FileFault → String
  | .missing => "No such file or directory (os error 2)"
  | .occupied => "File exists (os error 17)"
  | .notDirectory => "Not a directory (os error 20)"
  | .isDirectory => "Is a directory (os error 21)"
  | .nameTooLong => "File name too long (os error 36)"
  | .nullCharacter => "file name contained an unexpected NUL byte"
  | .other text => text

/-- The requests that a run makes. -/
structure FileSystem (m : Type → Type) where
  /-- The text of a file, if it can be read. -/
  readText : String → m (Option String)
  /-- Makes one directory. -/
  makeDirectory : String → m (Except FileFault Unit)
  /-- There is a directory at the path. -/
  isDirectory : String → m Bool
  /-- Opens a file to write at its end, and makes it if there is none. -/
  openToAppend : String → m (Except FileFault Unit)

namespace FileSystem

variable {m : Type → Type} [Monad m]

/-- A directory that is there already is as good as one that was made. -/
def settle (fs : FileSystem m) (path : String) (fault : FileFault) : m (Except FileFault Unit) :=
  return if ← fs.isDirectory path then .ok () else .error fault

/-- Makes the first of these directories. Where it misses one, those after it are made before. -/
def makeEach (fs : FileSystem m) : List String → m (Except FileFault Unit)
  | [] => return .ok ()
  | path :: above => do
    match ← fs.makeDirectory path with
    | .ok () => return .ok ()
    | .error .missing =>
      match ← makeEach fs above with
      | .error fault => return .error fault
      | .ok () =>
        match ← fs.makeDirectory path with
        | .ok () => return .ok ()
        | .error fault => fs.settle path fault
    | .error fault => fs.settle path fault

/-- Makes a directory with those above it. The empty path is the directory of the run. -/
def makeDirectories (fs : FileSystem m) (path : String) : m (Except FileFault Unit) :=
  if path.isEmpty then return .ok () else fs.makeEach (path :: Path.above path)

end FileSystem

end A2dp.Probe
