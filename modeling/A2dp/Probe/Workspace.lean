import A2dp.Probe.Run

/-!
# Runs without a disk

A workspace is a directory that is known in full, with what a run makes in it. Paths are followed
name by name, and every name but the last must lead to a directory. The directories above the
workspace are there, and nothing else is known of them.
-/

namespace A2dp.Probe

/-- A place as it is seen from a workspace. -/
structure Place where
  /-- How many directories above the workspace the way down starts, or none for the root. -/
  start : Option Nat
  /-- The names on the way down, the innermost first. -/
  names : List String
  deriving DecidableEq, Repr

namespace Place

def here : Place := ⟨some 0, []⟩

def root : Place := ⟨none, []⟩

def child (place : Place) (name : String) : Place := { place with names := name :: place.names }

/-- The directory above. The root has none and stays. -/
def parent (place : Place) : Place :=
  match place.names with
  | _ :: names => { place with names }
  | [] => { place with start := place.start.map (· + 1) }

end Place

/-- Files with their texts, and the directories that were made. -/
structure Workspace where
  files : List (Place × String)
  directories : List Place := []

namespace Workspace

def ofFiles (files : List (String × String)) : Workspace where
  files := files.map fun file => (Place.here.child file.1, file.2)

def hasDirectory (w : Workspace) (place : Place) : Bool :=
  place.names.isEmpty || w.directories.contains place

def text? (w : Workspace) (place : Place) : Option String := w.files.lookup place

/-- The directory that a name leads to from another. -/
def enter (w : Workspace) (place : Place) (name : String) : Except FileFault Place :=
  if Path.isIdle name then .ok place
  else if name = ".." then .ok place.parent
  else if Path.nameLimit < name.utf8ByteSize then .error .nameTooLong
  else if w.hasDirectory (place.child name) then .ok (place.child name)
  else if (w.text? (place.child name)).isSome then .error .notDirectory
  else .error .missing

/-- The directory in which the last name of a path is looked up, and that name. The root has no
last name; slashes at the end of a path do not count. -/
def locate (w : Workspace) (path : String) : Except FileFault (Place × Option String) :=
  if path.toList.contains '\x00' then .error .nullCharacter
  else if path.isEmpty then .error .missing
  else if Path.limit ≤ path.utf8ByteSize then .error .nameTooLong
  else
    let start := if Path.isAbsolute path then Place.root else .here
    match (Path.names path).reverse.dropWhile (· == "") with
    | [] => .ok (start, none)
    | last :: above => (above.reverse.foldlM w.enter start).map fun place => (place, some last)

/-- The new place that a path names. A directory in which it would stand, or that it leads back
to, is no new place. -/
def vacant (w : Workspace) (path : String) (taken : Place → Except FileFault Place) :
    Except FileFault Place :=
  match w.locate path with
  | .error fault => .error fault
  | .ok (place, none) => taken place
  | .ok (place, some name) =>
    if Path.isIdle name then taken place
    else if name = ".." then taken place.parent
    else if Path.nameLimit < name.utf8ByteSize then .error .nameTooLong
    else if w.hasDirectory (place.child name) || (w.text? (place.child name)).isSome then
      taken (place.child name)
    else .ok (place.child name)

/-- Makes one directory, where nothing is yet. -/
def makeDirectory (w : Workspace) (path : String) : Except FileFault Workspace :=
  (w.vacant path fun _ => .error .occupied).map fun place =>
    { w with directories := place :: w.directories }

def isDirectory (w : Workspace) (path : String) : Bool :=
  match w.locate path with
  | .error _ => false
  | .ok (_, none) => true
  | .ok (place, some name) => (w.enter place name).isOk

/-- Opens a file to write at its end. A new one is empty. -/
def openToAppend (w : Workspace) (path : String) : Except FileFault Workspace :=
  match w.vacant path fun place =>
    if w.hasDirectory place then .error .isDirectory else .ok place with
  | .error fault => .error fault
  | .ok place =>
    if (w.text? place).isSome then .ok w else .ok { w with files := w.files ++ [(place, "")] }

/-- The text of the file at a path. A path to a file does not end in a slash. -/
def readText (w : Workspace) (path : String) : Option String :=
  match w.locate path with
  | .ok (place, some name) =>
    if Path.endsInSlash path || Path.nameLimit < name.utf8ByteSize then none
    else w.text? (place.child name)
  | _ => none

/-- Goes on with the workspace after a request, if it was granted. -/
def request (change : Workspace → Except FileFault Workspace) :
    StateM Workspace (Except FileFault Unit) := fun w =>
  match change w with
  | .ok w => (.ok (), w)
  | .error fault => (.error fault, w)

/-- The file system of a run inside a workspace. -/
def fileSystem : FileSystem (StateM Workspace) where
  readText path := fun w => (w.readText path, w)
  makeDirectory path := request fun w => w.makeDirectory path
  isDirectory path := fun w => (w.isDirectory path, w)
  openToAppend path := request fun w => w.openToAppend path

/-- The paths of the files below the workspace. -/
def paths (w : Workspace) : List String :=
  w.files.filterMap fun file =>
    if file.1.start = some 0 then some (Path.ofNames file.1.names) else none

/-- What a run of the probe inside a workspace leaves behind. -/
def run (w : Workspace) (r : Registry) (moment : Moment) (args : List String) :
    Outcome × Workspace :=
  (Probe.run r fileSystem moment args).run w

end Workspace

end A2dp.Probe
