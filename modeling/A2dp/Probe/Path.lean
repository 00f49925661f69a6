/-!
# Paths

A path is a text of names with slashes between them. An empty name and a single dot are idle:
they stay where they are. Only a dot at the very start counts as a step of its own.
-/

namespace A2dp.Probe.Path

/-- The most octets in a name. -/
def nameLimit : Nat := 255

/-- A path has fewer octets than this. -/
def limit : Nat := 4096

/-- The names of a path, idle ones too. -/
def names (path : String) : List String := path.splitOn "/"

def isAbsolute (path : String) : Bool := path.toList.head? = some '/'

def endsInSlash (path : String) : Bool := path.toList.getLast? = some '/'

/-- The path with these names, the innermost first. -/
def ofNames (names : List String) : String := "/".intercalate names.reverse

/-- The name stays where it is. -/
def isIdle (name : String) : Bool := name == "" || name == "."

/-- The paths that end in each of the names, the longest first. The names come innermost first;
idle ones end no path, except at the start. -/
def endings : List String → List (List String)
  | [] => []
  | name :: above =>
    if isIdle name && !above.isEmpty then endings above else (name :: above) :: endings above

/-- The paths above a path, the longest first, without the root and without the empty path. -/
def above (path : String) : List String :=
  ((endings (names path).reverse).drop 1).filterMap fun names =>
    if names = [""] then none else some (ofNames names)

/-- A name below a directory. A name that starts at the root stays, and without a directory it
is taken from where the run is. -/
def join (directory name : String) : String :=
  if isAbsolute name || directory.isEmpty then name
  else if endsInSlash directory then directory ++ name
  else directory ++ "/" ++ name

end A2dp.Probe.Path
