import MessageGen.Storage.Access

/-!
# File trees

A file tree is the state of a file system as a value: which directories and files there
are, where each is named by the directories that lead to it from the root. Paths are
followed part by part as a POSIX system does, so that going through a file, a missing
directory or a name that is too long fails with the fault of that part.
-/

namespace MessageGen

/-- What a name in a directory stands for. -/
inductive FileEntry where
  | directory
  | file (contents : String)
  deriving DecidableEq, Repr, Inhabited

/-- Where an entry lies: the names that lead to it from the root. -/
abbrev Location := List String

/-- The directories and files of a file system, apart from the root itself. -/
structure FileTree where
  /-- The entries by their locations. -/
  entries : List (Location × FileEntry)
  /-- The directory in which relative paths start. -/
  workingDirectory : Location
  deriving DecidableEq, Repr, Inhabited

namespace FileTree

/-- The longest name in bytes. -/
def longestName : Nat := 255

/-- The first length in bytes that no path has. -/
def pathBound : Nat := 4096

/-- The entry at a location. The root is a directory. -/
def entry? (tree : FileTree) (location : Location) : Option FileEntry :=
  if location.isEmpty then some .directory else tree.entries.lookup location

/-- Puts an entry at a location, in place of one that is there. -/
def put (tree : FileTree) (location : Location) (entry : FileEntry) : FileTree :=
  { tree with entries := (location, entry) :: tree.entries.filter (·.1 != location) }

/-- Removes the entry at a location. -/
def erase (tree : FileTree) (location : Location) : FileTree :=
  { tree with entries := tree.entries.filter (·.1 != location) }

/-- Follows parts of a path from a location; each part must start at a directory. -/
def follow (tree : FileTree) : Location → List Path.Part → Except FileFault Location
  | location, [] => .ok location
  | location, part :: parts =>
    match tree.entry? location with
    | none => .error .notFound
    | some (.file _) => .error .notADirectory
    | some .directory =>
      match part with
      | .here => follow tree location parts
      | .above => follow tree location.dropLast parts
      | .entry name =>
        if longestName < name.utf8ByteSize then .error .nameTooLong
        else follow tree (location ++ [name]) parts

/-- The location of a path; there may be nothing at it. -/
def locate (tree : FileTree) (path : Path) : Except FileFault Location :=
  if path.text.toList.contains '\x00' then .error .embeddedNul
  else if path.text.isEmpty then .error .notFound
  else if pathBound ≤ path.text.utf8ByteSize then .error .nameTooLong
  else tree.follow (if path.isAbsolute then [] else tree.workingDirectory) path.parts

/-- The text of the file at a path. -/
def readText (tree : FileTree) (path : Path) : Except FileFault String := do
  match tree.entry? (← tree.locate path) with
  | none => .error .notFound
  | some .directory => .error .isADirectory
  | some (.file contents) => .ok contents

/-- Whether there is a directory at a path. -/
def isDirectory (tree : FileTree) (path : Path) : Bool :=
  match tree.locate path with
  | .ok location => tree.entry? location == some .directory
  | .error _ => false

/-- The tree with a new directory at a path. -/
def makeDirectory (tree : FileTree) (path : Path) : Except FileFault FileTree := do
  let location ← tree.locate path
  match tree.entry? location with
  | some _ => .error .alreadyExists
  | none => .ok (tree.put location .directory)

/--
The name of a temporary file. A system draws such names at random, so that no other file
has one. Here they hold the character that ends a path, so that no path leads to one.
-/
def temporaryName (number : Nat) : String :=
  "\x00" ++ toString number

/-- A location in a directory at which there is nothing. -/
def freshLocation (tree : FileTree) (directory : Location) : Location :=
  let candidates := (List.range (tree.entries.length + 1)).map fun number =>
    directory ++ [temporaryName number]
  (candidates.find? fun location => (tree.entry? location).isNone).getD directory

/-- The tree with a new file in the directory at a path, and where the file is. -/
def createTemporary (tree : FileTree) (directory : Path) (contents : String) :
    Except FileFault (Location × FileTree) := do
  let location ← tree.locate directory
  match tree.entry? location with
  | none => .error .notFound
  | some (.file _) => .error .notADirectory
  | some .directory =>
    let fresh := tree.freshLocation location
    .ok (fresh, tree.put fresh (.file contents))

/-- The tree with a file moved to a path, in place of a file that is there. -/
def moveFile (tree : FileTree) (source : Location) (target : Path) :
    Except FileFault FileTree := do
  let location ← tree.locate target
  match tree.entry? source, tree.entry? location with
  | none, _ => .error .notFound
  | _, some .directory => .error .isADirectory
  | some moved, _ => .ok ((tree.erase source).put location moved)

/-- Runs an operation that gives a new tree or leaves the tree as it is. -/
def update (operation : FileTree → Except FileFault FileTree) :
    StateM FileTree (Except FileFault Unit) := fun tree =>
  match operation tree with
  | .ok changed => (.ok (), changed)
  | .error fault => (.error fault, tree)

instance : FileAccess (StateM FileTree) Location where
  readText path := fun tree => (tree.readText path, tree)
  isDirectory path := fun tree => (tree.isDirectory path, tree)
  makeDirectory path := update (·.makeDirectory path)
  createTemporary directory contents := fun tree =>
    match tree.createTemporary directory contents with
    | .ok (location, changed) => (.ok location, changed)
    | .error fault => (.error fault, tree)
  removeTemporary location := fun tree => ((), tree.erase location)
  moveTemporary location target := update (·.moveFile location target)

/-! ## Trees from lists of files -/

/-- Puts directories at all locations that lead to a location from another one. -/
def putDirectories (tree : FileTree) (start : Location) (names : List String) : FileTree :=
  (List.range names.length).foldl (fun tree count =>
      let location := start ++ names.take (count + 1)
      if (tree.entry? location).isSome then tree else tree.put location .directory)
    tree

/--
Adds a file below the working directory, with the directories that lead to it. A path
that ends in a slash is that of a directory.
-/
def addFile (tree : FileTree) (path contents : String) : FileTree :=
  let pieces := (path.toList.splitOn '/').map String.ofList
  let directories := pieces.dropLast
  let tree := tree.putDirectories tree.workingDirectory directories
  match pieces.getLast? with
  | none | some "" => tree
  | some name => tree.put (tree.workingDirectory ++ directories ++ [name]) (.file contents)

/-- The tree of a working directory with the given files. -/
def ofFiles (workingDirectory : Location) (files : List (String × String)) : FileTree :=
  let start := putDirectories ⟨[], workingDirectory⟩ [] workingDirectory
  files.foldl (fun tree (path, contents) => tree.addFile path contents) start

/-- Whether some entry lies below a location. -/
def hasEntriesBelow (tree : FileTree) (location : Location) : Bool :=
  tree.entries.any fun (other, _) => location.isPrefixOf other && other != location

/--
What lies below the working directory: the files with their texts, and the directories
without entries, whose paths end in a slash.
-/
def listing (tree : FileTree) : List (String × Option String) :=
  tree.entries.filterMap fun (location, entry) =>
    if tree.workingDirectory.isPrefixOf location && location != tree.workingDirectory then
      let path := String.intercalate "/" (location.drop tree.workingDirectory.length)
      match entry with
      | .file contents => some (path, some contents)
      | .directory => if tree.hasEntriesBelow location then none else some (path ++ "/", none)
    else none

end FileTree

end MessageGen
