import Console7800.CommandLine.Files

/-!
# File trees

Files held in memory. A path is walked one name after the other, from the root if it starts with a
slash and from the working directory if not; every name but the last has to lead to a directory.
-/

namespace Console7800.CommandLine

/-- The names on the way from the root to a file or directory. -/
abbrev Location := List String

structure FileTree where
  /-- The working directory. -/
  start : Location := []
  files : List (Location × Bytes) := []

namespace FileTree

/-- Bytes that a name may have. -/
def nameLimit : Nat := 255

/-- Bytes that a path may have. -/
def pathLimit : Nat := 4095

/-- A directory is there if it holds a file or is on the way to the working directory. -/
def isDirectory (tree : FileTree) (location : Location) : Bool :=
  location.isPrefixOf tree.start ||
    tree.files.any fun file => location.length < file.1.length && location.isPrefixOf file.1

/-- Where a name leads from a directory. -/
def follow (location : Location) (name : String) : Except FileError Location :=
  if name = "" ∨ name = "." then .ok location
  else if name = ".." then .ok location.dropLast
  else if nameLimit < name.utf8ByteSize then .error .nameTooLong
  else .ok (location ++ [name])

/-- Go from one directory to the next. -/
def enter (tree : FileTree) (location : Location) (name : String) : Except FileError Location := do
  let next ← follow location name
  if tree.isDirectory next then .ok next
  else if (tree.files.lookup next).isSome then .error .notDirectory
  else .error .notFound

/-- The last name of a path and the directory that it is looked up in; everything on the way there
has to be a directory. -/
def approach (tree : FileTree) (path : String) : Except FileError (Location × String) :=
  if path.contains '\x00' then .error .nulInName
  else if path = "" then .error .notFound
  else if pathLimit < path.utf8ByteSize then .error .nameTooLong
  else do
    let names := (path.splitOn "/").filter (· ≠ "")
    let root := if path.startsWith "/" then [] else tree.start
    return (← names.dropLast.foldlM tree.enter root, names.getLastD "")

/-- The contents of a file. What stands before a slash has to be a directory, also at the end. -/
def read (tree : FileTree) (path : String) : Except FileError Bytes := do
  let (directory, name) ← tree.approach path
  let location ← if path.endsWith "/" then tree.enter directory name else follow directory name
  if tree.isDirectory location then .error .isDirectory
  else match tree.files.lookup location with
    | some data => .ok data
    | none => .error .notFound

/-- Replace a file or make a new one. A last name that ends with a slash is that of a directory,
whatever it is and whether there is one or not. -/
def write (tree : FileTree) (path : String) (data : Bytes) : Except FileError FileTree := do
  let (directory, name) ← tree.approach path
  if path.endsWith "/" then .error .isDirectory
  else
    let location ← follow directory name
    if tree.isDirectory location then .error .isDirectory
    else .ok { tree with files := (location, data) :: tree.files.filter (·.1 ≠ location) }

/-- The files in the working directory that an earlier tree does not have or has with other
contents. -/
def changedSince (tree earlier : FileTree) : List (Location × Bytes) :=
  tree.files.filterMap fun (location, data) =>
    if tree.start.isPrefixOf location ∧ earlier.files.lookup location ≠ some data then
      some (location.drop tree.start.length, data)
    else none

end FileTree

instance : Files (StateM FileTree) where
  read path := return (← get).read path
  write path data := modifyGet fun tree =>
    match tree.write path data with
    | .error error => (.error error, tree)
    | .ok tree => (.ok (), tree)

end Console7800.CommandLine
