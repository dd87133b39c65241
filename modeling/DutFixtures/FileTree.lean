import DutFixtures.Path

namespace DutFixtures

/-- What stands at a place of a file tree. -/
inductive Entry where
  | directory
  | file
  | link (target : String)
  deriving DecidableEq, Repr

/-- A place of a file tree: the names from the root down to it. -/
abbrev Place : Type := List String

/-- A file tree, by the places at which something stands. The root is always there. -/
structure FileTree where
  entries : List (Place × Entry) := []
  deriving DecidableEq, Repr

def FileTree.entry? (t : FileTree) (place : Place) : Option Entry :=
  if place = [] then some .directory else t.entries.lookup place

/-- The names of a path, with the empty ones between slashes that follow each other. -/
def pathNames (path : String) : List String :=
  (path.toList.splitOn '/').map String.ofList

/-- The place that names lead to from a directory. Links are followed, also the last
one, but not more of them than the given number. Every name but the last must stand
for a directory, and so must one before an empty name or a dot. -/
def FileTree.walk (t : FileTree) : Nat → Place → List String → Option Place
  | _, here, [] => some here
  | links, here, name :: rest =>
    if t.entry? here ≠ some .directory then none
    else if name = "" ∨ name = "." then t.walk links here rest
    else if name = ".." then t.walk links here.dropLast rest
    else
      match t.entry? (here ++ [name]) with
      | none => none
      | some (.link target) =>
        match links with
        | 0 => none
        | links + 1 =>
          t.walk links (if isAbsolute target then [] else here) (pathNames target ++ rest)
      | some _ => t.walk links (here ++ [name]) rest
  termination_by links _ names => (links, names.length)

/-- The longest chain of links that is followed. -/
def maxLinks : Nat := 40

/-- The longest name in a directory, in bytes. -/
def maxNameSize : Nat := 255

/-- A path of this size, in bytes, is too long to be looked up. -/
def pathSizeLimit : Nat := 4096

/-- A tree as it is seen from a directory. -/
structure WorkTree where
  tree : FileTree := {}
  here : Place := []
  deriving DecidableEq, Repr

/-- A tree that holds nothing but a directory and the directories above it, as it is
seen from there. -/
def WorkTree.empty (here : Place) : WorkTree where
  tree := ⟨(List.range here.length).map fun n => (here.take (n + 1), .directory)⟩
  here

def WorkTree.start (w : WorkTree) (path : String) : Place :=
  if isAbsolute path then [] else w.here

/-- Where a path leads, if anything stands there. -/
def WorkTree.locate (w : WorkTree) (path : String) : Option Place :=
  if path = "" ∨ path.toList.contains '\x00' ∨ pathSizeLimit ≤ path.utf8ByteSize then none
  else w.tree.walk maxLinks (w.start path) (pathNames path)

def WorkTree.isDir (w : WorkTree) (path : String) : Bool :=
  match w.locate path with
  | some place => w.tree.entry? place == some .directory
  | none => false

/-- Puts an entry at a place where nothing stands. -/
def FileTree.put (t : FileTree) (place : Place) (entry : Entry) : FileTree :=
  match place.getLast? with
  | none => t
  | some name =>
    if (t.entry? place).isSome ∨ maxNameSize < name.utf8ByteSize then t
    else ⟨t.entries ++ [(place, entry)]⟩

/-- Makes the directories that are missing on the way along some names. -/
def FileTree.makeDirs (t : FileTree) (here : Place) : List String → FileTree × Option Place
  | [] => (t, some here)
  | name :: rest =>
    match t.walk maxLinks here [name] with
    | some place => t.makeDirs place rest
    | none =>
      let grown := t.put (here ++ [name]) .directory
      if grown.entry? (here ++ [name]) = some .directory then grown.makeDirs (here ++ [name]) rest
      else (t, none)

/-- Makes an entry, and the directories above it. What stands there already stays. -/
def WorkTree.make (w : WorkTree) (path : String) (entry : Entry) : WorkTree :=
  let names := pathNames path
  let (tree, parent) := w.tree.makeDirs (w.start path) names.dropLast
  match parent, names.getLast? with
  | some parent, some name => { w with tree := tree.put (parent ++ [name]) entry }
  | _, _ => { w with tree }

/-- Makes a directory if the path ends in a slash, and an empty file otherwise. -/
def WorkTree.makePath (w : WorkTree) (path : String) : WorkTree :=
  if path.toList.getLast? = some '/' then
    w.make (String.ofList (path.toList.reverse.dropWhile (· = '/')).reverse) .directory
  else w.make path .file

/-- Removes what stands at a path, and everything under it. A link at the end of the
path is removed itself, and nothing happens if nothing stands there. -/
def WorkTree.remove (w : WorkTree) (path : String) : WorkTree :=
  let names := pathNames (String.ofList (path.toList.reverse.dropWhile (· = '/')).reverse)
  match w.tree.walk maxLinks (w.start path) names.dropLast, names.getLast? with
  | some parent, some name =>
    let gone := parent ++ [name]
    { w with tree := ⟨w.tree.entries.filter fun e => !gone.isPrefixOf e.1⟩ }
  | _, _ => w

/-- The place of the file to which a path is opened for writing. It is made if it is
not there, also at the far end of a link. -/
def FileTree.writePlace (t : FileTree) : Nat → Place → List String → Option Place
  | links, here, names =>
    match names.getLast?, t.walk links here names.dropLast with
    | some name, some parent =>
      if name = "" ∨ name = "." ∨ name = ".." then none
      else if t.entry? parent ≠ some .directory then none
      else
        match t.entry? (parent ++ [name]) with
        | some .directory => none
        | some .file => some (parent ++ [name])
        | none => if maxNameSize < name.utf8ByteSize then none else some (parent ++ [name])
        | some (.link target) =>
          match links with
          | 0 => none
          | links + 1 =>
            t.writePlace links (if isAbsolute target then [] else parent) (pathNames target)
    | _, _ => none

/-- The place of the file that a path names for writing, and the tree with that file. -/
def WorkTree.openForWriting (w : WorkTree) (path : String) : Option (Place × WorkTree) :=
  if path = "" ∨ path.toList.contains '\x00' ∨ pathSizeLimit ≤ path.utf8ByteSize then none
  else
    (w.tree.writePlace maxLinks (w.start path) (pathNames path)).map fun place =>
      (place, { w with tree := w.tree.put place .file })

end DutFixtures
