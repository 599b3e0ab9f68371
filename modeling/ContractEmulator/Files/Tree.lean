import ContractEmulator.Failure
import ContractEmulator.Files.Path
import ContractEmulator.Text.Bytes

/-!
# File trees

A directory with everything below it, held in memory.

* `FileTree.read` finds a file by its path from the top directory, and says why there is none.
* `FileTree.write` puts a file in its place, with the directories above it.

A path may leave the top directory upwards. Of the directory above only that is known which was
written there; it is the entry `..` of the top directory.
-/

namespace ContractEmulator

/-- A file, or a directory with named entries. -/
inductive FileTree where
  | file (bytes : List UInt8)
  | directory (entries : List (String × FileTree))
  deriving Inhabited

namespace FileTree

/-- The longest name of a directory entry, in bytes. -/
def maxName : Nat := 255

/-- The longest path, in bytes. -/
def maxPath : Nat := 4095

/-- Where a walk along a path stands: outside of the tree, or at a node with the directories above
it, the nearest first. -/
inductive Place where
  | outside
  | inside (here : FileTree) (above : List FileTree)

/-- Takes one segment of a path. -/
def stepTo (segment : List Char) : Place → Except FileError Place
  | .outside =>
    if segment = [] ∨ segment = ['.'] ∨ segment = ['.', '.'] then .ok .outside
    else if maxName < Bytes.byteLength segment then .error .nameTooLong
    else .error .notFound
  | .inside (.file _) _ => .error .notADirectory
  | .inside (.directory entries) above =>
    if segment = [] ∨ segment = ['.'] then .ok (.inside (.directory entries) above)
    else if segment = ['.', '.'] then
      match above with
      | [] =>
        match entries.lookup ".." with
        | some node => .ok (.inside node [])
        | none => .ok .outside
      | parent :: above => .ok (.inside parent above)
    else if maxName < Bytes.byteLength segment then .error .nameTooLong
    else
      match entries.lookup (String.ofList segment) with
      | some node => .ok (.inside node (.directory entries :: above))
      | none => .error .notFound

/-- Walks along the segments of a path. -/
def walk : List (List Char) → Place → Except FileError Place
  | [], place => .ok place
  | segment :: segments, place =>
    match stepTo segment place with
    | .ok place => walk segments place
    | .error e => .error e

/-- The bytes of the file at a path. -/
def read (tree : FileTree) (path : String) : Except FileError (List UInt8) :=
  let chars := path.toList
  if '\x00' ∈ chars then .error .nulInName
  else if chars = [] then .error .notFound
  else if maxPath < Bytes.byteLength chars then .error .nameTooLong
  else
    let start := if Path.isAbsolute path then .outside else .inside tree []
    match walk (Path.segments chars) start with
    | .error e => .error e
    | .ok (.inside (.file bytes) _) => .ok bytes
    | .ok _ => .error .isADirectory

/-- Puts an entry in place of one with the same name. -/
def setEntry (name : String) (node : FileTree) :
    List (String × FileTree) → List (String × FileTree)
  | [] => [(name, node)]
  | (n, old) :: entries =>
    if n = name then (name, node) :: entries else (n, old) :: setEntry name node entries

/-- Replaces the node at the end of a list of names, with the directories above it made where they
are missing. A file in the way makes room for a directory. -/
def alter (change : Option FileTree → FileTree) : List String → Option FileTree → FileTree
  | [], node => change node
  | name :: names, some (.directory entries) =>
    .directory (setEntry name (alter change names (entries.lookup name)) entries)
  | name :: names, _ => .directory [(name, alter change names none)]

/-- The names of the directory above the one with the names `here`, the nearest first. -/
def namesAbove : List String → List String
  | [] => [".."]
  | name :: names => if name = ".." then ".." :: name :: names else names

/-- Puts a file at the end of a path, seen from the directory with the names `here`, the nearest
first. Directories on the way are made, also those that the path leaves again. -/
def writeFrom (bytes : List UInt8) : List (List Char) → List String → FileTree → FileTree
  | [], _, tree => tree
  | segment :: segments, here, tree =>
    let isUp := segment = ['.', '.']
    let names := if isUp then namesAbove here else String.ofList segment :: here
    if segments = [] ∧ !isUp then alter (fun _ => .file bytes) names.reverse (some tree)
    else
      writeFrom bytes segments names
        (alter (fun old => old.getD (.directory [])) names.reverse (some tree))

/-- Puts a file at a path. A path that ends in a directory leads to no file, and only the
directories on it are made. -/
def write (tree : FileTree) (path : String) (bytes : List UInt8) : FileTree :=
  let named := (Path.segments path.toList).filter fun segment =>
    !segment.isEmpty && segment != ['.']
  writeFrom bytes named [] tree

end FileTree

end ContractEmulator
