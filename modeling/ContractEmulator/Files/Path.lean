/-!
# Paths

Paths as text, with slashes between their segments.
-/

namespace ContractEmulator.Path

/-- The segments of a path; empty ones stand for doubled, leading and trailing slashes. -/
def segments (path : List Char) : List (List Char) :=
  match path with
  | [] => [[]]
  | '/' :: rest => [] :: segments rest
  | c :: rest =>
    match segments rest with
    | [] => [[c]]
    | segment :: others => (c :: segment) :: others

/-- Whether a path starts at the root of the file system. -/
def isAbsolute (path : String) : Bool := path.toList.head? == some '/'

/-- The path of `file` seen from the directory `base`. -/
def join (base file : String) : String :=
  if isAbsolute file || base.isEmpty then file
  else if base.toList.getLast? == some '/' then base ++ file
  else base ++ "/" ++ file

/-- The directory of the last segment of a path. A path of one segment lies in the directory with
the empty path. -/
def parent (path : String) : String :=
  let named := (segments path.toList).filter fun segment => !segment.isEmpty
  let kept : List (List Char) := named.take 1 ++ (named.drop 1).filter fun segment => segment != ['.']
  let front := String.intercalate "/" (kept.dropLast.map String.ofList)
  if isAbsolute path then "/" ++ front else front

end ContractEmulator.Path
