import ContractEmulator.Failure

/-!
# Reading files

A reader of files gives the bytes of the file at a path, or says why there are none.
-/

namespace ContractEmulator

/-- What a reader of files gives for a path. -/
abbrev FileReader := String → Except FileError (List UInt8)

/-- The code for a registration under `id`, from the file at a path. -/
def FileReader.code (files : FileReader) (id path : String) : Except Failure (List UInt8) :=
  match files path with
  | .ok code => .ok code
  | .error cause => .error (.unreadable id cause)

end ContractEmulator
