import ContractEmulator.Failure
import ContractEmulator.Text.Blank

/-!
# Descriptors

The code of a contract or function is a short text that names the logic to use: the marker
`native:` and a symbol, with blanks allowed around both. The symbol has to be the binary name
under which the code was registered, so code that was mixed up fails to load.

* `eq_of_parse`: a code that is accepted names its binary name.
-/

namespace ContractEmulator.Descriptor

/-- What every descriptor starts with. -/
def marker : List Char := ['n', 'a', 't', 'i', 'v', 'e', ':']

/-- The code that loads `binaryName`. -/
def encode (binaryName : String) : List UInt8 := Utf8.encode (marker ++ binaryName.toList)

/-- The text after the marker, if it is there. -/
def afterMarker? (text : List Char) : Option (List Char) :=
  if marker.isPrefixOf text then some (text.drop marker.length) else none

/-- The symbol that a code names, which has to be `binaryName`. -/
def symbol (binaryName : String) (code : List UInt8) : Except LoadFault String :=
  match Utf8.decode code with
  | .error refusal => .error (.notText refusal)
  | .ok text =>
    match afterMarker? (Blank.trim text) with
    | none => .error .noMarker
    | some rest =>
      let name := String.ofList (Blank.trim rest)
      if name = binaryName then .ok name else .error (.declares name)

/-- `symbol`, with the binary name in the failure. -/
def parse (binaryName : String) (code : List UInt8) : Except Failure String :=
  match symbol binaryName code with
  | .ok name => .ok name
  | .error fault => .error (.notLoadable binaryName fault)

theorem eq_of_symbol {binaryName name : String} {code : List UInt8}
    (h : symbol binaryName code = .ok name) : name = binaryName := by
  unfold symbol at h
  split at h
  · cases h
  · split at h
    · cases h
    · dsimp only at h
      split at h
      · next heq =>
        cases h
        exact heq
      · cases h

/-- The symbol of a code that is accepted is the binary name. -/
theorem eq_of_parse {binaryName name : String} {code : List UInt8}
    (h : parse binaryName code = .ok name) : name = binaryName := by
  unfold parse at h
  split at h
  · next hsymbol =>
    cases h
    exact eq_of_symbol hsymbol
  · cases h

end ContractEmulator.Descriptor
