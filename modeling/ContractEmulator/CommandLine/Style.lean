/-!
# Coloured text

Text on a terminal can be coloured by codes before and after it.
-/

namespace ContractEmulator

/-- How a piece of text is shown. -/
inductive Style where
  | green | red | bold | boldGreen | boldRed
  deriving DecidableEq, Repr

namespace Style

/-- The code that starts a style. -/
def code : Style → String
  | .green => "32"
  | .red => "31"
  | .bold => "1"
  | .boldGreen => "1;32"
  | .boldRed => "1;31"

/-- A text in a style, or as it is if there are no colours. -/
def paint (style : Style) (colour : Bool) (text : String) : String :=
  if colour then "\x1b[" ++ style.code ++ "m" ++ text ++ "\x1b[0m" else text

/-- Whether there are colours. A setting that forces them decides before one that forbids them;
without either, a terminal has colours unless it is told not to. A setting counts as on unless it
is `0`. -/
def wanted (force forbid setting : Option String) (terminal : Bool) : Bool :=
  if force.any (· != "0") then true
  else if forbid.isSome then false
  else terminal && setting.all (· != "0")

end Style

end ContractEmulator
