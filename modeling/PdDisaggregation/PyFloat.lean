import PdDisaggregation.Pattern
import Mathlib.Data.Rat.Floor

/-! Python numbers: what the scripts do with a `float`, whatever its rounding,
and exact rationals as one way to do it. -/

/-- `none` is the exception Python raises. -/
class PyFloat (F : Type) extends Sub F, Mul F, Div F, OfScientific F where
  /-- `float(text)` -/
  parse : Text → Option F
  /-- `float(n)` -/
  ofInt : Int → Option F
  /-- `int(x)` -/
  toInt : F → Option Int
  abs : F → F
  lt : F → F → Bool
  le : F → F → Bool
  /-- An `int` is compared with a `float` without rounding. -/
  intLe : Int → F → Bool
  /-- `not x` -/
  isZero : F → Bool

namespace PyFloat

variable {F : Type} [PyFloat F]

def minimum (x : F) (xs : List F) : F := xs.foldl (fun m y => if lt y m then y else m) x

end PyFloat

namespace Decimal

def parseUnsigned (t : Text) : Option ℚ :=
  let whole := t.takeWhile Char.isDigit
  match t.drop whole.length with
  | [] => if whole.isEmpty then none else some (Text.digits whole)
  | '.' :: fraction =>
    if fraction.all Char.isDigit && !(whole.isEmpty && fraction.isEmpty) then
      some (Text.digits whole + Text.digits fraction / 10 ^ fraction.length)
    else none
  | _ => none

def parse (t : Text) : Option ℚ :=
  match Pattern.strip t with
  | '-' :: u => (parseUnsigned u).map Neg.neg
  | '+' :: u => parseUnsigned u
  | u => parseUnsigned u

end Decimal

instance : PyFloat ℚ where
  parse := Decimal.parse
  ofInt n := some n
  toInt x := some (if x < 0 then ⌈x⌉ else ⌊x⌋)
  abs x := if x < 0 then -x else x
  lt x y := decide (x < y)
  le x y := decide (x ≤ y)
  intLe n x := decide ((n : ℚ) ≤ x)
  isZero x := decide (x = 0)
