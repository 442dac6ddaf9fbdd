import Mathlib.Data.List.DropRight
import Mathlib.Data.List.Infix

/-! Text as the shell sees it: lines, captured output, substrings, values with
defaults. -/

abbrev Text := List Char

namespace Text

/-- The lines a line-oriented tool reads: a final newline ends the last line. -/
def lines (t : Text) : List Text :=
  let parts := t.splitOn '\n'
  if parts.getLast? = some [] then parts.dropLast else parts

/-- `$(...)`: NUL bytes are dropped, then all trailing newlines. -/
def captured (t : Text) : Text := (t.filter (· != '\x00')).rdropWhile (· == '\n')

def delete (c : Char) (t : Text) : Text := t.filter (· != c)

def contains (needle t : Text) : Bool := decide (needle <:+: t)

def digits (t : Text) : Nat := t.foldl (fun n c => 10 * n + (c.toNat - '0'.toNat)) 0

/-- The zeros of Unicode's decimal digits (Unicode 15). The other nine follow each of them. -/
def zeros : List Nat :=
  [48, 1632, 1776, 1984, 2406, 2534, 2662, 2790, 2918, 3046, 3174, 3302, 3430, 3558, 3664, 3792,
    3872, 4160, 4240, 6112, 6160, 6470, 6608, 6784, 6800, 6992, 7088, 7232, 7248, 42528, 43216,
    43264, 43472, 43504, 43600, 44016, 65296, 66720, 68912, 69734, 69872, 69942, 70096, 70384,
    70736, 70864, 71248, 71360, 71472, 71904, 72016, 72784, 73040, 73120, 73552, 92768, 92864,
    93008, 120782, 120792, 120802, 120812, 120822, 123200, 123632, 124144, 125264, 130032]

def digitValue (c : Char) : Option Nat :=
  (zeros.find? fun z => z ≤ c.toNat && c.toNat ≤ z + 9).map fun z => c.toNat - z

/-- `\d` on a `str`. -/
def isDecimal (c : Char) : Bool := (digitValue c).isSome

/-- The number that `int` makes of decimal digits of any script. -/
def decimals (t : Text) : Nat := t.foldl (fun n c => 10 * n + (digitValue c).getD 0) 0

/-- Where `str.splitlines` breaks a line. -/
def isLineBreak (c : Char) : Bool :=
  let n := c.toNat
  (10 ≤ n && n ≤ 13) || (28 ≤ n && n ≤ 30) || n == 133 || n == 8232 || n == 8233

/-- `str.splitlines`. A `\r\n` is two breaks here, with an empty line between them. -/
def splitlines (t : Text) : List Text :=
  let parts := t.splitOnP isLineBreak
  if parts.getLast? = some [] then parts.dropLast else parts

/-- What text mode makes of the line ends of a file. -/
def universalNewlines : Text → Text
  | [] => []
  | '\r' :: '\n' :: t => '\n' :: universalNewlines t
  | '\r' :: t => '\n' :: universalNewlines t
  | c :: t => c :: universalNewlines t

/-- `${value:-default}`. -/
def orDefault (value : Option String) (default : String) : String :=
  match value with
  | some "" | none => default
  | some v => v

/-- `<=` of two `str`, by code points. -/
def le : Text → Text → Bool
  | [], _ => true
  | _ :: _, [] => false
  | a :: s, b :: t => if a = b then le s t else a.toNat < b.toNat

theorem orDefault_some {v : String} (h : v ≠ "") (d : String) : orDefault (some v) d = v := by
  unfold orDefault
  split
  · simp_all
  · contradiction
  · simp_all

theorem orDefault_ne_empty {d : String} (h : d ≠ "") (v : Option String) : orDefault v d ≠ "" := by
  unfold orDefault
  split
  · exact h
  · exact h
  · rename_i hne
    exact hne

theorem digitValue_ascii {c : Char} (h : c.isDigit = true) :
    digitValue c = some (c.toNat - '0'.toNat) := by
  have hrange : 48 ≤ c.toNat ∧ c.toNat ≤ 57 := by
    simpa [Char.isDigit, UInt32.le_iff_toNat_le] using h
  have hzero : zeros.find? (fun z => z ≤ c.toNat && c.toNat ≤ z + 9) = some 48 := by
    rw [zeros, List.find?_cons_of_pos]
    simpa using hrange
  rw [digitValue, hzero]
  rfl

theorem isDecimal_ascii {c : Char} (h : c.isDigit = true) : isDecimal c = true := by
  rw [isDecimal, digitValue_ascii h]
  rfl

theorem decimals_ascii {t : Text} (h : ∀ c ∈ t, c.isDigit = true) : decimals t = digits t := by
  refine List.foldl_ext _ _ 0 fun n c hc => ?_
  rw [digitValue_ascii (h c hc)]
  rfl

end Text
