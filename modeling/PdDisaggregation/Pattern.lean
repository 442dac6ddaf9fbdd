import PdDisaggregation.Text

/-! Regular expressions that are a sequence of literals and runs of a class of
characters, matched by backtracking: the first way to match wins. -/

namespace Pattern

/-- `run` takes as many characters as it can, at least `least`, and keeps them
when it is a group. `skip` takes as few as it can. -/
inductive Piece where
  | lit (t : Text)
  | run (p : Char → Bool) (least : Nat) (group : Bool)
  | skip (p : Char → Bool)

def matchAt : List Piece → Text → Option (List Text)
  | [], _ => some []
  | .lit l :: rest, t => if l.isPrefixOf t then matchAt rest (t.drop l.length) else none
  | .run p least group :: rest, t =>
    let longest := (t.takeWhile p).length
    (List.range (longest + 1 - least)).findSome? fun i =>
      let k := longest - i
      (matchAt rest (t.drop k)).map fun groups => if group then t.take k :: groups else groups
  | .skip p :: rest, t =>
    (List.range ((t.takeWhile p).length + 1)).findSome? fun k => matchAt rest (t.drop k)

/-- `re.search`. -/
def search (pattern : List Piece) (t : Text) : Option (List Text) :=
  t.tails.findSome? (matchAt pattern)

/-- The suffixes `^` matches at in multiline mode. -/
def lineStarts (t : Text) : List Text :=
  t :: (t.tails.filter fun u => u.head? == some '\n').map List.tail

/-- `re.search` with `re.MULTILINE`, for a pattern that starts with `^`. -/
def searchLines (pattern : List Piece) (t : Text) : Option (List Text) :=
  (lineStarts t).findSome? (matchAt pattern)

/-- `\s` on a `str`. -/
def isSpace (c : Char) : Bool :=
  let n := c.toNat
  (9 ≤ n && n ≤ 13) || (28 ≤ n && n ≤ 32) || n == 133 || n == 160 || n == 5760 ||
    (8192 ≤ n && n ≤ 8202) || n == 8232 || n == 8233 || n == 8239 || n == 8287 || n == 12288

/-- `str.strip`. -/
def strip (t : Text) : Text := (t.dropWhile isSpace).rdropWhile isSpace

theorem drop_takeWhile (p : Char → Bool) (t : Text) :
    t.drop (t.takeWhile p).length = t.dropWhile p := by
  have h := congrArg (List.drop (t.takeWhile p).length)
    (List.takeWhile_append_dropWhile (p := p) (l := t))
  rw [List.drop_left] at h
  exact h.symm

theorem strip_append {a t b : Text} (ha : ∀ c ∈ a, isSpace c = true)
    (hb : ∀ c ∈ b, isSpace c = true) : strip (a ++ t ++ b) = strip t := by
  have hback (u : Text) : (u ++ b).rdropWhile isSpace = u.rdropWhile isSpace := by
    have hb' : ∀ c ∈ b.reverse, isSpace c = true := fun c hc => hb c (List.mem_reverse.mp hc)
    rw [List.rdropWhile, List.reverse_append, List.dropWhile_append_of_pos hb', ← List.rdropWhile]
  rw [strip, strip, List.append_assoc, List.dropWhile_append_of_pos ha, List.dropWhile_append]
  by_cases ht : (t.dropWhile isSpace).isEmpty = true
  · rw [if_pos ht, List.isEmpty_iff.mp ht, List.dropWhile_eq_nil_iff.mpr hb]
  · rw [if_neg ht, hback]

theorem strip_self {t : Text} (hfirst : ∀ c ∈ t.head?, isSpace c = false)
    (hlast : ∀ c ∈ t.getLast?, isSpace c = false) : strip t = t := by
  have hdrop : t.dropWhile isSpace = t := by
    cases t with
    | nil => rfl
    | cons c t => rw [List.dropWhile_cons_of_neg (by rw [hfirst c rfl]; simp)]
  rw [strip, hdrop, List.rdropWhile_eq_self_iff]
  intro hne
  rw [hlast _ (List.getLast?_eq_some_getLast hne)]
  simp

def notNewline (c : Char) : Bool := c != '\n'

/-! What a text looks like that a pattern matches. -/

variable {rest : List Piece} {p : Char → Bool} {t : Text}

end Pattern
