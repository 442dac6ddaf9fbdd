import Mathlib.Data.List.Sort

/-! The middle of a sorted list, and lists sorted by a total order: two sorted
arrangements of one collection are the same list. -/

namespace SortedMiddle

variable {α : Type} {r : α → α → Prop} {l l' : List α}

theorem insertionSort_eq_of_perm [DecidableRel r] [Std.Total r] [IsTrans α r] [Std.Antisymm r]
    (h : l.Perm l') : l.insertionSort r = l'.insertionSort r := by
  apply List.Perm.eq_of_pairwise' (List.pairwise_insertionSort r l)
    (List.pairwise_insertionSort r l')
  exact (List.perm_insertionSort r l).trans (h.trans (List.perm_insertionSort r l').symm)

/-- At least half of the elements are not behind the middle one, and at least
half are not in front of it. -/
theorem middle_counts [DecidableRel r] [Std.Refl r] (hs : l.Pairwise r) {x : α}
    (hx : l[l.length / 2]? = some x) :
    l.length ≤ 2 * l.countP (fun y => decide (r y x)) ∧
      l.length ≤ 2 * l.countP (fun y => decide (r x y)) := by
  obtain ⟨hlt, hget⟩ := List.getElem?_eq_some_iff.mp hx
  have hsplit : l = l.take (l.length / 2) ++ x :: l.drop (l.length / 2 + 1) := by
    rw [← hget, List.getElem_cons_drop, List.take_append_drop]
  have hparts := List.pairwise_append.mp (hsplit ▸ hs)
  have hbelow : (l.take (l.length / 2)).countP (fun y => decide (r y x)) = l.length / 2 := by
    rw [List.countP_eq_length.mpr, List.length_take]
    · omega
    · intro y hy
      exact decide_eq_true (hparts.2.2 y hy x List.mem_cons_self)
  have habove : (l.drop (l.length / 2 + 1)).countP (fun y => decide (r x y)) =
      l.length - (l.length / 2 + 1) := by
    rw [List.countP_eq_length.mpr, List.length_drop]
    intro y hy
    exact decide_eq_true ((List.pairwise_cons.mp hparts.2.1).1 y hy)
  have hself : decide (r x x) = true := decide_eq_true (Std.Refl.refl x)
  have hsum (p : α → Bool) : l.countP p = (l.take (l.length / 2)).countP p +
      (x :: l.drop (l.length / 2 + 1)).countP p := by
    rw [← List.countP_append, ← hsplit]
  have hle := hsum fun y => decide (r y x)
  have hge := hsum fun y => decide (r x y)
  rw [List.countP_cons, if_pos hself] at hle hge
  constructor
  · omega
  · omega

end SortedMiddle
