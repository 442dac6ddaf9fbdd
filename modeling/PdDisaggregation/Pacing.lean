import Mathlib.Algebra.Order.Group.Basic
import Mathlib.Algebra.Order.Monoid.Unbundled.Pow
import Mathlib.Data.List.NodupEquivFin

/-! Times of events that are due one interval after another, and how many of them
a span of time can hold. -/

namespace Pacing

variable {K : Type} [AddCommGroup K] [LinearOrder K] [IsOrderedAddMonoid K]

/-- Between two events lie the intervals of those in between, with `slack`. -/
def Spread (interval slack : K) (times : List K) : Prop :=
  ∀ i j x y, times[i]? = some x → times[i + j + 1]? = some y → x + j • interval ≤ y + slack

/-- The next event is due, with `slack`, when the intervals of all events behind any
earlier one are over. -/
structure Paced (interval slack : K) (times : List K) (next : K) : Prop where
  spread : Spread interval (slack + slack) times
  due : ∀ i j x, times[i]? = some x → i + j + 1 = times.length → x + j • interval ≤ next + slack

variable {interval slack next next' time : K} {times : List K}

omit [IsOrderedAddMonoid K] in
theorem Paced.nil : Paced interval slack [] next where
  spread i j x y h := by simp at h
  due i j x h := by simp at h

omit [IsOrderedAddMonoid K] in
theorem Spread.append (h : Spread interval slack times)
    (hlast : ∀ i j x, times[i]? = some x → i + j + 1 = times.length →
      x + j • interval ≤ time + slack) : Spread interval slack (times ++ [time]) := by
  intro i j x y hx hy
  by_cases hlt : i + j + 1 < times.length
  · rw [List.getElem?_append_left (by omega)] at hx
    rw [List.getElem?_append_left hlt] at hy
    exact h i j x y hx hy
  · have hle : i + j + 1 < (times ++ [time]).length := (List.getElem?_eq_some_iff.mp hy).1
    rw [List.length_append, List.length_singleton] at hle
    have heq : i + j + 1 = times.length := by omega
    rw [heq, List.getElem?_concat_length, Option.some.injEq] at hy
    rw [List.getElem?_append_left (by omega)] at hx
    rw [← hy]
    exact hlast i j x hx heq

theorem Paced.append (h : Paced interval slack times next) (hlate : next ≤ time + slack)
    (hnext : next + interval ≤ next') (hdue : time ≤ next' + slack) :
    Paced interval slack (times ++ [time]) next' where
  spread := by
    apply h.spread.append
    intro i j x hx heq
    calc x + j • interval ≤ next + slack := h.due i j x hx heq
      _ ≤ time + slack + slack := by gcongr
      _ = time + (slack + slack) := add_assoc _ _ _
  due i j x hx heq := by
    rw [List.length_append, List.length_singleton] at heq
    cases j with
    | zero =>
      have hi : i = times.length := by omega
      rw [hi, List.getElem?_concat_length, Option.some.injEq] at hx
      rw [← hx, zero_nsmul, add_zero]
      exact hdue
    | succ j =>
      rw [List.getElem?_append_left (by omega)] at hx
      have hold : x + j • interval ≤ next + slack := h.due i j x hx (by omega)
      calc x + (j + 1) • interval = x + j • interval + interval := by rw [succ_nsmul, add_assoc]
        _ ≤ next + slack + interval := add_le_add_left hold interval
        _ = next + interval + slack := add_right_comm _ _ _
        _ ≤ next' + slack := by gcongr

theorem interval_pos (hslack : 0 ≤ slack) {a b : K} {j : ℕ} (hle : a ≤ b)
    (hshort : b + slack < a + j • interval) : 0 < interval := by
  by_contra hneg
  have hj : j • interval ≤ 0 := nsmul_nonpos (not_lt.mp hneg) j
  have hlt : a < a := calc
    a ≤ b := hle
    _ ≤ b + slack := le_add_of_nonneg_right hslack
    _ < a + j • interval := hshort
    _ ≤ a := add_le_of_nonpos_right hj
  exact lt_irrefl a hlt

/-- A span shorter than `j` intervals holds at most `j + 1` events. -/
theorem Spread.count_le (h : Spread interval slack times) (hslack : 0 ≤ slack) {a b : K} {j : ℕ}
    (hshort : b + slack < a + j • interval) :
    (times.filter fun t => a ≤ t ∧ t ≤ b).length ≤ j + 1 := by
  by_contra hlong
  rw [not_le] at hlong
  obtain ⟨place, hplace⟩ := List.sublist_iff_exists_orderEmbedding_getElem?_eq.mp
    (List.filter_sublist (p := fun t => a ≤ t ∧ t ≤ b) (l := times))
  obtain ⟨x, hx⟩ : ∃ x, (times.filter fun t => a ≤ t ∧ t ≤ b)[0]? = some x :=
    ⟨_, List.getElem?_eq_getElem (by omega)⟩
  obtain ⟨y, hy⟩ : ∃ y, (times.filter fun t => a ≤ t ∧ t ≤ b)[j + 1]? = some y :=
    ⟨_, List.getElem?_eq_getElem hlong⟩
  have hfirst := of_decide_eq_true (List.mem_filter.mp (List.mem_of_getElem? hx)).2
  have hlast := of_decide_eq_true (List.mem_filter.mp (List.mem_of_getElem? hy)).2
  have hpos := interval_pos hslack (hfirst.1.trans hfirst.2) hshort
  have hfar : j + 1 + place 0 ≤ place (j + 1) := place.strictMono.add_le_nat (j + 1) 0
  obtain ⟨d, hd⟩ := Nat.exists_eq_add_of_le hfar
  rw [hplace] at hx hy
  have heq : place (j + 1) = place 0 + (j + d) + 1 := by omega
  rw [heq] at hy
  have hspread := h _ _ x y hx hy
  have hmore : j • interval ≤ (j + d) • interval :=
    nsmul_le_nsmul_left hpos.le (Nat.le_add_right j d)
  have hlt : b + slack < b + slack := calc
    b + slack < a + j • interval := hshort
    _ ≤ a + (j + d) • interval := add_le_add_right hmore a
    _ ≤ x + (j + d) • interval := by
      gcongr
      exact hfirst.1
    _ ≤ y + slack := hspread
    _ ≤ b + slack := by
      gcongr
      exact hlast.2
  exact lt_irrefl _ hlt

end Pacing
