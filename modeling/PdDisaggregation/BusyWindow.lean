import Mathlib.Algebra.BigOperators.Intervals
import Mathlib.Algebra.Order.BigOperators.Group.Finset
import Mathlib.Algebra.BigOperators.Ring.Finset
import Mathlib.Algebra.Order.Field.Basic

/-! The smallest stretch of a series of intervals that contains all the busy
ones. Interval `k` lies between the points `k` and `k + 1`. -/

namespace BusyWindow

open Finset

/-- Of `n` intervals, those from `first` up to `last` start and end with a busy
one and leave no busy one out. -/
structure Spans (busy : Nat → Prop) (n first last : Nat) : Prop where
  lt : first < last
  le : last ≤ n
  starts : busy first
  ends : busy (last - 1)
  covers : ∀ k < n, busy k → first ≤ k ∧ k < last

variable {busy : Nat → Prop} {n first last : Nat}

theorem Spans.unique {first' last' : Nat} (h : Spans busy n first last)
    (h' : Spans busy n first' last') : first = first' ∧ last = last' := by
  have hlt := h.lt
  have hlt' := h'.lt
  have hle := h.le
  have hle' := h'.le
  have hs := h'.covers first (by omega) h.starts
  have hs' := h.covers first' (by omega) h'.starts
  have he := h'.covers (last - 1) (by omega) h.ends
  have he' := h.covers (last' - 1) (by omega) h'.ends
  omega

theorem Spans.exists_busy (h : Spans busy n first last) : ∃ k < n, busy k :=
  ⟨first, Nat.lt_of_lt_of_le h.lt h.le, h.starts⟩

theorem Spans.shift {busy' : Nat → Prop} (h : Spans busy n first last) (d m : Nat)
    (hm : n + d ≤ m) (hin : ∀ k < n, busy' (k + d) ↔ busy k)
    (hbefore : ∀ k < d, ¬ busy' k) (hafter : ∀ k, n + d ≤ k → k < m → ¬ busy' k) :
    Spans busy' m (first + d) (last + d) := by
  have hlt := h.lt
  have hle := h.le
  refine ⟨by omega, by omega, (hin first (by omega)).mpr h.starts, ?_, fun k hk hb => ?_⟩
  · have heq : last + d - 1 = last - 1 + d := by omega
    rw [heq]
    exact (hin (last - 1) (by omega)).mpr h.ends
  · by_cases hd : k < d
    · exact absurd hb (hbefore k hd)
    · by_cases hnd : n + d ≤ k
      · exact absurd hb (hafter k hnd hk)
      · have heq : k - d + d = k := by omega
        have hb' : busy (k - d) := (hin (k - d) (by omega)).mp (heq.symm ▸ hb)
        have hc := h.covers (k - d) (by omega) hb'
        omega

section

variable [DecidablePred busy]

theorem Spans.filter_range (h : Spans busy n first last) :
    (range n).filter busy = (Ico first last).filter busy := by
  have hle := h.le
  ext k
  simp only [mem_filter, mem_range, mem_Ico]
  constructor
  · rintro ⟨hk, hb⟩
    exact ⟨h.covers k hk hb, hb⟩
  · rintro ⟨hk, hb⟩
    exact ⟨by omega, hb⟩

theorem spans_of_filter {l : List Nat} (hl : (List.range n).filter (busy ·) = l) (hne : l ≠ []) :
    Spans busy n (l.head hne) (l.getLast hne + 1) := by
  have hmem : ∀ k, k ∈ l ↔ k < n ∧ busy k := by
    intro k
    rw [← hl, List.mem_filter, List.mem_range, decide_eq_true_iff]
  have hsorted : l.Pairwise (· < ·) := hl ▸ List.pairwise_lt_range.filter _
  have hfirst : ∀ k ∈ l, l.head hne ≤ k := by
    cases l with
    | nil => contradiction
    | cons a as =>
      intro k hk
      rcases List.mem_cons.mp hk with rfl | hk
      · exact le_refl _
      · exact Nat.le_of_lt ((List.pairwise_cons.mp hsorted).1 k hk)
  have hlast : ∀ k ∈ l, k ≤ l.getLast hne := by
    intro k hk
    have hsplit := List.dropLast_append_getLast hne
    rw [← hsplit] at hk hsorted
    rcases List.mem_append.mp hk with hk | hk
    · exact Nat.le_of_lt ((List.pairwise_append.mp hsorted).2.2 k hk _ (by simp))
    · exact Nat.le_of_eq (List.mem_singleton.mp hk)
  have hhead := (hmem _).mp (List.head_mem hne)
  have hend := (hmem _).mp (List.getLast_mem hne)
  refine ⟨Nat.lt_succ_of_le (hfirst _ (List.getLast_mem hne)), hend.1, hhead.2, hend.2, ?_⟩
  intro k hk hb
  have hkl : k ∈ l := (hmem k).mpr ⟨hk, hb⟩
  exact ⟨hfirst k hkl, Nat.lt_succ_of_le (hlast k hkl)⟩

variable {G : Type*} [AddCommGroup G] (c : Nat → G)

theorem Spans.sum_eq (h : Spans busy n first last) :
    c last - c first = ∑ k ∈ (range n).filter busy, (c (k + 1) - c k) +
      ∑ k ∈ (Ico first last).filter (¬ busy ·), (c (k + 1) - c k) := by
  rw [h.filter_range, sum_filter_add_sum_filter_not, sum_Ico_sub c (Nat.le_of_lt h.lt)]

theorem Spans.sum_busy_le [PartialOrder G] [IsOrderedAddMonoid G] (h : Spans busy n first last)
    (hmono : ∀ k < n, c k ≤ c (k + 1)) :
    ∑ k ∈ (range n).filter busy, (c (k + 1) - c k) ≤ c last - c first := by
  rw [h.sum_eq c, le_add_iff_nonneg_right]
  refine sum_nonneg fun k hk => ?_
  have hle := h.le
  have hmem := mem_Ico.mp (mem_filter.mp hk).1
  exact sub_nonneg.mpr (hmono k (by omega))

end

theorem exists_div_ge {α K : Type*} [Field K] [LinearOrder K] [IsStrictOrderedRing K]
    {s : Finset α} (hs : s.Nonempty) (a b : α → K) (hb : ∀ k ∈ s, 0 < b k) :
    ∃ k ∈ s, (∑ j ∈ s, a j) / (∑ j ∈ s, b j) ≤ a k / b k := by
  have hpos : 0 < ∑ j ∈ s, b j := sum_pos hb hs
  have htotal : ∑ k ∈ s, (∑ j ∈ s, a j) / (∑ j ∈ s, b j) * b k ≤ ∑ k ∈ s, a k := by
    rw [← mul_sum, div_mul_cancel₀ _ (ne_of_gt hpos)]
  obtain ⟨k, hk, hle⟩ := exists_le_of_sum_le hs htotal
  exact ⟨k, hk, (le_div_iff₀ (hb k hk)).mpr hle⟩

end BusyWindow
