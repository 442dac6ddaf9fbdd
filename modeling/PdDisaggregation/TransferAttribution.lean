import PdDisaggregation.CounterGates
import PdDisaggregation.NixlLines

/-! Whether the time that `roce-throughput.py` reports for a request was read
from the line of the decode log that the gate has checked for it. -/

namespace PdDisaggregation

section Gate

variable {F : Type} [PyFloat F]

end Gate

section Groups

variable {α β : Type} {W : α → β → Prop} {P : β → Prop} {groups : List (List α)} {lines : List β}

/-- Each line has a group of its own, with two elements or more exactly if it is one of `P`. -/
def Grouped (W : α → β → Prop) (P : β → Prop) (groups : List (List α)) (lines : List β) : Prop :=
  List.Forall₂ (fun group line => group ≠ [] ∧ (∀ a ∈ group, W a line) ∧
    (2 ≤ group.length ↔ P line)) groups lines

theorem Grouped.place (h : Grouped W P groups lines) {k : Nat} {a : α}
    (ha : groups.flatten[k]? = some a) : ∃ j ≤ k, ∃ line, lines[j]? = some line ∧ W a line := by
  induction h generalizing k with
  | nil => simp at ha
  | @cons group line groups lines hgroup _ ih =>
    have hpos := List.length_pos_iff.mpr hgroup.1
    rw [List.flatten_cons] at ha
    by_cases hk : k < group.length
    · rw [List.getElem?_append_left hk] at ha
      exact ⟨0, Nat.zero_le k, line, rfl, hgroup.2.1 a (List.mem_of_getElem? ha)⟩
    · rw [List.getElem?_append_right (by omega)] at ha
      obtain ⟨j, hj, l, hl, hw⟩ := ih ha
      exact ⟨j + 1, by omega, l, hl, hw⟩

/-- The first elements are one from each line exactly if the lines before the last of these
are none of `P`. -/
theorem Grouped.each (h : Grouped W P groups lines)
    (hone : ∀ (a : α) (i j : Nat) (line line' : β), lines[i]? = some line →
      lines[j]? = some line' → W a line → W a line' → i = j) {n : Nat} (hn : n ≤ lines.length) :
    (∀ k < n, ∀ a, groups.flatten[k]? = some a → ∃ line, lines[k]? = some line ∧ W a line) ↔
      ∀ line ∈ lines.take (n - 1), ¬ P line := by
  induction h generalizing n with
  | nil =>
    obtain rfl := Nat.le_zero.mp hn
    simp
  | @cons group line groups lines hgroup _ ih =>
    obtain ⟨hne, hwithin, htwo⟩ := hgroup
    obtain ⟨a, rest, rfl⟩ := List.exists_cons_of_ne_nil hne
    rcases n with _ | _ | n
    · simp
    · refine iff_of_true (fun k hk b hb => ?_) (by simp)
      obtain rfl := Nat.lt_one_iff.mp hk
      obtain rfl : a = b := Option.some.inj hb
      exact ⟨line, rfl, hwithin a List.mem_cons_self⟩
    · have hone' : ∀ (a : α) (i j : Nat) (line line' : β), lines[i]? = some line →
          lines[j]? = some line' → W a line → W a line' → i = j := by
        intro b i j l l' hl hl' hw hw'
        exact Nat.succ.inj (hone b (i + 1) (j + 1) l l' hl hl' hw hw')
      have hi := ih hone' (n := n + 1) (by simpa using hn)
      rw [Nat.add_sub_cancel] at hi
      rw [Nat.add_sub_cancel, List.take_succ_cons, List.forall_mem_cons, ← hi, ← htwo]
      cases rest with
      | nil =>
        constructor
        · intro h
          refine ⟨by simp, fun k hk b hb => ?_⟩
          exact h (k + 1) (by omega) b hb
        · rintro ⟨-, h⟩ k hk b hb
          cases k with
          | zero =>
            obtain rfl : a = b := Option.some.inj hb
            exact ⟨line, rfl, hwithin a List.mem_cons_self⟩
          | succ k => exact h k (by omega) b hb
      | cons b rest =>
        -- the second element of the line stands where one of the next line should
        refine iff_of_false (fun h => ?_) (by simp)
        obtain ⟨l, hl, hw⟩ := h 1 (by omega) b rfl
        have hsame := hone b 1 0 l line hl rfl hw (hwithin b (by simp))
        contradiction

end Groups

section Attribution

variable {F : Type} {c : Comparison F} {log : Text}

variable [PyFloat F]

section

variable {path : String} {located : List (Nat × Transfer F)} {times : List (TransferTime F)}
  {count : Nat}

end

end Attribution

section Sample

end Sample

end PdDisaggregation
