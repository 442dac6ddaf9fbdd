import Mathlib.Algebra.Ring.Nat
import Mathlib.Order.Monotone.Basic

/-! Bracketing by doubling, and bisection between inclusive bounds. Nothing is
assumed of the predicate that is probed until the end. -/

namespace Bisection

/-- Doubles `high` while it is `short`. A candidate beyond the limit is given up. -/
def bracket (short : Nat → Bool) (limit high : Nat) (hhigh : 0 < high) : Option Nat :=
  if short high then
    if h : limit < 2 * high then none
    else bracket short limit (2 * high) (by omega)
  else some high
termination_by limit - high

/-- The upper bound at which `while low <= high` ends. -/
def bisect (fits : Nat → Bool) (low high : Nat) (hlow : 0 < low) : Nat :=
  if h : low ≤ high then
    let mid := (low + high) / 2
    if fits mid then bisect fits (mid + 1) high (by omega)
    else bisect fits low (mid - 1) hlow
  else high
termination_by high + 1 - low

variable {short fits : Nat → Bool} {limit low high : Nat}

theorem bracket_long {h : 0 < high} {r : Nat} (hr : bracket short limit high h = some r) :
    short r = false := by
  induction high, h using bracket.induct short limit with
  | case1 high h hs hlim =>
    rw [bracket, if_pos hs, dif_pos hlim] at hr
    contradiction
  | case2 high h hs hlim ih =>
    rw [bracket, if_pos hs, dif_neg hlim] at hr
    exact ih hr
  | case3 high h hs =>
    rw [bracket, if_neg hs] at hr
    cases hr
    simpa using hs

theorem bracket_first {h : 0 < high} {r : Nat} (hr : bracket short limit high h = some r) :
    r = high ∨ ∃ m, high ≤ m ∧ r = 2 * m ∧ short m = true := by
  induction high, h using bracket.induct short limit with
  | case1 high h hs hlim =>
    rw [bracket, if_pos hs, dif_pos hlim] at hr
    contradiction
  | case2 high h hs hlim ih =>
    rw [bracket, if_pos hs, dif_neg hlim] at hr
    rcases ih hr with rfl | ⟨m, hm, hrm, hsm⟩
    · exact Or.inr ⟨high, le_refl _, rfl, hs⟩
    · exact Or.inr ⟨m, by omega, hrm, hsm⟩
  | case3 high h hs =>
    rw [bracket, if_neg hs] at hr
    exact Or.inl (Option.some.inj hr).symm

theorem bisect_up (h : 0 < low) (hle : low ≤ high) (hf : fits ((low + high) / 2) = true) :
    bisect fits low high h = bisect fits ((low + high) / 2 + 1) high (by omega) := by
  rw [bisect, dif_pos hle, if_pos hf]

theorem bisect_down (h : 0 < low) (hle : low ≤ high) (hf : fits ((low + high) / 2) = false) :
    bisect fits low high h = bisect fits low ((low + high) / 2 - 1) h := by
  rw [bisect, dif_pos hle, if_neg (by simp [hf])]

theorem bisect_done (h : 0 < low) (hle : high < low) : bisect fits low high h = high := by
  rw [bisect, dif_neg (by omega)]

/-- What holds of the result whatever the predicate: it is the last probe that
fitted, or the value below the lower bound if none did, and the next value was
seen not to fit unless it lies beyond the upper bound. -/
theorem bisect_spec (fits : Nat → Bool) {h : 0 < low} (hle : low ≤ high + 1) :
    low ≤ bisect fits low high h + 1 ∧ bisect fits low high h ≤ high ∧
      (bisect fits low high h + 1 = low ∨ fits (bisect fits low high h) = true) ∧
      (bisect fits low high h = high ∨ fits (bisect fits low high h + 1) = false) := by
  induction low, high, h using bisect.induct fits with
  | case1 low high h hlh mid hf ih =>
    have hmid : mid = (low + high) / 2 := rfl
    obtain ⟨hlo, hhi, hin, hout⟩ := ih (by omega)
    rw [bisect_up h hlh hf]
    refine ⟨Nat.le_trans (by omega) hlo, hhi, Or.inr ?_, hout⟩
    rcases hin with hin | hin
    · have heq : bisect fits (mid + 1) high (by omega) = mid := Nat.succ.inj hin
      exact (congrArg fits heq).trans hf
    · exact hin
  | case2 low high h hlh mid hf ih =>
    have hmid : mid = (low + high) / 2 := rfl
    have hf' : fits mid = false := by simpa using hf
    obtain ⟨hlo, hhi, hin, hout⟩ := ih (by omega)
    rw [bisect_down h hlh hf']
    refine ⟨hlo, Nat.le_trans hhi (by omega), hin, Or.inr ?_⟩
    rcases hout with hout | hout
    · have heq : bisect fits low (mid - 1) h + 1 = mid := by omega
      exact (congrArg fits heq).trans hf'
    · exact hout
  | case3 low high h hlh =>
    rw [bisect_done h (by omega)]
    exact ⟨by omega, le_refl _, Or.inl (by omega), Or.inl rfl⟩

theorem mid_le_bisect (fits : Nat → Bool) (h : 0 < low) (hle : low ≤ high)
    (hf : fits ((low + high) / 2) = true) :
    (low + high) / 2 ≤ bisect fits low high h := by
  rw [bisect_up h hle hf]
  have hspec := (bisect_spec fits (h := Nat.succ_pos ((low + high) / 2))
    (show (low + high) / 2 + 1 ≤ high + 1 by omega)).1
  exact Nat.le_of_succ_le_succ hspec

theorem bisect_one_eq_zero_step {k : Nat} {h : 0 < 1} (hlo : 2 ^ (k + 1) ≤ high + 1)
    (hhi : high ≤ 2 ^ (k + 1)) :
    bisect fits 1 high h = 0 ↔ fits (2 ^ k) = false ∧ bisect fits 1 (2 ^ k - 1) h = 0 := by
  have hpos : 0 < 2 ^ k := Nat.two_pow_pos k
  have hmid : (1 + high) / 2 = 2 ^ k := by omega
  by_cases hf : fits (2 ^ k) = true
  · have hle := mid_le_bisect fits h (by omega : 1 ≤ high) (by rwa [hmid])
    constructor
    · intro hz
      omega
    · rintro ⟨hn, -⟩
      rw [hf] at hn
      contradiction
  · have hf' : fits (2 ^ k) = false := by simpa using hf
    rw [bisect_down h (by omega) (by rwa [hmid]), hmid]
    exact ⟨fun hz => ⟨hf', hz⟩, fun hh => hh.2⟩

/-- Starting at one, the probes that all fail when nothing fits are the powers of
two below the upper bound. -/
theorem bisect_one_eq_zero_iff {k : Nat} {h : 0 < 1} (hlo : 2 ^ (k + 1) ≤ high + 1)
    (hhi : high ≤ 2 ^ (k + 1)) :
    bisect fits 1 high h = 0 ↔ ∀ j < k + 1, fits (2 ^ j) = false := by
  have hdown : bisect fits 1 (2 ^ k - 1) h = 0 ↔ ∀ j < k, fits (2 ^ j) = false := by
    clear hlo hhi
    induction k with
    | zero => simp [bisect_done]
    | succ k ih =>
      have hpos : 0 < 2 ^ (k + 1) := Nat.two_pow_pos (k + 1)
      rw [bisect_one_eq_zero_step (k := k) (by omega) (by omega), ih, Nat.forall_lt_succ_right]
      exact and_comm
  rw [bisect_one_eq_zero_step hlo hhi, hdown, Nat.forall_lt_succ_right]
  exact and_comm

/-- For a predicate that stays false once it is false, the result is the greatest
value up to the upper bound that fits. -/
theorem bisect_greatest {h : 0 < low} (hle : low ≤ high + 1)
    (hanti : ∀ a b, a ≤ b → fits b = true → fits a = true) (hlow : fits (low - 1) = true) :
    fits (bisect fits low high h) = true ∧
      ∀ b ≤ high, fits b = true → b ≤ bisect fits low high h := by
  obtain ⟨hlo, hhi, hin, hout⟩ := bisect_spec fits (h := h) hle
  constructor
  · rcases hin with hin | hin
    · have heq : low - 1 = bisect fits low high h := by omega
      rwa [heq] at hlow
    · exact hin
  · intro b hb hfb
    by_contra hgt
    rcases hout with hout | hout
    · omega
    · have hnext := hanti (bisect fits low high h + 1) b (by omega) hfb
      rw [hout] at hnext
      contradiction

end Bisection
