import PdDisaggregation.PromptSearch
import Mathlib.Order.Bounds.Defs

/-! What the search for the repeat count guarantees: with no assumption on the
token counts, and with counts that grow with the prompt. -/

namespace PdDisaggregation

variable {count : Nat → Nat} {targetMin targetMax : Nat}

theorem bracketTarget_long {high : Nat} (h : bracketTarget count targetMax = some high) :
    targetMax ≤ count high := by
  have hs := Bisection.bracket_long h
  simpa using hs

theorem bracketTarget_first {high : Nat} (h : bracketTarget count targetMax = some high) :
    high = 8192 ∨ ∃ m, 8192 ≤ m ∧ high = 2 * m ∧ count m < targetMax := by
  rcases Bisection.bracket_first h with hh | ⟨m, hm, hh, hs⟩
  · exact Or.inl hh
  · exact Or.inr ⟨m, hm, hh, by simpa using hs⟩

theorem bracketTarget_eq : bracketTarget count targetMax =
    if count 8192 < targetMax then
      if count 16384 < targetMax then
        if count 32768 < targetMax then
          if count 65536 < targetMax then none else some 65536
        else some 32768
      else some 16384
    else some 8192 := by
  unfold bracketTarget
  rw [Bisection.bracket, Bisection.bracket, Bisection.bracket, Bisection.bracket]
  simp

theorem bisectTarget_spec (count : Nat → Nat) (targetMax high : Nat) :
    bisectTarget count targetMax high ≤ high ∧
      (bisectTarget count targetMax high = 0 ∨
        count (bisectTarget count targetMax high) ≤ targetMax) := by
  have hone : 1 ≤ high + 1 := by omega
  obtain ⟨-, hle, hin, -⟩ :=
    Bisection.bisect_spec (fun mid => count mid ≤ targetMax) (h := by decide) hone
  refine ⟨hle, ?_⟩
  rcases hin with hin | hin
  · exact Or.inl (Nat.succ.inj hin)
  · exact Or.inr (of_decide_eq_true hin)

theorem bisectTarget_eq_zero_iff {k high : Nat} (hlo : 2 ^ (k + 1) ≤ high + 1)
    (hhi : high ≤ 2 ^ (k + 1)) :
    bisectTarget count targetMax high = 0 ↔ ∀ j < k + 1, targetMax < count (2 ^ j) := by
  unfold bisectTarget
  rw [Bisection.bisect_one_eq_zero_iff hlo hhi]
  simp only [decide_eq_false_iff_not, Nat.not_le]

/-- If a candidate above 8192 is taken, half of it was seen to fit. -/
theorem bisectTarget_pos {high : Nat} (h : bracketTarget count targetMax = some high)
    (hne : high ≠ 8192) : bisectTarget count targetMax high ≠ 0 := by
  rcases bracketTarget_first h with rfl | ⟨m, hm, rfl, hs⟩
  · contradiction
  · intro hz
    have hone : 1 ≤ 2 * m := by omega
    have hmid : (1 + 2 * m) / 2 = m := by omega
    have hfit : decide (count ((1 + 2 * m) / 2) ≤ targetMax) = true := by
      rw [hmid]
      exact decide_eq_true (by omega)
    have hle := Bisection.mid_le_bisect (fun mid => count mid ≤ targetMax) Nat.one_pos hone hfit
    have hz' : Bisection.bisect (fun mid => count mid ≤ targetMax) 1 (2 * m) Nat.one_pos = 0 := hz
    omega

theorem searchRepeats_ok {r : Nat × Nat} (h : searchRepeats count targetMin targetMax = .ok r) :
    ∃ high, bracketTarget count targetMax = some high ∧
      r = (bisectTarget count targetMax high, count (bisectTarget count targetMax high)) ∧
      targetMin ≤ r.2 := by
  unfold searchRepeats at h
  cases hb : bracketTarget count targetMax with
  | none =>
    rw [hb] at h
    contradiction
  | some high =>
    simp only [hb] at h
    by_cases hlt : count (bisectTarget count targetMax high) < targetMin
    · rw [if_pos hlt] at h
      contradiction
    · rw [if_neg hlt] at h
      cases h
      exact ⟨high, rfl, rfl, by simpa using hlt⟩

theorem searchRepeats_of_bracket {high : Nat} (h : bracketTarget count targetMax = some high) :
    searchRepeats count targetMin targetMax =
      if count (bisectTarget count targetMax high) < targetMin then
        .error (.belowTarget (count (bisectTarget count targetMax high)))
      else .ok (bisectTarget count targetMax high,
        count (bisectTarget count targetMax high)) := by
  simp only [searchRepeats, h]

theorem searchRepeats_noBracket_iff :
    searchRepeats count targetMin targetMax = .error .noBracket ↔
      bracketTarget count targetMax = none := by
  cases hb : bracketTarget count targetMax with
  | none => simp [searchRepeats, hb]
  | some high =>
    rw [searchRepeats_of_bracket hb]
    split <;> simp

/-- Every payload emitted counts between the two targets. -/
def StaysInTarget (count : Nat → Nat) (targetMin targetMax : Nat) : Prop :=
  ∀ n tokens, searchRepeats count targetMin targetMax = .ok (n, tokens) →
    targetMin ≤ tokens ∧ tokens ≤ targetMax

/-- Blocks of the cache that a request occupies. -/
def blocks (tokens : Nat) : Nat := (tokens + kvBlockSizeTokens - 1) / kvBlockSizeTokens

/-- Something that the search can try from 8192 downwards fits, or the search
starts above 8192. -/
def SomethingFits (count : Nat → Nat) (targetMax : Nat) : Prop :=
  count 8192 < targetMax ∨ count 0 ≤ targetMax ∨ ∃ j < 13, count (2 ^ j) ≤ targetMax

theorem tokens_le_of_somethingFits (hfit : SomethingFits count targetMax) {high : Nat}
    (h : bracketTarget count targetMax = some high) :
    count (bisectTarget count targetMax high) ≤ targetMax := by
  rcases (bisectTarget_spec count targetMax high).2 with hz | hle
  · by_cases hne : high = 8192
    · subst hne
      have hlong := bracketTarget_long h
      rw [hz]
      rcases hfit with hlt | hzero | ⟨j, hj, hle⟩
      · omega
      · exact hzero
      · have hall := (bisectTarget_eq_zero_iff (k := 12) (by decide) (by decide)).mp hz j hj
        omega
    · exact absurd hz (bisectTarget_pos h hne)
  · exact hle

/-- Otherwise the search falls through to no repetition at all and emits it. -/
theorem searchRepeats_of_nothingFits (hle : targetMin ≤ targetMax)
    (hno : ¬ SomethingFits count targetMax) :
    searchRepeats count targetMin targetMax = .ok (0, count 0) ∧ targetMax < count 0 := by
  simp only [SomethingFits, not_or, not_exists, not_and, Nat.not_lt, Nat.not_le] at hno
  obtain ⟨hlong, hzero, hall⟩ := hno
  have hb : bracketTarget count targetMax = some 8192 := by
    rw [bracketTarget_eq, if_neg (by omega)]
  have hz : bisectTarget count targetMax 8192 = 0 :=
    (bisectTarget_eq_zero_iff (k := 12) (by decide) (by decide)).mpr hall
  refine ⟨?_, hzero⟩
  rw [searchRepeats_of_bracket hb, hz, if_neg (by omega)]

/-- The search keeps to the target exactly if one of the values it can fall
through to fits. -/
theorem staysInTarget_iff (hle : targetMin ≤ targetMax) :
    StaysInTarget count targetMin targetMax ↔ SomethingFits count targetMax := by
  constructor
  · intro hstays
    by_contra hno
    obtain ⟨hok, hgt⟩ := searchRepeats_of_nothingFits hle hno
    have hh := (hstays 0 (count 0) hok).2
    omega
  · intro hfit n tokens hok
    obtain ⟨high, hb, hr, hmin⟩ := searchRepeats_ok hok
    cases hr
    exact ⟨hmin, tokens_le_of_somethingFits hfit hb⟩

theorem le_targetMax_iff (tokens : Nat) :
    tokens ≤ PdDisaggregation.targetMax.toNat ↔ tokens + maxTokens ≤ maxContext - 256 := by
  have hmax : PdDisaggregation.targetMax.toNat = maxContext - maxTokens - 256 := by decide
  rw [hmax]
  unfold maxContext maxTokens
  omega

theorem blocks_le_iff (tokens : Nat) :
    blocks (tokens + maxTokens) ≤ maxContext / 256 - 1 ↔
      tokens + maxTokens ≤ maxContext - 256 := by
  unfold blocks maxContext maxTokens kvBlockSizeTokens
  omega

/-- With the constants of the script, every payload leaves a block free. -/
def LeavesBlockFree (count : Nat → Nat) : Prop :=
  ∀ n tokens, searchRepeats count PdDisaggregation.targetMin.toNat
      PdDisaggregation.targetMax.toNat = .ok (n, tokens) →
    tokens + maxTokens ≤ maxContext - 256 ∧
      blocks (tokens + maxTokens) ≤ maxContext / 256 - 1

theorem leavesBlockFree_iff_staysInTarget : LeavesBlockFree count ↔
    StaysInTarget count PdDisaggregation.targetMin.toNat PdDisaggregation.targetMax.toNat := by
  constructor
  · intro hfree n tokens hok
    obtain ⟨high, -, hr, hmin⟩ := searchRepeats_ok hok
    exact ⟨hmin, (le_targetMax_iff tokens).mpr (hfree n tokens hok).1⟩
  · intro hstays n tokens hok
    have hle := (le_targetMax_iff tokens).mp (hstays n tokens hok).2
    exact ⟨hle, (blocks_le_iff tokens).mpr hle⟩

/-- A payload is within the target, and leaves a block free under the constants of
the script, exactly if the search starts above 8192 or one of the values from
which it can only go down fits. -/
theorem payload_fits_iff (count : Nat → Nat) (hle : targetMin ≤ targetMax) :
    (StaysInTarget count targetMin targetMax ↔
      count 8192 < targetMax ∨ count 0 ≤ targetMax ∨ ∃ j < 13, count (2 ^ j) ≤ targetMax) ∧
    (LeavesBlockFree count ↔
      count 8192 < PdDisaggregation.targetMax.toNat ∨
        count 0 ≤ PdDisaggregation.targetMax.toNat ∨
        ∃ j < 13, count (2 ^ j) ≤ PdDisaggregation.targetMax.toNat) := by
  refine ⟨staysInTarget_iff hle, ?_⟩
  rw [leavesBlockFree_iff_staysInTarget]
  exact staysInTarget_iff (by decide)

theorem payload_fits_linear :
    38500 ≤ 38880 ∧ StaysInTarget (fun n => 60 + 9 * n) 38500 38880 :=
  ⟨by decide, (payload_fits_iff (fun n => 60 + 9 * n) (by decide)).1.mpr
    (Or.inr (Or.inl (by decide)))⟩

/-- A run id of forty thousand tokens is emitted without any repetition. -/
theorem payload_too_long :
    ¬ (StaysInTarget (fun n => 40000 + n) 38500 38880 ∧
      LeavesBlockFree (fun n => 40000 + n)) := by
  rintro ⟨hstays, -⟩
  have hno : ¬ SomethingFits (fun n => 40000 + n) 38880 := by
    simp only [SomethingFits, not_or, not_exists, not_and, Nat.not_lt, Nat.not_le]
    exact ⟨by decide, by decide, fun j _ => Nat.lt_add_right (2 ^ j) (by decide)⟩
  exact hno ((staysInTarget_iff (by decide)).mp hstays)

theorem tokenizerHelper_ok {tokenizer : Tokenizer} {cfg : TokenizerConfig} {p : PromptPayload}
    (h : tokenizerHelper tokenizer cfg = .ok p) :
    searchRepeats (PdDisaggregation.count tokenizer cfg) cfg.targetMin cfg.targetMax =
        .ok (p.repeatCount, p.inputTokens) ∧
      (p.prompt, p.expectedAnswer) = build cfg p.repeatCount := by
  unfold tokenizerHelper at h
  cases hs : searchRepeats (PdDisaggregation.count tokenizer cfg) cfg.targetMin cfg.targetMax with
  | error e =>
    rw [hs] at h
    contradiction
  | ok r =>
    rw [hs] at h
    cases h
    exact ⟨rfl, rfl⟩

theorem tokenizerHelper_inputTokens {tokenizer : Tokenizer} {cfg : TokenizerConfig}
    {p : PromptPayload} (h : tokenizerHelper tokenizer cfg = .ok p)
    (hfit : SomethingFits (PdDisaggregation.count tokenizer cfg) cfg.targetMax) :
    p.inputTokens = PdDisaggregation.count tokenizer cfg p.repeatCount ∧
      cfg.targetMin ≤ p.inputTokens ∧ p.inputTokens ≤ cfg.targetMax := by
  obtain ⟨high, hb, hr, hmin⟩ := searchRepeats_ok (tokenizerHelper_ok h).1
  obtain ⟨hn, htokens⟩ := Prod.mk.inj hr
  refine ⟨by rw [htokens, hn], hmin, ?_⟩
  rw [htokens]
  exact tokens_le_of_somethingFits hfit hb

def fittingCounts (count : Nat → Nat) (targetMax : Nat) : Set Nat :=
  {tokens | ∃ m, tokens = count m ∧ count m ≤ targetMax}

theorem bracketTarget_eq_none_iff (hmono : Monotone count) :
    bracketTarget count targetMax = none ↔ count 65536 < targetMax := by
  have h₁ : count 8192 ≤ count 16384 := hmono (by decide)
  have h₂ : count 16384 ≤ count 32768 := hmono (by decide)
  have h₃ : count 32768 ≤ count 65536 := hmono (by decide)
  rw [bracketTarget_eq]
  constructor
  · intro hnone
    by_contra hlong
    rw [if_neg hlong] at hnone
    split_ifs at hnone
  · intro hshort
    rw [if_pos (by omega), if_pos (by omega), if_pos (by omega), if_pos hshort]

theorem bisectTarget_greatest (hmono : Monotone count) (hzero : count 0 ≤ targetMax) {high : Nat}
    (hlong : targetMax ≤ count high) :
    IsGreatest (fittingCounts count targetMax) (count (bisectTarget count targetMax high)) := by
  have hanti : ∀ a b, a ≤ b → decide (count b ≤ targetMax) = true →
      decide (count a ≤ targetMax) = true := by
    intro a b hab hb
    exact decide_eq_true (le_trans (hmono hab) (of_decide_eq_true hb))
  have hone : 1 ≤ high + 1 := by omega
  obtain ⟨hfit, hbest⟩ := Bisection.bisect_greatest (h := Nat.succ_pos 0) hone hanti
    (decide_eq_true hzero)
  constructor
  · exact ⟨_, rfl, of_decide_eq_true hfit⟩
  · rintro tokens ⟨m, rfl, hm⟩
    by_cases hmh : m ≤ high
    · exact hmono (hbest m hmh (decide_eq_true hm))
    · -- beyond the bracket only the plateau at the target itself can fit
      have hhigh : count high ≤ count m := hmono (by omega)
      have hhm : high ≤ bisectTarget count targetMax high :=
        hbest high (le_refl _) (decide_eq_true (le_trans hhigh hm))
      exact le_trans hm (le_trans hlong (hmono hhm))

/-- With counts that grow with the prompt, the search gives up on the bracket only
if 65536 repetitions are still short, and otherwise settles on the greatest
count within the target, failing only if that is below the lower target. -/
theorem search_settles_on_greatest (targetMin : Nat) (hmono : Monotone count)
    (hzero : count 0 ≤ targetMax) :
    (searchRepeats count targetMin targetMax = .error .noBracket ↔ count 65536 < targetMax) ∧
    (targetMax ≤ count 65536 → ∃ n best, best = count n ∧
      IsGreatest (fittingCounts count targetMax) best ∧
      (searchRepeats count targetMin targetMax = .error (.belowTarget best) ↔
        best < targetMin) ∧
      (targetMin ≤ best → searchRepeats count targetMin targetMax = .ok (n, best))) := by
  rw [searchRepeats_noBracket_iff]
  refine ⟨bracketTarget_eq_none_iff hmono, fun hlong => ?_⟩
  cases hb : bracketTarget count targetMax with
  | none =>
    have hshort := (bracketTarget_eq_none_iff hmono).mp hb
    omega
  | some high =>
    refine ⟨bisectTarget count targetMax high, _, rfl,
      bisectTarget_greatest hmono hzero (bracketTarget_long hb), ?_⟩
    rw [searchRepeats_of_bracket hb]
    constructor
    · split <;> simp_all
    · intro hmin
      rw [if_neg (by omega)]

theorem search_settles_on_linear :
    ∃ n best, best = 60 + 9 * n ∧
      IsGreatest (fittingCounts (fun n => 60 + 9 * n) 38880) best := by
  have hmono : Monotone fun n => 60 + 9 * n := fun a b hab => by
    show 60 + 9 * a ≤ 60 + 9 * b
    omega
  obtain ⟨n, best, hn, hbest, -⟩ :=
    (search_settles_on_greatest 38500 hmono (show 60 + 9 * 0 ≤ 38880 by decide)).2
      (show 38880 ≤ 60 + 9 * 65536 by decide)
  exact ⟨n, best, hn, hbest⟩

end PdDisaggregation
