import PdDisaggregation.ActiveWindow

/-! A counter that goes back inside the measured window. Only the two ends of
the window are compared, so a reset that later growth makes up for is measured. -/

namespace PdDisaggregation

open Finset

variable {csv : CsvFile} {direction : Direction} {expected : Int} {samples : List RoceSample}
variable {first last : Nat}

/-- No sample of the window lies below the one before it. -/
def Nondecreasing (direction : Direction) (samples : List RoceSample) (first last : Nat) : Prop :=
  ∀ k, first ≤ k → k < last → wordsAt direction samples k ≤ wordsAt direction samples (k + 1)

instance (direction : Direction) (samples : List RoceSample) (first last : Nat) :
    Decidable (Nondecreasing direction samples first last) :=
  decidable_of_iff
    (∀ k < last, first ≤ k → wordsAt direction samples k ≤ wordsAt direction samples (k + 1))
    ⟨fun h k hk hl => h k hl hk, fun h k hl hk => h k hk hl⟩

/-- What a measurement promises about the counter: it never goes back between the
samples of the window, the bytes are the sum of its increments, and a series
where it does go back is reported. -/
structure ResetsReported (csv : CsvFile) (direction : Direction) (expected : Int) : Prop where
  measured : ∀ m, activeWindow csv direction expected = .ok m →
    ∃ samples first last, loadSamples csv = .ok samples ∧
      ActiveWindow direction samples first last ∧
      Nondecreasing direction samples first last ∧
      m.counterBytes = 4 * ∑ k ∈ Ico first last, increment direction samples k
  reported : ∀ samples first last, loadSamples csv = .ok samples →
    ActiveWindow direction samples first last → ¬ Nondecreasing direction samples first last →
    activeWindow csv direction expected = .error (.counterDecreased csv.path)

theorem activeWindow_counterDecreased (hload : loadSamples csv = .ok samples)
    (hw : ActiveWindow direction samples first last) :
    activeWindow csv direction expected = .error (.counterDecreased csv.path) ↔
      wordsAt direction samples last < wordsAt direction samples first := by
  rw [activeWindow_eq hload hw]
  simp only [Check.require_error, decide_eq_false_iff_not, reduceCtorEq, and_false, false_or,
    and_true]
  constructor
  · intro h
    rcases h with h | h
    · omega
    · obtain ⟨-, -, -, h⟩ := h
      contradiction
  · intro h
    apply Or.inl
    omega

theorem activeWindow_source {m : Measurement} (h : activeWindow csv direction expected = .ok m) :
    ∃ samples first last, loadSamples csv = .ok samples ∧
      ActiveWindow direction samples first last ∧
      m = windowMeasurement direction samples first last ∧
      wordsAt direction samples first ≤ wordsAt direction samples last := by
  cases hload : loadSamples csv with
  | error e =>
    rw [activeWindow, hload] at h
    contradiction
  | ok samples =>
    by_cases hbusy : ∃ k < samples.length - 1, Busy direction samples k
    · obtain ⟨first, last, hw⟩ := exists_activeWindow_iff.mpr hbusy
      rw [activeWindow_eq hload hw] at h
      simp only [Check.seq_ok, Check.require_ok, decide_eq_true_eq] at h
      obtain ⟨hwords, -, -, hm⟩ := h
      exact ⟨samples, first, last, rfl, hw, (Except.ok.inj hm).symm, by omega⟩
    · rw [activeWindow_quiet hload (by simpa using hbusy)] at h
      contradiction

/-- The reset shows at the ends of the window: exactly then no reset is measured. -/
theorem resetsReported_iff (csv : CsvFile) (direction : Direction) (expected : Int) :
    ResetsReported csv direction expected ↔
      ∀ samples first last, loadSamples csv = .ok samples →
        ActiveWindow direction samples first last →
        Nondecreasing direction samples first last ∨
          wordsAt direction samples last < wordsAt direction samples first := by
  constructor
  · intro h samples first last hload hw
    by_cases hmono : Nondecreasing direction samples first last
    · exact Or.inl hmono
    · apply Or.inr
      apply (activeWindow_counterDecreased hload hw).mp
      exact h.reported samples first last hload hw hmono
  · intro h
    constructor
    · intro m hm
      obtain ⟨samples, first, last, hload, hw, rfl, hle⟩ := activeWindow_source hm
      have hmono : Nondecreasing direction samples first last := by
        rcases h samples first last hload hw with hmono | hlt
        · exact hmono
        · omega
      refine ⟨samples, first, last, hload, hw, hmono, ?_⟩
      rw [sum_increment (Nat.le_of_lt hw.lt), mul_comm]
      rfl
    · intro samples first last hload hw hdec
      apply (activeWindow_counterDecreased hload hw).mpr
      rcases h samples first last hload hw with hmono | hlt
      · exact absurd hmono hdec
      · exact hlt

/-- A port counter that is reset to zero between two busy intervals. -/
def resetCsv : CsvFile where
  path := "roce-warm-node3.csv"
  fieldnames := requiredColumns
  rows := [["0".toList, "0".toList, "500000".toList],
    ["1000000".toList, "0".toList, "600000".toList],
    ["2000000".toList, "0".toList, "0".toList],
    ["3000000".toList, "0".toList, "900000".toList]]

def resetSamples : List RoceSample :=
  [⟨0, 0, 500000⟩, ⟨1000000, 0, 600000⟩, ⟨2000000, 0, 0⟩, ⟨3000000, 0, 900000⟩]

theorem activeWindow_measures_reset :
    ¬ ∀ csv direction expected, ResetsReported csv direction expected := by
  intro h
  have hload : loadSamples resetCsv = .ok resetSamples := by decide +kernel
  have hw : ActiveWindow .tx resetSamples 0 3 :=
    ⟨by decide, by decide, by decide, by decide, by decide⟩
  have herr := (h resetCsv .tx 1600000).reported resetSamples 0 3 hload hw (by decide)
  have hlt := (activeWindow_counterDecreased hload hw).mp herr
  exact absurd hlt (by decide)

end PdDisaggregation
