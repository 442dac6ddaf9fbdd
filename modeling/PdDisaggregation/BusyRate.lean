import PdDisaggregation.ActiveWindow
import Mathlib.Algebra.BigOperators.Field
import Mathlib.Tactic.IntervalCases

/-! The sampled-busy rate divides the bytes of the whole window by the time of
its active intervals only. When it bounds the observed rates from below. -/

namespace PdDisaggregation

open Finset

variable {direction : Direction} {samples : List RoceSample} {csv : CsvFile} {expected : Int}
  {first last : Nat} {m : Measurement}

theorem activeWindow_ok_window (hload : loadSamples csv = .ok samples)
    (hok : activeWindow csv direction expected = .ok m) :
    ∃ first last, ActiveWindow direction samples first last ∧
      m = windowMeasurement direction samples first last := by
  have hbusy : ∃ k < samples.length - 1, Busy direction samples k := by
    by_contra hno
    have hquiet : ∀ k < samples.length - 1, ¬ Busy direction samples k :=
      fun k hk hb => hno ⟨k, hk, hb⟩
    rw [activeWindow_quiet hload hquiet] at hok
    contradiction
  obtain ⟨first, last, hw⟩ := exists_activeWindow_iff.mpr hbusy
  refine ⟨first, last, hw, ?_⟩
  rw [activeWindow_eq hload hw] at hok
  obtain ⟨-, -, -, hm⟩ := by simpa only [Check.seq_ok] using hok
  exact (Except.ok.inj hm).symm

/-- Words moved in the intervals that count as busy. -/
def busyWords (direction : Direction) (samples : List RoceSample) : Int :=
  ∑ k ∈ (range (samples.length - 1)).filter (Busy direction samples),
    increment direction samples k

def meanBusyRate (direction : Direction) (samples : List RoceSample) : ℚ :=
  (4 * busyWords direction samples : ℚ) / 1024 ^ 2 /
    ∑ k ∈ (range (samples.length - 1)).filter (Busy direction samples),
      (seconds samples (k + 1) - seconds samples k)

def intervalRate (direction : Direction) (samples : List RoceSample) (k : Nat) : ℚ :=
  (4 * increment direction samples k : ℚ) / 1024 ^ 2 /
    (seconds samples (k + 1) - seconds samples k)

/-- Between two busy intervals nothing moves in an interval that is not. -/
def QuietGaps (direction : Direction) (samples : List RoceSample) : Prop :=
  ∀ i k j, i < k → k < j → j < samples.length - 1 → Busy direction samples i →
    Busy direction samples j → ¬ Busy direction samples k → increment direction samples k = 0

theorem sum_gaps_eq_zero_iff (h : Increasing direction samples)
    (hw : ActiveWindow direction samples first last) :
    ∑ k ∈ (Ico first last).filter (¬ Busy direction samples ·), increment direction samples k ≤ 0 ↔
      QuietGaps direction samples := by
  have hlt := hw.lt
  have hle := hw.le
  have hnonneg : ∀ k ∈ (Ico first last).filter (¬ Busy direction samples ·),
      0 ≤ increment direction samples k := by
    intro k hk
    have hmem := mem_Ico.mp (mem_filter.mp hk).1
    exact increment_nonneg h (by omega)
  rw [(sum_nonneg hnonneg).ge_iff_eq', sum_eq_zero_iff_of_nonneg hnonneg]
  constructor
  · intro hzero i k j hik hkj hj hi hbj hk
    have hci := hw.covers i (by omega) hi
    have hcj := hw.covers j hj hbj
    exact hzero k (mem_filter.mpr ⟨mem_Ico.mpr (by omega), hk⟩)
  · intro hquiet k hk
    obtain ⟨hmem, hnb⟩ := mem_filter.mp hk
    have hin := mem_Ico.mp hmem
    have hfirst : k ≠ first := fun heq => hnb (heq ▸ hw.starts)
    have hlast : k ≠ last - 1 := fun heq => hnb (heq ▸ hw.ends)
    exact hquiet first k (last - 1) (by omega) (by omega) (by omega) hw.starts hw.ends hnb

theorem words_window_eq (hw : ActiveWindow direction samples first last) :
    wordsAt direction samples last - wordsAt direction samples first =
      busyWords direction samples +
        ∑ k ∈ (Ico first last).filter (¬ Busy direction samples ·),
          increment direction samples k :=
  hw.sum_eq (wordsAt direction samples)

def reportedBusyRate (m : Measurement) : ℚ := (m.counterBytes : ℚ) / 1024 ^ 2 / m.busySeconds

theorem reportedBusyRate_le_iff (h : Increasing direction samples)
    (hw : ActiveWindow direction samples first last) :
    reportedBusyRate (windowMeasurement direction samples first last) ≤
      meanBusyRate direction samples ↔ QuietGaps direction samples := by
  have hm := windowMeasurement_measures h hw
  have hpos : 0 < (windowMeasurement direction samples first last).busySeconds :=
    busySeconds_pos h hw
  rw [← sum_gaps_eq_zero_iff h hw]
  unfold reportedBusyRate meanBusyRate
  rw [← hm.busySeconds, div_le_div_iff_of_pos_right hpos,
    div_le_div_iff_of_pos_right (by norm_num)]
  have hbytes : (windowMeasurement direction samples first last).counterBytes =
      (busyWords direction samples + ∑ k ∈ (Ico first last).filter (¬ Busy direction samples ·),
        increment direction samples k) * 4 := by
    rw [← words_window_eq hw]
    rfl
  rw [hbytes]
  norm_cast
  omega

theorem meanBusyRate_le_some (h : Increasing direction samples)
    (hw : ActiveWindow direction samples first last) :
    ∃ k < samples.length - 1, meanBusyRate direction samples ≤ intervalRate direction samples k := by
  have hne : ((range (samples.length - 1)).filter (Busy direction samples)).Nonempty := by
    obtain ⟨k, hk, hb⟩ := hw.exists_busy
    exact ⟨k, mem_filter.mpr ⟨mem_range.mpr hk, hb⟩⟩
  obtain ⟨k, hk, hle⟩ := BusyWindow.exists_div_ge hne
    (fun k => (4 * increment direction samples k : ℚ) / 1024 ^ 2)
    (fun k => seconds samples (k + 1) - seconds samples k)
    (fun k hk => sub_pos.mpr (seconds_lt h (mem_range.mp (mem_filter.mp hk).1)))
  refine ⟨k, mem_range.mp (mem_filter.mp hk).1, ?_⟩
  have hsum : (4 * busyWords direction samples : ℚ) / 1024 ^ 2 =
      ∑ k ∈ (range (samples.length - 1)).filter (Busy direction samples),
        (4 * increment direction samples k : ℚ) / 1024 ^ 2 := by
    rw [← sum_div, ← mul_sum]
    unfold busyWords
    push_cast
    rfl
  rw [meanBusyRate, hsum]
  exact hle

/-- The reported rate bounds the mean over the busy intervals, and with it the rate
in one of them, from below. -/
def BusyRateIsLowerBound (direction : Direction) (samples : List RoceSample)
    (record : ThroughputRecord) : Prop :=
  record.sampledBusyLowerBoundMibPerSecond ≤ meanBusyRate direction samples ∧
    ∃ k < samples.length - 1,
      record.sampledBusyLowerBoundMibPerSecond ≤ intervalRate direction samples k

theorem throughputRecord_busyRate {label pathName durationSource : String} {durationSeconds : ℚ}
    {record : ThroughputRecord}
    (hrecord : throughputRecord label pathName m durationSeconds durationSource = .ok record) :
    record.sampledBusyLowerBoundMibPerSecond = reportedBusyRate m := by
  unfold throughputRecord at hrecord
  simp only [Check.seq_ok] at hrecord
  cases hrecord.2
  rfl

theorem exists_throughputRecord (label pathName durationSource : String) {durationSeconds : ℚ}
    (hduration : durationSeconds ≠ 0) (hspan : m.activitySpanSeconds ≠ 0)
    (hbusy : m.busySeconds ≠ 0) :
    ∃ record, throughputRecord label pathName m durationSeconds durationSource = .ok record := by
  have htest : (decide (durationSeconds ≠ 0) && decide (m.activitySpanSeconds ≠ 0) &&
      decide (m.busySeconds ≠ 0)) = true := by
    simp [hduration, hspan, hbusy]
  unfold throughputRecord
  simp only [Check.require, htest, if_true]
  exact ⟨_, rfl⟩

theorem exists_record (expected : Int) (hload : loadSamples csv = .ok samples)
    (h : Increasing direction samples) (hw : ActiveWindow direction samples first last)
    (hbytes : (expected : ℚ) * (90 / 100) ≤
      (windowMeasurement direction samples first last).counterBytes) :
    ∃ m record, m = windowMeasurement direction samples first last ∧
      activeWindow csv direction expected = .ok m ∧
      throughputRecord "Cold" "Prefill->NFS Offload" m m.activitySpanSeconds
        "node3 RX first-to-last RoCE activity" = .ok record := by
  have hbusy : 0 < (windowMeasurement direction samples first last).busySeconds :=
    busySeconds_pos h hw
  have hspan := lt_of_lt_of_le hbusy (windowMeasurement_measures h hw).busy_le_span
  obtain ⟨record, hrecord⟩ := exists_throughputRecord "Cold" "Prefill->NFS Offload"
    "node3 RX first-to-last RoCE activity" (ne_of_gt hspan) (ne_of_gt hspan) (ne_of_gt hbusy)
  exact ⟨_, record, rfl, activeWindow_ok hload hw (words_window_nonneg h hw) hbytes hbusy hspan,
    hrecord⟩

/-- The sampled-busy rate is a lower bound exactly if the gaps between busy
intervals are quiet: any bytes moved in them are added to it. -/
theorem busyRate_lowerBound_iff (hload : loadSamples csv = .ok samples)
    (h : Increasing direction samples) (hok : activeWindow csv direction expected = .ok m)
    {label pathName durationSource : String} {durationSeconds : ℚ} {record : ThroughputRecord}
    (hrecord : throughputRecord label pathName m durationSeconds durationSource = .ok record) :
    BusyRateIsLowerBound direction samples record ↔ QuietGaps direction samples := by
  obtain ⟨first, last, hw, rfl⟩ := activeWindow_ok_window hload hok
  unfold BusyRateIsLowerBound
  rw [throughputRecord_busyRate hrecord, reportedBusyRate_le_iff h hw]
  constructor
  · exact fun hh => hh.1
  · intro hquiet
    have hle := (reportedBusyRate_le_iff h hw).mpr hquiet
    obtain ⟨k, hk, hmean⟩ := meanBusyRate_le_some h hw
    exact ⟨hquiet, k, hk, le_trans hle hmean⟩

theorem burst_increasing : Increasing .rx burstSamples := ⟨by decide, by decide⟩

theorem burst_window : ActiveWindow .rx burstSamples 0 1 :=
  ⟨by decide, by decide, by decide, by decide, by decide⟩

theorem busyRate_lowerBound_burst : ∃ m record,
    activeWindow burstCsv .rx 80000 = .ok m ∧
      throughputRecord "Cold" "Prefill->NFS Offload" m m.activitySpanSeconds
        "node3 RX first-to-last RoCE activity" = .ok record ∧
      BusyRateIsLowerBound .rx burstSamples record := by
  have hload : loadSamples burstCsv = .ok burstSamples := by decide +kernel
  obtain ⟨m, record, rfl, hok, hrecord⟩ :=
    exists_record 80000 hload burst_increasing burst_window (by
      have hbytes : (windowMeasurement .rx burstSamples 0 1).counterBytes = 80000 := by decide
      rw [hbytes]
      norm_num)
  refine ⟨_, record, hok, hrecord,
    (busyRate_lowerBound_iff hload burst_increasing hok hrecord).mpr ?_⟩
  intro i k j hik hkj hj hi hbj _
  have hj' : j < 2 := hj
  interval_cases j
  · omega
  · exact absurd hbj (by decide)

/-- Two bursts with 40000 bytes trickling between them. -/
def trickleSamples : List RoceSample :=
  [⟨0, 0, 0⟩, ⟨1000000, 16384, 0⟩, ⟨2000000, 26384, 0⟩, ⟨3000000, 42768, 0⟩]

theorem trickle_increasing : Increasing .rx trickleSamples := ⟨by decide, by decide⟩

theorem trickle_window : ActiveWindow .rx trickleSamples 0 3 :=
  ⟨by decide, by decide, by decide, by decide, by decide⟩

def trickleCsv : CsvFile where
  path := "roce-cold-node2.csv"
  fieldnames := requiredColumns
  rows := [["0".toList, "0".toList, "0".toList],
    ["1000000".toList, "16384".toList, "0".toList],
    ["2000000".toList, "26384".toList, "0".toList],
    ["3000000".toList, "42768".toList, "0".toList]]

theorem trickle_load : loadSamples trickleCsv = .ok trickleSamples := by decide +kernel

theorem trickle_overestimates : ∃ m record,
    activeWindow trickleCsv .rx 100000 = .ok m ∧
      throughputRecord "Cold" "Prefill->NFS Offload" m m.activitySpanSeconds
        "node3 RX first-to-last RoCE activity" = .ok record ∧
      ¬ BusyRateIsLowerBound .rx trickleSamples record := by
  obtain ⟨m, record, rfl, hok, hrecord⟩ :=
    exists_record 100000 trickle_load trickle_increasing trickle_window (by
      have hbytes : (windowMeasurement .rx trickleSamples 0 3).counterBytes = 171072 := by decide
      rw [hbytes]
      norm_num)
  refine ⟨_, record, hok, hrecord, fun hbound => ?_⟩
  have hrate := hbound.1
  rw [throughputRecord_busyRate hrecord,
    reportedBusyRate_le_iff trickle_increasing trickle_window] at hrate
  have hzero := hrate 0 1 2 (by decide) (by decide) (by decide) (by decide) (by decide) (by decide)
  revert hzero
  decide

end PdDisaggregation
