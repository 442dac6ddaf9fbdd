import PdDisaggregation.BusyWindow
import PdDisaggregation.RoceThroughput
import Mathlib.Algebra.Order.BigOperators.Ring.Finset
import Mathlib.Tactic.Linarith

/-! What `active_window` measures: the smallest window that holds every active
interval, its bytes, and the time the active intervals take. -/

namespace PdDisaggregation

open Finset

variable {direction : Direction} {samples : List RoceSample}

def increment (direction : Direction) (samples : List RoceSample) (k : Nat) : Int :=
  wordsAt direction samples (k + 1) - wordsAt direction samples k

def seconds (samples : List RoceSample) (k : Nat) : ℚ := (nsAt samples k : ℚ) / 1000000000

/-- An interval of at least 64 KiB. -/
def Busy (direction : Direction) (samples : List RoceSample) (k : Nat) : Prop :=
  65536 ≤ 4 * increment direction samples k

instance (direction : Direction) (samples : List RoceSample) :
    DecidablePred (Busy direction samples) :=
  fun k => inferInstanceAs (Decidable (65536 ≤ 4 * increment direction samples k))

def busyIntervals (direction : Direction) (samples : List RoceSample) : List Nat :=
  (List.range (samples.length - 1)).filter (Busy direction samples ·)

theorem busy_iff (k : Nat) : Busy direction samples k ↔
    0 < wordsAt direction samples (k + 1) - wordsAt direction samples k ∧
      activeStepBytes ≤
        (wordsAt direction samples (k + 1) - wordsAt direction samples k) * counterUnitBytes := by
  unfold Busy increment activeStepBytes counterUnitBytes
  omega

theorem activeSteps_fold (direction : Direction) (samples : List RoceSample) (n : Nat) :
    (List.range' 1 n).foldl (activeStep direction samples) {} =
      { activeIndices := ((List.range n).filter (Busy direction samples ·)).map (· + 1)
        busySeconds := ∑ k ∈ (range n).filter (Busy direction samples),
          (seconds samples (k + 1) - seconds samples k) } := by
  induction n with
  | zero => rfl
  | succ n ih =>
    rw [List.range'_1_concat, List.foldl_append, ih, List.range_succ, List.filter_append,
      Finset.range_add_one, Finset.filter_insert]
    simp only [List.foldl_cons, List.foldl_nil, activeStep, Nat.add_comm 1 n,
      Nat.add_sub_cancel]
    by_cases hb : Busy direction samples n
    · rw [if_pos ((busy_iff n).mp hb), if_pos hb, sum_insert (by simp)]
      simp only [List.filter_cons, hb, decide_true, if_true, List.filter_nil, List.map_append,
        List.map_cons, List.map_nil, ActiveSteps.mk.injEq, true_and]
      unfold seconds
      ring
    · rw [if_neg (fun h => hb ((busy_iff n).mpr h)), if_neg hb]
      simp [hb]

abbrev ActiveWindow (direction : Direction) (samples : List RoceSample) :=
  BusyWindow.Spans (Busy direction samples) (samples.length - 1)

section

variable {first last : Nat}

theorem busyIntervals_ne_nil :
    busyIntervals direction samples ≠ [] ↔ ∃ k < samples.length - 1, Busy direction samples k := by
  simp [busyIntervals, List.filter_eq_nil_iff]

theorem exists_activeWindow_iff :
    (∃ first last, ActiveWindow direction samples first last) ↔
      ∃ k < samples.length - 1, Busy direction samples k := by
  constructor
  · rintro ⟨first, last, hw⟩
    exact hw.exists_busy
  · intro hbusy
    have hne := busyIntervals_ne_nil.mpr hbusy
    exact ⟨_, _, BusyWindow.spans_of_filter rfl hne⟩

theorem activeIndices_eq : (activeSteps direction samples).activeIndices =
    (busyIntervals direction samples).map (· + 1) := by
  rw [activeSteps, activeSteps_fold]
  rfl

theorem busySeconds_eq (hw : ActiveWindow direction samples first last) :
    (activeSteps direction samples).busySeconds =
      ∑ k ∈ (Ico first last).filter (Busy direction samples),
        (seconds samples (k + 1) - seconds samples k) := by
  rw [activeSteps, activeSteps_fold, hw.filter_range]

theorem map_succ_ends {l : List Nat} (hne : l ≠ []) :
    (l.map (· + 1)).isEmpty = false ∧ (l.map (· + 1)).headD 0 - 1 = l.head hne ∧
      (l.map (· + 1)).getLastD 0 = l.getLast hne + 1 := by
  refine ⟨by simpa using hne, ?_, ?_⟩
  · cases l with
    | nil => contradiction
    | cons a as => rfl
  · rw [List.getLastD_eq_getLast?, List.getLast?_map, List.getLast?_eq_getLast_of_ne_nil hne]
    rfl

theorem activeIndices_window (hw : ActiveWindow direction samples first last) :
    (activeSteps direction samples).activeIndices.isEmpty = false ∧
      (activeSteps direction samples).activeIndices.headD 0 - 1 = first ∧
      (activeSteps direction samples).activeIndices.getLastD 0 = last := by
  have hne := busyIntervals_ne_nil.mpr hw.exists_busy
  obtain ⟨hfirst, hlast⟩ := (BusyWindow.spans_of_filter rfl hne).unique hw
  obtain ⟨hempty, hhead, hend⟩ := map_succ_ends hne
  rw [activeIndices_eq]
  exact ⟨hempty, hhead.trans hfirst, hend.trans hlast⟩

theorem sum_increment (h : first ≤ last) : ∑ k ∈ Ico first last, increment direction samples k =
    wordsAt direction samples last - wordsAt direction samples first :=
  sum_Ico_sub (wordsAt direction samples) h

/-- A series that the sampler can have written. -/
structure Increasing (direction : Direction) (samples : List RoceSample) : Prop where
  time : samples.Pairwise fun a b => a.monotonicNs < b.monotonicNs
  words : samples.Pairwise fun a b => direction.words a ≤ direction.words b

theorem nsAt_lt (h : Increasing direction samples) {k : Nat} (hk : k < samples.length - 1) :
    nsAt samples k < nsAt samples (k + 1) := by
  have hlt : k + 1 < samples.length := by omega
  have hh := List.pairwise_iff_getElem.mp h.time k (k + 1) (by omega) hlt (by omega)
  simpa [nsAt, List.getElem?_eq_getElem hlt,
    List.getElem?_eq_getElem (show k < samples.length by omega)] using hh

theorem wordsAt_le (h : Increasing direction samples) {k : Nat} (hk : k < samples.length - 1) :
    wordsAt direction samples k ≤ wordsAt direction samples (k + 1) := by
  have hlt : k + 1 < samples.length := by omega
  have hh := List.pairwise_iff_getElem.mp h.words k (k + 1) (by omega) hlt (by omega)
  simpa [wordsAt, List.getElem?_eq_getElem hlt,
    List.getElem?_eq_getElem (show k < samples.length by omega)] using hh

theorem increment_nonneg (h : Increasing direction samples) {k : Nat}
    (hk : k < samples.length - 1) : 0 ≤ increment direction samples k :=
  Int.sub_nonneg_of_le (wordsAt_le h hk)

theorem seconds_lt (h : Increasing direction samples) {k : Nat} (hk : k < samples.length - 1) :
    seconds samples k < seconds samples (k + 1) := by
  have hlt : (nsAt samples k : ℚ) < nsAt samples (k + 1) := Int.cast_lt.mpr (nsAt_lt h hk)
  exact div_lt_div_of_pos_right hlt (by norm_num)

theorem busySeconds_pos (h : Increasing direction samples)
    (hw : ActiveWindow direction samples first last) :
    0 < (activeSteps direction samples).busySeconds := by
  rw [busySeconds_eq hw]
  refine sum_pos (fun k hk => ?_) ⟨first, ?_⟩
  · have hle := hw.le
    have hmem := mem_Ico.mp (mem_filter.mp hk).1
    exact sub_pos.mpr (seconds_lt h (by omega))
  · exact mem_filter.mpr ⟨mem_Ico.mpr ⟨le_refl _, hw.lt⟩, hw.starts⟩

theorem busySeconds_le_span (h : Increasing direction samples)
    (hw : ActiveWindow direction samples first last) :
    (activeSteps direction samples).busySeconds ≤ seconds samples last - seconds samples first := by
  rw [busySeconds_eq hw, ← hw.filter_range]
  exact hw.sum_busy_le (seconds samples) fun k hk => le_of_lt (seconds_lt h hk)

theorem words_window_nonneg (h : Increasing direction samples)
    (hw : ActiveWindow direction samples first last) :
    0 ≤ wordsAt direction samples last - wordsAt direction samples first := by
  rw [← sum_increment (Nat.le_of_lt hw.lt)]
  refine sum_nonneg fun k hk => ?_
  have hle := hw.le
  have hmem := mem_Ico.mp hk
  exact increment_nonneg h (by omega)

def windowMeasurement (direction : Direction) (samples : List RoceSample) (first last : Nat) :
    Measurement :=
  { counter := "port_" ++ (if direction = .rx then "rcv" else "xmit") ++ "_data"
    direction := direction
    counterBytes := (wordsAt direction samples last - wordsAt direction samples first) * 4
    busySeconds := (activeSteps direction samples).busySeconds
    activitySpanSeconds := (nsAt samples last - nsAt samples first : ℚ) / 1000000000
    sampleCount := samples.length
    sampleIntervalMs := median <| (List.range' 1 (samples.length - 1)).map fun index =>
      (nsAt samples index - nsAt samples (index - 1) : ℚ) / 1000000
    busyIntervalCount := (activeSteps direction samples).activeIndices.length }

variable {csv : CsvFile} {expected : Int}

theorem activeWindow_eq (hload : loadSamples csv = .ok samples)
    (hw : ActiveWindow direction samples first last) :
    activeWindow csv direction expected = (do
      let m := windowMeasurement direction samples first last
      Check.require (0 ≤ wordsAt direction samples last - wordsAt direction samples first)
        (.counterDecreased csv.path)
      Check.require ((expected : ℚ) * (90 / 100) ≤ m.counterBytes)
        (.fewBytes m.counterBytes direction csv.path expected)
      Check.require (0 < m.busySeconds && 0 < m.activitySpanSeconds) (.invalidDuration csv.path)
      return m) := by
  obtain ⟨hempty, hfirst, hlast⟩ := activeIndices_window hw
  simp only [activeWindow, hload, Check.ok_bind, hempty, hfirst, hlast, Bool.not_false]
  rfl

theorem activeWindow_quiet (hload : loadSamples csv = .ok samples)
    (hquiet : ∀ k < samples.length - 1, ¬ Busy direction samples k) :
    activeWindow csv direction expected = .error (.noActivity direction csv.path) := by
  have hnil : busyIntervals direction samples = [] := by
    by_contra hne
    obtain ⟨k, hk, hb⟩ := busyIntervals_ne_nil.mp hne
    exact hquiet k hk hb
  simp only [activeWindow, hload, Check.ok_bind, activeIndices_eq, hnil]
  rfl

theorem activeWindow_ok (hload : loadSamples csv = .ok samples)
    (hw : ActiveWindow direction samples first last)
    (hwords : 0 ≤ wordsAt direction samples last - wordsAt direction samples first)
    (hbytes : (expected : ℚ) * (90 / 100) ≤
      (windowMeasurement direction samples first last).counterBytes)
    (hbusy : 0 < (windowMeasurement direction samples first last).busySeconds)
    (hspan : 0 < (windowMeasurement direction samples first last).activitySpanSeconds) :
    activeWindow csv direction expected = .ok (windowMeasurement direction samples first last) := by
  rw [activeWindow_eq hload hw]
  simp only [Check.require, hwords, hbytes, hbusy, hspan, decide_true, Bool.and_self, if_true]
  rfl

theorem activeWindow_noActivity_iff (hload : loadSamples csv = .ok samples) :
    activeWindow csv direction expected = .error (.noActivity direction csv.path) ↔
      ∀ k < samples.length - 1, ¬ Busy direction samples k := by
  refine ⟨fun herr k hk hb => ?_, activeWindow_quiet hload⟩
  obtain ⟨first, last, hw⟩ := exists_activeWindow_iff.mpr ⟨k, hk, hb⟩
  rw [activeWindow_eq hload hw] at herr
  simp only [Check.require_error, reduceCtorEq, and_false, false_or] at herr
  exact nomatch herr.2.2.2

theorem activitySpanSeconds_eq (first last : Nat) :
    (windowMeasurement direction samples first last).activitySpanSeconds =
      seconds samples last - seconds samples first := by
  unfold windowMeasurement seconds
  ring

/-- What a series measures: its window's bytes, few bytes outside it, and the time
of its active intervals, which is part of the window. -/
structure Measures (direction : Direction) (samples : List RoceSample) (first last : Nat)
    (m : Measurement) : Prop where
  counterBytes : m.counterBytes = 4 * ∑ k ∈ Ico first last, increment direction samples k
  outside : 4 * ∑ k ∈ range (samples.length - 1) \ Ico first last,
    increment direction samples k ≤ 65535 * (range (samples.length - 1) \ Ico first last).card
  busySeconds : m.busySeconds = ∑ k ∈ (range (samples.length - 1)).filter
    (Busy direction samples), (seconds samples (k + 1) - seconds samples k)
  span : m.activitySpanSeconds = seconds samples last - seconds samples first
  busy_le_span : m.busySeconds ≤ m.activitySpanSeconds

theorem sum_outside_le (hw : ActiveWindow direction samples first last) :
    4 * ∑ k ∈ range (samples.length - 1) \ Ico first last, increment direction samples k ≤
      65535 * (range (samples.length - 1) \ Ico first last).card := by
  rw [mul_sum]
  have hle : ∀ k ∈ range (samples.length - 1) \ Ico first last,
      4 * increment direction samples k ≤ 65535 := by
    intro k hk
    obtain ⟨hrange, hout⟩ := mem_sdiff.mp hk
    by_contra hgt
    have hb : Busy direction samples k := by
      unfold Busy
      omega
    exact hout (mem_Ico.mpr (hw.covers k (mem_range.mp hrange) hb))
  have hsum := sum_le_card_nsmul _ _ _ hle
  rw [nsmul_eq_mul] at hsum
  linarith

theorem windowMeasurement_measures (h : Increasing direction samples)
    (hw : ActiveWindow direction samples first last) :
    Measures direction samples first last (windowMeasurement direction samples first last) where
  counterBytes := by
    rw [sum_increment (Nat.le_of_lt hw.lt), mul_comm]
    rfl
  outside := sum_outside_le hw
  busySeconds := by
    rw [hw.filter_range]
    exact busySeconds_eq hw
  span := activitySpanSeconds_eq first last
  busy_le_span := by
    rw [activitySpanSeconds_eq]
    exact busySeconds_le_span h hw

end

section

variable {before after : List RoceSample} {k : Nat}

theorem getElem?_shifted (hk : k < samples.length) :
    (before ++ samples ++ after)[k + before.length]? = samples[k]? := by
  rw [List.append_assoc, List.getElem?_append_right (Nat.le_add_left _ _), Nat.add_sub_cancel,
    List.getElem?_append_left hk]

theorem wordsAt_shifted (hk : k < samples.length) :
    wordsAt direction (before ++ samples ++ after) (k + before.length) =
      wordsAt direction samples k := by
  rw [wordsAt, getElem?_shifted hk, wordsAt]

theorem seconds_shifted (hk : k < samples.length) :
    seconds (before ++ samples ++ after) (k + before.length) = seconds samples k := by
  rw [seconds, nsAt, getElem?_shifted hk, seconds, nsAt]

theorem increment_shifted (hk : k < samples.length - 1) :
    increment direction (before ++ samples ++ after) (k + before.length) =
      increment direction samples k := by
  have hnext : k + before.length + 1 = k + 1 + before.length := by omega
  rw [increment, hnext, wordsAt_shifted (by omega), wordsAt_shifted (by omega), increment]

theorem busy_shifted (hk : k < samples.length - 1) :
    Busy direction (before ++ samples ++ after) (k + before.length) ↔
      Busy direction samples k := by
  rw [Busy, increment_shifted hk, Busy]

/-- Samples around a series that only repeat its end values. -/
structure Idle (direction : Direction) (samples before after : List RoceSample) : Prop where
  before : ∀ s ∈ before, direction.words s = wordsAt direction samples 0
  after : ∀ s ∈ after, direction.words s = wordsAt direction samples (samples.length - 1)

theorem wordsAt_before (hidle : Idle direction samples before after) (hne : 0 < samples.length)
    (hk : k ≤ before.length) :
    wordsAt direction (before ++ samples ++ after) k = wordsAt direction samples 0 := by
  by_cases hlt : k < before.length
  · rw [wordsAt, List.append_assoc, List.getElem?_append_left hlt,
      List.getElem?_eq_getElem hlt]
    exact hidle.before _ (List.getElem_mem hlt)
  · have heq : k = 0 + before.length := by omega
    rw [heq, wordsAt_shifted hne]

theorem wordsAt_after (hidle : Idle direction samples before after) (hne : 0 < samples.length)
    (hlo : samples.length - 1 + before.length ≤ k)
    (hk : k < (before ++ samples ++ after).length) :
    wordsAt direction (before ++ samples ++ after) k =
      wordsAt direction samples (samples.length - 1) := by
  by_cases heq : k = samples.length - 1 + before.length
  · rw [heq, wordsAt_shifted (by omega)]
  · have hlen : (before ++ samples).length ≤ k := by
      rw [List.length_append]
      omega
    rw [wordsAt, List.getElem?_append_right hlen]
    have hin : k - (before ++ samples).length < after.length := by
      rw [List.length_append] at hk
      omega
    rw [List.getElem?_eq_getElem hin]
    exact hidle.after _ (List.getElem_mem hin)

theorem not_busy_of_eq (h : wordsAt direction samples (k + 1) = wordsAt direction samples k) :
    ¬ Busy direction samples k := by
  unfold Busy increment
  omega

theorem ActiveWindow.shift {first last : Nat} (hw : ActiveWindow direction samples first last)
    (hidle : Idle direction samples before after) :
    ActiveWindow direction (before ++ samples ++ after) (first + before.length)
      (last + before.length) := by
  have hlt := hw.lt
  have hle := hw.le
  have hne : 0 < samples.length := by omega
  have hlen : (before ++ samples ++ after).length =
      before.length + samples.length + after.length := by
    rw [List.length_append, List.length_append]
  refine BusyWindow.Spans.shift hw before.length _ (by omega) (fun k hk => busy_shifted hk)
    (fun k hk => ?_) (fun k hlo hk => ?_)
  · apply not_busy_of_eq
    rw [wordsAt_before hidle hne (by omega), wordsAt_before hidle hne (by omega)]
  · apply not_busy_of_eq
    rw [wordsAt_after hidle hne (by omega) (by omega), wordsAt_after hidle hne (by omega) (by omega)]

theorem busySeconds_shifted {first last : Nat} (hw : ActiveWindow direction samples first last)
    (hidle : Idle direction samples before after) :
    (activeSteps direction (before ++ samples ++ after)).busySeconds =
      (activeSteps direction samples).busySeconds := by
  have hle := hw.le
  have hlt := hw.lt
  rw [busySeconds_eq (hw.shift hidle), busySeconds_eq hw, sum_filter, sum_filter,
    ← sum_Ico_add']
  refine sum_congr rfl fun k hk => ?_
  have hmem := mem_Ico.mp hk
  have hnext : k + before.length + 1 = k + 1 + before.length := by omega
  simp only [busy_shifted (show k < samples.length - 1 by omega), hnext]
  rw [seconds_shifted (by omega), seconds_shifted (by omega)]

/-- Idle samples around a series change none of the three figures. -/
theorem activeWindow_idle {first last : Nat} {csv' : CsvFile} {expected : Int}
    (h : Increasing direction samples)
    (hload : loadSamples csv' = .ok (before ++ samples ++ after))
    (hw : ActiveWindow direction samples first last)
    (hidle : Idle direction samples before after)
    (hbytes : (expected : ℚ) * (90 / 100) ≤
      (windowMeasurement direction samples first last).counterBytes) :
    ∃ m, activeWindow csv' direction expected = .ok m ∧
      m.counterBytes = (windowMeasurement direction samples first last).counterBytes ∧
      m.busySeconds = (windowMeasurement direction samples first last).busySeconds ∧
      m.activitySpanSeconds =
        (windowMeasurement direction samples first last).activitySpanSeconds := by
  have hlt := hw.lt
  have hle := hw.le
  have hwords : wordsAt direction (before ++ samples ++ after) (last + before.length) -
      wordsAt direction (before ++ samples ++ after) (first + before.length) =
      wordsAt direction samples last - wordsAt direction samples first := by
    rw [wordsAt_shifted (by omega), wordsAt_shifted (by omega)]
  have hcounter : (windowMeasurement direction (before ++ samples ++ after)
      (first + before.length) (last + before.length)).counterBytes =
      (windowMeasurement direction samples first last).counterBytes :=
    congrArg (· * 4) hwords
  have hspan : (windowMeasurement direction (before ++ samples ++ after)
      (first + before.length) (last + before.length)).activitySpanSeconds =
      (windowMeasurement direction samples first last).activitySpanSeconds := by
    rw [activitySpanSeconds_eq, activitySpanSeconds_eq, seconds_shifted (by omega),
      seconds_shifted (by omega)]
  have hbusy : (windowMeasurement direction (before ++ samples ++ after)
      (first + before.length) (last + before.length)).busySeconds =
      (windowMeasurement direction samples first last).busySeconds :=
    busySeconds_shifted hw hidle
  have hpos : 0 < (windowMeasurement direction samples first last).busySeconds :=
    busySeconds_pos h hw
  have hlong := (windowMeasurement_measures h hw).busy_le_span
  refine ⟨_, activeWindow_ok hload (hw.shift hidle) ?_ ?_ ?_ ?_, hcounter, hbusy, hspan⟩
  · rw [hwords]
    exact words_window_nonneg h hw
  · rwa [hcounter]
  · rwa [hbusy]
  · rw [hspan]
    exact lt_of_lt_of_le hpos hlong

end

/-- For every series the sampler can write: there is no activity exactly if no
interval is busy, and otherwise the figures are those of the smallest window of
all busy intervals, whatever idle samples are added around it. -/
theorem activeWindow_measures {csv : CsvFile} (hload : loadSamples csv = .ok samples)
    (h : Increasing direction samples) (expected : Int) :
    (activeWindow csv direction expected = .error (.noActivity direction csv.path) ↔
      ∀ k < samples.length - 1, ¬ Busy direction samples k) ∧
    ((∃ k < samples.length - 1, Busy direction samples k) →
      ∃ first last, ActiveWindow direction samples first last ∧
        ((expected : ℚ) * (90 / 100) ≤
            ((4 * ∑ k ∈ Ico first last, increment direction samples k : Int) : ℚ) →
          ∃ m, activeWindow csv direction expected = .ok m ∧
            Measures direction samples first last m ∧
            ∀ csv' before after, loadSamples csv' = .ok (before ++ samples ++ after) →
              Idle direction samples before after →
              ∃ m', activeWindow csv' direction expected = .ok m' ∧
                m'.counterBytes = m.counterBytes ∧ m'.busySeconds = m.busySeconds ∧
                m'.activitySpanSeconds = m.activitySpanSeconds)) := by
  refine ⟨activeWindow_noActivity_iff hload, fun hbusy => ?_⟩
  obtain ⟨first, last, hw⟩ := exists_activeWindow_iff.mpr hbusy
  refine ⟨first, last, hw, fun hthr => ?_⟩
  have hm := windowMeasurement_measures h hw
  have hbytes : (expected : ℚ) * (90 / 100) ≤
      (windowMeasurement direction samples first last).counterBytes := by
    rwa [hm.counterBytes]
  have hpos : 0 < (windowMeasurement direction samples first last).busySeconds :=
    busySeconds_pos h hw
  refine ⟨_, activeWindow_ok hload hw (words_window_nonneg h hw) hbytes hpos
    (lt_of_lt_of_le hpos hm.busy_le_span), hm, fun csv' before after hload' hidle => ?_⟩
  exact activeWindow_idle h hload' hw hidle hbytes

def burstSamples : List RoceSample := [⟨0, 0, 0⟩, ⟨1000000, 20000, 0⟩, ⟨2000000, 20000, 0⟩]

def burstCsv : CsvFile where
  path := "roce-cold-node2.csv"
  fieldnames := requiredColumns
  rows := [["0".toList, "0".toList, "0".toList],
    ["1000000".toList, "20000".toList, "0".toList],
    ["2000000".toList, "20000".toList, "0".toList]]

/-- The same, watched for longer. -/
def idleBurstCsv : CsvFile :=
  { burstCsv with
    rows := burstCsv.rows ++ [["3000000".toList, "20000".toList, "0".toList]] }

theorem activeWindow_measures_burst : ∃ m m',
    activeWindow burstCsv .rx 80000 = .ok m ∧ m.counterBytes = 80000 ∧
      activeWindow idleBurstCsv .rx 80000 = .ok m' ∧ m'.counterBytes = m.counterBytes ∧
        m'.busySeconds = m.busySeconds ∧ m'.activitySpanSeconds = m.activitySpanSeconds := by
  have hload : loadSamples burstCsv = .ok burstSamples := by decide +kernel
  have hincreasing : Increasing .rx burstSamples := ⟨by decide, by decide⟩
  have hload' : loadSamples idleBurstCsv = .ok ([] ++ burstSamples ++ [⟨3000000, 20000, 0⟩]) := by
    decide +kernel
  have hidle : Idle .rx burstSamples [] [⟨3000000, 20000, 0⟩] := ⟨by decide, by decide⟩
  have hburst : ActiveWindow .rx burstSamples 0 1 :=
    ⟨by decide, by decide, by decide, by decide, by decide⟩
  have hbytes : 4 * ∑ k ∈ Ico 0 1, increment .rx burstSamples k = 80000 := by decide
  obtain ⟨first, last, hw, hmeasured⟩ :=
    (activeWindow_measures hload hincreasing 80000).2 ⟨0, by decide, by decide⟩
  obtain ⟨rfl, rfl⟩ := hburst.unique hw
  obtain ⟨m, hm, hfigures, hpadded⟩ := hmeasured (by rw [hbytes]; norm_num)
  obtain ⟨m', hm', hsame⟩ := hpadded idleBurstCsv [] _ hload' hidle
  exact ⟨m, m', hm, hfigures.counterBytes.trans hbytes, hm', hsame⟩

end PdDisaggregation
