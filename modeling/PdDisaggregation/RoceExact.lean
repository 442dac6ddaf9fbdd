import PdDisaggregation.RoceReport

/-! With exact numbers, the report measures a file as `activeWindow` and
`throughputRecord` do. -/

namespace PdDisaggregation

namespace RoceReport

def Measurement.ofExact (m : PdDisaggregation.Measurement) : Measurement ℚ where
  counter := m.counter
  direction := m.direction
  counterBytes := m.counterBytes
  busySeconds := m.busySeconds
  activitySpanSeconds := m.activitySpanSeconds
  sampleCount := m.sampleCount
  sampleIntervalMs := m.sampleIntervalMs
  busyIntervalCount := m.busyIntervalCount

def ThroughputRecord.ofExact (r : PdDisaggregation.ThroughputRecord) : ThroughputRecord ℚ where
  label := r.label
  path := r.path
  measurement := .ofExact r.measurement
  durationSeconds := r.durationSeconds
  durationSource := r.durationSource
  throughputMibPerSecond := r.throughputMibPerSecond
  throughputGigabitsPerSecond := r.throughputGigabitsPerSecond
  activitySpanMibPerSecond := r.activitySpanMibPerSecond
  sampledBusyLowerBoundMibPerSecond := r.sampledBusyLowerBoundMibPerSecond
  sampledBusyLowerBoundGigabitsPerSecond := r.sampledBusyLowerBoundGigabitsPerSecond

def lift {α β : Type} (f : α → β) (x : Except RoceError α) : Except Failure β :=
  (x.mapError .roce).map f

variable {α β γ : Type} {f : β → γ} {e : RoceError} {test : Bool}

@[simp] theorem lift_pure (b : β) : lift f (pure b) = pure (f b) := rfl

@[simp] theorem lift_require {next : Unit → Except RoceError β} :
    lift f (Check.require test e >>= next) =
      Check.require test (.roce e) >>= fun u => lift f (next u) := by
  cases test <;> rfl

@[simp] theorem lift_orElse {value : Option α} {next : α → Except RoceError β} :
    lift f (Check.orElse value e >>= next) =
      Check.orElse value (.roce e) >>= fun a => lift f (next a) := by
  cases value <;> rfl

theorem lift_bind {x : Except RoceError α} {next : α → Except RoceError β} :
    lift f (x >>= next) = lift id x >>= fun a => lift f (next a) := by
  cases x <;> rfl

theorem lift_mapM {g : α → Except RoceError β} {l : List α} :
    lift id (l.mapM g) = l.mapM fun a => lift id (g a) := by
  induction l with
  | nil => rfl
  | cons a l ih =>
    rw [List.mapM_cons, List.mapM_cons, ← ih, lift_bind]
    cases lift id (g a) with
    | error e => rfl
    | ok b =>
      rw [Check.ok_bind, Check.ok_bind, lift_bind]
      rfl

variable {csv : CsvFile} {row : List Text} {path : String} {text : Text}

theorem column_exact (name : String) : column ℚ csv row name = lift id (do
    let text ← Check.orElse (csv.field row name) (.missingField name)
    Check.orElse (pyInt text) (.notAnInt text)) := by
  rw [lift_orElse, column]
  apply bind_congr
  intro text
  show Check.orElse (pyInt text) _ = _
  cases pyInt text <;> rfl

theorem loadRow_exact : loadRow ℚ csv row = lift id (PdDisaggregation.loadRow csv row) := by
  rw [loadRow, PdDisaggregation.loadRow]
  dsimp only
  rw [lift_bind, ← column_exact]
  apply bind_congr
  intro monotonicNs
  rw [lift_bind, ← column_exact]
  apply bind_congr
  intro portRcvDataWords
  rw [lift_bind, ← column_exact]
  rfl

/-- Without a field too long for the reader. -/
theorem loadSamples_exact (hread : (Csv.read text).2 = none) :
    loadSamples ℚ path text = lift id (PdDisaggregation.loadSamples (csvFile path text)) := by
  rw [loadSamples, PdDisaggregation.loadSamples, hread, ite_self, lift_require]
  show Check.require (hasColumns _) _ >>= _ = _
  apply bind_congr
  intro u
  rw [lift_bind, lift_mapM]
  simp only [← loadRow_exact]
  apply bind_congr
  intro samples
  rw [lift_require]
  rfl

variable {direction : Direction} {samples : List RoceSample} {expected : Int}

theorem median_exact {xs : List ℚ} (h : xs ≠ []) : median xs = .ok (PdDisaggregation.median xs) := by
  have hle : (fun a b : ℚ => !PyFloat.lt b a) = fun a b => decide (a ≤ b) := by
    funext a b
    show (!decide (b < a)) = decide (a ≤ b)
    rw [← decide_not, decide_eq_decide]
    exact not_lt
  have hlen : 0 < (xs.mergeSort fun a b => decide (a ≤ b)).length := by
    rw [List.length_mergeSort]
    exact List.length_pos_iff.mpr h
  have htwo : (2.0 : ℚ) = 2 := by norm_num
  rw [median, PdDisaggregation.median, hle]
  rw [List.getElem?_eq_getElem (by omega), List.getElem?_eq_getElem (by omega)]
  simp only [List.getD_eq_getElem?_getD, htwo]
  rw [List.getElem?_eq_getElem (by omega), List.getElem?_eq_getElem (by omega)]
  rfl

theorem ratios_exact {l : List Nat} {n : Nat → Int} {d : Int} :
    (l.mapM fun i => (ratio (n i) d : Except Failure ℚ)) = .ok (l.map fun i => (n i : ℚ) / d) := by
  induction l with
  | nil => rfl
  | cons i l ih =>
    rw [List.mapM_cons, ih]
    rfl

theorem sampleInterval_exact (h : 2 ≤ samples.length) :
    sampleInterval samples = .ok (PdDisaggregation.median <|
      (List.range' 1 (samples.length - 1)).map fun index =>
        (nsAt samples index - nsAt samples (index - 1) : ℚ) / 1000000) := by
  rw [sampleInterval, ratios_exact, Check.ok_bind, median_exact]
  · simp [stepNs, indices]
  · simp [indices]
    omega

theorem foldl_activeStep (l : List Nat) (found : ActiveSteps) :
    l.foldl (activeStep direction samples) found =
      { activeIndices := found.activeIndices ++ l.filter (isActive direction samples)
        busySeconds := ((l.filter (isActive direction samples)).map fun index =>
          (stepNs samples index : ℚ) / 1000000000).foldl (· + ·) found.busySeconds } := by
  induction l generalizing found with
  | nil => simp
  | cons index l ih =>
    rw [List.foldl_cons, ih]
    cases h : isActive direction samples index with
    | true =>
      have hactive : activeStep direction samples found index =
          { activeIndices := found.activeIndices ++ [index]
            busySeconds := found.busySeconds + (stepNs samples index : ℚ) / 1000000000 } := by
        rw [activeStep, stepNs]
        rw [isActive, Bool.and_eq_true, decide_eq_true_eq, decide_eq_true_eq] at h
        rw [if_pos h, Int.cast_sub]
      simp [hactive, h]
    | false =>
      have hidle : activeStep direction samples found index = found := by
        rw [activeStep]
        rw [isActive, Bool.and_eq_false_iff, decide_eq_false_iff_not, decide_eq_false_iff_not] at h
        rw [if_neg (by tauto)]
      simp [hidle, h]

theorem activeSteps_exact : activeSteps direction samples =
    { activeIndices := activeIndices direction samples
      busySeconds := ((activeIndices direction samples).map fun index =>
        (stepNs samples index : ℚ) / 1000000000).foldl (· + ·) 0 } := by
  rw [activeSteps, foldl_activeStep]
  rfl

theorem ratio_exact {n d : Int} : (ratio n d : Except Failure ℚ) = .ok (n / d) := rfl

theorem expected_exact {n : Int} :
    (!PyNumber.intLt n ((expected : ℚ) * (0.90 : ℚ))) = decide ((expected : ℚ) * (90 / 100) ≤ n) := by
  show (!decide ((n : ℚ) < (expected : ℚ) * (0.90 : ℚ))) = _
  rw [← decide_not, decide_eq_decide, not_lt]
  norm_num

theorem positive_exact {x y : ℚ} :
    (!(PyFloat.le x 0.0 || PyFloat.le y 0.0)) = (decide (0 < x) && decide (0 < y)) := by
  have hle (z : ℚ) : (!PyFloat.le z 0.0) = decide (0 < z) := by
    show (!decide (z ≤ 0.0)) = decide (0 < z)
    rw [← decide_not, decide_eq_decide, not_le]
    norm_num
  rw [Bool.not_or, hle, hle]

/-- The part of `activeWindow` after the interval between samples. -/
theorem activityTimes_exact : activityTimes path direction expected samples = lift id (do
    let steps := activeSteps direction samples
    Check.require (!steps.activeIndices.isEmpty) (.noActivity direction path)
    let first := steps.activeIndices.headD 0 - 1
    let last := steps.activeIndices.getLastD 0
    let deltaWords := wordsAt direction samples last - wordsAt direction samples first
    Check.require (0 ≤ deltaWords) (.counterDecreased path)
    let counterBytes := deltaWords * counterUnitBytes
    Check.require ((expected : ℚ) * (90 / 100) ≤ counterBytes)
      (.fewBytes counterBytes direction path expected)
    let activitySpanSeconds := (nsAt samples last - nsAt samples first : ℚ) / 1000000000
    Check.require (0 < steps.busySeconds && 0 < activitySpanSeconds) (.invalidDuration path)
    return (steps.busySeconds, activitySpanSeconds)) := by
  have hexpected {f : ℚ → Except Failure (ℚ × ℚ)} :
      (Check.orElse (PyFloat.ofInt expected) .overflow >>= f) = f expected := rfl
  have hzero : (0.0 : ℚ) = 0 := by norm_num
  rw [activityTimes, ratios_exact]
  simp only [ratio_exact, hexpected, expected_exact, positive_exact, Check.ok_bind]
  simp only [activeSteps_exact, lift_require, lift_pure, hzero, windowWords, spanNs,
    ← Int.cast_sub]
  rfl

theorem activeWindow_exact {run : RunDir ℚ} (htext : run.csv path = some text)
    (hread : (Csv.read text).2 = none) :
    activeWindow run path direction expected = lift Measurement.ofExact
      (PdDisaggregation.activeWindow (csvFile path text) direction expected) := by
  rw [activeWindow, htext, Check.orElse, Check.ok_bind, loadSamples_exact hread,
    PdDisaggregation.activeWindow, lift_bind]
  cases hload : PdDisaggregation.loadSamples (csvFile path text) with
  | error e => rfl
  | ok samples =>
    have hlen : 2 ≤ samples.length := by
      rw [PdDisaggregation.loadSamples, Check.seq_ok, Check.bind_ok] at hload
      obtain ⟨-, _, -, hload⟩ := hload
      rw [Check.seq_ok, Check.require_ok, decide_eq_true_eq] at hload
      obtain ⟨hlen, hload⟩ := hload
      obtain rfl := Except.ok.inj hload
      exact hlen
    show measure path direction expected samples = _
    rw [measure, sampleInterval_exact hlen, Check.ok_bind, activityTimes_exact]
    simp only [lift_require, lift_pure, bind_assoc, pure_bind, activeSteps_exact]
    rfl

theorem divide_zero {x : ℚ} : divide x 0 = .error (.roce .divisionByZero) := rfl

theorem divide_exact {x y : ℚ} (h : y ≠ 0) : divide x y = .ok (x / y) := by
  have hzero : PyFloat.isZero y = false := decide_eq_false h
  rw [divide, hzero]
  rfl

theorem throughputRecord_exact {label pathName source : String}
    {m : PdDisaggregation.Measurement} {duration : ℚ} :
    throughputRecord label pathName (.ofExact m) duration source = lift ThroughputRecord.ofExact
      (PdDisaggregation.throughputRecord label pathName m duration source) := by
  rw [throughputRecord, PdDisaggregation.throughputRecord]
  simp only [ratio_exact, Check.ok_bind, lift_require, lift_pure, Measurement.ofExact]
  by_cases hduration : duration = 0
  · rw [hduration, divide_zero]
    rfl
  by_cases hspan : m.activitySpanSeconds = 0
  · rw [divide_exact hduration, divide_exact hduration, hspan, divide_zero]
    simp [Check.require]
    rfl
  by_cases hbusy : m.busySeconds = 0
  · rw [divide_exact hduration, divide_exact hduration, divide_exact hspan, hbusy, divide_zero]
    simp [Check.require]
    rfl
  rw [divide_exact hduration, divide_exact hduration, divide_exact hspan, divide_exact hbusy,
    divide_exact hbusy]
  simp [Check.require, hduration, hspan, hbusy]
  rfl

end RoceReport

end PdDisaggregation
