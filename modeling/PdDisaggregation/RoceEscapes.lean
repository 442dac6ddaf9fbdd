import PdDisaggregation.RoceEvidence

/-! Which evidence makes `summarize` stop with an exception `main` does not report: a
row too short for a column, a field too long for the reader, a number out of a float's
range, a transfer time of zero. -/

namespace PdDisaggregation

namespace RoceReport

/-- Stops with an exception `main` does not catch. -/
def Escapes {α : Type} (x : Except Failure α) : Prop :=
  Check.Fails (fun e => e.reported = false) x

section

variable (F : Type) [PyNumber F]

/-- The row has no field for a column, and integers in the columns read before. -/
def ShortRow (csv : CsvFile) (row : List Text) : Prop :=
  csv.field row "monotonic_ns" = none ∨ intAt F csv row "monotonic_ns" ≠ none ∧
    (csv.field row "port_rcv_data_words" = none ∨ intAt F csv row "port_rcv_data_words" ≠ none ∧
      csv.field row "port_xmit_data_words" = none)

/-- The reader finds a field too long in the first line, or the header is as it should be
and, with only good rows in front, there is a short row or a field too long. -/
def FileCrashes (path : String) (text : Text) : Prop :=
  (Csv.read text).1 = [] ∧ (Csv.read text).2 ≠ none ∨
    hasColumns (csvFile path text) = true ∧
      ((∃ before row after, (csvFile path text).rows = before ++ row :: after ∧
          (∀ r ∈ before, GoodRow F (csvFile path text) r) ∧ ShortRow F (csvFile path text) row) ∨
        (∀ r ∈ (csvFile path text).rows, GoodRow F (csvFile path text) r) ∧
          (Csv.read text).2 ≠ none)

/-- A time or the expected size is out of range. -/
def ActivityOverflow (direction : Direction) (expected : Int) (samples : List RoceSample) : Prop :=
  (∃ index ∈ activeIndices direction samples, ¬ InRange F (stepNs samples index) 1000000000) ∨
    activeIndices direction samples ≠ [] ∧ 0 ≤ windowWords direction samples ∧
      ((PyFloat.ofInt expected : Option F) = none ∨
        ∃ payload : F, PyFloat.ofInt expected = some payload ∧
          PyNumber.intLt (windowWords direction samples * counterUnitBytes)
            (payload * (0.90 : F)) = false ∧
          ¬ InRange F (spanNs direction samples) 1000000000)

def SamplesOverflow (direction : Direction) (expected : Int) (samples : List RoceSample) : Prop :=
  (∃ index ∈ indices samples, ¬ InRange F (stepNs samples index) 1000000) ∨
    ActivityOverflow F direction expected samples

def WindowCrashes (direction : Direction) (expected : Int) (name : String) (text : Text) : Prop :=
  FileCrashes F name text ∨
    Readable F name text ∧ SamplesOverflow F direction expected (samplesIn F name text)

end

variable {F : Type} [PyNumber F]

/-- The sampler file of node2 crashes, or it can be measured and the transfer time is
zero or a rate out of range. -/
def DecodeCrashes (run : RunDir F) (expected : Int) (times : List (TransferTime F))
    (index : Nat) : Prop :=
  ∃ text, run.csv (node2Csv index) = some text ∧
    (WindowCrashes F .rx expected (node2Csv index) text ∨
      WindowMeasurable F .rx expected (node2Csv index) text ∧
        (¬ BytesInRange F (windowBytes F .rx (node2Csv index) text) ∨
          PyFloat.isZero (timeAt times index) = true))

/-- The sampler file of node3 crashes, or a rate is out of range. -/
def NfsCrashes (run : RunDir F) (expected : Int) (index : Nat) : Prop :=
  ∃ text, run.csv (node3Csv index) = some text ∧
    (WindowCrashes F (node3Direction index) expected (node3Csv index) text ∨
      WindowMeasurable F (node3Direction index) expected (node3Csv index) text ∧
        ¬ BytesInRange F (windowBytes F (node3Direction index) (node3Csv index) text))

def RequestCrashes (run : RunDir F) (expectedPdBytes expectedGdsBytes : Int)
    (times : List (TransferTime F)) (index : Nat) : Prop :=
  DecodeCrashes run expectedPdBytes times index ∨
    DecodeMeasurable run expectedPdBytes times index ∧ NfsCrashes run expectedGdsBytes index

/-- No integer, and not for being NaN. -/
def TooLarge (x : F) (n : Option Int) : Prop := n = none ∧ PyNumber.isNan x = false

def CountOverflows (sizes : ExpectedSizes F) : Prop :=
  ∃ x, sizes.warmSampleCount = some (.float x) ∧ TooLarge x (PyFloat.toInt x)

def SizeOverflows (value : Option (JsonNumber F)) : Prop :=
  ∃ v, value = some v ∧ (toFloat v = none ∨ ∃ mib, toFloat v = some mib ∧
    TooLarge (mib * (1048576.0 : F)) (PyNumber.round (mib * (1048576.0 : F))))

/-- The log has a time for every request, and with all earlier requests measured one
crashes. -/
def LoopCrashes (run : RunDir F) (count expectedPdBytes expectedGdsBytes : Int) : Prop :=
  ∃ log, run.decodeLog = some log ∧ TimesReadable F log (count.toNat + 1) ∧
    ∃ index ≤ count.toNat,
      RequestCrashes run expectedPdBytes expectedGdsBytes (timesIn F log (count.toNat + 1)) index ∧
      ∀ earlier < index, RequestMeasurable run expectedPdBytes expectedGdsBytes
        (timesIn F log (count.toNat + 1)) earlier

/-- In the order of the program. -/
def Crashes (run : RunDir F) : Prop :=
  ∃ sizes, run.comparison = some sizes ∧ (CountOverflows sizes ∨
    ∃ count, sizes.count = some count ∧ (SizeOverflows sizes.expectedPdMib ∨
      ∃ pd, sizeBytes sizes.expectedPdMib = some pd ∧ (SizeOverflows sizes.expectedGdsMib ∨
        ∃ gds, sizeBytes sizes.expectedGdsMib = some gds ∧ LoopCrashes run count pd gds)))

/-- No rate of the record was divided by zero. -/
structure ThroughputRecord.Divisible (r : ThroughputRecord F) : Prop where
  duration : PyFloat.isZero r.durationSeconds = false
  span : PyFloat.isZero r.measurement.activitySpanSeconds = false
  busy : PyFloat.isZero r.measurement.busySeconds = false

def Report.records (report : Report F) : List (ThroughputRecord F) :=
  report.prefillToDecode ++ report.prefillToNfsOffload :: report.nfsToPrefillReload

/-- The summary is written with rates that could be divided, or the failure is one `main`
reports. -/
structure Reported (run : RunDir F) : Prop where
  written : ∀ report, summarize run = .ok report → ∀ r ∈ report.records, r.Divisible
  failed : ∀ e, summarize run = .error e → e.reported = true

open Check

section Programs

variable {α β : Type} {x : Except Failure α} {e : Failure} {test : Bool}

theorem escapes_pure {a : α} : ¬ Escapes (pure a : Except Failure α) := fails_pure

theorem escapes_bind {f : α → Except Failure β} :
    Escapes (x >>= f) ↔ Escapes x ∨ ∃ a, x = .ok a ∧ Escapes (f a) := fails_bind

theorem escapes_seq {x : Except Failure Unit} {f : Unit → Except Failure β} :
    Escapes (x >>= f) ↔ Escapes x ∨ x = .ok () ∧ Escapes (f ()) := fails_seq

theorem escapes_orElse {value : Option α} :
    Escapes (Check.orElse value e) ↔ value = none ∧ e.reported = false := fails_orElse

theorem escapes_require (he : e.reported = true) : ¬ Escapes (Check.require test e) := by
  rw [Escapes, fails_require, he]
  simp

theorem escapes_check {f : Unit → Except Failure β} (he : e.reported = true) :
    Escapes (Check.require test e >>= f) ↔ test = true ∧ Escapes (f ()) := by
  rw [escapes_seq, require_ok]
  exact or_iff_right (escapes_require he)

theorem escapes_found {value : Option α} {f : α → Except Failure β} (he : e.reported = true) :
    Escapes (Check.orElse value e >>= f) ↔ ∃ a, value = some a ∧ Escapes (f a) := by
  simp only [escapes_bind, escapes_orElse, he, orElse_ok, reduceCtorEq, and_false, false_or]

/-- Where every failure of the first part escapes, it does not matter what it gives. -/
theorem escapes_bind_of {f : α → Except Failure β} {p : Prop}
    (hx : ∀ e, x = .error e → e.reported = false) (hf : ∀ a, Escapes (f a) ↔ p) :
    Escapes (x >>= f) ↔ Escapes x ∨ p := by
  rw [escapes_bind]
  cases x with
  | error e => simp [Escapes, hx e rfl]
  | ok a => simp [hf]

end Programs

section Files

variable {csv : CsvFile} {row : List Text} {name path : String} {text : Text}

theorem escapes_column : Escapes (column F csv row name) ↔ csv.field row name = none := by
  simp [column, escapes_bind, escapes_orElse, Failure.reported]

theorem escapes_loadRow : Escapes (loadRow F csv row) ↔ ShortRow F csv row := by
  simp only [loadRow, escapes_bind, escapes_column, escapes_pure, and_false, exists_false, or_false,
    ShortRow, column_ok, exists_and_right, Option.ne_none_iff_exists']

theorem escapes_raiseCsv {e : Option Csv.Error} : Escapes (raiseCsv e) ↔ e ≠ none := by
  cases e <;> simp [raiseCsv, Escapes, Failure.reported]

theorem escapes_rows : Escapes (csv.rows.mapM (loadRow F csv)) ↔
    ∃ before row after, csv.rows = before ++ row :: after ∧
      (∀ r ∈ before, GoodRow F csv r) ∧ ShortRow F csv row := by
  simp only [← escapes_loadRow, ← exists_loadRow_ok]
  exact fails_mapM

theorem escapes_loadSamples : Escapes (loadSamples F path text) ↔ FileCrashes F path text := by
  have hend (samples : List RoceSample) : Escapes (do
      raiseCsv (Csv.read text).2
      Check.require (2 ≤ samples.length) (.roce (.fewSamples path))
      return samples) ↔ (Csv.read text).2 ≠ none := by
    have hfew : (Failure.roce (.fewSamples path)).reported = true := rfl
    rw [escapes_seq, escapes_raiseCsv, escapes_check hfew]
    simp [escapes_pure]
  have hcolumns : (Failure.roce (.unexpectedColumns path)).reported = true := rfl
  rw [loadSamples, escapes_seq, escapes_raiseCsv, raiseCsv_ok, escapes_check hcolumns,
    escapes_bind, escapes_rows]
  simp only [hend, exists_and_right, exists_mapM_ok, loadRow_ok, FileCrashes]
  cases hread : (Csv.read text).1 with
  | nil =>
    have hnone : hasColumns (csvFile path text) = false := by
      simp [hasColumns, csvFile, hread, requiredColumns]
    simp [hnone]
  | cons header records => simp

end Files

section Windows

variable {samples : List RoceSample} {direction : Direction} {path : String} {expected : Int}

theorem ratio_error {n d : Int} {e : Failure} (h : (ratio n d : Except Failure F) = .error e) :
    e.reported = false := by
  unfold ratio at h
  cases hr : (PyNumber.ratio n d : Option F) with
  | some x => simp [hr, Check.orElse] at h
  | none =>
    obtain rfl : Failure.overflow = e := by simpa [hr, Check.orElse] using h
    rfl

theorem escapes_ratio {n d : Int} :
    Escapes (ratio n d : Except Failure F) ↔ ¬ InRange F n d := by
  rw [ratio, escapes_orElse]
  simp [Failure.reported, InRange]

theorem ratios_error {l : List Nat} {n : Nat → Int} {d : Int} {e : Failure}
    (h : l.mapM (fun i => (ratio (n i) d : Except Failure F)) = .error e) : e.reported = false := by
  obtain ⟨i, -, hi⟩ := mapM_error h
  exact ratio_error hi

theorem escapes_ratios {l : List Nat} {n : Nat → Int} {d : Int} :
    Escapes (l.mapM fun i => (ratio (n i) d : Except Failure F)) ↔
      ∃ i ∈ l, ¬ InRange F (n i) d := by
  simp only [← escapes_ratio]
  exact fails_mapM_of_all fun i _ e he => ratio_error he

theorem escapes_median (xs : List F) : ¬ Escapes (median xs) := by
  unfold median
  dsimp only
  split
  · exact fails_ok
  · simp [Escapes, Failure.reported]

theorem escapes_sampleInterval : Escapes (sampleInterval samples : Except Failure F) ↔
    ∃ index ∈ indices samples, ¬ InRange F (stepNs samples index) 1000000 := by
  rw [sampleInterval, escapes_bind_of (p := False) (fun e => ratios_error), escapes_ratios, or_false]
  exact fun xs => iff_of_false (escapes_median xs) not_false

theorem escapes_activityTimes :
    Escapes (activityTimes path direction expected samples : Except Failure (F × F)) ↔
      ActivityOverflow F direction expected samples := by
  have hnone : (Failure.roce (.noActivity direction path)).reported = true := rfl
  have hdecreased : (Failure.roce (.counterDecreased path)).reported = true := rfl
  have hfew : (Failure.roce (.fewBytes (windowWords direction samples * counterUnitBytes) direction
      path expected)).reported = true := rfl
  have hduration : (Failure.roce (.invalidDuration path)).reported = true := rfl
  rw [activityTimes, escapes_bind_of (fun e => ratios_error) fun busy => ?_, escapes_ratios]
  · rfl
  · rw [escapes_check hnone, escapes_check hdecreased, escapes_bind, escapes_orElse]
    simp only [escapes_check hfew, escapes_bind, escapes_ratio, escapes_check hduration,
      escapes_pure]
    simp [Failure.reported]

theorem escapes_measure :
    Escapes (measure path direction expected samples : Except Failure (Measurement F)) ↔
      SamplesOverflow F direction expected samples := by
  have hindices : ActivityOverflow F direction expected samples → indices samples ≠ [] := by
    intro h
    refine indices_ne_nil fun hnil : activeIndices direction samples = [] => ?_
    simp [ActivityOverflow, hnil] at h
  have htimes (interval : F) : Escapes (do
      let times ← activityTimes path direction expected samples
      return measurement direction samples interval times) ↔
        ActivityOverflow F direction expected samples := by
    rw [escapes_bind, escapes_activityTimes]
    simp only [escapes_pure, and_false, exists_false, or_false]
  rw [measure, escapes_bind, SamplesOverflow, ← escapes_sampleInterval]
  simp only [htimes]
  constructor
  · rintro (h | ⟨interval, -, h⟩)
    · exact Or.inl h
    · exact Or.inr h
  · intro h
    by_cases hinterval : Escapes (sampleInterval samples : Except Failure F)
    · exact Or.inl hinterval
    · have hoverflow := h.resolve_left hinterval
      rw [escapes_sampleInterval] at hinterval
      push Not at hinterval
      obtain ⟨m, hm⟩ := (sampleInterval_ok (hindices hoverflow)).mpr hinterval
      exact Or.inr ⟨m, hm, hoverflow⟩

variable {run : RunDir F} {name : String}

theorem escapes_activeWindow :
    Escapes (activeWindow run name direction expected) ↔
      ∃ text, run.csv name = some text ∧ WindowCrashes F direction expected name text := by
  have hfound : (Failure.fileNotFound name).reported = true := rfl
  rw [activeWindow, escapes_found hfound]
  simp only [escapes_bind, escapes_loadSamples, escapes_measure, loadSamples_ok, WindowCrashes,
    and_assoc, exists_and_left, exists_eq_left]

end Windows

section Rates

variable {label pathName source : String} {m : Measurement F} {duration : F}
  {r : ThroughputRecord F}

theorem divide_error {x y : F} {e : Failure} (h : divide x y = .error e) : e.reported = false := by
  cases hy : PyFloat.isZero y with
  | false => simp [divide, hy] at h
  | true =>
    obtain rfl : Failure.roce .divisionByZero = e := by simpa [divide, hy] using h
    rfl

theorem throughputRecord_error {e : Failure}
    (h : throughputRecord label pathName m duration source = .error e) : e.reported = false := by
  refine bind_error (·.reported = false) (fun _ => ratio_error) (fun mib _ h => ?_) h
  refine bind_error (·.reported = false) (fun _ => divide_error) (fun _ _ h => ?_) h
  refine bind_error (·.reported = false) (fun _ => ratio_error) (fun gigabits _ h => ?_) h
  refine bind_error (·.reported = false) (fun _ => divide_error) (fun _ _ h => ?_) h
  refine bind_error (·.reported = false) (fun _ => divide_error) (fun _ _ h => ?_) h
  refine bind_error (·.reported = false) (fun _ => divide_error) (fun _ _ h => ?_) h
  refine bind_error (·.reported = false) (fun _ => divide_error) (fun _ _ h => ?_) h
  contradiction

theorem throughputRecord_divisible
    (h : throughputRecord label pathName m duration source = .ok r) : r.Divisible := by
  simp only [throughputRecord, bind_ok] at h
  obtain ⟨mib, -, _, hduration, gigabits, -, _, -, _, hspan, _, hbusy, _, -, hr⟩ := h
  obtain rfl := Except.ok.inj hr
  exact ⟨(divide_ok.mp hduration).1, (divide_ok.mp hspan).1, (divide_ok.mp hbusy).1⟩

theorem escapes_throughputRecord (hspan : PyFloat.isZero m.activitySpanSeconds = false)
    (hbusy : PyFloat.isZero m.busySeconds = false) :
    Escapes (throughputRecord label pathName m duration source) ↔
      ¬ BytesInRange F m.counterBytes ∨ PyFloat.isZero duration = true := by
  have hok : (∃ r, throughputRecord label pathName m duration source = .ok r) ↔
      BytesInRange F m.counterBytes ∧ PyFloat.isZero duration = false := by
    simp [throughputRecord_ok, hspan, hbusy]
  rw [← not_iff_not, not_or, not_not, Bool.not_eq_true, ← hok]
  constructor
  · intro h
    cases hr : throughputRecord label pathName m duration source with
    | ok r => exact ⟨r, rfl⟩
    | error e => exact absurd ⟨e, hr, throughputRecord_error hr⟩ h
  · rintro ⟨r, hr⟩ ⟨e, he, -⟩
    rw [hr] at he
    contradiction

end Rates

section Requests

variable {run : RunDir F} {expectedPdBytes expectedGdsBytes : Int}
  {times : List (TransferTime F)} {index : Nat}

theorem escapes_windowRecord {label pathName source name : String} {direction : Direction}
    {expected : Int} {duration : Measurement F → F} {zero : Prop}
    (hzero : ∀ m, activeWindow run name direction expected = .ok m →
      (PyFloat.isZero (duration m) = true ↔ zero)) :
    Escapes (do
      let m ← activeWindow run name direction expected
      throughputRecord label pathName m (duration m) source) ↔
        ∃ text, run.csv name = some text ∧ (WindowCrashes F direction expected name text ∨
          WindowMeasurable F direction expected name text ∧
            (¬ BytesInRange F (windowBytes F direction name text) ∨ zero)) := by
  have hrecord : (∃ m, activeWindow run name direction expected = .ok m ∧
      Escapes (throughputRecord label pathName m (duration m) source)) ↔
        ∃ m, activeWindow run name direction expected = .ok m ∧
          (¬ BytesInRange F m.counterBytes ∨ zero) := by
    apply exists_congr
    intro m
    apply and_congr_right
    intro hm
    obtain ⟨hbusy, hspan⟩ := activeWindow_nonzero hm
    rw [escapes_throughputRecord hspan hbusy, hzero m hm]
  rw [escapes_bind, escapes_activeWindow, hrecord,
    activeWindow_ok (p := fun bytes => ¬ BytesInRange F bytes ∨ zero)]
  simp only [and_or_left, exists_or]

theorem escapes_prefillToDecodeRecord :
    Escapes (prefillToDecodeRecord run expectedPdBytes times index) ↔
      DecodeCrashes run expectedPdBytes times index :=
  escapes_windowRecord fun _ _ => Iff.rfl

theorem escapes_nfsRecord :
    Escapes (nfsRecord run expectedGdsBytes index) ↔ NfsCrashes run expectedGdsBytes index := by
  have hspan (m : Measurement F)
      (hm : activeWindow run (node3Csv index) (node3Direction index) expectedGdsBytes = .ok m) :
      PyFloat.isZero m.activitySpanSeconds = true ↔ False := by
    simp [(activeWindow_nonzero hm).2]
  rw [nfsRecord, escapes_windowRecord hspan]
  simp only [or_false, NfsCrashes]

theorem escapes_measureRequest :
    Escapes (measureRequest run expectedPdBytes expectedGdsBytes times index) ↔
      RequestCrashes run expectedPdBytes expectedGdsBytes times index := by
  have hnfs (pToD : ThroughputRecord F) : Escapes (do
      let nfs ← nfsRecord run expectedGdsBytes index
      return (pToD, nfs)) ↔ NfsCrashes run expectedGdsBytes index := by
    rw [escapes_bind, escapes_nfsRecord]
    simp [escapes_pure]
  rw [measureRequest, escapes_bind, escapes_prefillToDecodeRecord, RequestCrashes,
    ← prefillToDecodeRecord_ok]
  simp only [hnfs, exists_and_right]

theorem measureRequest_divisible {r : ThroughputRecord F × ThroughputRecord F}
    (h : measureRequest run expectedPdBytes expectedGdsBytes times index = .ok r) :
    r.1.Divisible ∧ r.2.Divisible := by
  simp only [measureRequest, prefillToDecodeRecord, nfsRecord, bind_ok] at h
  obtain ⟨pToD, ⟨m, -, hpToD⟩, nfs, ⟨m', -, hnfs⟩, hr⟩ := h
  obtain rfl := Except.ok.inj hr
  exact ⟨throughputRecord_divisible hpToD, throughputRecord_divisible hnfs⟩

variable {sizes : ExpectedSizes F} {x : F} {n : Option Int}

theorem escapes_convert : Escapes (convert x n) ↔ TooLarge x n := by
  rw [convert, escapes_orElse, TooLarge]
  cases h : PyNumber.isNan x <;> simp [Failure.reported]

theorem escapes_warmCount : Escapes (warmCount sizes) ↔ CountOverflows sizes := by
  unfold warmCount
  split
  · rename_i h
    simp [CountOverflows, h, Escapes]
  · rename_i n h
    simp [CountOverflows, h, Escapes]
  · rename_i x h
    simp [CountOverflows, h, escapes_convert]

theorem escapes_expectedBytes {key : String} {value : Option (JsonNumber F)} :
    Escapes (expectedBytes key value) ↔ SizeOverflows value := by
  have hkey : (Failure.keyError key).reported = true := rfl
  rw [expectedBytes, escapes_found hkey]
  simp only [escapes_bind, escapes_orElse, escapes_convert, orElse_ok]
  simp [SizeOverflows, Failure.reported]

/-- The loop over the labels stops at the first request that crashes. -/
theorem escapes_requests {n : Nat} :
    (Escapes (measureRequest run expectedPdBytes expectedGdsBytes times 0) ∨
      ∃ cold, measureRequest run expectedPdBytes expectedGdsBytes times 0 = .ok cold ∧
        Escapes ((List.range' 1 n).mapM
          (measureRequest run expectedPdBytes expectedGdsBytes times))) ↔
      ∃ index ≤ n, RequestCrashes run expectedPdBytes expectedGdsBytes times index ∧
        ∀ earlier < index, RequestMeasurable run expectedPdBytes expectedGdsBytes times earlier := by
  have hloop : Escapes ((List.range' 0 (n + 1)).mapM
      (measureRequest run expectedPdBytes expectedGdsBytes times)) ↔ _ := fails_mapM_range'
  rw [List.range'_succ, List.mapM_cons, escapes_bind] at hloop
  simp only [escapes_bind, escapes_pure, and_false, exists_false, or_false, Nat.zero_le,
    Nat.zero_add, true_and, Nat.lt_succ_iff, forall_const] at hloop
  simp only [hloop, ← escapes_measureRequest, ← measureRequest_ok]
  rfl

omit [PyNumber F] in
theorem escapes_transferTimes {x : Except NixlError (List (TransferTime F))} :
    ¬ Escapes (x.mapError Failure.nixl) := by
  rw [Escapes, fails_mapError]
  rintro ⟨e, -, he⟩
  contradiction

theorem escapes_summarize : Escapes (summarize run) ↔ Crashes run := by
  have hfound (name : String) : (Failure.fileNotFound name).reported = true := rfl
  rw [summarize, escapes_found (hfound _)]
  simp only [escapes_bind, escapes_found (hfound _), escapes_warmCount, escapes_expectedBytes,
    escapes_transferTimes, escapes_median, escapes_pure, and_false, exists_false, or_false,
    false_or, warmCount_ok, expectedBytes_ok, mapError_ok, nixlTransferTimes_ok, and_assoc,
    exists_and_left, exists_eq_left, escapes_requests]
  rfl

theorem summarize_divisible {report : Report F} (h : summarize run = .ok report) :
    ∀ r ∈ report.records, r.Divisible := by
  simp only [summarize, bind_ok] at h
  obtain ⟨_, -, _, -, _, -, _, -, _, -, _, -, cold, hcold, warm, hwarm, h⟩ := h
  obtain ⟨_, -, _, -, _, -, _, -, h⟩ := h
  obtain rfl := Except.ok.inj h
  have hdivisible (pair : ThroughputRecord F × ThroughputRecord F) (hpair : pair ∈ warm) :
      pair.1.Divisible ∧ pair.2.Divisible := by
    obtain ⟨index, -, hindex⟩ := mem_of_mapM hwarm pair hpair
    exact measureRequest_divisible hindex
  simp only [Report.records, List.mem_append, List.mem_cons, List.mem_map]
  rintro r ((rfl | ⟨pair, hpair, rfl⟩) | (rfl | ⟨pair, hpair, rfl⟩))
  · exact (measureRequest_divisible hcold).1
  · exact (hdivisible pair hpair).1
  · exact (measureRequest_divisible hcold).2
  · exact (hdivisible pair hpair).2

/-- Every failure is reported exactly if no crash is reached. -/
theorem summarize_reported_iff (run : RunDir F) : Reported run ↔ ¬ Crashes run := by
  rw [← escapes_summarize]
  constructor
  · rintro h ⟨e, he, hreported⟩
    rw [h.failed e he] at hreported
    contradiction
  · intro h
    constructor
    · intro report hreport
      exact summarize_divisible hreport
    · intro e he
      by_contra hreported
      rw [Bool.not_eq_true] at hreported
      exact h ⟨e, he, hreported⟩

end Requests

/-- A run of two requests with a sampler file of the cold one cut off inside a row. -/
def cutRun : RunDir ℚ where
  comparison := some ⟨some (.int 1), some (.float 1), some (.float 1)⟩
  decodeLog := some ("KV Transfer metrics: Avg xfer time (ms)=2.0, Avg MB per transfer=1.0\n" ++
    "KV Transfer metrics: Avg xfer time (ms)=2.0, Avg MB per transfer=1.0\n").toList
  csv _ := some ("monotonic_ns,port_rcv_data_words,port_xmit_data_words\n" ++
    "0,0,0\n50000000,20").toList

/-- Not all evidence with positive sizes is reported. -/
theorem cut_row_escapes : ¬ ∀ (count : Int) (pdMib gdsMib : ℚ) (decodeLog : Text)
    (csv : String → Text), 1 ≤ count → 0 < pdMib → 0 < gdsMib →
      Reported ⟨some ⟨some (.int count), some (.float pdMib), some (.float gdsMib)⟩, some decodeLog,
        fun name => some (csv name)⟩ := by
  intro h
  have hcrash : summarize cutRun = .error (.roce (.missingField "port_xmit_data_words")) := by
    decide +kernel
  have hreported := (h 1 1 1 _ _ (by decide) (by norm_num) (by norm_num)).failed _ hcrash
  exact absurd hreported (by decide)

end RoceReport

end PdDisaggregation
