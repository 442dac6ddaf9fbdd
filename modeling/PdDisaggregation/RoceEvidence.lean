import PdDisaggregation.RoceReport

/-! What `summarize` finds in its files, as functions of their contents, and which
contents it can measure. -/

namespace PdDisaggregation

namespace RoceReport

section

variable (F : Type) [PyNumber F]

def intAt (csv : CsvFile) (row : List Text) (name : String) : Option Int :=
  (csv.field row name).bind (PyNumber.parseInt F)

def GoodRow (csv : CsvFile) (row : List Text) : Prop :=
  ∀ name ∈ requiredColumns, intAt F csv row name ≠ none

def sampleAt (csv : CsvFile) (row : List Text) : RoceSample where
  monotonicNs := (intAt F csv row "monotonic_ns").getD 0
  portRcvDataWords := (intAt F csv row "port_rcv_data_words").getD 0
  portXmitDataWords := (intAt F csv row "port_xmit_data_words").getD 0

def samplesIn (path : String) (text : Text) : List RoceSample :=
  (csvFile path text).rows.map (sampleAt F (csvFile path text))

structure Readable (path : String) (text : Text) : Prop where
  columns : hasColumns (csvFile path text) = true
  rows : ∀ row ∈ (csvFile path text).rows, GoodRow F (csvFile path text) row
  complete : (Csv.read text).2 = none
  enough : 2 ≤ (csvFile path text).rows.length

/-- The quotient is a float. -/
def InRange (n d : Int) : Prop := PyNumber.ratio n d ≠ (none : Option F)

def quotient (n d : Int) : F := (PyNumber.ratio n d).getD 0.0

def busySecondsIn (direction : Direction) (samples : List RoceSample) : F :=
  ((activeIndices direction samples).map fun index =>
    quotient F (stepNs samples index) 1000000000).foldl (· + ·) 0.0

/-- There is a window of activity with the expected size and positive times, and they are
in range. -/
structure ActivityMeasurable (direction : Direction) (expected : Int)
    (samples : List RoceSample) : Prop where
  steps : ∀ index ∈ activeIndices direction samples, InRange F (stepNs samples index) 1000000000
  active : activeIndices direction samples ≠ []
  increased : 0 ≤ windowWords direction samples
  expected : ∃ payload : F, PyFloat.ofInt expected = some payload ∧
    PyNumber.intLt (windowWords direction samples * counterUnitBytes) (payload * (0.90 : F)) = false
  span : InRange F (spanNs direction samples) 1000000000
  busySeconds : PyFloat.le (busySecondsIn F direction samples) 0.0 = false
  activitySpanSeconds : PyFloat.le (quotient F (spanNs direction samples) 1000000000) 0.0 = false

structure Measurable (direction : Direction) (expected : Int) (samples : List RoceSample) : Prop
    extends ActivityMeasurable F direction expected samples where
  intervals : ∀ index ∈ indices samples, InRange F (stepNs samples index) 1000000

/-- Both numbers of a match of the transfer pattern are floats. -/
def HasTime (m : Pattern.Found) : Prop :=
  ∃ milliseconds mib, m.groups = [milliseconds, mib] ∧
    (PyFloat.parse milliseconds : Option F) ≠ none ∧ (PyFloat.parse mib : Option F) ≠ none

def millisecondsIn (m : Pattern.Found) : F := (PyFloat.parse (m.groups.headD [])).getD 0.0

def timeIn (m : Pattern.Found) : TransferTime F :=
  ⟨m.start, m.stop, millisecondsIn F m / (1000.0 : F)⟩

def transfersIn (log : Text) : List Pattern.Found :=
  Pattern.findIter nixlPattern (Text.universalNewlines log)

structure TimesReadable (log : Text) (count : Nat) : Prop where
  times : ∀ m ∈ transfersIn log, HasTime F m
  enough : count ≤ (transfersIn log).length

/-- The times of the last `count` transfers in the log. -/
def timesIn (log : Text) (count : Nat) : List (TransferTime F) :=
  (lastOf count (transfersIn log)).map (timeIn F)

def WindowMeasurable (direction : Direction) (expected : Int) (name : String) (text : Text) :
    Prop :=
  Readable F name text ∧ Measurable F direction expected (samplesIn F name text)

def windowBytes (direction : Direction) (name : String) (text : Text) : Int :=
  windowWords direction (samplesIn F name text) * counterUnitBytes

def BytesInRange (counterBytes : Int) : Prop :=
  InRange F counterBytes (1024 ^ 2) ∧ InRange F (counterBytes * 8) 1000000000

end

variable {F : Type} [PyNumber F]

structure DecodeMeasurable (run : RunDir F) (expected : Int) (times : List (TransferTime F))
    (index : Nat) : Prop where
  window : ∃ text, run.csv (node2Csv index) = some text ∧
    WindowMeasurable F .rx expected (node2Csv index) text ∧
      BytesInRange F (windowBytes F .rx (node2Csv index) text)
  time : PyFloat.isZero (timeAt times index) = false

def NfsMeasurable (run : RunDir F) (expected : Int) (index : Nat) : Prop :=
  ∃ text, run.csv (node3Csv index) = some text ∧
    WindowMeasurable F (node3Direction index) expected (node3Csv index) text ∧
      BytesInRange F (windowBytes F (node3Direction index) (node3Csv index) text)

def RequestMeasurable (run : RunDir F) (expectedPdBytes expectedGdsBytes : Int)
    (times : List (TransferTime F)) (index : Nat) : Prop :=
  DecodeMeasurable run expectedPdBytes times index ∧ NfsMeasurable run expectedGdsBytes index

/-- `int(x)` of the count, one when there is none. -/
def ExpectedSizes.count (sizes : ExpectedSizes F) : Option Int :=
  match sizes.warmSampleCount with
  | none => some 1
  | some (.int n) => some n
  | some (.float x) => PyFloat.toInt x

def sizeBytes (value : Option (JsonNumber F)) : Option Int :=
  value.bind fun v => (toFloat v).bind fun mib => PyNumber.round (mib * (1048576.0 : F))

open Check

section Files

variable {csv : CsvFile} {row : List Text} {name path : String} {text : Text}

theorem some_iff {α : Type} {value : Option α} {a b : α} :
    value = some a ↔ value ≠ none ∧ a = value.getD b := by
  cases value <;> simp [eq_comm]

theorem column_ok {n : Int} : column F csv row name = .ok n ↔ intAt F csv row name = some n := by
  simp [column, intAt, Option.bind_eq_some_iff]

theorem loadRow_ok {s : RoceSample} :
    loadRow F csv row = .ok s ↔ GoodRow F csv row ∧ s = sampleAt F csv row := by
  simp only [loadRow, bind_ok, column_ok, some_iff (b := (0 : Int)), GoodRow, requiredColumns,
    List.forall_mem_cons]
  constructor
  · rintro ⟨_, ⟨hns, rfl⟩, _, ⟨hrcv, rfl⟩, _, ⟨hxmit, rfl⟩, h⟩
    exact ⟨⟨hns, hrcv, hxmit, by simp⟩, (Except.ok.inj h).symm⟩
  · rintro ⟨⟨hns, hrcv, hxmit, -⟩, rfl⟩
    exact ⟨_, ⟨hns, rfl⟩, _, ⟨hrcv, rfl⟩, _, ⟨hxmit, rfl⟩, rfl⟩

theorem exists_loadRow_ok : (∃ s, loadRow F csv row = .ok s) ↔ GoodRow F csv row := by
  simp [loadRow_ok]

theorem loadRows_ok {samples : List RoceSample} :
    csv.rows.mapM (loadRow F csv) = .ok samples ↔
      (∀ row ∈ csv.rows, GoodRow F csv row) ∧ samples = csv.rows.map (sampleAt F csv) :=
  mapM_ok_iff fun _ _ => loadRow_ok

theorem raiseCsv_ok {e : Option Csv.Error} : raiseCsv e = .ok () ↔ e = none := by
  cases e <;> simp [raiseCsv]

/-- The header is in the first record. -/
theorem read_ne_nil (h : hasColumns (csvFile path text) = true) : (Csv.read text).1 ≠ [] := by
  intro hnil
  simp [hasColumns, csvFile, hnil, requiredColumns] at h

theorem loadSamples_ok {samples : List RoceSample} :
    loadSamples F path text = .ok samples ↔
      Readable F path text ∧ samples = samplesIn F path text := by
  rw [loadSamples, seq_ok, raiseCsv_ok, seq_ok, require_ok, bind_ok]
  simp only [loadRows_ok, seq_ok, raiseCsv_ok, require_ok]
  constructor
  · rintro ⟨-, hcolumns, _, ⟨hrows, rfl⟩, hend, henough, h⟩
    exact ⟨⟨hcolumns, hrows, hend, by simpa using henough⟩, (Except.ok.inj h).symm⟩
  · rintro ⟨⟨hcolumns, hrows, hend, henough⟩, rfl⟩
    exact ⟨by simp [read_ne_nil hcolumns], hcolumns, _, ⟨hrows, rfl⟩, hend, by simpa using henough,
      rfl⟩

end Files

section Windows

variable {samples : List RoceSample} {direction : Direction} {path : String} {expected : Int}

theorem ratio_ok {n d : Int} {x : F} :
    (ratio n d : Except Failure F) = .ok x ↔ InRange F n d ∧ x = quotient F n d := by
  rw [ratio, orElse_ok, some_iff (b := (0.0 : F))]
  rfl

theorem ratios_ok {l : List Nat} {n : Nat → Int} {d : Int} {xs : List F} :
    l.mapM (fun i => (ratio (n i) d : Except Failure F)) = .ok xs ↔
      (∀ i ∈ l, InRange F (n i) d) ∧ xs = l.map fun i => quotient F (n i) d :=
  mapM_ok_iff fun _ _ => ratio_ok

theorem median_ok {xs : List F} (h : xs ≠ []) : ∃ m, median xs = .ok m := by
  have hlen : 0 < (xs.mergeSort fun a b => !PyFloat.lt b a).length := by
    rw [List.length_mergeSort]
    exact List.length_pos_iff.mpr h
  unfold median
  dsimp only
  split
  · exact ⟨_, rfl⟩
  · rename_i hnone
    exact (hnone _ _ (List.getElem?_eq_getElem (by omega))
      (List.getElem?_eq_getElem (by omega))).elim

theorem sampleInterval_ok (hne : indices samples ≠ []) :
    (∃ m, (sampleInterval samples : Except Failure F) = .ok m) ↔
      ∀ index ∈ indices samples, InRange F (stepNs samples index) 1000000 := by
  simp only [sampleInterval, bind_ok, ratios_ok]
  constructor
  · rintro ⟨_, _, ⟨h, -⟩, -⟩
    exact h
  · intro h
    have hxs : ((indices samples).map fun index =>
        quotient F (stepNs samples index) 1000000) ≠ [] := by
      simpa using hne
    obtain ⟨m, hm⟩ := median_ok hxs
    exact ⟨m, _, ⟨h, rfl⟩, hm⟩

theorem indices_ne_nil (h : activeIndices direction samples ≠ []) : indices samples ≠ [] := by
  intro hnil
  rw [activeIndices, hnil] at h
  exact h rfl

theorem activityTimes_ok :
    (∃ times, (activityTimes path direction expected samples : Except Failure (F × F)) = .ok times) ↔
      ActivityMeasurable F direction expected samples := by
  simp only [activityTimes, bind_ok (α := List F), bind_ok (α := F), seq_ok, ratios_ok, ratio_ok,
    require_ok, orElse_ok, Bool.not_eq_true', Bool.or_eq_false_iff, List.isEmpty_eq_false_iff,
    decide_eq_true_eq]
  constructor
  · rintro ⟨_, _, ⟨hsteps, rfl⟩, hactive, hincreased, payload, hpayload, hexpected, _,
      ⟨hspan, rfl⟩, ⟨hbusy, hpositive⟩, -⟩
    exact ⟨hsteps, hactive, hincreased, ⟨payload, hpayload, hexpected⟩, hspan, hbusy, hpositive⟩
  · intro h
    obtain ⟨payload, hpayload, hexpected⟩ := h.expected
    exact ⟨_, _, ⟨h.steps, rfl⟩, h.active, h.increased, payload, hpayload, hexpected, _,
      ⟨h.span, rfl⟩, ⟨h.busySeconds, h.activitySpanSeconds⟩, rfl⟩

theorem activityTimes_nonzero {times : F × F}
    (h : activityTimes path direction expected samples = .ok times) :
    PyFloat.isZero times.1 = false ∧ PyFloat.isZero times.2 = false := by
  have hzero (x : F) (hx : PyFloat.le x 0.0 = false) : PyFloat.isZero x = false := by
    cases hz : PyFloat.isZero x with
    | false => rfl
    | true =>
      rw [PyNumber.le_of_isZero x hz] at hx
      contradiction
  simp only [activityTimes, bind_ok] at h
  obtain ⟨busy, -, _, -, _, -, payload, -, _, -, span, -, _, hpositive, htimes⟩ := h
  obtain rfl := Except.ok.inj htimes
  have hpos := require_ok.mp hpositive
  rw [Bool.not_eq_true', Bool.or_eq_false_iff] at hpos
  exact ⟨hzero _ hpos.1, hzero _ hpos.2⟩

theorem measure_ok :
    (∃ m, (measure path direction expected samples : Except Failure (Measurement F)) = .ok m) ↔
      Measurable F direction expected samples := by
  simp only [measure, bind_ok]
  constructor
  · rintro ⟨_, interval, hinterval, times, htimes, -⟩
    have hactivity := activityTimes_ok.mp ⟨times, htimes⟩
    have hintervals := (sampleInterval_ok (indices_ne_nil hactivity.active)).mp ⟨interval, hinterval⟩
    exact { hactivity with intervals := hintervals }
  · intro h
    obtain ⟨interval, hinterval⟩ := (sampleInterval_ok (indices_ne_nil h.active)).mpr h.intervals
    obtain ⟨times, htimes⟩ := activityTimes_ok.mpr h.toActivityMeasurable
    exact ⟨_, interval, hinterval, times, htimes, rfl⟩

theorem measure_bytes {m : Measurement F} (h : measure path direction expected samples = .ok m) :
    m.counterBytes = windowWords direction samples * counterUnitBytes := by
  simp only [measure, bind_ok] at h
  obtain ⟨interval, -, times, -, hm⟩ := h
  obtain rfl := Except.ok.inj hm
  rfl

variable {run : RunDir F} {name : String} {p : Int → Prop}

theorem activeWindow_ok :
    (∃ m, activeWindow run name direction expected = .ok m ∧ p m.counterBytes) ↔
      ∃ text, run.csv name = some text ∧ WindowMeasurable F direction expected name text ∧
        p (windowBytes F direction name text) := by
  simp only [activeWindow, bind_ok, orElse_ok, loadSamples_ok]
  constructor
  · rintro ⟨m, ⟨text, htext, _, ⟨hreadable, rfl⟩, hm⟩, hp⟩
    rw [measure_bytes hm] at hp
    exact ⟨text, htext, ⟨hreadable, measure_ok.mp ⟨m, hm⟩⟩, hp⟩
  · rintro ⟨text, htext, ⟨hreadable, hmeasurable⟩, hp⟩
    obtain ⟨m, hm⟩ := measure_ok.mpr hmeasurable
    refine ⟨m, ⟨text, htext, _, ⟨hreadable, rfl⟩, hm⟩, ?_⟩
    rw [measure_bytes hm]
    exact hp

theorem activeWindow_nonzero {m : Measurement F}
    (h : activeWindow run name direction expected = .ok m) :
    PyFloat.isZero m.busySeconds = false ∧ PyFloat.isZero m.activitySpanSeconds = false := by
  simp only [activeWindow, measure, bind_ok] at h
  obtain ⟨text, -, samples, -, interval, -, times, htimes, hm⟩ := h
  obtain rfl := Except.ok.inj hm
  exact activityTimes_nonzero htimes

end Windows

section Rates

variable {label pathName source : String} {m : Measurement F} {duration : F}

theorem divide_ok {x y z : F} :
    divide x y = .ok z ↔ PyFloat.isZero y = false ∧ x / y = z := by
  cases h : PyFloat.isZero y <;> simp [divide, h]

theorem throughputRecord_ok :
    (∃ r, throughputRecord label pathName m duration source = .ok r) ↔
      BytesInRange F m.counterBytes ∧ PyFloat.isZero duration = false ∧
        PyFloat.isZero m.activitySpanSeconds = false ∧ PyFloat.isZero m.busySeconds = false := by
  simp only [throughputRecord, bind_ok, divide_ok, ratio_ok]
  constructor
  · rintro ⟨_, _, ⟨hmib, rfl⟩, _, ⟨hduration, -⟩, _, ⟨hgigabits, rfl⟩, _, -, _, ⟨hspan, -⟩, _,
      ⟨hbusy, -⟩, -⟩
    exact ⟨⟨hmib, hgigabits⟩, hduration, hspan, hbusy⟩
  · rintro ⟨⟨hmib, hgigabits⟩, hduration, hspan, hbusy⟩
    exact ⟨_, _, ⟨hmib, rfl⟩, _, ⟨hduration, rfl⟩, _, ⟨hgigabits, rfl⟩, _, ⟨hduration, rfl⟩, _,
      ⟨hspan, rfl⟩, _, ⟨hbusy, rfl⟩, _, ⟨hbusy, rfl⟩, rfl⟩

end Rates

section Requests

variable {run : RunDir F} {expectedPdBytes expectedGdsBytes : Int}
  {times : List (TransferTime F)} {index : Nat}

theorem prefillToDecodeRecord_ok :
    (∃ r, prefillToDecodeRecord run expectedPdBytes times index = .ok r) ↔
      DecodeMeasurable run expectedPdBytes times index := by
  have hrecord : (∃ r, prefillToDecodeRecord run expectedPdBytes times index = .ok r) ↔
      (∃ m, activeWindow run (node2Csv index) .rx expectedPdBytes = .ok m ∧
        BytesInRange F m.counterBytes) ∧ PyFloat.isZero (timeAt times index) = false := by
    simp only [prefillToDecodeRecord, bind_ok]
    constructor
    · rintro ⟨r, m, hm, hr⟩
      obtain ⟨hbytes, htime, -⟩ := throughputRecord_ok.mp ⟨r, hr⟩
      exact ⟨⟨m, hm, hbytes⟩, htime⟩
    · rintro ⟨⟨m, hm, hbytes⟩, htime⟩
      obtain ⟨hbusy, hspan⟩ := activeWindow_nonzero hm
      obtain ⟨r, hr⟩ := throughputRecord_ok.mpr ⟨hbytes, htime, hspan, hbusy⟩
      exact ⟨r, m, hm, hr⟩
  rw [hrecord, activeWindow_ok]
  constructor
  · intro h
    exact ⟨h.1, h.2⟩
  · intro h
    exact ⟨h.window, h.time⟩

theorem nfsRecord_ok :
    (∃ r, nfsRecord run expectedGdsBytes index = .ok r) ↔
      NfsMeasurable run expectedGdsBytes index := by
  rw [NfsMeasurable, ← activeWindow_ok]
  simp only [nfsRecord, bind_ok]
  constructor
  · rintro ⟨r, m, hm, hr⟩
    exact ⟨m, hm, (throughputRecord_ok.mp ⟨r, hr⟩).1⟩
  · rintro ⟨m, hm, hbytes⟩
    obtain ⟨hbusy, hspan⟩ := activeWindow_nonzero hm
    obtain ⟨r, hr⟩ := throughputRecord_ok.mpr ⟨hbytes, hspan, hspan, hbusy⟩
    exact ⟨r, m, hm, hr⟩

theorem measureRequest_ok :
    (∃ r, measureRequest run expectedPdBytes expectedGdsBytes times index = .ok r) ↔
      RequestMeasurable run expectedPdBytes expectedGdsBytes times index := by
  rw [RequestMeasurable, ← prefillToDecodeRecord_ok, ← nfsRecord_ok]
  simp only [measureRequest, bind_ok]
  constructor
  · rintro ⟨_, pToD, hpToD, nfs, hnfs, -⟩
    exact ⟨⟨pToD, hpToD⟩, nfs, hnfs⟩
  · rintro ⟨⟨pToD, hpToD⟩, nfs, hnfs⟩
    exact ⟨_, pToD, hpToD, nfs, hnfs, rfl⟩

end Requests

section Sizes

variable {log : Text} {count : Nat}

theorem readTime_ok {m : Pattern.Found} {t : TransferTime F} :
    readTime m = .ok t ↔ HasTime F m ∧ t = ⟨m.start, m.stop, millisecondsIn F m⟩ := by
  unfold readTime
  split
  · rename_i milliseconds mib hgroups
    simp only [bind_ok, orElse_ok, HasTime, millisecondsIn, hgroups, List.headD_cons]
    constructor
    · rintro ⟨time, htime, _, hmib, h⟩
      obtain rfl := Except.ok.inj h
      exact ⟨⟨_, _, rfl, by simp [htime], by simp [hmib]⟩, by rw [htime]; rfl⟩
    · rintro ⟨⟨_, _, heq, htime, hmib⟩, rfl⟩
      cases heq
      obtain ⟨x, hx⟩ := Option.ne_none_iff_exists'.mp htime
      obtain ⟨y, hy⟩ := Option.ne_none_iff_exists'.mp hmib
      exact ⟨x, hx, y, hy, by rw [hx]; rfl⟩
  · rename_i hgroups
    refine iff_of_false (by simp) ?_
    rintro ⟨⟨milliseconds, mib, h, -⟩, -⟩
    exact hgroups _ _ h

theorem lastOf_map {α β : Type} (f : α → β) (l : List α) :
    lastOf count (l.map f) = (lastOf count l).map f := by
  rw [lastOf, lastOf, List.length_map, List.map_drop]

theorem nixlTransferTimes_ok {times : List (TransferTime F)} :
    nixlTransferTimes "decode.log" (Text.universalNewlines log) count = .ok times ↔
      TimesReadable F log count ∧ times = timesIn F log count := by
  simp only [nixlTransferTimes, bind_ok (α := List (TransferTime F)), seq_ok, require_ok,
    mapM_ok_iff fun _ _ => readTime_ok, decide_eq_true_eq]
  constructor
  · rintro ⟨_, ⟨htimes, rfl⟩, henough, h⟩
    rw [List.length_map] at henough
    refine ⟨⟨htimes, henough⟩, ?_⟩
    obtain rfl := Except.ok.inj h
    rw [lastOf_map, List.map_map]
    rfl
  · rintro ⟨⟨htimes, henough⟩, rfl⟩
    refine ⟨_, ⟨htimes, rfl⟩, by rwa [List.length_map], ?_⟩
    rw [lastOf_map, List.map_map]
    rfl

variable {sizes : ExpectedSizes F} {value : Option (JsonNumber F)} {key : String} {n : Int}

theorem convert_ok {x : F} {n : Option Int} {k : Int} : convert x n = .ok k ↔ n = some k := by
  rw [convert, orElse_ok]

theorem warmCount_ok : warmCount sizes = .ok n ↔ sizes.count = some n := by
  rw [warmCount, ExpectedSizes.count]
  cases sizes.warmSampleCount with
  | none => simp
  | some size => cases size <;> simp [convert_ok]

theorem expectedBytes_ok : expectedBytes key value = .ok n ↔ sizeBytes value = some n := by
  simp [expectedBytes, sizeBytes, convert_ok, Option.bind_eq_some_iff]

end Sizes

end RoceReport

end PdDisaggregation
