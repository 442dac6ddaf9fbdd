import PdDisaggregation.CsvReader
import PdDisaggregation.NixlTimes
import PdDisaggregation.RoceThroughput

/-! `summarize` of `roce-throughput.py` from the files to the report, in floats, with
the exceptions its conversions and divisions raise. -/

namespace PdDisaggregation

class PyNumber (F : Type) extends PyFloat F, Add F where
  /-- `int(text)` -/
  parseInt : Text → Option Int
  /-- `n / d` of two `int`, for `d` other than zero. -/
  ratio : Int → Int → Option F
  /-- `round(x)` -/
  round : F → Option Int
  isNan : F → Bool
  /-- `n < x` -/
  intLt : Int → F → Bool
  le_of_isZero : ∀ x : F, isZero x = true → le x 0.0 = true

/-- `round(x)`, a half to the even side. -/
def roundHalfEven (x : ℚ) : Int :=
  let floor := ⌊x⌋
  if x - floor < 1 / 2 ∨ x - floor = 1 / 2 ∧ floor % 2 = 0 then floor else floor + 1

instance : PyNumber ℚ where
  parseInt := pyInt
  ratio n d := some (n / d)
  round x := some (roundHalfEven x)
  isNan _ := false
  intLt n x := decide ((n : ℚ) < x)
  le_of_isZero x hx := by
    obtain rfl : x = 0 := of_decide_eq_true hx
    exact decide_eq_true (by norm_num)

namespace RoceReport

/-- `overflow` is an `OverflowError`, `notANumber` the `ValueError` of a NaN, `noData` the
`StatisticsError` of an empty median. -/
inductive Failure where
  | fileNotFound (name : String)
  | keyError (key : String)
  | roce (e : RoceError)
  | nixl (e : NixlError)
  | csv (e : Csv.Error)
  | overflow
  | notANumber
  | noData
  deriving DecidableEq

/-- An `OSError`, `ValueError` or `KeyError`. -/
def Failure.reported : Failure → Bool
  | .roce (.missingField _) => false
  | .roce .divisionByZero => false
  | .csv _ => false
  | .overflow => false
  | _ => true

inductive JsonNumber (F : Type) where
  | int (n : Int)
  | float (x : F)
  deriving DecidableEq

/-- What `summarize` reads of `comparison.json`. -/
structure ExpectedSizes (F : Type) where
  warmSampleCount : Option (JsonNumber F)
  expectedPdMib : Option (JsonNumber F)
  expectedGdsMib : Option (JsonNumber F)

/-- The contents of the files, decoded. The sampler files are read without text mode's
translation of line ends. -/
structure RunDir (F : Type) where
  comparison : Option (ExpectedSizes F)
  decodeLog : Option Text
  csv : String → Option Text

structure Measurement (F : Type) where
  counter : String
  direction : Direction
  counterBytes : Int
  busySeconds : F
  activitySpanSeconds : F
  sampleCount : Nat
  sampleIntervalMs : F
  busyIntervalCount : Nat
  deriving DecidableEq

structure ThroughputRecord (F : Type) where
  label : String
  path : String
  measurement : Measurement F
  durationSeconds : F
  durationSource : String
  throughputMibPerSecond : F
  throughputGigabitsPerSecond : F
  activitySpanMibPerSecond : F
  sampledBusyLowerBoundMibPerSecond : F
  sampledBusyLowerBoundGigabitsPerSecond : F
  deriving DecidableEq

structure Report (F : Type) where
  prefillToDecode : List (ThroughputRecord F)
  prefillToNfsOffload : ThroughputRecord F
  nfsToPrefillReload : List (ThroughputRecord F)
  prefillToDecodeMibMedian : F
  prefillToDecodeGigabitsMedian : F
  reloadMibMedian : F
  reloadGigabitsMedian : F
  deriving DecidableEq

section

variable (F : Type) [PyNumber F]

/-- `int(row[name])` -/
def column (csv : CsvFile) (row : List Text) (name : String) : Except Failure Int := do
  let text ← Check.orElse (csv.field row name) (.roce (.missingField name))
  Check.orElse (PyNumber.parseInt F text) (.roce (.notAnInt text))

def loadRow (csv : CsvFile) (row : List Text) : Except Failure RoceSample := do
  let monotonicNs ← column F csv row "monotonic_ns"
  let portRcvDataWords ← column F csv row "port_rcv_data_words"
  let portXmitDataWords ← column F csv row "port_xmit_data_words"
  return ⟨monotonicNs, portRcvDataWords, portXmitDataWords⟩

/-- The header and the other records, of which `DictReader` skips the empty ones. -/
def csvFile (path : String) (text : Text) : CsvFile where
  path := path
  fieldnames := ((Csv.read text).1.headD []).map String.ofList
  rows := (Csv.read text).1.tail.filter (!·.isEmpty)

def raiseCsv (e : Option Csv.Error) : Except Failure Unit :=
  match e with
  | some e => .error (.csv e)
  | none => .ok ()

def hasColumns (csv : CsvFile) : Bool :=
  csv.fieldnames.all (requiredColumns.contains ·) && requiredColumns.all (csv.fieldnames.contains ·)

/-- An error of the reader comes up when the record in front of it has been used. -/
def loadSamples (path : String) (text : Text) : Except Failure (List RoceSample) := do
  let csv := csvFile path text
  raiseCsv (if (Csv.read text).1.isEmpty then (Csv.read text).2 else none)
  Check.require (hasColumns csv) (.roce (.unexpectedColumns path))
  let samples ← csv.rows.mapM (loadRow F csv)
  raiseCsv (Csv.read text).2
  Check.require (2 ≤ samples.length) (.roce (.fewSamples path))
  return samples

end

variable {F : Type} [PyNumber F]

def ratio (n d : Int) : Except Failure F := Check.orElse (PyNumber.ratio n d) .overflow

/-- `x / y` -/
def divide (x y : F) : Except Failure F :=
  if PyFloat.isZero y then .error (.roce .divisionByZero) else .ok (x / y)

def convert (x : F) (n : Option Int) : Except Failure Int :=
  Check.orElse n (if PyNumber.isNan x then .notANumber else .overflow)

/-- `statistics.median` -/
def median (xs : List F) : Except Failure F :=
  let sorted := xs.mergeSort fun a b => !PyFloat.lt b a
  match sorted[sorted.length / 2]?, sorted[sorted.length / 2 - 1]? with
  | some high, some low =>
    .ok (if sorted.length % 2 = 1 then high else (low + high) / (2.0 : F))
  | _, _ => .error .noData

def indices (samples : List RoceSample) : List Nat := List.range' 1 (samples.length - 1)

def stepNs (samples : List RoceSample) (index : Nat) : Int :=
  nsAt samples index - nsAt samples (index - 1)

def isActive (direction : Direction) (samples : List RoceSample) (index : Nat) : Bool :=
  let deltaWords := wordsAt direction samples index - wordsAt direction samples (index - 1)
  0 < deltaWords && activeStepBytes ≤ deltaWords * counterUnitBytes

def activeIndices (direction : Direction) (samples : List RoceSample) : List Nat :=
  (indices samples).filter (isActive direction samples)

def windowWords (direction : Direction) (samples : List RoceSample) : Int :=
  let active := activeIndices direction samples
  wordsAt direction samples (active.getLastD 0) - wordsAt direction samples (active.headD 0 - 1)

def spanNs (direction : Direction) (samples : List RoceSample) : Int :=
  let active := activeIndices direction samples
  nsAt samples (active.getLastD 0) - nsAt samples (active.headD 0 - 1)

def sampleInterval (samples : List RoceSample) : Except Failure F := do
  let intervals ← (indices samples).mapM fun index => ratio (stepNs samples index) 1000000
  median intervals

def activityTimes (path : String) (direction : Direction) (expectedPayloadBytes : Int)
    (samples : List RoceSample) : Except Failure (F × F) := do
  let active := activeIndices direction samples
  let busy : List F ← active.mapM fun index => ratio (stepNs samples index) 1000000000
  let busySeconds := busy.foldl (· + ·) 0.0
  Check.require (!active.isEmpty) (.roce (.noActivity direction path))
  let deltaWords := windowWords direction samples
  Check.require (0 ≤ deltaWords) (.roce (.counterDecreased path))
  let counterBytes := deltaWords * counterUnitBytes
  let expected : F ← Check.orElse (PyFloat.ofInt expectedPayloadBytes) .overflow
  Check.require (!PyNumber.intLt counterBytes (expected * (0.90 : F)))
    (.roce (.fewBytes counterBytes direction path expectedPayloadBytes))
  let activitySpanSeconds ← ratio (spanNs direction samples) 1000000000
  Check.require (!(PyFloat.le busySeconds 0.0 || PyFloat.le activitySpanSeconds 0.0))
    (.roce (.invalidDuration path))
  return (busySeconds, activitySpanSeconds)

def measurement (direction : Direction) (samples : List RoceSample) (sampleIntervalMs : F)
    (times : F × F) : Measurement F where
  counter := "port_" ++ (if direction = .rx then "rcv" else "xmit") ++ "_data"
  direction := direction
  counterBytes := windowWords direction samples * counterUnitBytes
  busySeconds := times.1
  activitySpanSeconds := times.2
  sampleCount := samples.length
  sampleIntervalMs := sampleIntervalMs
  busyIntervalCount := (activeIndices direction samples).length

def measure (path : String) (direction : Direction) (expectedPayloadBytes : Int)
    (samples : List RoceSample) : Except Failure (Measurement F) := do
  let sampleIntervalMs ← sampleInterval samples
  let times ← activityTimes path direction expectedPayloadBytes samples
  return measurement direction samples sampleIntervalMs times

def activeWindow (run : RunDir F) (name : String) (direction : Direction)
    (expectedPayloadBytes : Int) : Except Failure (Measurement F) := do
  let text ← Check.orElse (run.csv name) (.fileNotFound name)
  let samples ← loadSamples F name text
  measure name direction expectedPayloadBytes samples

def throughputRecord (label pathName : String) (m : Measurement F) (durationSeconds : F)
    (durationSource : String) : Except Failure (ThroughputRecord F) := do
  let mib : F ← ratio m.counterBytes (1024 ^ 2)
  let throughputMibPerSecond ← divide mib durationSeconds
  let gigabits : F ← ratio (m.counterBytes * 8) 1000000000
  let throughputGigabitsPerSecond ← divide gigabits durationSeconds
  let activitySpanMibPerSecond ← divide mib m.activitySpanSeconds
  let busyMib ← divide mib m.busySeconds
  let busyGigabits ← divide gigabits m.busySeconds
  return {
    label := label
    path := pathName
    measurement := m
    durationSeconds := durationSeconds
    durationSource := durationSource
    throughputMibPerSecond := throughputMibPerSecond
    throughputGigabitsPerSecond := throughputGigabitsPerSecond
    activitySpanMibPerSecond := activitySpanMibPerSecond
    sampledBusyLowerBoundMibPerSecond := busyMib
    sampledBusyLowerBoundGigabitsPerSecond := busyGigabits }

/-- The label of the request with this index in `labels`. -/
def requestLabel (index : Nat) : String :=
  if index = 0 then "cold" else if index = 1 then "warm" else "warm-" ++ toString index

def displayLabel (index : Nat) : String :=
  if index = 0 then "Cold" else if index = 1 then "Warm 1" else "Warm " ++ toString index

def node2Csv (index : Nat) : String := "roce-" ++ requestLabel index ++ "-node2.csv"

def node3Csv (index : Nat) : String := "roce-" ++ requestLabel index ++ "-node3.csv"

/-- The offload of the cold request arrives at node3, a reload leaves it. -/
def node3Direction (index : Nat) : Direction := if index = 0 then .rx else .tx

/-- There are as many times as labels. -/
def timeAt (transferTimes : List (TransferTime F)) (index : Nat) : F :=
  (transferTimes[index]?.map (·.seconds)).getD 0.0

def prefillToDecodeRecord (run : RunDir F) (expectedPdBytes : Int)
    (transferTimes : List (TransferTime F)) (index : Nat) :
    Except Failure (ThroughputRecord F) := do
  let m ← activeWindow run (node2Csv index) .rx expectedPdBytes
  throughputRecord (displayLabel index) "Prefill->Decode" m (timeAt transferTimes index)
    "NIXL Avg xfer time"

/-- The offload of the cold request, the reload of another. -/
def nfsRecord (run : RunDir F) (expectedGdsBytes : Int) (index : Nat) :
    Except Failure (ThroughputRecord F) := do
  let m ← activeWindow run (node3Csv index) (node3Direction index) expectedGdsBytes
  throughputRecord (displayLabel index)
    (if index = 0 then "Prefill->NFS Offload" else "NFS->Prefill Reload") m m.activitySpanSeconds
    (if index = 0 then "node3 RX first-to-last RoCE activity"
      else "node3 TX first-to-last RoCE activity")

def measureRequest (run : RunDir F) (expectedPdBytes expectedGdsBytes : Int)
    (transferTimes : List (TransferTime F)) (index : Nat) :
    Except Failure (ThroughputRecord F × ThroughputRecord F) := do
  let pToD ← prefillToDecodeRecord run expectedPdBytes transferTimes index
  let nfs ← nfsRecord run expectedGdsBytes index
  return (pToD, nfs)

/-- `int(comparison.get("warm_sample_count", 1))` -/
def warmCount (sizes : ExpectedSizes F) : Except Failure Int :=
  match sizes.warmSampleCount with
  | none => .ok 1
  | some (.int n) => .ok n
  | some (.float x) => convert x (PyFloat.toInt x)

def toFloat : JsonNumber F → Option F
  | .int n => PyFloat.ofInt n
  | .float x => some x

/-- `int(round(float(comparison[key]) * 1024**2))` -/
def expectedBytes (key : String) (value : Option (JsonNumber F)) : Except Failure Int := do
  let value ← Check.orElse value (.keyError key)
  let mib ← Check.orElse (toFloat value) .overflow
  convert (mib * (1048576.0 : F)) (PyNumber.round (mib * (1048576.0 : F)))

/-- The report is written to its file when all of it is there. -/
def summarize (run : RunDir F) : Except Failure (Report F) := do
  let sizes ← Check.orElse run.comparison (.fileNotFound "comparison.json")
  let count ← warmCount sizes
  let expectedPdBytes ← expectedBytes "expected_pd_mib" sizes.expectedPdMib
  let expectedGdsBytes ← expectedBytes "expected_gds_mib" sizes.expectedGdsMib
  let log ← Check.orElse run.decodeLog (.fileNotFound "decode.log")
  let times ← (nixlTransferTimes "decode.log" (Text.universalNewlines log)
    (count.toNat + 1)).mapError .nixl
  let cold ← measureRequest run expectedPdBytes expectedGdsBytes times 0
  let warm ← (List.range' 1 count.toNat).mapM
    (measureRequest run expectedPdBytes expectedGdsBytes times)
  let prefillToDecodeMibMedian ← median (warm.map (·.1.throughputMibPerSecond))
  let prefillToDecodeGigabitsMedian ← median (warm.map (·.1.throughputGigabitsPerSecond))
  let reloadMibMedian ← median (warm.map (·.2.throughputMibPerSecond))
  let reloadGigabitsMedian ← median (warm.map (·.2.throughputGigabitsPerSecond))
  return {
    prefillToDecode := cold.1 :: warm.map Prod.fst
    prefillToNfsOffload := cold.2
    nfsToPrefillReload := warm.map Prod.snd
    prefillToDecodeMibMedian := prefillToDecodeMibMedian
    prefillToDecodeGigabitsMedian := prefillToDecodeGigabitsMedian
    reloadMibMedian := reloadMibMedian
    reloadGigabitsMedian := reloadGigabitsMedian }

end RoceReport

end PdDisaggregation
