import PdDisaggregation.Check
import PdDisaggregation.Pattern
import Mathlib.Data.Rat.Defs
import Mathlib.Algebra.Order.Ring.Rat

/-! The RoCE port counter samples of a request, the window of activity in them
and the throughput reported for it. Times and rates are exact. -/

namespace PdDisaggregation

inductive Direction where
  | rx
  | tx
  deriving DecidableEq

def Direction.upper : Direction → String
  | .rx => "RX"
  | .tx => "TX"

inductive RoceError where
  | unexpectedColumns (path : String)
  | missingField (name : String)
  | notAnInt (text : Text)
  | fewSamples (path : String)
  | noActivity (direction : Direction) (path : String)
  | counterDecreased (path : String)
  | fewBytes (counterBytes : Int) (direction : Direction) (path : String) (expected : Int)
  | invalidDuration (path : String)
  | divisionByZero
  deriving DecidableEq

def RoceError.message : RoceError → String
  | .unexpectedColumns path => "unexpected CSV columns in " ++ path
  | .missingField _ =>
    "int() argument must be a string, a bytes-like object or a real number, not 'NoneType'"
  | .notAnInt text => "invalid literal for int() with base 10: '" ++ String.ofList text ++ "'"
  | .fewSamples path => "fewer than two RoCE samples in " ++ path
  | .noActivity direction path =>
    "no significant " ++ direction.upper ++ " RoCE activity in " ++ path
  | .counterDecreased path => "RoCE counter decreased in " ++ path
  | .fewBytes counterBytes direction path expected =>
    "only " ++ toString counterBytes ++ " " ++ direction.upper ++ " bytes observed in " ++ path ++
      "; expected approximately " ++ toString expected
  | .invalidDuration path => "invalid activity duration in " ++ path
  | .divisionByZero => "division by zero"

structure RoceSample where
  monotonicNs : Int
  portRcvDataWords : Int
  portXmitDataWords : Int
  deriving DecidableEq

structure CsvFile where
  path : String
  fieldnames : List String
  rows : List (List Text)

/-- The value `DictReader` has for a column: of two of one name, the last. A column
the row is too short for is `None`. -/
def CsvFile.field (csv : CsvFile) (row : List Text) (name : String) : Option Text :=
  let missing := List.replicate (csv.fieldnames.length - row.length) none
  ((csv.fieldnames.zip (row.map some ++ missing)).reverse.lookup name).join

/-- Digits with single underscores between them. -/
def digitGroups (t : Text) : Option Nat :=
  let groups := t.splitOn '_'
  if groups.all fun g => !g.isEmpty && g.all Text.isDecimal then
    some (Text.decimals groups.flatten)
  else none

/-- `int(text)`. -/
def pyInt (t : Text) : Option Int :=
  match Pattern.strip t with
  | '-' :: u => (digitGroups u).map fun n => -n
  | '+' :: u => (digitGroups u).map fun n => n
  | u => (digitGroups u).map fun n => n

def requiredColumns : List String :=
  ["monotonic_ns", "port_rcv_data_words", "port_xmit_data_words"]

def loadRow (csv : CsvFile) (row : List Text) : Except RoceError RoceSample := do
  let column name := do
    let text ← Check.orElse (csv.field row name) (.missingField name)
    Check.orElse (pyInt text) (.notAnInt text)
  let monotonicNs ← column "monotonic_ns"
  let portRcvDataWords ← column "port_rcv_data_words"
  let portXmitDataWords ← column "port_xmit_data_words"
  return ⟨monotonicNs, portRcvDataWords, portXmitDataWords⟩

def loadSamples (csv : CsvFile) : Except RoceError (List RoceSample) := do
  Check.require (csv.fieldnames.all (requiredColumns.contains ·) &&
    requiredColumns.all (csv.fieldnames.contains ·)) (.unexpectedColumns csv.path)
  let samples ← csv.rows.mapM (loadRow csv)
  Check.require (2 ≤ samples.length) (.fewSamples csv.path)
  return samples

def counterUnitBytes : Int := 4

/-- Control-plane changes at the edges stay below this. -/
def activeStepBytes : Int := 64 * 1024

def nsAt (samples : List RoceSample) (index : Nat) : Int :=
  (samples[index]?.map (·.monotonicNs)).getD 0

/-- The column of `counter_index`. -/
def Direction.words (direction : Direction) (s : RoceSample) : Int :=
  if direction = .rx then s.portRcvDataWords else s.portXmitDataWords

/-- `samples[index][counter_index]` -/
def wordsAt (direction : Direction) (samples : List RoceSample) (index : Nat) : Int :=
  (samples[index]?.map direction.words).getD 0

/-- `statistics.median` of a nonempty list. -/
def median (xs : List ℚ) : ℚ :=
  let sorted := xs.mergeSort fun a b => decide (a ≤ b)
  let n := sorted.length
  if n % 2 = 1 then sorted.getD (n / 2) 0
  else (sorted.getD (n / 2 - 1) 0 + sorted.getD (n / 2) 0) / 2

/-- The indices of the active steps and the seconds they take together. -/
structure ActiveSteps where
  activeIndices : List Nat := []
  busySeconds : ℚ := 0

def activeStep (direction : Direction) (samples : List RoceSample) (found : ActiveSteps)
    (index : Nat) : ActiveSteps :=
  let deltaWords := wordsAt direction samples index - wordsAt direction samples (index - 1)
  if 0 < deltaWords ∧ activeStepBytes ≤ deltaWords * counterUnitBytes then
    { activeIndices := found.activeIndices ++ [index]
      busySeconds := found.busySeconds +
        (nsAt samples index - nsAt samples (index - 1) : ℚ) / 1000000000 }
  else found

def activeSteps (direction : Direction) (samples : List RoceSample) : ActiveSteps :=
  (List.range' 1 (samples.length - 1)).foldl (activeStep direction samples) {}

structure Measurement where
  counter : String
  direction : Direction
  counterBytes : Int
  busySeconds : ℚ
  activitySpanSeconds : ℚ
  sampleCount : Nat
  sampleIntervalMs : ℚ
  busyIntervalCount : Nat

def activeWindow (csv : CsvFile) (direction : Direction) (expectedPayloadBytes : Int) :
    Except RoceError Measurement := do
  let samples ← loadSamples csv
  let sampleIntervalMs := median <| (List.range' 1 (samples.length - 1)).map fun index =>
    (nsAt samples index - nsAt samples (index - 1) : ℚ) / 1000000
  let steps := activeSteps direction samples
  Check.require (!steps.activeIndices.isEmpty) (.noActivity direction csv.path)
  let first := steps.activeIndices.headD 0 - 1
  let last := steps.activeIndices.getLastD 0
  let deltaWords := wordsAt direction samples last - wordsAt direction samples first
  Check.require (0 ≤ deltaWords) (.counterDecreased csv.path)
  let counterBytes := deltaWords * counterUnitBytes
  Check.require ((expectedPayloadBytes : ℚ) * (90 / 100) ≤ counterBytes)
    (.fewBytes counterBytes direction csv.path expectedPayloadBytes)
  let activitySpanSeconds := (nsAt samples last - nsAt samples first : ℚ) / 1000000000
  Check.require (0 < steps.busySeconds && 0 < activitySpanSeconds) (.invalidDuration csv.path)
  return {
    counter := "port_" ++ (if direction = .rx then "rcv" else "xmit") ++ "_data"
    direction := direction
    counterBytes := counterBytes
    busySeconds := steps.busySeconds
    activitySpanSeconds := activitySpanSeconds
    sampleCount := samples.length
    sampleIntervalMs := sampleIntervalMs
    busyIntervalCount := steps.activeIndices.length }

structure ThroughputRecord where
  label : String
  path : String
  measurement : Measurement
  durationSeconds : ℚ
  durationSource : String
  throughputMibPerSecond : ℚ
  throughputGigabitsPerSecond : ℚ
  activitySpanMibPerSecond : ℚ
  sampledBusyLowerBoundMibPerSecond : ℚ
  sampledBusyLowerBoundGigabitsPerSecond : ℚ

def throughputRecord (label pathName : String) (measurement : Measurement)
    (durationSeconds : ℚ) (durationSource : String) : Except RoceError ThroughputRecord := do
  let counterBytes : ℚ := measurement.counterBytes
  Check.require (durationSeconds ≠ 0 && measurement.activitySpanSeconds ≠ 0 &&
    measurement.busySeconds ≠ 0) .divisionByZero
  return {
    label := label
    path := pathName
    measurement := measurement
    durationSeconds := durationSeconds
    durationSource := durationSource
    throughputMibPerSecond := counterBytes / 1024 ^ 2 / durationSeconds
    throughputGigabitsPerSecond := counterBytes * 8 / 1000000000 / durationSeconds
    activitySpanMibPerSecond := counterBytes / 1024 ^ 2 / measurement.activitySpanSeconds
    sampledBusyLowerBoundMibPerSecond := counterBytes / 1024 ^ 2 / measurement.busySeconds
    sampledBusyLowerBoundGigabitsPerSecond :=
      counterBytes * 8 / 1000000000 / measurement.busySeconds }

end PdDisaggregation
