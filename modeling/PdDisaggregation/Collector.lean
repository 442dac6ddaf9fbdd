import PdDisaggregation.Machine
import PdDisaggregation.Summary

/-! The warm loop of `demo-kv-offload-reload.sh`. The counters of the prefill
pod move at any time between two reads of the collector. -/

namespace PdDisaggregation

structure CollectorConfig where
  samples : Nat
  expectedBlocks : Int
  expectedCachedTokens : Int
  samples_pos : 0 < samples

inductive CollectorPhase where
  | request
  | waitOnboard
  | waitMatched
  | readOnboard
  | readMatched
  | snapshot
  | finished
  | died
  deriving DecidableEq

/-- `onboard` and `matched` are the live counters. `baselines` are the values
`warm_onboard_before` has had, the latest first. -/
structure Collector where
  onboard : Int
  matched : Int
  phase : CollectorPhase
  sample : Nat
  warmOnboardBefore : Int
  warmMatchedBefore : Int
  files : List String
  baselines : List Int
  afterWarm : Option Int
  deriving DecidableEq

/-- The statuses of one call: those of `kubectl exec`, `cp` and `cat` in
`run_inpod_request`, and the one of printing the console file afterwards. -/
structure InpodCall where
  client : Nat
  cp : Nat
  cat : Nat
  console : Nat

/-- Under `set +e` all commands of a function run, and the last gives its status. -/
def runInpodRequest (call : InpodCall) : Nat := [call.client, call.cp, call.cat].getLastD 0

inductive CollectorEvent where
  | counters (onboard matched : Int)
  | inpodRequest (call : InpodCall)
  | poll
  | timeout
  | readLive
  | readFails
  | captureSnapshot

/-- `label=warm`, or `warm-$sample` from the second on. -/
def sampleFile (sample : Nat) : String :=
  if 1 < sample then "warm-" ++ toString sample ++ ".json" else "warm.json"

def Collector.die (s : Collector) : Collector := { s with phase := .died }

def Collector.poll (s : Collector) (current baseline expected : Int) (next : CollectorPhase) :
    Collector :=
  if current - baseline ≥ expected then { s with phase := next } else s

def collectorStep (cfg : CollectorConfig) (s : Collector) (e : CollectorEvent) :
    Option Collector :=
  match e, s.phase with
  | .counters onboard matched, _ =>
    if 0 ≤ onboard then
      some { s with onboard := s.onboard + onboard, matched := s.matched + matched }
    else none
  | .inpodRequest call, .request =>
    let t := { s with files := sampleFile s.sample :: s.files }
    some (if runInpodRequest call ≠ 0 then t.die else { t with phase := .waitOnboard })
  | .poll, .waitOnboard =>
    some (s.poll s.onboard s.warmOnboardBefore cfg.expectedBlocks .waitMatched)
  | .poll, .waitMatched =>
    some (s.poll s.matched s.warmMatchedBefore cfg.expectedCachedTokens .readOnboard)
  | .timeout, .waitOnboard | .timeout, .waitMatched => some s.die
  | .readLive, .readOnboard =>
    some { s with
      warmOnboardBefore := s.onboard
      baselines := s.onboard :: s.baselines
      phase := .readMatched }
  | .readLive, .readMatched =>
    some
      (if s.sample < cfg.samples then
        { s with warmMatchedBefore := s.matched, sample := s.sample + 1, phase := .request }
      else { s with warmMatchedBefore := s.matched, phase := .snapshot })
  | .captureSnapshot, .snapshot => some { s with afterWarm := some s.onboard, phase := .finished }
  | .readFails, _ => if s.phase = .finished then none else some s.die
  | _, _ => none

def afterCold (onboard matched : Int) : Collector where
  onboard := onboard
  matched := matched
  phase := .request
  sample := 1
  warmOnboardBefore := onboard
  warmMatchedBefore := matched
  files := ["cold.json"]
  baselines := [onboard]
  afterWarm := none

end PdDisaggregation
