import PdDisaggregation.Evidence
import Mathlib.Data.List.Sort

/-! `summarize_performance`: what it computes and writes to `comparison.json`,
and the strict gate it applies afterwards. -/

namespace PdDisaggregation

variable {F : Type} [PyFloat F]

/-- `warm-[0-9]*.json` -/
def isWarmSample (name : String) : Bool :=
  let t := name.toList
  "warm-".toList.isPrefixOf t &&
    match t.drop 5 with
    | d :: rest => d.isDigit && ".json".toList.isSuffixOf rest
    | [] => false

def warmNames (names : List String) : List String :=
  "warm.json" :: (names.filter isWarmSample).insertionSort fun a b => Text.le a.toList b.toList

abbrev Sample (F : Type) := F × RequestResult F

def keyedByTtft (r : RequestResult F) : Except EvidenceError (Sample F) := do
  let ttft ← Check.orElse r.ttftSeconds (.noneValue "ttft_seconds")
  return (ttft, r)

/-- The sort is stable and only asks whether one key is less than another. -/
def sortByTtft (samples : List (Sample F)) : List (Sample F) :=
  samples.insertionSort fun a b => PyFloat.lt b.1 a.1 = false

def warmSamples (dir : EvidenceDir F) : Except EvidenceError (List (Sample F)) := do
  let results ← (warmNames (dir.requests.map (·.1))).mapM dir.request
  let samples ← results.mapM keyedByTtft
  return sortByTtft samples

structure KvbmMetrics (F : Type) where
  offloadBlocks : F
  onboardBlocks : F
  matchedTokens : F
  diskCacheHitRate : F

def kvbmMetrics (dir : EvidenceDir F) (file : String) : Except EvidenceError (KvbmMetrics F) := do
  let offload ← prometheusValue dir file "kvbm_offload_blocks_d2d"
  let onboard ← prometheusValue dir file "kvbm_onboard_blocks_d2d"
  let matched ← prometheusValue dir file "kvbm_matched_tokens"
  let hitRate ← prometheusValue dir file "kvbm_disk_cache_hit_rate"
  return ⟨offload, onboard, matched, hitRate⟩

/-- `(usage.get("prompt_tokens_details") or {}).get("cached_tokens") or 0` -/
def Usage.cachedTokens (u : Usage) : Int :=
  match u.promptTokensDetails with
  | some ⟨some (some k)⟩ => k
  | _ => 0

/-- `int((usage.get("prompt_tokens_details") or {}).get("cached_tokens", 0))` -/
def Usage.cachedTokensInt (u : Usage) : Except EvidenceError Int :=
  match u.promptTokensDetails with
  | some ⟨some (some k)⟩ => .ok k
  | some ⟨some none⟩ => .error (.noneValue "cached_tokens")
  | _ => .ok 0

structure PerformanceSummary (F : Type) where
  cold : RequestResult F
  samples : List (Sample F)
  warm : Sample F
  comparison : Comparison F
  deriving DecidableEq

def PerformanceSummary.results (s : PerformanceSummary F) : List (RequestResult F) :=
  s.samples.map (·.2)

def performanceComparison (m : Metadata) (cold : RequestResult F) (coldTtft : F)
    (samples : List (Sample F)) (warm : Sample F) (before afterCold afterWarm : KvbmMetrics F) :
    Comparison F where
  performanceOnly := some true
  coldAnswerCorrect := cold.answerCorrect
  warmAnswerCorrect := warm.2.answerCorrect
  evictionAnswerCorrect := none
  coldTtftSeconds := coldTtft
  warmGdsTtftSeconds := warm.1
  warmBestTtftSeconds := samples.head?.map fun s => PyFloat.minimum s.1 (samples.tail.map (·.1))
  warmTtftSamplesSeconds := some (samples.map (·.1))
  warmSampleCount := some samples.length
  ttftSpeedup := if PyFloat.isZero warm.1 then none else some (coldTtft / warm.1)
  coldCachedTokens := cold.usage.cachedTokens
  warmCachedTokens := warm.2.usage.cachedTokens
  coldOffloadBlocksDelta := afterCold.offloadBlocks - before.offloadBlocks
  warmOnboardBlocksDelta := afterWarm.onboardBlocks - afterCold.onboardBlocks
  matchedTokensDelta := afterWarm.matchedTokens - afterCold.matchedTokens
  expectedGdsMib := m.expectedGdsMib
  expectedGdsOps := m.expectedGdsOps
  expectedEvictionGdsMib := none
  expectedEvictionGdsOps := none
  expectedPdMib := m.expectedPdMib
  expectedPdDescriptors := m.expectedPdDescriptors
  expectedEvictionPdMib := none
  expectedEvictionPdDescriptors := none

/-- Up to the point where `comparison.json` is written. -/
def performanceSummary (dir : EvidenceDir F) : Except EvidenceError (PerformanceSummary F) := do
  let cold ← dir.request "cold.json"
  let samples ← warmSamples dir
  let warm ← Check.orElse samples[samples.length / 2]? (.fileNotFound "warm.json")
  Check.each (fun file => Check.require (dir.isFile file) (.fileNotFound file))
    ["metrics-before.txt", "metrics-after-cold.txt", "metrics-after-warm.txt"]
  let before ← kvbmMetrics dir "metrics-before.txt"
  let afterCold ← kvbmMetrics dir "metrics-after-cold.txt"
  let afterWarm ← kvbmMetrics dir "metrics-after-warm.txt"
  let coldTtft ← Check.orElse cold.ttftSeconds (.noneValue "ttft_seconds")
  Check.require (!PyFloat.isZero coldTtft) .divisionByZero
  return ⟨cold, samples, warm,
    performanceComparison dir.metadata cold coldTtft samples warm before afterCold afterWarm⟩

def targetMin : Int := 38500

def targetMax : Int := 39168 - 32 - 256

/-- `int(warm_onboard_delta) == int(expected_kv_blocks) * warm_sample_count` -/
def warmOnboardExact (delta expectedKvBlocks : Int) (warmSampleCount : Nat) : Bool :=
  delta == expectedKvBlocks * warmSampleCount

def requestsValid (m : Metadata) (cold : RequestResult F) (warm : List (RequestResult F)) : Bool :=
  cold.httpStatus == 200 &&
  warm.all (·.httpStatus == 200) &&
  cold.answerCorrect &&
  warm.all (·.answerCorrect) &&
  warm.all (cold.payloadSha256 == ·.payloadSha256) &&
  cold.payloadSha256 == m.payloadSha256 &&
  warm.all (cold.usage.promptTokens == ·.usage.promptTokens) &&
  cold.usage.promptTokens == some m.predictedInputTokens &&
  targetMin ≤ cold.usage.promptTokens.getD 0 &&
  cold.usage.promptTokens.getD 0 ≤ targetMax &&
  cold.usage.cachedTokens == 0

def warmCachedExact (expected : Int) (r : RequestResult F) : Except EvidenceError Bool := do
  return (← r.usage.cachedTokensInt) == expected

/-- `all(...)` of checks that may raise: it stops at the first `False`. -/
def allChecked {α : Type} (check : α → Except EvidenceError Bool) :
    List α → Except EvidenceError Bool
  | [] => .ok true
  | a :: as => do
    if ← check a then allChecked check as else return false

def truncated (x : F) : Except EvidenceError Int := Check.orElse (PyFloat.toInt x) .overflow

/-- `valid`: each conjunct is only evaluated where the ones before it hold. -/
def strictGate (m : Metadata) (s : PerformanceSummary F) : Except EvidenceError Bool := do
  if !requestsValid m s.cold s.results then return false
  if !(← allChecked (warmCachedExact m.expectedCachedTokens) s.results) then return false
  if (← truncated s.comparison.coldOffloadBlocksDelta) != m.expectedKvBlocks then return false
  if !warmOnboardExact (← truncated s.comparison.warmOnboardBlocksDelta) m.expectedKvBlocks
    s.samples.length then return false
  return decide ((← truncated s.comparison.matchedTokensDelta) ≥
    m.expectedCachedTokens * s.samples.length)

end PdDisaggregation
