import PdDisaggregation.PromptSearch
import PdDisaggregation.WarmMedian

/-! The overwrite run of `compare-prefill-vs-gds.py`: another prompt is sent between the
cold and the warm request. `prepare` works out what each prompt must move, `summarize`
compares that with what was moved, and the gates of a replay read both again. -/

namespace PdDisaggregation

def numLayers : Int := 40

def kvOuterDim : Int := 2

def numKvHeads : Int := 8

def headDim : Int := 128

def kvDtypeWidthBytes : Int := 2

def kvBytesPerBlock : Int :=
  numLayers * kvOuterDim * kvBlockSizeTokens * numKvHeads * headDim * kvDtypeWidthBytes

def mibPerBlock : Int := kvBytesPerBlock / (1024 * 1024)

/-- What `prepare` writes about one of the two prompts. -/
def promptMetadata (payloadSha256 : Text) (inputTokens : Int) : Metadata :=
  let cachedTokens := inputTokens / kvBlockSizeTokens * kvBlockSizeTokens
  let kvBlocks := cachedTokens / kvBlockSizeTokens
  let pdBlocks := (inputTokens + kvBlockSizeTokens - 1) / kvBlockSizeTokens
  { payloadSha256
    predictedInputTokens := inputTokens
    expectedCachedTokens := cachedTokens
    expectedKvBlocks := kvBlocks
    expectedGdsMib := kvBlocks * mibPerBlock
    expectedGdsOps := kvBlocks * numLayers * kvOuterDim
    expectedPdMib := pdBlocks * mibPerBlock
    expectedPdDescriptors := pdBlocks * numLayers * kvOuterDim }

variable {F : Type} [PyFloat F]

structure OverwriteSummary (F : Type) where
  cold : RequestResult F
  evict : RequestResult F
  warm : RequestResult F
  comparison : Comparison F
  evictionOffloadBlocksDelta : F
  deriving DecidableEq

/-- `evict` is what `metadata.json` says about the other prompt. -/
def summarizedComparison (m evict : Metadata) (cold evicted warm : RequestResult F)
    (coldTtft warmTtft : F) (before afterCold afterEvict afterWarm : KvbmMetrics F) :
    Comparison F where
  performanceOnly := none
  coldAnswerCorrect := cold.answerCorrect
  warmAnswerCorrect := warm.answerCorrect
  evictionAnswerCorrect := some evicted.answerCorrect
  coldTtftSeconds := coldTtft
  warmGdsTtftSeconds := warmTtft
  warmBestTtftSeconds := none
  warmTtftSamplesSeconds := none
  warmSampleCount := none
  ttftSpeedup := if PyFloat.isZero warmTtft then none else some (coldTtft / warmTtft)
  coldCachedTokens := cold.usage.cachedTokens
  warmCachedTokens := warm.usage.cachedTokens
  coldOffloadBlocksDelta := afterCold.offloadBlocks - before.offloadBlocks
  warmOnboardBlocksDelta := afterWarm.onboardBlocks - afterEvict.onboardBlocks
  matchedTokensDelta := afterWarm.matchedTokens - afterEvict.matchedTokens
  expectedGdsMib := m.expectedGdsMib
  expectedGdsOps := m.expectedGdsOps
  expectedEvictionGdsMib := some evict.expectedGdsMib
  expectedEvictionGdsOps := some evict.expectedGdsOps
  expectedPdMib := m.expectedPdMib
  expectedPdDescriptors := m.expectedPdDescriptors
  expectedEvictionPdMib := some evict.expectedPdMib
  expectedEvictionPdDescriptors := some evict.expectedPdDescriptors

/-- `summarize` without `performance_only`, up to the point where `comparison.json` is
written. -/
def overwriteSummary (dir : EvidenceDir F) (evict : Metadata) :
    Except EvidenceError (OverwriteSummary F) := do
  let cold ← dir.request "cold.json"
  let evicted ← dir.request "evict.json"
  let warm ← dir.request "warm.json"
  Check.each (fun file => Check.require (dir.isFile file) (.fileNotFound file))
    ["metrics-before.txt", "metrics-after-cold.txt", "metrics-after-evict.txt",
      "metrics-after-warm.txt"]
  let before ← kvbmMetrics dir "metrics-before.txt"
  let afterCold ← kvbmMetrics dir "metrics-after-cold.txt"
  let afterEvict ← kvbmMetrics dir "metrics-after-evict.txt"
  let afterWarm ← kvbmMetrics dir "metrics-after-warm.txt"
  let coldTtft ← Check.orElse cold.ttftSeconds (.noneValue "ttft_seconds")
  let warmTtft ← Check.orElse warm.ttftSeconds (.noneValue "ttft_seconds")
  Check.require evicted.ttftSeconds.isSome (.noneValue "ttft_seconds")
  return ⟨cold, evicted, warm,
    summarizedComparison dir.metadata evict cold evicted warm coldTtft warmTtft before afterCold
      afterEvict afterWarm,
    afterEvict.offloadBlocks - afterCold.offloadBlocks⟩

def overwriteRequestsValid (m evict : Metadata) (s : OverwriteSummary F) : Bool :=
  s.cold.httpStatus == 200 &&
  s.evict.httpStatus == 200 &&
  s.warm.httpStatus == 200 &&
  s.cold.answerCorrect &&
  s.evict.answerCorrect &&
  s.warm.answerCorrect &&
  s.cold.payloadSha256 == s.warm.payloadSha256 &&
  s.cold.payloadSha256 != s.evict.payloadSha256 &&
  s.cold.usage.promptTokens == s.warm.usage.promptTokens &&
  s.cold.usage.promptTokens == some m.predictedInputTokens &&
  s.evict.usage.promptTokens == some evict.predictedInputTokens &&
  targetMin ≤ s.cold.usage.promptTokens.getD 0 &&
  s.cold.usage.promptTokens.getD 0 ≤ targetMax &&
  targetMin ≤ s.evict.usage.promptTokens.getD 0 &&
  s.evict.usage.promptTokens.getD 0 ≤ targetMax &&
  s.cold.usage.cachedTokens == 0 &&
  s.evict.usage.cachedTokens == 0 &&
  s.warm.usage.cachedTokens == m.expectedCachedTokens

/-- `valid`. -/
def overwriteGate (m evict : Metadata) (s : OverwriteSummary F) : Except EvidenceError Bool := do
  if !overwriteRequestsValid m evict s then return false
  if (← truncated s.comparison.coldOffloadBlocksDelta) != m.expectedKvBlocks then return false
  if (← truncated s.evictionOffloadBlocksDelta) != evict.expectedKvBlocks then return false
  if (← truncated s.comparison.warmOnboardBlocksDelta) != m.expectedKvBlocks then return false
  return decide ((← truncated s.comparison.matchedTokensDelta) ≥ m.expectedCachedTokens)

/-- The verdict, after the two speedups have been formatted into `comparison.md`.
`warmTotal` is the total time of the warm request. -/
def summarizeOverwrite (dir : EvidenceDir F) (evict : Metadata) (warmTotal : F) :
    Except EvidenceError Bool := do
  let s ← overwriteSummary dir evict
  Check.require s.comparison.ttftSpeedup.isSome (.noneValue "ttft_speedup")
  Check.require (!PyFloat.isZero warmTotal) (.noneValue "total_speedup")
  overwriteGate dir.metadata evict s

def summarize (performanceOnly : Bool) (dir : EvidenceDir F) (evict : Metadata) (warmTotal : F) :
    Except EvidenceError Bool :=
  if performanceOnly then summarizePerformance dir else summarizeOverwrite dir evict warmTotal

variable {dir : EvidenceDir F} {m evict : Metadata} {s : OverwriteSummary F} {c : Comparison F}

/-- What the requests themselves say. -/
structure OverwriteAnswered (m evict : Metadata) (s : OverwriteSummary F) : Prop where
  status : s.cold.httpStatus = 200 ∧ s.evict.httpStatus = 200 ∧ s.warm.httpStatus = 200
  answers : s.cold.answerCorrect = true ∧ s.evict.answerCorrect = true ∧
    s.warm.answerCorrect = true
  payloads : s.cold.payloadSha256 = s.warm.payloadSha256 ∧
    s.cold.payloadSha256 ≠ s.evict.payloadSha256
  tokens : s.cold.usage.promptTokens = some m.predictedInputTokens ∧
    s.warm.usage.promptTokens = some m.predictedInputTokens ∧
    s.evict.usage.promptTokens = some evict.predictedInputTokens
  target : (targetMin ≤ m.predictedInputTokens ∧ m.predictedInputTokens ≤ targetMax) ∧
    targetMin ≤ evict.predictedInputTokens ∧ evict.predictedInputTokens ≤ targetMax
  cached : s.cold.usage.cachedTokens = 0 ∧ s.evict.usage.cachedTokens = 0 ∧
    s.warm.usage.cachedTokens = m.expectedCachedTokens

/-- What the metrics say that was moved. -/
structure OverwriteMoved (m evict : Metadata) (s : OverwriteSummary F) : Prop where
  coldOffload : truncated s.comparison.coldOffloadBlocksDelta = .ok m.expectedKvBlocks
  evictOffload : truncated s.evictionOffloadBlocksDelta = .ok evict.expectedKvBlocks
  warmOnboard : truncated s.comparison.warmOnboardBlocksDelta = .ok m.expectedKvBlocks
  matched : ∃ k, truncated s.comparison.matchedTokensDelta = .ok k ∧ m.expectedCachedTokens ≤ k

omit [PyFloat F] in
theorem overwriteRequestsValid_iff :
    overwriteRequestsValid m evict s = true ↔ OverwriteAnswered m evict s := by
  simp only [overwriteRequestsValid, Bool.and_eq_true, beq_iff_eq, bne_iff_ne, decide_eq_true_eq]
  constructor
  · rintro ⟨⟨⟨⟨⟨⟨⟨⟨⟨⟨⟨⟨⟨⟨⟨⟨⟨hc, he⟩, hw⟩, hca⟩, hea⟩, hwa⟩, hsame⟩, hother⟩, hwt⟩, hct⟩, het⟩,
      hmin⟩, hmax⟩, hemin⟩, hemax⟩, hcc⟩, hec⟩, hwc⟩
    rw [hct, Option.getD_some] at hmin hmax
    rw [het, Option.getD_some] at hemin hemax
    exact ⟨⟨hc, he, hw⟩, ⟨hca, hea, hwa⟩, ⟨hsame, hother⟩, ⟨hct, hwt ▸ hct, het⟩,
      ⟨⟨hmin, hmax⟩, hemin, hemax⟩, hcc, hec, hwc⟩
  · rintro ⟨⟨hc, he, hw⟩, ⟨hca, hea, hwa⟩, ⟨hsame, hother⟩, ⟨hct, hwt, het⟩,
      ⟨⟨hmin, hmax⟩, hemin, hemax⟩, hcc, hec, hwc⟩
    simp [hc, he, hw, hca, hea, hwa, ← hsame, hother, hct, hwt, het, hmin, hmax, hemin, hemax, hcc,
      hec, hwc]

/-- A figure that the gate wants to be exact. -/
theorem truncated_exact {x : F} {n : Int} {rest : Except EvidenceError Bool} :
    (do if (← truncated x) != n then return false else rest) = .ok true ↔
      truncated x = .ok n ∧ rest = .ok true := by
  rw [Check.bind_ok]
  constructor
  · rintro ⟨k, hk, h⟩
    rw [bne, Check.unless_ok, beq_iff_eq] at h
    exact ⟨h.1 ▸ hk, h.2⟩
  · rintro ⟨hn, h⟩
    refine ⟨n, hn, ?_⟩
    rw [bne, Check.unless_ok]
    exact ⟨beq_self_eq_true n, h⟩

theorem overwriteGate_ok : overwriteGate m evict s = .ok true ↔
    OverwriteAnswered m evict s ∧ OverwriteMoved m evict s := by
  have hmatched {x : F} {n : Int} :
      (do return decide ((← truncated x) ≥ n) : Except EvidenceError Bool) = .ok true ↔
        ∃ k, truncated x = .ok k ∧ n ≤ k := by
    simp [pure, Except.pure]
  rw [overwriteGate, Check.unless_ok, overwriteRequestsValid_iff, truncated_exact, truncated_exact,
    truncated_exact, hmatched]
  constructor
  · rintro ⟨hanswered, hcold, hevict, hwarm, hmatched⟩
    exact ⟨hanswered, hcold, hevict, hwarm, hmatched⟩
  · rintro ⟨hanswered, hcold, hevict, hwarm, hmatched⟩
    exact ⟨hanswered, hcold, hevict, hwarm, hmatched⟩

/-! What the replay reads again. -/

def overwriteFiles : List String :=
  snapshotFiles ++ ["nvidia-fs-after-evict.txt", "node3-after-evict.txt"]

/-- The counters of nvidia-fs: each of the three requests moved its prompt's blocks. -/
def OverwriteCounters (dir : EvidenceDir F) (m evict : Metadata) : Prop :=
  ∃ w₀ w₁ w₂ r₀ r₁, nvfsCounter dir "before" "Writes" = .ok w₀ ∧
    nvfsCounter dir "after-cold" "Writes" = .ok w₁ ∧
    nvfsCounter dir "after-evict" "Writes" = .ok w₂ ∧
    nvfsCounter dir "after-evict" "Reads" = .ok r₀ ∧
    nvfsCounter dir "after-warm" "Reads" = .ok r₁ ∧
    (w₁.err = w₀.err ∧ w₂.err = w₁.err ∧ r₁.err = r₀.err) ∧
    (w₁.ops - w₀.ops = m.expectedGdsOps ∧ w₁.mib - w₀.mib = m.expectedGdsMib) ∧
    (w₂.ops - w₁.ops = evict.expectedGdsOps ∧ w₂.mib - w₁.mib = evict.expectedGdsMib) ∧
    r₁.ops - r₀.ops = m.expectedGdsOps ∧ r₁.mib - r₀.mib = m.expectedGdsMib

def OverwriteStorage (dir : EvidenceDir F) (m evict : Metadata) : Prop :=
  ∃ rx₀ rx₁ rx₂ tx₀ tx₁, node3RdmaBytes dir "before" "rx" = .ok rx₀ ∧
    node3RdmaBytes dir "after-cold" "rx" = .ok rx₁ ∧
    node3RdmaBytes dir "after-evict" "rx" = .ok rx₂ ∧
    node3RdmaBytes dir "after-evict" "tx" = .ok tx₀ ∧
    node3RdmaBytes dir "after-warm" "tx" = .ok tx₁ ∧
    StorageConsistent F (rx₁ - rx₀) m.expectedGdsMib ∧
    StorageConsistent F (rx₂ - rx₁) evict.expectedGdsMib ∧
    StorageConsistent F (tx₁ - tx₀) m.expectedGdsMib

def CarriesPrompt (t : Transfer F) (m : Metadata) : Prop :=
  ∃ mib descriptors : F, toFloat m.expectedPdMib = .ok mib ∧
    toFloat m.expectedPdDescriptors = .ok descriptors ∧
    differs t.mib mib = false ∧ differs t.descriptors descriptors = false

/-- The last three transfers of the log. -/
def OverwriteTransfers (dir : EvidenceDir F) (m evict : Metadata) : Prop :=
  ∃ (log : Text) (nixl : List (Transfer F)) (cold other warm : Transfer F),
    dir.readText "decode.log" = .ok log ∧ transfers log = .ok (nixl ++ [cold, other, warm]) ∧
    CarriesPrompt cold m ∧ CarriesPrompt other evict ∧ CarriesPrompt warm m

structure OverwriteReplay (dir : EvidenceDir F) (m evict : Metadata) (c : Comparison F) :
    Prop where
  files : ∀ name ∈ overwriteFiles, dir.isFile name = true
  counters : ∃ before, dir.readText "nvidia-fs-before.txt" = .ok before ∧
    (statsEnabled before = true → OverwriteCounters dir m evict)
  storage : OverwriteStorage dir m evict
  answers : c.coldAnswerCorrect = true ∧ c.warmAnswerCorrect = true ∧
    c.evictionAnswerCorrect = some true
  speedup : c.ttftSpeedup.isSome = true
  transfers : OverwriteTransfers dir m evict

/-- A comparison that `summarize` writes about an overwrite run. -/
structure OfOverwrite (m evict : Metadata) (c : Comparison F) : Prop where
  performanceOnly : c.performanceOnly = none
  warmTtftSamples : c.warmTtftSamplesSeconds = none
  warmSampleCount : c.warmSampleCount = none
  gdsMib : c.expectedGdsMib = m.expectedGdsMib
  gdsOps : c.expectedGdsOps = m.expectedGdsOps
  evictionGdsMib : c.expectedEvictionGdsMib = some evict.expectedGdsMib
  evictionGdsOps : c.expectedEvictionGdsOps = some evict.expectedGdsOps
  pdMib : c.expectedPdMib = m.expectedPdMib
  pdDescriptors : c.expectedPdDescriptors = m.expectedPdDescriptors
  evictionPdMib : c.expectedEvictionPdMib = some evict.expectedPdMib
  evictionPdDescriptors : c.expectedEvictionPdDescriptors = some evict.expectedPdDescriptors

theorem overwriteSummary_ok (hs : overwriteSummary dir evict = .ok s) :
    OfOverwrite dir.metadata evict s.comparison ∧
      (s.comparison.coldAnswerCorrect = s.cold.answerCorrect ∧
        s.comparison.warmAnswerCorrect = s.warm.answerCorrect ∧
        s.comparison.evictionAnswerCorrect = some s.evict.answerCorrect) := by
  simp only [overwriteSummary, ↓Check.seq_ok, Check.bind_ok, Check.orElse_ok] at hs
  obtain ⟨cold, -, evicted, -, warm, -, -, before, -, afterCold, -, afterEvict, -, afterWarm, -,
    coldTtft, -, warmTtft, -, -, hs⟩ := hs
  cases hs
  exact ⟨⟨rfl, rfl, rfl, rfl, rfl, rfl, rfl, rfl, rfl, rfl, rfl⟩, rfl, rfl, rfl⟩

omit [PyFloat F] in
theorem OfOverwrite.notPerformanceOnly (h : OfOverwrite m evict c) :
    c.isPerformanceOnly = false := by
  rw [Comparison.isPerformanceOnly, h.performanceOnly]
  rfl

omit [PyFloat F] in
theorem OfOverwrite.sampleCount (h : OfOverwrite m evict c) : c.sampleCount = 1 := by
  rw [Comparison.sampleCount, h.warmSampleCount]
  rfl

omit [PyFloat F] in
theorem OfOverwrite.warmBaseline_eq (h : OfOverwrite m evict c) :
    warmBaseline c = "after-evict" := by
  rw [warmBaseline, h.notPerformanceOnly]
  rfl

omit [PyFloat F] in
theorem OfOverwrite.evictionWrites_ok (h : OfOverwrite m evict c) {e : Option EvictionWrites} :
    evictionWrites dir c = .ok e ↔ ∃ w₂, nvfsCounter dir "after-evict" "Writes" = .ok w₂ ∧
      e = some ⟨w₂, evict.expectedGdsOps, evict.expectedGdsMib⟩ := by
  rw [evictionWrites, h.notPerformanceOnly, h.evictionGdsOps, h.evictionGdsMib]
  simp only [Bool.false_eq_true, if_false, Check.orElse, Check.ok_bind, Check.bind_ok]
  constructor
  · rintro ⟨w₂, h₂, he⟩
    exact ⟨w₂, h₂, (Except.ok.inj he).symm⟩
  · rintro ⟨w₂, h₂, rfl⟩
    exact ⟨w₂, h₂, rfl⟩

omit [PyFloat F] in
theorem OfOverwrite.nvfsReadings_ok (h : OfOverwrite m evict c) {x : NvfsReadings} :
    nvfsReadings dir c = .ok x ↔ ∃ w₀ w₁ w₂ r₀ r₁, nvfsCounter dir "before" "Writes" = .ok w₀ ∧
      nvfsCounter dir "after-cold" "Writes" = .ok w₁ ∧
      nvfsCounter dir "after-evict" "Writes" = .ok w₂ ∧
      nvfsCounter dir "after-evict" "Reads" = .ok r₀ ∧
      nvfsCounter dir "after-warm" "Reads" = .ok r₁ ∧
      x = ⟨w₀, w₁, r₀, r₁, some ⟨w₂, evict.expectedGdsOps, evict.expectedGdsMib⟩⟩ := by
  rw [nvfsReadings, h.warmBaseline_eq]
  simp only [Check.bind_ok, h.evictionWrites_ok]
  constructor
  · rintro ⟨w₀, h₀, w₁, h₁, r₀, h₃, r₁, h₄, -, ⟨w₂, h₂, rfl⟩, hx⟩
    exact ⟨w₀, w₁, w₂, r₀, r₁, h₀, h₁, h₂, h₃, h₄, (Except.ok.inj hx).symm⟩
  · rintro ⟨w₀, w₁, w₂, r₀, r₁, h₀, h₁, h₂, h₃, h₄, rfl⟩
    exact ⟨w₀, h₀, w₁, h₁, r₀, h₃, r₁, h₄, _, ⟨w₂, h₂, rfl⟩, rfl⟩

omit [PyFloat F] in
theorem OfOverwrite.countersExact (h : OfOverwrite m evict c) {w₀ w₁ w₂ r₀ r₁ : NvfsCounter} :
    CountersExact c
        ⟨w₀, w₁, r₀, r₁, some ⟨w₂, evict.expectedGdsOps, evict.expectedGdsMib⟩⟩ ↔
      (w₁.err = w₀.err ∧ w₂.err = w₁.err ∧ r₁.err = r₀.err) ∧
      (w₁.ops - w₀.ops = m.expectedGdsOps ∧ w₁.mib - w₀.mib = m.expectedGdsMib) ∧
      (w₂.ops - w₁.ops = evict.expectedGdsOps ∧ w₂.mib - w₁.mib = evict.expectedGdsMib) ∧
      r₁.ops - r₀.ops = m.expectedGdsOps ∧ r₁.mib - r₀.mib = m.expectedGdsMib := by
  constructor
  · rintro ⟨herrors, hwrites, -, hwarm⟩
    simp only [NvfsReadings.errorChanged, Bool.or_eq_false_iff, bne_eq_false_iff_eq] at herrors
    simp only [WritesExact, Observed.Exact, observe, Option.mem_def, Option.some.injEq,
      forall_eq', h.gdsOps, h.gdsMib] at hwrites
    simp only [WarmMoved, h.gdsOps, h.gdsMib, mul_one] at hwarm
    exact ⟨⟨herrors.1.1, herrors.2, herrors.1.2⟩, hwrites.1, hwrites.2, hwarm⟩
  · rintro ⟨⟨hw₁, hw₂, hr⟩, hcold, hevict, hwarm⟩
    refine ⟨?_, ?_, ?_, ?_⟩
    · simp [NvfsReadings.errorChanged, hw₁, hw₂, hr]
    · simpa [WritesExact, Observed.Exact, observe, h.gdsOps, h.gdsMib] using ⟨hcold, hevict⟩
    · simpa [WarmMoved, h.gdsOps, h.gdsMib, h.sampleCount] using hwarm
    · simpa [WarmMoved, h.gdsOps, h.gdsMib] using hwarm

omit [PyFloat F] in
theorem OfOverwrite.counters (h : OfOverwrite m evict c) :
    (∃ x, nvfsReadings dir c = .ok x ∧ CountersExact c x) ↔ OverwriteCounters dir m evict := by
  constructor
  · rintro ⟨x, hx, hexact⟩
    obtain ⟨w₀, w₁, w₂, r₀, r₁, h₀, h₁, h₂, h₃, h₄, rfl⟩ := h.nvfsReadings_ok.mp hx
    exact ⟨w₀, w₁, w₂, r₀, r₁, h₀, h₁, h₂, h₃, h₄, h.countersExact.mp hexact⟩
  · rintro ⟨w₀, w₁, w₂, r₀, r₁, h₀, h₁, h₂, h₃, h₄, hexact⟩
    exact ⟨_, h.nvfsReadings_ok.mpr ⟨w₀, w₁, w₂, r₀, r₁, h₀, h₁, h₂, h₃, h₄, rfl⟩,
      h.countersExact.mpr hexact⟩

theorem OfOverwrite.validateRdmaGate_ok (h : OfOverwrite m evict c) :
    validateRdmaGate dir c = .ok () ↔ OverwriteStorage dir m evict := by
  rw [validateRdmaGate, h.warmBaseline_eq, h.notPerformanceOnly, h.sampleCount,
    h.evictionGdsMib, h.gdsMib]
  simp only [Bool.false_eq_true, if_false, Check.orElse, Check.ok_bind, mul_one,
    pure_bind, ↓Check.seq_ok, Check.bind_ok, checkStorageBytes_ok]
  constructor
  · rintro ⟨rx₀, h₀, rx₁, h₁, tx₀, h₃, tx₁, h₄, rx₂, h₂, hcold, hwarm, hevict⟩
    exact ⟨rx₀, rx₁, rx₂, tx₀, tx₁, h₀, h₁, h₂, h₃, h₄, hcold, hevict, hwarm⟩
  · rintro ⟨rx₀, rx₁, rx₂, tx₀, tx₁, h₀, h₁, h₂, h₃, h₄, hcold, hevict, hwarm⟩
    exact ⟨rx₀, h₀, rx₁, h₁, tx₀, h₃, tx₁, h₄, rx₂, h₂, hcold, hwarm, hevict⟩

theorem OfOverwrite.expectations_ok (h : OfOverwrite m evict c) {mib descriptors : F}
    {wanted : List (Expectation F)} :
    expectations c mib descriptors = .ok wanted ↔ ∃ otherMib otherDescriptors,
      toFloat evict.expectedPdMib = .ok otherMib ∧
      toFloat evict.expectedPdDescriptors = .ok otherDescriptors ∧
      wanted = [⟨"Cold", mib, descriptors⟩, ⟨"Overwrite", otherMib, otherDescriptors⟩,
        ⟨"Warm", mib, descriptors⟩] := by
  rw [expectations, h.notPerformanceOnly, h.evictionPdMib, h.evictionPdDescriptors]
  simp only [Bool.false_eq_true, if_false, Check.orElse, Check.ok_bind, Check.bind_ok]
  constructor
  · rintro ⟨otherMib, hmib, otherDescriptors, hdescriptors, hwanted⟩
    exact ⟨otherMib, otherDescriptors, hmib, hdescriptors, (Except.ok.inj hwanted).symm⟩
  · rintro ⟨otherMib, otherDescriptors, hmib, hdescriptors, rfl⟩
    exact ⟨otherMib, hmib, otherDescriptors, hdescriptors, rfl⟩

theorem last_three {α : Type} {l : List α} (h : 3 ≤ l.length) :
    ∃ front x y z, l = front ++ [x, y, z] := by
  have hlength : (l.drop (l.length - 3)).length = 3 := by
    rw [List.length_drop]
    omega
  obtain ⟨x, y, z, hlast⟩ := List.length_eq_three.mp hlength
  exact ⟨l.take (l.length - 3), x, y, z, by rw [← hlast, List.take_append_drop]⟩

theorem checkTransfer_ok {e : Expectation F} {t : Transfer F} : checkTransfer (e, t) = .ok () ↔
    differs t.mib e.mib = false ∧ differs t.descriptors e.descriptors = false := by
  simp [checkTransfer]

theorem pairTransfers_three {e₁ e₂ e₃ : Expectation F} {x y z : Transfer F}
    (front : List (Transfer F)) :
    Check.each checkTransfer (pairTransfers [e₁, e₂, e₃] (front ++ [x, y, z])) = .ok () ↔
      checkTransfer (e₁, x) = .ok () ∧ checkTransfer (e₂, y) = .ok () ∧
        checkTransfer (e₃, z) = .ok () := by
  have hpair : pairTransfers [e₁, e₂, e₃] (front ++ [x, y, z]) =
      [(e₁, x), (e₂, y), (e₃, z)] := by
    simp [pairTransfers]
  rw [hpair, Check.each_ok]
  simp

theorem OfOverwrite.nixlGate_ok (h : OfOverwrite m evict c) :
    nixlGate dir c = .ok () ↔ OverwriteTransfers dir m evict := by
  rw [nixlGate, h.pdMib, h.pdDescriptors]
  simp only [Check.bind_ok, ↓Check.seq_ok, Check.require_ok, decide_eq_true_eq, h.expectations_ok]
  constructor
  · rintro ⟨log, hlog, mib, hmib, descriptors, hdescriptors, nixl, hnixl, -,
      ⟨otherMib, otherDescriptors, hotherMib, hotherDescriptors, rfl⟩, hlength, hcheck⟩
    obtain ⟨front, x, y, z, rfl⟩ := last_three hlength
    rw [pairTransfers_three, checkTransfer_ok, checkTransfer_ok, checkTransfer_ok] at hcheck
    obtain ⟨hx, hy, hz⟩ := hcheck
    exact ⟨log, front, x, y, z, hlog, hnixl, ⟨mib, descriptors, hmib, hdescriptors, hx⟩,
      ⟨otherMib, otherDescriptors, hotherMib, hotherDescriptors, hy⟩,
      mib, descriptors, hmib, hdescriptors, hz⟩
  · rintro ⟨log, front, x, y, z, hlog, hnixl, ⟨mib, descriptors, hmib, hdescriptors, hx⟩,
      ⟨otherMib, otherDescriptors, hotherMib, hotherDescriptors, hy⟩,
      mib', descriptors', hmib', hdescriptors', hz⟩
    obtain rfl := Except.ok.inj (hmib.symm.trans hmib')
    obtain rfl := Except.ok.inj (hdescriptors.symm.trans hdescriptors')
    refine ⟨log, hlog, mib, hmib, descriptors, hdescriptors, _, hnixl, _,
      ⟨otherMib, otherDescriptors, hotherMib, hotherDescriptors, rfl⟩, by simp, ?_⟩
    rw [pairTransfers_three, checkTransfer_ok, checkTransfer_ok, checkTransfer_ok]
    exact ⟨hx, hy, hz⟩

/-- What a replay of an overwrite run accepts. Its two counter gates want the same here. -/
theorem OfOverwrite.replay_ok (h : OfOverwrite m evict c) (hc : dir.comparison = some c) :
    replay dir = .ok () ↔ OverwriteReplay dir m evict c := by
  have hlabels : node3Labels c = ["before", "after-cold", "after-warm", "after-evict"] := by
    simp [node3Labels, h.notPerformanceOnly]
  have hanswers : finalAnswers c = true ↔ c.coldAnswerCorrect = true ∧
      c.warmAnswerCorrect = true ∧ c.evictionAnswerCorrect = some true := by
    cases hevict : c.evictionAnswerCorrect with
    | none => simp [finalAnswers, h.notPerformanceOnly, hevict]
    | some correct => simp [finalAnswers, h.notPerformanceOnly, hevict, and_assoc]
  have hreport : finalReport c = .ok () ↔ c.ttftSpeedup.isSome = true := by
    simp [finalReport, h.warmTtftSamples]
  have hreplay : replay dir = .ok () ↔
      (∀ name ∈ overwriteFiles, dir.isFile name = true) ∧ validateCounterGate dir c = .ok () ∧
        OverwriteStorage dir m evict ∧ finalAnswers c = true ∧ finalReport c = .ok () ∧
        finalCounterGate dir c = .ok () ∧ OverwriteTransfers dir m evict := by
    simp [replay, validateEvidence, finalGate, hc, h.notPerformanceOnly, hlabels, Check.each_ok,
      overwriteFiles, snapshotFiles, h.validateRdmaGate_ok, h.nixlGate_ok, and_assoc]
    tauto
  rw [hreplay, hanswers, hreport]
  constructor
  · rintro ⟨hfiles, hvalidate, hstorage, hanswer, hspeedup, hfinal, htransfers⟩
    obtain ⟨before, hbefore, hcounters⟩ := counterGates_ok.mp ⟨hvalidate, hfinal⟩
    exact ⟨hfiles, ⟨before, hbefore, fun hs => h.counters.mp (hcounters hs)⟩, hstorage, hanswer,
      hspeedup, htransfers⟩
  · rintro ⟨hfiles, ⟨before, hbefore, hcounters⟩, hstorage, hanswer, hspeedup, htransfers⟩
    obtain ⟨hvalidate, hfinal⟩ :=
      counterGates_ok.mpr ⟨before, hbefore, fun hs => h.counters.mpr (hcounters hs)⟩
    exact ⟨hfiles, hvalidate, hstorage, hanswer, hspeedup, hfinal, htransfers⟩

/-- An overwrite run passes the strict gate of its summary and its replay exactly when every
request was answered and read from the cache as it should, and each reader of the evidence,
the metrics, nvidia-fs, the storage node and the decode log, saw exactly the blocks of the
request's own prompt. -/
theorem overwrite_run_iff {warmTotal : F} (hs : overwriteSummary dir evict = .ok s)
    (hc : dir.comparison = some s.comparison) :
    (summarizeOverwrite dir evict warmTotal = .ok true ∧ replay dir = .ok ()) ↔
      PyFloat.isZero warmTotal = false ∧ OverwriteAnswered dir.metadata evict s ∧
        OverwriteMoved dir.metadata evict s ∧
        OverwriteReplay dir dir.metadata evict s.comparison := by
  have hof := (overwriteSummary_ok hs).1
  have hverdict : summarizeOverwrite dir evict warmTotal = .ok true ↔
      s.comparison.ttftSpeedup.isSome = true ∧ PyFloat.isZero warmTotal = false ∧
        overwriteGate dir.metadata evict s = .ok true := by
    rw [summarizeOverwrite, hs, Check.ok_bind, Check.seq_ok, Check.seq_ok, Check.require_ok,
      Check.require_ok, Bool.not_eq_true']
  rw [hverdict, overwriteGate_ok, hof.replay_ok hc]
  constructor
  · rintro ⟨⟨-, htotal, hanswered, hmoved⟩, hreplay⟩
    exact ⟨htotal, hanswered, hmoved, hreplay⟩
  · rintro ⟨htotal, hanswered, hmoved, hreplay⟩
    exact ⟨⟨hreplay.speedup, htotal, hanswered, hmoved⟩, hreplay⟩

def promptTransfer (mib descriptors : String) : Text :=
  "KV Transfer metrics: Avg MB per transfer=".toList ++ mib.toList ++
    ", Avg number of descriptors=".toList ++ descriptors.toList ++ "\n".toList

def otherResult : RequestResult ℚ where
  httpStatus := 200
  payloadSha256 := "b2".toList
  ttftSeconds := some 31
  answerCorrect := true
  usage := ⟨some 38700, some ⟨some (some 0)⟩⟩

def ownMetadata : Metadata := promptMetadata "a1".toList 38600

def otherMetadata : Metadata := promptMetadata "b2".toList 38700

def overwrittenComparison : Comparison ℚ :=
  summarizedComparison ownMetadata otherMetadata (sampleResult 30 "a1" true 0) otherResult
    (sampleResult 6 "a1" true 38400) 30 6 ⟨0, 0, 0, 0⟩ ⟨150, 0, 0, 0⟩ ⟨301, 0, 0, 0⟩
    ⟨301, 150, 38400, 0⟩

/-- 150 blocks are written, 151 others over them, and the 150 read back. -/
def overwrittenRun : EvidenceDir ℚ where
  metadata := ownMetadata
  requests := [("cold.json", sampleResult 30 "a1" true 0), ("evict.json", otherResult),
    ("warm.json", sampleResult 6 "a1" true 38400)]
  texts := [("metrics-before.txt", sampleMetrics "0" "0" "0"),
    ("metrics-after-cold.txt", sampleMetrics "150" "0" "0"),
    ("metrics-after-evict.txt", sampleMetrics "301" "0" "0"),
    ("metrics-after-warm.txt", sampleMetrics "301" "150" "38400"),
    ("nvidia-fs-before.txt", "IO stats: Disabled\n".toList),
    ("nvidia-fs-after-cold.txt", "IO stats: Disabled\n".toList),
    ("nvidia-fs-after-evict.txt", "IO stats: Disabled\n".toList),
    ("nvidia-fs-after-warm.txt", "IO stats: Disabled\n".toList),
    ("node3-before.txt", sampleNode3 "0" "0"),
    ("node3-after-cold.txt", sampleNode3 "6291456000" "0"),
    ("node3-after-evict.txt", sampleNode3 "12624855040" "0"),
    ("node3-after-warm.txt", sampleNode3 "12624855040" "6291456000"),
    ("decode.log", promptTransfer "6040" "12080" ++ promptTransfer "6080" "12160" ++
      promptTransfer "6040" "12080")]
  comparison := some overwrittenComparison

def overwrittenSummary : OverwriteSummary ℚ :=
  ⟨sampleResult 30 "a1" true 0, otherResult, sampleResult 6 "a1" true 38400,
    overwrittenComparison, 151⟩

theorem overwrite_run_iff_overwritten :
    (summarizeOverwrite overwrittenRun otherMetadata 7 = .ok true ∧
        replay overwrittenRun = .ok ()) ↔
      PyFloat.isZero (7 : ℚ) = false ∧ OverwriteAnswered ownMetadata otherMetadata
        overwrittenSummary ∧ OverwriteMoved ownMetadata otherMetadata overwrittenSummary ∧
        OverwriteReplay overwrittenRun ownMetadata otherMetadata overwrittenComparison :=
  overwrite_run_iff (s := overwrittenSummary) (by decide +kernel) rfl

example : summarizeOverwrite overwrittenRun otherMetadata 7 = .ok true ∧
    replay overwrittenRun = .ok () := by decide +kernel

/-! The figures of `prepare`. -/

/-- A prompt within the target fills 150 or 151 blocks and part of another, which is sent to
the decode side too. -/
structure PromptFigures (m : Metadata) (blocks : Int) : Prop where
  range : blocks = 150 ∨ blocks = 151
  expectedKvBlocks : m.expectedKvBlocks = blocks
  expectedCachedTokens : m.expectedCachedTokens = 256 * blocks
  gds : m.expectedGdsMib = 40 * blocks ∧ m.expectedGdsOps = 80 * blocks
  pd : ∃ sent, (sent = blocks ∨ sent = blocks + 1) ∧ m.expectedPdMib = 40 * sent ∧
    m.expectedPdDescriptors = 80 * sent

theorem promptMetadata_figures {payload : Text} {n : Int} (hmin : targetMin ≤ n)
    (hmax : n ≤ targetMax) : PromptFigures (promptMetadata payload n) (n / 256) := by
  rw [targetMin] at hmin
  rw [targetMax] at hmax
  have hmib : mibPerBlock = 40 := by decide
  have hblock : (kvBlockSizeTokens : Int) = 256 := rfl
  refine ⟨by omega, ?_, ?_, ⟨?_, ?_⟩, (n + 255) / 256, by omega, ?_, ?_⟩
  · simp only [promptMetadata, hblock]
    omega
  · simp only [promptMetadata, hblock]
    omega
  · simp only [promptMetadata, hblock, hmib]
    omega
  · simp only [promptMetadata, hblock, numLayers, kvOuterDim]
    omega
  · simp only [promptMetadata, hblock, hmib]
    omega
  · simp only [promptMetadata, hblock, numLayers, kvOuterDim]
    omega

/-- What an overwrite run that passes has moved, if `prepare` wrote its metadata. -/
theorem overwrite_run_blocks {a b : Text} {n k : Int} {warmTotal : F}
    (hm : dir.metadata = promptMetadata a n)
    (hs : overwriteSummary dir (promptMetadata b k) = .ok s)
    (hc : dir.comparison = some s.comparison)
    (hverdict : summarizeOverwrite dir (promptMetadata b k) warmTotal = .ok true)
    (hreplay : replay dir = .ok ()) :
    ∃ blocks other, (blocks = 150 ∨ blocks = 151) ∧ (other = 150 ∨ other = 151) ∧
      truncated s.comparison.coldOffloadBlocksDelta = .ok blocks ∧
      truncated s.evictionOffloadBlocksDelta = .ok other ∧
      truncated s.comparison.warmOnboardBlocksDelta = .ok blocks ∧
      s.warm.usage.cachedTokens = 256 * blocks := by
  obtain ⟨-, hanswered, hmoved, -⟩ := (overwrite_run_iff hs hc).mp ⟨hverdict, hreplay⟩
  rw [hm] at hanswered hmoved
  have hown : PromptFigures (promptMetadata a n) (n / 256) :=
    promptMetadata_figures hanswered.target.1.1 hanswered.target.1.2
  have hother : PromptFigures (promptMetadata b k) (k / 256) :=
    promptMetadata_figures hanswered.target.2.1 hanswered.target.2.2
  refine ⟨n / 256, k / 256, hown.range, hother.range, ?_, ?_, ?_, ?_⟩
  · rw [hmoved.coldOffload, hown.expectedKvBlocks]
  · rw [hmoved.evictOffload, hother.expectedKvBlocks]
  · rw [hmoved.warmOnboard, hown.expectedKvBlocks]
  · rw [hanswered.cached.2.2, hown.expectedCachedTokens]

end PdDisaggregation
