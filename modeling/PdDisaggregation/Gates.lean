import PdDisaggregation.Summary

/-! The gates of a replay: the evidence part of `validate-gds.sh` and the last
step of `demo-phase2.sh`. Both read `comparison.json` and the snapshots again. -/

namespace PdDisaggregation

variable {F : Type}

def Comparison.isPerformanceOnly (c : Comparison F) : Bool := c.performanceOnly.getD false

def Comparison.sampleCount (c : Comparison F) : Int := c.warmSampleCount.getD 1

structure Observed where
  label : String
  ops : Int
  mib : Int
  wantedOps : Int
  wantedMib : Int

def observe (label : String) (before after : NvfsCounter) (wantedOps wantedMib : Int) : Observed :=
  ⟨label, after.ops - before.ops, after.mib - before.mib, wantedOps, wantedMib⟩

def checkObserved (o : Observed) : Except EvidenceError Unit :=
  Check.require (o.ops == o.wantedOps && o.mib == o.wantedMib)
    (.incompleteKv o.label o.ops o.mib o.wantedOps o.wantedMib)

structure EvictionWrites where
  after : NvfsCounter
  expectedOps : Int
  expectedMib : Int

def evictionWrites (dir : EvidenceDir F) (c : Comparison F) :
    Except EvidenceError (Option EvictionWrites) := do
  if c.isPerformanceOnly then return none
  let w2 ← nvfsCounter dir "after-evict" "Writes"
  let ops ← Check.orElse c.expectedEvictionGdsOps (.keyError "expected_eviction_gds_ops")
  let mib ← Check.orElse c.expectedEvictionGdsMib (.keyError "expected_eviction_gds_mib")
  return some ⟨w2, ops, mib⟩

def warmBaseline (c : Comparison F) : String :=
  if c.isPerformanceOnly then "after-cold" else "after-evict"

structure NvfsReadings where
  w0 : NvfsCounter
  w1 : NvfsCounter
  r0 : NvfsCounter
  r1 : NvfsCounter
  eviction : Option EvictionWrites

def nvfsReadings (dir : EvidenceDir F) (c : Comparison F) : Except EvidenceError NvfsReadings := do
  let w0 ← nvfsCounter dir "before" "Writes"
  let w1 ← nvfsCounter dir "after-cold" "Writes"
  let r0 ← nvfsCounter dir (warmBaseline c) "Reads"
  let r1 ← nvfsCounter dir "after-warm" "Reads"
  let eviction ← evictionWrites dir c
  return ⟨w0, w1, r0, r1, eviction⟩

def NvfsReadings.errorChanged (x : NvfsReadings) : Bool :=
  x.w1.err != x.w0.err || x.r1.err != x.r0.err ||
    match x.eviction with
    | some e => e.after.err != x.w1.err
    | none => false

/-- `observed` in `validate-gds.sh`. -/
def validateObserved (c : Comparison F) (x : NvfsReadings) : List Observed :=
  observe "Cold A offload" x.w0 x.w1 c.expectedGdsOps c.expectedGdsMib ::
  observe "Warm A reload" x.r0 x.r1 (c.expectedGdsOps * c.sampleCount)
    (c.expectedGdsMib * c.sampleCount) ::
  match x.eviction with
  | some e => [observe "Overwrite B offload" x.w1 e.after e.expectedOps e.expectedMib]
  | none => []

/-- `observed` in `demo-phase2.sh`. -/
def finalObserved (c : Comparison F) (x : NvfsReadings) : List Observed :=
  observe "Direct GDS Cold write" x.w0 x.w1 c.expectedGdsOps c.expectedGdsMib ::
  observe "Direct GDS Warm read" x.r0 x.r1 c.expectedGdsOps c.expectedGdsMib ::
  match x.eviction with
  | some e => [observe "Direct GDS B write" x.w1 e.after e.expectedOps e.expectedMib]
  | none => []

def validateCounterGate (dir : EvidenceDir F) (c : Comparison F) : Except EvidenceError Unit := do
  let before ← dir.readText "nvidia-fs-before.txt"
  if statsEnabled before then
    let x ← nvfsReadings dir c
    Check.require (!x.errorChanged) .errorsIncreased
    Check.each checkObserved (validateObserved c x)

def finalCounterGate (dir : EvidenceDir F) (c : Comparison F) : Except EvidenceError Unit := do
  let before ← dir.readText "nvidia-fs-before.txt"
  if statsEnabled before then
    let x ← nvfsReadings dir c
    Check.each checkObserved (finalObserved c x)

variable [PyFloat F]

/-- `payload_bytes <= actual_bytes <= payload_bytes * 1.10` -/
def checkStorageBytes (F : Type) [PyFloat F] (label : String) (actualBytes payloadMib : Int) :
    Except EvidenceError Unit := do
  let payloadBytes := payloadMib * 1024 * 1024
  Check.require (payloadBytes ≤ actualBytes) (.storageBytes label actualBytes payloadMib)
  let payload ← Check.orElse (PyFloat.ofInt (F := F) payloadBytes) .overflow
  Check.require (PyFloat.intLe actualBytes (payload * (1.10 : F)))
    (.storageBytes label actualBytes payloadMib)

def validateRdmaGate (dir : EvidenceDir F) (c : Comparison F) : Except EvidenceError Unit := do
  let beforeRx ← node3RdmaBytes dir "before" "rx"
  let coldRx ← node3RdmaBytes dir "after-cold" "rx"
  let beforeWarmTx ← node3RdmaBytes dir (warmBaseline c) "tx"
  let warmTx ← node3RdmaBytes dir "after-warm" "tx"
  let eviction ←
    if c.isPerformanceOnly then pure none else do
      let evictRx ← node3RdmaBytes dir "after-evict" "rx"
      let mib ← Check.orElse c.expectedEvictionGdsMib (.keyError "expected_eviction_gds_mib")
      pure (some (evictRx, mib))
  checkStorageBytes F "Cold A storage RX" (coldRx - beforeRx) c.expectedGdsMib
  checkStorageBytes F "Warm A storage TX" (warmTx - beforeWarmTx) (c.expectedGdsMib * c.sampleCount)
  match eviction with
  | some (evictRx, mib) => checkStorageBytes F "Overwrite B storage RX" (evictRx - coldRx) mib
  | none => pure ()

def node3Labels (c : Comparison F) : List String :=
  ["before", "after-cold", "after-warm"] ++ if c.isPerformanceOnly then [] else ["after-evict"]

/-- `validate-gds.sh` with `RUN_EVIDENCE`, past its checks of the live system. -/
def validateEvidence (dir : EvidenceDir F) : Except EvidenceError Unit := do
  Check.each (fun name => Check.require (dir.isFile name) (.fileNotFound name))
    ["nvidia-fs-before.txt", "nvidia-fs-after-cold.txt", "nvidia-fs-after-warm.txt"]
  let c ← Check.orElse dir.comparison (.fileNotFound "comparison.json")
  if !c.isPerformanceOnly then
    Check.require (dir.isFile "nvidia-fs-after-evict.txt")
      (.fileNotFound "nvidia-fs-after-evict.txt")
  Check.each (fun label => Check.require (dir.isFile ("node3-" ++ label ++ ".txt"))
    (.fileNotFound ("node3-" ++ label ++ ".txt"))) (node3Labels c)
  validateCounterGate dir c
  validateRdmaGate dir c

def finalAnswers (c : Comparison F) : Bool :=
  c.coldAnswerCorrect && c.warmAnswerCorrect &&
    (c.isPerformanceOnly || c.evictionAnswerCorrect.getD false)

/-- The lines printed before the counters that a missing value stops. -/
def finalReport (c : Comparison F) : Except EvidenceError Unit := do
  if c.warmTtftSamplesSeconds.isSome then
    Check.require c.warmBestTtftSeconds.isSome (.keyError "warm_best_ttft_seconds")
  Check.require c.ttftSpeedup.isSome (.noneValue "ttft_speedup")

structure Expectation (F : Type) where
  label : String
  mib : F
  descriptors : F

def toFloat (n : Int) : Except EvidenceError F := Check.orElse (PyFloat.ofInt n) .overflow

def expectations (c : Comparison F) (mib descriptors : F) :
    Except EvidenceError (List (Expectation F)) := do
  if c.isPerformanceOnly then
    return ⟨"Cold", mib, descriptors⟩ :: (List.range c.sampleCount.toNat).map fun i =>
      ⟨"Warm " ++ toString (i + 1), mib, descriptors⟩
  else
    let evictionMib ← Check.orElse c.expectedEvictionPdMib (.keyError "expected_eviction_pd_mib")
    let evictionMib ← toFloat evictionMib
    let evictionDescriptors ← Check.orElse c.expectedEvictionPdDescriptors
      (.keyError "expected_eviction_pd_descriptors")
    let evictionDescriptors ← toFloat evictionDescriptors
    return [⟨"Cold", mib, descriptors⟩, ⟨"Overwrite", evictionMib, evictionDescriptors⟩,
      ⟨"Warm", mib, descriptors⟩]

/-- `abs(observed - wanted) >= 0.01` -/
def differs (observed wanted : F) : Bool := PyFloat.le (0.01 : F) (PyFloat.abs (observed - wanted))

def checkTransfer (p : Expectation F × Transfer F) : Except EvidenceError Unit :=
  Check.require (!(differs p.2.mib p.1.mib || differs p.2.descriptors p.1.descriptors))
    (.transferSize p.1.label)

def pairTransfers (wanted : List (Expectation F)) (nixl : List (Transfer F)) :
    List (Expectation F × Transfer F) := wanted.zip (nixl.drop (nixl.length - wanted.length))

def nixlGate (dir : EvidenceDir F) (c : Comparison F) : Except EvidenceError Unit := do
  let log ← dir.readText "decode.log"
  let mib ← toFloat c.expectedPdMib
  let descriptors ← toFloat c.expectedPdDescriptors
  let nixl ← transfers log
  let wanted ← expectations c mib descriptors
  Check.require (wanted.length ≤ nixl.length) (.tooFewTransfers nixl.length wanted.length)
  Check.each checkTransfer (pairTransfers wanted nixl)

/-- The last step of `demo-phase2.sh`. It prints `PHASE 2 PASS` when it ends. -/
def finalGate (dir : EvidenceDir F) (c : Comparison F) : Except EvidenceError Unit := do
  Check.require (finalAnswers c) .answerGate
  finalReport c
  finalCounterGate dir c
  nixlGate dir c

/-- `demo-phase2.sh --evidence` where the live validators pass. -/
def replay (dir : EvidenceDir F) : Except EvidenceError Unit := do
  validateEvidence dir
  let c ← Check.orElse dir.comparison (.fileNotFound "comparison.json")
  finalGate dir c

end PdDisaggregation
