import PdDisaggregation.CounterGates

/-! What a replay that prints `PHASE 2 PASS` has looked at, and what the strict
gate of the summary wants beyond it. -/

namespace PdDisaggregation

variable {F : Type} [PyFloat F] {dir : EvidenceDir F} {c : Comparison F}
  {s : PerformanceSummary F} {m : Metadata}

/-- The strict gate as the evidence of a complete reuse. -/
structure CompleteReuse (m : Metadata) (s : PerformanceSummary F) : Prop where
  answers : ∀ r ∈ s.results, r.answerCorrect = true
  payloads : ∀ r ∈ s.results, r.payloadSha256 = s.cold.payloadSha256
  coldCached : s.cold.usage.cachedTokens = 0
  warmCached : ∀ r ∈ s.results, r.usage.cachedTokensInt = .ok m.expectedCachedTokens
  coldOffload : truncated s.comparison.coldOffloadBlocksDelta = .ok m.expectedKvBlocks
  warmOnboard : truncated s.comparison.warmOnboardBlocksDelta =
    .ok (m.expectedKvBlocks * s.samples.length)

/-- What of it no gate of a replay reads: all but the median answer. -/
structure Unread (m : Metadata) (s : PerformanceSummary F) : Prop where
  otherAnswers : ∀ r ∈ s.results.eraseIdx (s.samples.length / 2), r.answerCorrect = true
  payloads : ∀ r ∈ s.results, r.payloadSha256 = s.cold.payloadSha256
  coldCached : s.cold.usage.cachedTokens = 0
  warmCached : ∀ r ∈ s.results, r.usage.cachedTokensInt = .ok m.expectedCachedTokens
  coldOffload : truncated s.comparison.coldOffloadBlocksDelta = .ok m.expectedKvBlocks
  warmOnboard : truncated s.comparison.warmOnboardBlocksDelta =
    .ok (m.expectedKvBlocks * s.samples.length)

structure CountersExact (c : Comparison F) (x : NvfsReadings) : Prop where
  errors : x.errorChanged = false
  writes : WritesExact c x
  allSamples : WarmMoved c x c.sampleCount
  oneSample : WarmMoved c x 1

def StorageConsistent (F : Type) [PyFloat F] (actualBytes payloadMib : Int) : Prop :=
  payloadMib * 1024 * 1024 ≤ actualBytes ∧
    ∃ payload : F, PyFloat.ofInt (payloadMib * 1024 * 1024) = some payload ∧
      PyFloat.intLe actualBytes (payload * (1.10 : F)) = true

structure StorageReadings (dir : EvidenceDir F) (c : Comparison F) : Prop where
  cold : ∃ rx₀ rx₁, node3RdmaBytes dir "before" "rx" = .ok rx₀ ∧
    node3RdmaBytes dir "after-cold" "rx" = .ok rx₁ ∧
    StorageConsistent F (rx₁ - rx₀) c.expectedGdsMib
  warm : ∃ tx₀ tx₁, node3RdmaBytes dir "after-cold" "tx" = .ok tx₀ ∧
    node3RdmaBytes dir "after-warm" "tx" = .ok tx₁ ∧
    StorageConsistent F (tx₁ - tx₀) (c.expectedGdsMib * c.sampleCount)

def TransfersComplete (dir : EvidenceDir F) (c : Comparison F) : Prop :=
  ∃ (log : Text) (mib descriptors : F) (nixl : List (Transfer F)),
    dir.readText "decode.log" = .ok log ∧
    toFloat c.expectedPdMib = .ok mib ∧ toFloat c.expectedPdDescriptors = .ok descriptors ∧
    transfers log = .ok nixl ∧ c.sampleCount.toNat + 1 ≤ nixl.length ∧
    ∀ t ∈ nixl.drop (nixl.length - (c.sampleCount.toNat + 1)),
      differs t.mib mib = false ∧ differs t.descriptors descriptors = false

def snapshotFiles : List String :=
  ["nvidia-fs-before.txt", "nvidia-fs-after-cold.txt", "nvidia-fs-after-warm.txt",
    "node3-before.txt", "node3-after-cold.txt", "node3-after-warm.txt"]

/-- What a replay of a performance-only run accepts. -/
structure ReplayAccepts (dir : EvidenceDir F) (c : Comparison F) : Prop where
  files : ∀ name ∈ snapshotFiles, dir.isFile name = true
  counters : ∃ before, dir.readText "nvidia-fs-before.txt" = .ok before ∧
    (statsEnabled before = true → ∃ x, nvfsReadings dir c = .ok x ∧ CountersExact c x)
  storage : StorageReadings dir c
  answers : c.coldAnswerCorrect = true ∧ c.warmAnswerCorrect = true
  report : finalReport c = .ok ()
  transfers : TransfersComplete dir c

theorem checkStorageBytes_ok {label : String} {actual mib : Int} :
    checkStorageBytes F label actual mib = .ok () ↔ StorageConsistent F actual mib := by
  simp [checkStorageBytes, StorageConsistent]

theorem validateRdmaGate_ok (hp : c.isPerformanceOnly = true) :
    validateRdmaGate dir c = .ok () ↔ StorageReadings dir c := by
  have hb : warmBaseline c = "after-cold" := if_pos hp
  simp only [validateRdmaGate, hb, hp, if_true, pure_bind, ↓Check.seq_ok, Check.bind_ok,
    checkStorageBytes_ok, bind_pure_comp, id_map']
  constructor
  · rintro ⟨rx₀, h₀, rx₁, h₁, tx₀, h₂, tx₁, h₃, hc, hw⟩
    exact ⟨⟨rx₀, rx₁, h₀, h₁, hc⟩, tx₀, tx₁, h₂, h₃, hw⟩
  · rintro ⟨⟨rx₀, rx₁, h₀, h₁, hc⟩, tx₀, tx₁, h₂, h₃, hw⟩
    exact ⟨rx₀, h₀, rx₁, h₁, tx₀, h₂, tx₁, h₃, hc, hw⟩

omit [PyFloat F] in
theorem counterGates_ok :
    (validateCounterGate dir c = .ok () ∧ finalCounterGate dir c = .ok ()) ↔
      ∃ before, dir.readText "nvidia-fs-before.txt" = .ok before ∧
        (statsEnabled before = true → ∃ x, nvfsReadings dir c = .ok x ∧ CountersExact c x) := by
  cases ht : dir.readText "nvidia-fs-before.txt" with
  | error e => simp [validateCounterGate, ht, bind, Except.bind]
  | ok before =>
    by_cases hs : statsEnabled before = true
    · cases hx : nvfsReadings dir c with
      | error e => simp [validateCounterGate, ht, hs, hx, bind, Except.bind]
      | ok x =>
        rw [validateCounterGate_ok ht hs hx, finalCounterGate_ok ht hs hx]
        constructor
        · rintro ⟨⟨he, hw, hn⟩, -, h1⟩
          exact ⟨before, rfl, fun _ => ⟨x, rfl, he, hw, hn, h1⟩⟩
        · rintro ⟨_, hb, h⟩
          cases hb
          obtain ⟨_, hy, he, hw, hn, h1⟩ := h hs
          cases hy
          exact ⟨⟨he, hw, hn⟩, hw, h1⟩
    · simp [validateCounterGate, finalCounterGate, ht, hs, pure, Except.pure]

theorem pairTransfers_const {mib descriptors : F} {wanted : List (Expectation F)}
    (hw : ∀ e ∈ wanted, e.mib = mib ∧ e.descriptors = descriptors) {nixl : List (Transfer F)}
    (hn : wanted.length ≤ nixl.length) :
    Check.each checkTransfer (pairTransfers wanted nixl) = .ok () ↔
      ∀ t ∈ nixl.drop (nixl.length - wanted.length),
        differs t.mib mib = false ∧ differs t.descriptors descriptors = false := by
  rw [Check.each_ok, pairTransfers]
  generalize hl : nixl.drop (nixl.length - wanted.length) = last
  have hmap : (wanted.zip last).map Prod.snd = last := by
    refine List.map_snd_zip ?_
    rw [← hl, List.length_drop]
    omega
  have hcheck : ∀ p ∈ wanted.zip last, checkTransfer p = .ok () ↔
      differs p.2.mib mib = false ∧ differs p.2.descriptors descriptors = false := by
    intro p hp
    obtain ⟨hm, hd⟩ := hw p.1 (List.of_mem_zip hp).1
    simp [checkTransfer, hm, hd]
  rw [forall₂_congr hcheck]
  conv_rhs => rw [← hmap, List.forall_mem_map]

theorem nixlGate_ok (hp : c.isPerformanceOnly = true) :
    nixlGate dir c = .ok () ↔ TransfersComplete dir c := by
  have hlen (mib descriptors : F) (f : Nat → String) :
      ((⟨"Cold", mib, descriptors⟩ : Expectation F) ::
        (List.range c.sampleCount.toNat).map fun i => ⟨f i, mib, descriptors⟩).length =
        c.sampleCount.toNat + 1 := by simp
  have hconst (mib descriptors : F) (f : Nat → String) :
      ∀ e ∈ (⟨"Cold", mib, descriptors⟩ : Expectation F) ::
        (List.range c.sampleCount.toNat).map fun i => ⟨f i, mib, descriptors⟩,
        e.mib = mib ∧ e.descriptors = descriptors := by simp
  simp only [nixlGate, expectations, hp, if_true, pure_bind, ↓Check.seq_ok, Check.bind_ok,
    Check.require_ok, decide_eq_true_eq, hlen]
  constructor
  · rintro ⟨log, hlog, mib, hm, descriptors, hd, nixl, hnixl, hn, hh⟩
    rw [pairTransfers_const (hconst mib descriptors _) (by rwa [hlen]), hlen] at hh
    exact ⟨log, mib, descriptors, nixl, hlog, hm, hd, hnixl, hn, hh⟩
  · rintro ⟨log, mib, descriptors, nixl, hlog, hm, hd, hnixl, hn, hh⟩
    refine ⟨log, hlog, mib, hm, descriptors, hd, nixl, hnixl, hn, ?_⟩
    rw [pairTransfers_const (hconst mib descriptors _) (by rwa [hlen]), hlen]
    exact hh

theorem replay_ok_iff (hc : dir.comparison = some c) (hp : c.isPerformanceOnly = true) :
    replay dir = .ok () ↔ ReplayAccepts dir c := by
  have hlabels : node3Labels c = ["before", "after-cold", "after-warm"] := by
    simp [node3Labels, hp]
  have hanswers :
      finalAnswers c = true ↔ c.coldAnswerCorrect = true ∧ c.warmAnswerCorrect = true := by
    simp [finalAnswers, hp]
  have hreplay : replay dir = .ok () ↔
      (∀ name ∈ snapshotFiles, dir.isFile name = true) ∧ validateCounterGate dir c = .ok () ∧
        StorageReadings dir c ∧ finalAnswers c = true ∧ finalReport c = .ok () ∧
        finalCounterGate dir c = .ok () ∧ TransfersComplete dir c := by
    simp [replay, validateEvidence, finalGate, hc, hp, hlabels, Check.each_ok, snapshotFiles,
      validateRdmaGate_ok hp, nixlGate_ok hp, and_assoc]
  rw [hreplay, hanswers]
  constructor
  · rintro ⟨hfiles, hv, hs, ha, hr, hf, ht⟩
    exact ⟨hfiles, counterGates_ok.mp ⟨hv, hf⟩, hs, ha, hr, ht⟩
  · intro h
    obtain ⟨hv, hf⟩ := counterGates_ok.mpr h.counters
    exact ⟨h.files, hv, h.storage, h.answers, h.report, hf, h.transfers⟩

theorem performanceSummary_ok (hs : performanceSummary dir = .ok s) :
    s.samples[s.samples.length / 2]? = some s.warm ∧
      s.comparison.performanceOnly = some true ∧
      s.comparison.warmAnswerCorrect = s.warm.2.answerCorrect ∧
      s.comparison.warmSampleCount = some (s.samples.length : Int) := by
  simp only [performanceSummary, ↓Check.seq_ok, Check.bind_ok, Check.orElse_ok] at hs
  obtain ⟨cold, -, samples, -, warm, hw, -, before, -, afterCold, -, afterWarm, -, ttft, -, -, hs⟩ :=
    hs
  cases hs
  exact ⟨hw, rfl, rfl, rfl⟩

omit [PyFloat F] in
theorem answers_iff {results : List (RequestResult F)} {warm : RequestResult F} {i : Nat}
    (hw : results[i]? = some warm) (ha : warm.answerCorrect = true) :
    (∀ r ∈ results, r.answerCorrect = true) ↔
      ∀ r ∈ results.eraseIdx i, r.answerCorrect = true := by
  constructor
  · exact fun h r hr => h r (List.mem_of_mem_eraseIdx hr)
  · intro h r hr
    obtain ⟨j, hj⟩ := List.mem_iff_getElem?.mp hr
    by_cases hij : j = i
    · subst hij
      rw [← Option.some.inj (hw.symm.trans hj)]
      exact ha
    · exact h r (List.mem_eraseIdx_iff_getElem?.mpr ⟨j, hij, hj⟩)

/-- A replay that passes is a complete reuse exactly when what no gate reads is
in order. -/
theorem replay_sound_iff (dir : EvidenceDir F) (s : PerformanceSummary F)
    (hs : performanceSummary dir = .ok s) (hw : dir.comparison = some s.comparison) :
    (replay dir = .ok () → CompleteReuse dir.metadata s) ↔
      (ReplayAccepts dir s.comparison → Unread dir.metadata s) := by
  obtain ⟨hmedian, hperf, hanswer, -⟩ := performanceSummary_ok hs
  have hp : s.comparison.isPerformanceOnly = true := by simp [Comparison.isPerformanceOnly, hperf]
  have hresult : s.results[s.samples.length / 2]? = some s.warm.2 := by
    simp [PerformanceSummary.results, hmedian]
  rw [replay_ok_iff hw hp]
  refine imp_congr_right fun haccepts => ?_
  have ha : s.warm.2.answerCorrect = true := hanswer ▸ haccepts.answers.2
  have hiff := answers_iff hresult ha
  constructor
  · rintro ⟨h1, h2, h3, h4, h5, h6⟩
    exact ⟨hiff.mp h1, h2, h3, h4, h5, h6⟩
  · rintro ⟨h1, h2, h3, h4, h5, h6⟩
    exact ⟨hiff.mpr h1, h2, h3, h4, h5, h6⟩

theorem allChecked_iff {α : Type} {check : α → Except EvidenceError Bool} {as : List α} :
    allChecked check as = .ok true ↔ ∀ a ∈ as, check a = .ok true := by
  induction as with
  | nil => simp [allChecked]
  | cons a as ih =>
    rw [allChecked, List.forall_mem_cons, ← ih, Check.bind_ok]
    constructor
    · rintro ⟨b, hb, h⟩
      cases b with
      | false => cases h
      | true => exact ⟨hb, h⟩
    · rintro ⟨ha, h⟩
      exact ⟨true, ha, h⟩

omit [PyFloat F] in
theorem warmCachedExact_ok {expected : Int} {r : RequestResult F}
    (h : warmCachedExact expected r = .ok true) : r.usage.cachedTokensInt = .ok expected := by
  obtain ⟨k, hk, hh⟩ := Check.bind_ok.mp h
  rw [hk]
  simpa [pure, Except.pure] using hh

theorem strictGate_complete (h : strictGate m s = .ok true) : CompleteReuse m s := by
  rw [strictGate, Check.unless_ok] at h
  obtain ⟨hrequests, h⟩ := h
  obtain ⟨cached, hcached, h⟩ := Check.bind_ok.mp h
  obtain ⟨rfl, h⟩ := Check.unless_ok.mp h
  obtain ⟨offload, hoffload, h⟩ := Check.bind_ok.mp h
  rw [bne, Check.unless_ok] at h
  obtain ⟨ho, h⟩ := h
  obtain ⟨onboard, honboard, h⟩ := Check.bind_ok.mp h
  obtain ⟨hn, -⟩ := Check.unless_ok.mp h
  rw [beq_iff_eq] at ho
  rw [warmOnboardExact, beq_iff_eq] at hn
  simp only [requestsValid, Bool.and_eq_true, List.all_eq_true, beq_iff_eq] at hrequests
  obtain ⟨⟨⟨⟨⟨⟨⟨⟨⟨⟨-, -⟩, -⟩, hanswers⟩, hpayloads⟩, -⟩, -⟩, -⟩, -⟩, -⟩, hcold⟩ := hrequests
  exact
    { answers := hanswers
      payloads := fun r hr => (hpayloads r hr).symm
      coldCached := hcold
      warmCached := fun r hr => warmCachedExact_ok (allChecked_iff.mp hcached r hr)
      coldOffload := ho ▸ hoffload
      warmOnboard := hn ▸ honboard }

def sampleMetrics (offload onboard matched : String) : Text :=
  "kvbm_offload_blocks_d2d ".toList ++ offload.toList ++ "\nkvbm_onboard_blocks_d2d ".toList ++
    onboard.toList ++ "\nkvbm_matched_tokens ".toList ++ matched.toList ++
    "\nkvbm_disk_cache_hit_rate 0\n".toList

def sampleNode3 (rx tx : String) : Text :=
  "     rx_vport_rdma_unicast_bytes: ".toList ++ rx.toList ++
    "\n     tx_vport_rdma_unicast_bytes: ".toList ++ tx.toList ++ "\n".toList

def sampleTransfer : Text :=
  "KV Transfer metrics: Avg MB per transfer=2, Avg number of descriptors=2\n".toList

def sampleResult (ttft : ℚ) (payload : String) (correct : Bool) (cached : Int) :
    RequestResult ℚ where
  httpStatus := 200
  payloadSha256 := payload.toList
  ttftSeconds := some ttft
  answerCorrect := correct
  usage := ⟨some 38600, some ⟨some (some cached)⟩⟩

def shortComparison : Comparison ℚ where
  performanceOnly := some true
  coldAnswerCorrect := true
  warmAnswerCorrect := true
  evictionAnswerCorrect := none
  coldTtftSeconds := 30
  warmGdsTtftSeconds := 6
  warmBestTtftSeconds := some 5
  warmTtftSamplesSeconds := some [5, 6, 20]
  warmSampleCount := some 3
  ttftSpeedup := some 5
  coldCachedTokens := 0
  warmCachedTokens := 38400
  coldOffloadBlocksDelta := 2
  warmOnboardBlocksDelta := 4
  matchedTokensDelta := 76800
  expectedGdsMib := 2
  expectedGdsOps := 2
  expectedEvictionGdsMib := none
  expectedEvictionGdsOps := none
  expectedPdMib := 2
  expectedPdDescriptors := 2
  expectedEvictionPdMib := none
  expectedEvictionPdDescriptors := none

/-- A run without statistics in which one sample of three got another payload,
answered it wrongly and reloaded nothing. -/
def shortReload : EvidenceDir ℚ where
  metadata := ⟨"a1".toList, 38600, 38400, 2, 2, 2, 2, 2⟩
  requests := [("cold.json", sampleResult 30 "a1" true 0),
    ("warm.json", sampleResult 6 "a1" true 38400),
    ("warm-2.json", sampleResult 5 "a1" true 38400),
    ("warm-3.json", sampleResult 20 "b2" false 0)]
  texts := [("metrics-before.txt", sampleMetrics "0" "0" "0"),
    ("metrics-after-cold.txt", sampleMetrics "2" "0" "0"),
    ("metrics-after-warm.txt", sampleMetrics "2" "4" "76800"),
    ("nvidia-fs-before.txt", "IO stats: Disabled\n".toList),
    ("nvidia-fs-after-cold.txt", "IO stats: Disabled\n".toList),
    ("nvidia-fs-after-warm.txt", "IO stats: Disabled\n".toList),
    ("node3-before.txt", sampleNode3 "0" "0"),
    ("node3-after-cold.txt", sampleNode3 "2097152" "0"),
    ("node3-after-warm.txt", sampleNode3 "2097152" "6291456"),
    ("decode.log", sampleTransfer ++ sampleTransfer ++ sampleTransfer ++ sampleTransfer)]
  comparison := some shortComparison

def shortSummary : PerformanceSummary ℚ where
  cold := sampleResult 30 "a1" true 0
  samples := [(5, sampleResult 5 "a1" true 38400), (6, sampleResult 6 "a1" true 38400),
    (20, sampleResult 20 "b2" false 0)]
  warm := (6, sampleResult 6 "a1" true 38400)
  comparison := shortComparison

theorem replay_sound_iff_short :
    (replay shortReload = .ok () → CompleteReuse shortReload.metadata shortSummary) ↔
      (ReplayAccepts shortReload shortComparison → Unread shortReload.metadata shortSummary) :=
  replay_sound_iff shortReload shortSummary (by decide +kernel) rfl

theorem short_reload_passes_replay :
    performanceSummary shortReload = .ok shortSummary ∧
      shortReload.comparison = some shortSummary.comparison ∧
      replay shortReload = .ok () ∧ ¬ CompleteReuse shortReload.metadata shortSummary :=
  ⟨by decide +kernel, rfl, by decide +kernel, fun h =>
    absurd (h.answers _ (List.mem_cons_of_mem _ (List.mem_cons_of_mem _ List.mem_cons_self)))
      (by decide)⟩

end PdDisaggregation
