import PdDisaggregation.Collector

/-! Every window between two baselines of the collector moved exactly what one
request needs: each moved at least that, and the summary checks their sum. -/

namespace PdDisaggregation

section Chains

variable {e : Int}

/-- A chain of values, latest first, that grew by at least `e` each time. -/
theorem chain_lower {l : List Int} : ∀ {a z : Int}, (a :: l).IsChain (fun b a => a + e ≤ b) →
    (a :: l).getLast? = some z → z + e * l.length ≤ a := by
  induction l with
  | nil =>
    intro a z _ hz
    simp at hz
    simp [hz]
  | cons b l ih =>
    intro a z h hz
    obtain ⟨hab, hl⟩ := List.isChain_cons_cons.mp h
    have hb := ih hl (by simpa using hz)
    simp only [List.length_cons, Nat.cast_add, Nat.cast_one, mul_add, mul_one]
    linarith

theorem chain_exact {l : List Int} : ∀ {a z : Int}, (a :: l).IsChain (fun b a => a + e ≤ b) →
    (a :: l).getLast? = some z → a ≤ z + e * l.length →
    (a :: l).IsChain (fun b a => b = a + e) := by
  induction l with
  | nil => intro a z _ _ _; exact .singleton a
  | cons b l ih =>
    intro a z h hz ha
    obtain ⟨hab, hl⟩ := List.isChain_cons_cons.mp h
    have hz' : (b :: l).getLast? = some z := by simpa using hz
    have hb := chain_lower hl hz'
    simp only [List.length_cons, Nat.cast_add, Nat.cast_one, mul_add, mul_one] at ha
    exact List.isChain_cons_cons.mpr ⟨by linarith, ih hl hz' (by linarith)⟩

end Chains

variable {cfg : CollectorConfig} {s t : Collector} {e : CollectorEvent}

def sampleFiles : Nat → List String
  | 0 => ["cold.json"]
  | k + 1 => sampleFile (k + 1) :: sampleFiles k

def Collector.requests (s : Collector) : Nat :=
  if s.phase = .request then s.sample - 1 else s.sample

def Collector.rebased (s : Collector) : Nat :=
  match s.phase with
  | .readMatched | .snapshot | .finished => s.sample
  | _ => s.sample - 1

structure Collecting (cfg : CollectorConfig) (first : Int) (s : Collector) : Prop where
  sample_pos : 0 < s.sample
  sample_le : s.sample ≤ cfg.samples
  last_sample : s.phase = .snapshot ∨ s.phase = .finished → s.sample = cfg.samples
  head : s.baselines.head? = some s.warmOnboardBefore
  first_baseline : s.baselines.getLast? = some first
  count : s.baselines.length = s.rebased + 1
  windows : s.baselines.IsChain (fun after before => before + cfg.expectedBlocks ≤ after)
  baseline_le : s.warmOnboardBefore ≤ s.onboard
  reloaded : s.phase = .waitMatched ∨ s.phase = .readOnboard →
    s.warmOnboardBefore + cfg.expectedBlocks ≤ s.onboard
  files : s.files = sampleFiles s.requests
  afterWarm : ∀ w, s.afterWarm = some w → s.phase = .finished ∧ s.warmOnboardBefore ≤ w

def Running (cfg : CollectorConfig) (first : Int) (s : Collector) : Prop :=
  (s.phase = .died ∧ s.afterWarm = none) ∨ Collecting cfg first s

theorem collecting_afterCold (onboard matched : Int) :
    Collecting cfg onboard (afterCold onboard matched) where
  sample_pos := Nat.one_pos
  sample_le := cfg.samples_pos
  last_sample h := by simp [afterCold] at h
  head := rfl
  first_baseline := rfl
  count := rfl
  windows := .singleton _
  baseline_le := le_refl _
  reloaded h := by simp [afterCold] at h
  files := rfl
  afterWarm w h := by simp [afterCold] at h

inductive CollectorTrans (cfg : CollectorConfig) (s : Collector) : Collector → Prop
  | counters (onboard matched : Int) (ho : 0 ≤ onboard) :
      CollectorTrans cfg s
        { s with onboard := s.onboard + onboard, matched := s.matched + matched }
  | request (hp : s.phase = .request) :
      CollectorTrans cfg s { s with files := sampleFile s.sample :: s.files, phase := .waitOnboard }
  | unchanged : CollectorTrans cfg s s
  | onboarded (hp : s.phase = .waitOnboard)
      (h : s.onboard - s.warmOnboardBefore ≥ cfg.expectedBlocks) :
      CollectorTrans cfg s { s with phase := .waitMatched }
  | matched (hp : s.phase = .waitMatched) : CollectorTrans cfg s { s with phase := .readOnboard }
  | rebaseOnboard (hp : s.phase = .readOnboard) :
      CollectorTrans cfg s { s with
        warmOnboardBefore := s.onboard
        baselines := s.onboard :: s.baselines
        phase := .readMatched }
  | next (hp : s.phase = .readMatched) (h : s.sample < cfg.samples) :
      CollectorTrans cfg s
        { s with warmMatchedBefore := s.matched, sample := s.sample + 1, phase := .request }
  | last (hp : s.phase = .readMatched) (h : ¬ s.sample < cfg.samples) :
      CollectorTrans cfg s { s with warmMatchedBefore := s.matched, phase := .snapshot }
  | capture (hp : s.phase = .snapshot) :
      CollectorTrans cfg s { s with afterWarm := some s.onboard, phase := .finished }

theorem poll_trans {current baseline expected : Int} {next : CollectorPhase}
    (h : current - baseline ≥ expected → CollectorTrans cfg s { s with phase := next }) :
    CollectorTrans cfg s (s.poll current baseline expected next) := by
  by_cases hc : current - baseline ≥ expected
  · rw [Collector.poll, if_pos hc]
    exact h hc
  · rw [Collector.poll, if_neg hc]
    exact .unchanged

theorem collectorStep_trans (h : collectorStep cfg s e = some t) :
    CollectorTrans cfg s t ∨
      (t.phase = .died ∧ t.afterWarm = s.afterWarm ∧ s.phase ≠ .finished) := by
  unfold collectorStep at h
  split at h
  · split at h
    · rename_i ho
      cases h
      exact .inl (.counters _ _ ho)
    · cases h
  · rename_i hp
    cases h
    split
    · exact .inr ⟨rfl, rfl, by simp [hp]⟩
    · exact .inl (.request hp)
  · rename_i hp
    cases h
    exact .inl (poll_trans fun hc => .onboarded hp hc)
  · rename_i hp
    cases h
    exact .inl (poll_trans fun _ => .matched hp)
  · rename_i hp
    cases h
    exact .inr ⟨rfl, rfl, by simp [hp]⟩
  · rename_i hp
    cases h
    exact .inr ⟨rfl, rfl, by simp [hp]⟩
  · rename_i hp
    cases h
    exact .inl (.rebaseOnboard hp)
  · rename_i hp
    cases h
    split
    · rename_i hn
      exact .inl (.next hp hn)
    · rename_i hn
      exact .inl (.last hp hn)
  · rename_i hp
    cases h
    exact .inl (.capture hp)
  · split at h
    · cases h
    · rename_i hp
      cases h
      exact .inr ⟨rfl, rfl, hp⟩
  · cases h

section Transitions

variable {first : Int}

theorem Collecting.unfinished (hc : Collecting cfg first s) (hf : s.phase ≠ .finished) (w : Int) :
    s.afterWarm ≠ some w :=
  fun h => hf (hc.afterWarm w h).1

theorem Collecting.counters (hc : Collecting cfg first s) {onboard matched : Int}
    (ho : 0 ≤ onboard) :
    Collecting cfg first
      { s with onboard := s.onboard + onboard, matched := s.matched + matched } := by
  have hle : s.onboard ≤ s.onboard + onboard := le_add_of_nonneg_right ho
  exact
    { hc with
      baseline_le := hc.baseline_le.trans hle
      reloaded := fun h => (hc.reloaded h).trans hle }

theorem Collecting.request (hc : Collecting cfg first s) (hp : s.phase = .request) :
    Collecting cfg first
      { s with files := sampleFile s.sample :: s.files, phase := .waitOnboard } := by
  have hfiles := hc.files
  have hcount := hc.count
  obtain ⟨k, hk⟩ := Nat.exists_eq_add_of_lt hc.sample_pos
  exact
    { hc with
      last_sample := by simp
      count := by simpa [Collector.rebased, hp] using hcount
      reloaded := by simp
      files := by simp [Collector.requests, hp, hk] at hfiles ⊢; simp [sampleFiles, hfiles]
      afterWarm := fun w h => absurd h (hc.unfinished (by simp [hp]) w) }

theorem Collecting.onboarded (hc : Collecting cfg first s) (hp : s.phase = .waitOnboard)
    (h : s.onboard - s.warmOnboardBefore ≥ cfg.expectedBlocks) :
    Collecting cfg first { s with phase := .waitMatched } := by
  have hfiles := hc.files
  have hcount := hc.count
  exact
    { hc with
      last_sample := by simp
      count := by simpa [Collector.rebased, hp] using hcount
      reloaded := fun _ => by
        change s.warmOnboardBefore + cfg.expectedBlocks ≤ s.onboard
        linarith
      files := by simpa [Collector.requests, hp] using hfiles
      afterWarm := fun w h => absurd h (hc.unfinished (by simp [hp]) w) }

theorem Collecting.matched (hc : Collecting cfg first s) (hp : s.phase = .waitMatched) :
    Collecting cfg first { s with phase := .readOnboard } := by
  have hfiles := hc.files
  have hcount := hc.count
  exact
    { hc with
      last_sample := by simp
      count := by simpa [Collector.rebased, hp] using hcount
      reloaded := fun _ => hc.reloaded (.inl hp)
      files := by simpa [Collector.requests, hp] using hfiles
      afterWarm := fun w h => absurd h (hc.unfinished (by simp [hp]) w) }

/-- The window that ends here is the one `warm_onboard_before` began. -/
theorem Collecting.rebaseOnboard (hc : Collecting cfg first s) (hp : s.phase = .readOnboard) :
    Collecting cfg first { s with
      warmOnboardBefore := s.onboard
      baselines := s.onboard :: s.baselines
      phase := .readMatched } := by
  have hpos := hc.sample_pos
  have hfiles := hc.files
  have hcount := hc.count
  obtain ⟨l, hl⟩ : ∃ l, s.baselines = s.warmOnboardBefore :: l := by
    have hh := hc.head
    cases hb : s.baselines with
    | nil => simp [hb] at hh
    | cons b l =>
      rw [hb, List.head?_cons, Option.some.injEq] at hh
      exact ⟨l, by rw [hh]⟩
  have hreload := hc.reloaded (.inr hp)
  have hwindows := hc.windows
  have hfirst := hc.first_baseline
  rw [hl] at hwindows hfirst hcount
  exact
    { hc with
      last_sample := by simp
      head := rfl
      first_baseline := by simpa [hl] using hfirst
      count := by
        simp [Collector.rebased, hp] at hcount ⊢
        simp [hl]
        omega
      windows := by
        change (s.onboard :: s.baselines).IsChain _
        rw [hl]
        exact List.isChain_cons_cons.mpr ⟨hreload, hwindows⟩
      baseline_le := le_refl _
      reloaded := by simp
      files := by simpa [Collector.requests, hp] using hfiles
      afterWarm := fun w h => absurd h (hc.unfinished (by simp [hp]) w) }

theorem Collecting.next (hc : Collecting cfg first s) (hp : s.phase = .readMatched)
    (h : s.sample < cfg.samples) :
    Collecting cfg first
      { s with warmMatchedBefore := s.matched, sample := s.sample + 1, phase := .request } := by
  have hfiles := hc.files
  have hcount := hc.count
  exact
    { hc with
      sample_pos := Nat.succ_pos _
      sample_le := h
      last_sample := by simp
      count := by simpa [Collector.rebased, hp] using hcount
      reloaded := by simp
      files := by simpa [Collector.requests, hp] using hfiles
      afterWarm := fun w h => absurd h (hc.unfinished (by simp [hp]) w) }

theorem Collecting.last (hc : Collecting cfg first s) (hp : s.phase = .readMatched)
    (h : ¬ s.sample < cfg.samples) :
    Collecting cfg first { s with warmMatchedBefore := s.matched, phase := .snapshot } := by
  have hfiles := hc.files
  have hcount := hc.count
  exact
    { hc with
      last_sample := fun _ => le_antisymm hc.sample_le (not_lt.mp h)
      count := by simpa [Collector.rebased, hp] using hcount
      reloaded := by simp
      files := by simpa [Collector.requests, hp] using hfiles
      afterWarm := fun w h => absurd h (hc.unfinished (by simp [hp]) w) }

theorem Collecting.capture (hc : Collecting cfg first s) (hp : s.phase = .snapshot) :
    Collecting cfg first { s with afterWarm := some s.onboard, phase := .finished } := by
  have hfiles := hc.files
  have hcount := hc.count
  exact
    { hc with
      last_sample := fun _ => hc.last_sample (.inl hp)
      count := by simpa [Collector.rebased, hp] using hcount
      reloaded := by simp
      files := by simpa [Collector.requests, hp] using hfiles
      afterWarm := fun w h => ⟨rfl, Option.some.inj h ▸ hc.baseline_le⟩ }

theorem collecting_trans (hc : Collecting cfg first s) (ht : CollectorTrans cfg s t) :
    Collecting cfg first t := by
  cases ht with
  | counters onboard matched ho => exact hc.counters ho
  | request hp => exact hc.request hp
  | unchanged => exact hc
  | onboarded hp h => exact hc.onboarded hp h
  | matched hp => exact hc.matched hp
  | rebaseOnboard hp => exact hc.rebaseOnboard hp
  | next hp h => exact hc.next hp h
  | last hp h => exact hc.last hp h
  | capture hp => exact hc.capture hp

end Transitions

theorem died_trans (hd : s.phase = .died) (ht : CollectorTrans cfg s t) :
    t.phase = .died ∧ t.afterWarm = s.afterWarm := by
  cases ht with
  | counters => exact ⟨hd, rfl⟩
  | unchanged => exact ⟨hd, rfl⟩
  | request hp | onboarded hp | matched hp | rebaseOnboard hp | next hp | last hp | capture hp =>
    simp [hd] at hp

theorem running_step {first : Int} (hr : Running cfg first s)
    (hs : collectorStep cfg s e = some t) : Running cfg first t := by
  rcases hr with ⟨hd, hw⟩ | hc
  · rcases collectorStep_trans hs with ht | ⟨hp, ha, -⟩
    · obtain ⟨hp, ha⟩ := died_trans hd ht
      exact .inl ⟨hp, ha.trans hw⟩
    · exact .inl ⟨hp, ha.trans hw⟩
  · rcases collectorStep_trans hs with ht | ⟨hp, ha, hf⟩
    · exact .inr (collecting_trans hc ht)
    · refine .inl ⟨hp, ha.trans ?_⟩
      cases hw : s.afterWarm with
      | none => rfl
      | some w => exact absurd (hc.afterWarm w hw).1 hf

theorem running_of_reachable {first matched : Int}
    (h : Machine.Reachable (collectorStep cfg) (afterCold first matched) s) :
    Running cfg first s :=
  h.invariant (fun _ _ _ hr _ hs => running_step hr hs) (.inr (collecting_afterCold first matched))

theorem isWarmSample_sampleFile {k : Nat} (hk : 1 < k) : isWarmSample (sampleFile k) = true := by
  obtain ⟨d, rest, hd⟩ := List.exists_cons_of_ne_nil (Nat.toDigits_ne_nil (n := k) (b := 10))
  have hdigit : d.isDigit = true :=
    Nat.isDigit_of_mem_toDigits (by decide) (by decide) (hd ▸ List.mem_cons_self)
  simp [isWarmSample, sampleFile, hk, hd, hdigit]

theorem filter_sampleFiles (n : Nat) : ((sampleFiles n).filter isWarmSample).length = n - 1 := by
  induction n with
  | zero => decide
  | succ n ih =>
    cases n with
    | zero => decide
    | succ n =>
      have hw : isWarmSample (sampleFile (n + 1 + 1)) = true := isWarmSample_sampleFile (by omega)
      rw [sampleFiles, List.filter_cons_of_pos hw, List.length_cons, ih]
      omega

theorem warmNames_sampleFiles {n : Nat} (hn : 0 < n) : (warmNames (sampleFiles n)).length = n := by
  rw [warmNames, List.length_cons, List.length_insertionSort, filter_sampleFiles]
  omega

/-- If the warm loop ended and the total is what the summary accepts, each
window moved exactly one request's blocks and nothing moved after the last. -/
theorem collector_windows_exact (cfg : CollectorConfig) (first matched last : Int) (s : Collector)
    (h : Machine.Reachable (collectorStep cfg) (afterCold first matched) s)
    (hs : s.afterWarm = some last)
    (hv : warmOnboardExact (last - first) cfg.expectedBlocks (warmNames s.files).length = true) :
    s.baselines.IsChain (fun after before => after = before + cfg.expectedBlocks) ∧
      s.baselines.length = cfg.samples + 1 ∧ s.baselines.getLast? = some first ∧
      s.baselines.head? = some last := by
  obtain ⟨-, hn⟩ | hc := running_of_reachable h
  · simp [hs] at hn
  obtain ⟨hp, hle⟩ := hc.afterWarm last hs
  have hsample : s.sample = cfg.samples := hc.last_sample (.inr hp)
  have hcount : s.baselines.length = cfg.samples + 1 := by
    rw [hc.count, Collector.rebased, hp, hsample]
  have hfiles : (warmNames s.files).length = cfg.samples := by
    rw [hc.files, Collector.requests, if_neg (by simp [hp]), hsample,
      warmNames_sampleFiles cfg.samples_pos]
  have htotal : last - first = cfg.expectedBlocks * cfg.samples := by
    rw [warmOnboardExact, beq_iff_eq, hfiles] at hv
    exact hv
  obtain ⟨b, l, hl⟩ := List.exists_cons_of_ne_nil (List.ne_nil_of_length_eq_add_one hcount)
  have hb : b = s.warmOnboardBefore := by simpa [hl] using hc.head
  have hlen : l.length = cfg.samples := by simpa [hl] using hcount
  have hwindows := hc.windows
  have hfirst := hc.first_baseline
  rw [hl] at hwindows hfirst
  have hlower := chain_lower hwindows hfirst
  rw [hlen] at hlower
  have hlast : b = last := by linarith
  refine ⟨?_, hcount, hc.first_baseline, ?_⟩
  · rw [hl]
    exact chain_exact hwindows hfirst (by rw [hlen]; linarith)
  · rw [hl, List.head?_cons, hlast]

def twoSamples : CollectorConfig := ⟨2, 2, 512, by decide⟩

def twoSamplesRun : List CollectorEvent :=
  [.inpodRequest ⟨0, 0, 0, 0⟩, .counters 1 512, .poll, .counters 1 0, .poll, .poll, .readLive,
    .readLive, .inpodRequest ⟨0, 0, 0, 0⟩, .counters 2 512, .poll, .poll, .readLive, .readLive,
    .captureSnapshot]

def twoSamplesEnd : Collector where
  onboard := 14
  matched := 1024
  phase := .finished
  sample := 2
  warmOnboardBefore := 14
  warmMatchedBefore := 1024
  files := sampleFiles 2
  baselines := [14, 12, 10]
  afterWarm := some 14

theorem collector_windows_exact_two :
    twoSamplesEnd.baselines.IsChain (fun after before => after = before + 2) ∧
      twoSamplesEnd.baselines.length = 3 ∧ twoSamplesEnd.baselines.getLast? = some 10 ∧
      twoSamplesEnd.baselines.head? = some 14 :=
  collector_windows_exact twoSamples 10 0 14 twoSamplesEnd
    (Machine.reachable_of_exec twoSamplesRun (by decide +kernel)) rfl (by decide +kernel)

end PdDisaggregation
