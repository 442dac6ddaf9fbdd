import PdDisaggregation.Gates

/-! The two copies of the nvidia-fs counter gate. They differ in the warm
transfer: one wants what all samples move, the other what one sample moves. -/

namespace PdDisaggregation

variable {F : Type}

def Observed.Exact (o : Observed) : Prop := o.ops = o.wantedOps ∧ o.mib = o.wantedMib

def WritesExact (c : Comparison F) (x : NvfsReadings) : Prop :=
  (observe "Cold" x.w0 x.w1 c.expectedGdsOps c.expectedGdsMib).Exact ∧
    ∀ e ∈ x.eviction, (observe "Overwrite" x.w1 e.after e.expectedOps e.expectedMib).Exact

def WarmMoved (c : Comparison F) (x : NvfsReadings) (count : Int) : Prop :=
  x.r1.ops - x.r0.ops = c.expectedGdsOps * count ∧ x.r1.mib - x.r0.mib = c.expectedGdsMib * count

/-- Where it makes no difference how many samples a gate counts. -/
def SamplesIrrelevant (c : Comparison F) (x : NvfsReadings) : Prop :=
  ¬ WritesExact c x ∨
  (c.expectedGdsOps * c.sampleCount = c.expectedGdsOps ∧
    c.expectedGdsMib * c.sampleCount = c.expectedGdsMib) ∨
  (¬ WarmMoved c x 1 ∧ ¬ WarmMoved c x c.sampleCount)

theorem checkObserved_ok {o : Observed} : checkObserved o = .ok () ↔ o.Exact := by
  simp [checkObserved, Observed.Exact]

theorem observed_ok {c : Comparison F} {x : NvfsReadings} (cold warm overwrite : String)
    (count : Int) :
    Check.each checkObserved
        (observe cold x.w0 x.w1 c.expectedGdsOps c.expectedGdsMib ::
          observe warm x.r0 x.r1 (c.expectedGdsOps * count) (c.expectedGdsMib * count) ::
          match x.eviction with
          | some e => [observe overwrite x.w1 e.after e.expectedOps e.expectedMib]
          | none => []) = .ok () ↔
      WritesExact c x ∧ WarmMoved c x count := by
  rw [Check.each_ok]
  simp only [checkObserved_ok, List.forall_mem_cons]
  cases h : x.eviction with
  | none => simp [WritesExact, WarmMoved, Observed.Exact, observe, h]
  | some e =>
    simp only [WritesExact, WarmMoved, Observed.Exact, observe, h, List.mem_singleton,
      forall_eq, Option.mem_def, Option.some.injEq, forall_eq']
    tauto

theorem validateObserved_ok {c : Comparison F} {x : NvfsReadings} :
    Check.each checkObserved (validateObserved c x) = .ok () ↔
      WritesExact c x ∧ WarmMoved c x c.sampleCount := observed_ok _ _ _ c.sampleCount

theorem finalObserved_ok {c : Comparison F} {x : NvfsReadings} :
    Check.each checkObserved (finalObserved c x) = .ok () ↔ WritesExact c x ∧ WarmMoved c x 1 := by
  have hh := observed_ok (c := c) (x := x) "Direct GDS Cold write" "Direct GDS Warm read"
    "Direct GDS B write" 1
  rw [mul_one, mul_one] at hh
  exact hh

section Gates

variable {dir : EvidenceDir F} {c : Comparison F} {before : Text} {x : NvfsReadings}

theorem validateCounterGate_ok (ht : dir.readText "nvidia-fs-before.txt" = .ok before)
    (hs : statsEnabled before = true) (hx : nvfsReadings dir c = .ok x) :
    validateCounterGate dir c = .ok () ↔
      x.errorChanged = false ∧ WritesExact c x ∧ WarmMoved c x c.sampleCount := by
  rw [validateCounterGate, ht, Check.ok_bind, if_pos hs, hx, Check.ok_bind, Check.seq_ok,
    Check.require_ok, validateObserved_ok, Bool.not_eq_true']

theorem finalCounterGate_ok (ht : dir.readText "nvidia-fs-before.txt" = .ok before)
    (hs : statsEnabled before = true) (hx : nvfsReadings dir c = .ok x) :
    finalCounterGate dir c = .ok () ↔ WritesExact c x ∧ WarmMoved c x 1 := by
  rw [finalCounterGate, ht, Check.ok_bind, if_pos hs, hx, Check.ok_bind, finalObserved_ok]

end Gates

theorem warmMoved_iff_one {c : Comparison F} {x : NvfsReadings} :
    (WarmMoved c x c.sampleCount ↔ WarmMoved c x 1) ↔
      (c.expectedGdsOps * c.sampleCount = c.expectedGdsOps ∧
        c.expectedGdsMib * c.sampleCount = c.expectedGdsMib) ∨
      (¬ WarmMoved c x 1 ∧ ¬ WarmMoved c x c.sampleCount) := by
  simp only [WarmMoved, mul_one]
  constructor
  · intro h
    by_cases h1 : x.r1.ops - x.r0.ops = c.expectedGdsOps ∧ x.r1.mib - x.r0.mib = c.expectedGdsMib
    · obtain ⟨ho, hm⟩ := h.mpr h1
      exact .inl ⟨ho.symm.trans h1.1, hm.symm.trans h1.2⟩
    · exact .inr ⟨h1, fun hn => h1 (h.mp hn)⟩
  · rintro (⟨ho, hm⟩ | ⟨h1, hn⟩)
    · rw [ho, hm]
    · exact iff_of_false hn h1

/-- On a directory whose counters can be read and whose errors did not move,
the two gates agree unless the number of samples makes a difference. -/
theorem counterGates_agree_iff (dir : EvidenceDir F) (c : Comparison F) (before : Text)
    (x : NvfsReadings) (ht : dir.readText "nvidia-fs-before.txt" = .ok before)
    (hs : statsEnabled before = true) (hx : nvfsReadings dir c = .ok x)
    (he : x.errorChanged = false) :
    (validateCounterGate dir c = .ok () ↔ finalCounterGate dir c = .ok ()) ↔
      SamplesIrrelevant c x := by
  rw [validateCounterGate_ok ht hs hx, finalCounterGate_ok ht hs hx, SamplesIrrelevant,
    ← warmMoved_iff_one]
  by_cases hw : WritesExact c x
  · simp [he, hw]
  · simp [hw]

def sampleStats (reads writes : String) : Text :=
  "IO stats: Enabled, peer IO stats: Enabled\nReads\t: n=".toList ++ reads.toList ++
    " ok=".toList ++ reads.toList ++ " err=0 readMiB=".toList ++ reads.toList ++
    "\nWrites\t: n=".toList ++ writes.toList ++ " ok=".toList ++ writes.toList ++
    " err=0 writeMiB=".toList ++ writes.toList ++ "\n".toList

def sampleComparison (samples : Int) : Comparison ℚ where
  performanceOnly := some true
  coldAnswerCorrect := true
  warmAnswerCorrect := true
  evictionAnswerCorrect := none
  coldTtftSeconds := 30
  warmGdsTtftSeconds := 6
  warmBestTtftSeconds := some 6
  warmTtftSamplesSeconds := some [6]
  warmSampleCount := some samples
  ttftSpeedup := some 5
  coldCachedTokens := 0
  warmCachedTokens := 512
  coldOffloadBlocksDelta := 2
  warmOnboardBlocksDelta := 2 * samples
  matchedTokensDelta := 512 * samples
  expectedGdsMib := 2
  expectedGdsOps := 2
  expectedEvictionGdsMib := none
  expectedEvictionGdsOps := none
  expectedPdMib := 2
  expectedPdDescriptors := 2
  expectedEvictionPdMib := none
  expectedEvictionPdDescriptors := none

def threeSamples : EvidenceDir ℚ where
  metadata := ⟨[], 512, 512, 2, 2, 2, 2, 2⟩
  requests := []
  texts := [("nvidia-fs-before.txt", sampleStats "0" "0"),
    ("nvidia-fs-after-cold.txt", sampleStats "0" "2"),
    ("nvidia-fs-after-warm.txt", sampleStats "6" "2")]
  comparison := some (sampleComparison 3)

def threeReadings : NvfsReadings := ⟨⟨0, 0, 0⟩, ⟨2, 0, 2⟩, ⟨0, 0, 0⟩, ⟨6, 0, 6⟩, none⟩

theorem counterGates_agree_iff_three :
    (validateCounterGate threeSamples (sampleComparison 3) = .ok () ↔
      finalCounterGate threeSamples (sampleComparison 3) = .ok ()) ↔
      SamplesIrrelevant (sampleComparison 3) threeReadings :=
  counterGates_agree_iff threeSamples (sampleComparison 3) (sampleStats "0" "0") threeReadings
    rfl (by decide +kernel) (by rfl) rfl

theorem complete_run_fails_finalCounterGate :
    validateCounterGate threeSamples (sampleComparison 3) = .ok () ∧
      finalCounterGate threeSamples (sampleComparison 3) =
        .error (.incompleteKv "Direct GDS Warm read" 6 6 2 2) :=
  ⟨by rfl, by rfl⟩

end PdDisaggregation
