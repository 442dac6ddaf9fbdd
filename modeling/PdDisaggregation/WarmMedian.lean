import PdDisaggregation.CollectorWindows
import PdDisaggregation.ReplaySoundness
import PdDisaggregation.SortedMiddle
import Mathlib.Data.List.Perm.Basic

/-! The warm samples in another order. The files are read by name, the samples
are sorted by their times again, and only the times are reported. -/

namespace PdDisaggregation

variable {F : Type}

section Files

/-- `warm.json`, `warm-2.json` and so on: the files of `n` warm requests. -/
def warmFiles (n : Nat) : List String := (List.range' 1 n).map sampleFile

def isWarmFile (name : String) : Bool := name == "warm.json" || isWarmSample name

/-- The directory with these warm results, the first in `warm.json`. -/
def EvidenceDir.withWarm (dir : EvidenceDir F) (results : List (RequestResult F)) :
    EvidenceDir F :=
  { dir with
    requests := dir.requests.filter (!isWarmFile ·.1) ++ (warmFiles results.length).zip results }

theorem sampleFile_injective {k k' : Nat} (hk : 0 < k) (hk' : 0 < k')
    (h : sampleFile k = sampleFile k') : k = k' := by
  have hlist := congrArg String.toList h
  unfold sampleFile at hlist
  by_cases h1 : 1 < k <;> by_cases h1' : 1 < k' <;> simp [h1, h1'] at hlist
  · rw [← Nat.ofDigitChars_toDigits (b := 10) (n := k) (by omega) (by omega), hlist,
      Nat.ofDigitChars_toDigits (by omega) (by omega)]
  · omega

theorem isWarmFile_sampleFile (k : Nat) : isWarmFile (sampleFile k) = true := by
  by_cases h1 : 1 < k
  · simp [isWarmFile, isWarmSample_sampleFile h1]
  · simp [isWarmFile, sampleFile, h1]

theorem warmFiles_nodup (n : Nat) : (warmFiles n).Nodup := by
  rw [warmFiles, List.nodup_map_iff_inj_on (List.nodup_range' ..)]
  intro k hk k' hk' h
  rw [List.mem_range'_1] at hk hk'
  exact sampleFile_injective (by omega) (by omega) h

theorem isWarmFile_warmFiles {n : Nat} {name : String} (h : name ∈ warmFiles n) :
    isWarmFile name = true := by
  obtain ⟨k, -, rfl⟩ := List.mem_map.mp h
  exact isWarmFile_sampleFile k

theorem length_warmFiles (n : Nat) : (warmFiles n).length = n := by simp [warmFiles]

theorem warmFiles_succ (n : Nat) :
    warmFiles (n + 1) = "warm.json" :: (List.range' 2 n).map sampleFile := rfl

variable {results : List (RequestResult F)}

theorem names_withWarm (dir : EvidenceDir F) (results : List (RequestResult F)) :
    (dir.withWarm results).requests.map (·.1) =
      (dir.requests.map (·.1)).filter (!isWarmFile ·) ++ warmFiles results.length := by
  rw [EvidenceDir.withWarm, List.map_append, List.map_fst_zip (by simp [length_warmFiles]),
    List.filter_map]
  rfl

/-- The glob finds the files of all warm requests but the first, in another order. -/
theorem warmNames_withWarm (dir : EvidenceDir F) (hne : results ≠ []) :
    (warmNames ((dir.withWarm results).requests.map (·.1))).Perm (warmFiles results.length) := by
  obtain ⟨n, hn⟩ : ∃ n, results.length = n + 1 :=
    Nat.exists_eq_succ_of_ne_zero (by simpa using hne)
  have hothers : ((dir.requests.map (·.1)).filter (!isWarmFile ·)).filter isWarmSample = [] := by
    rw [List.filter_filter, List.filter_eq_nil_iff]
    intro name _
    simp only [isWarmFile, Bool.and_eq_true, Bool.not_eq_true', Bool.or_eq_false_iff]
    intro h
    rw [h.1] at h
    exact absurd h.2.2 (by decide)
  have hrest : ((List.range' 2 n).map sampleFile).filter isWarmSample =
      (List.range' 2 n).map sampleFile := by
    rw [List.filter_eq_self]
    intro name hname
    obtain ⟨k, hk, rfl⟩ := List.mem_map.mp hname
    rw [List.mem_range'_1] at hk
    exact isWarmSample_sampleFile (by omega)
  have hfirst : isWarmSample "warm.json" = false := by decide
  rw [warmNames, names_withWarm, List.filter_append, hothers, hn, warmFiles_succ,
    List.filter_cons_of_neg (by simp [hfirst]), hrest, List.nil_append]
  exact (List.perm_insertionSort _ _).cons "warm.json"

theorem request_other (dir : EvidenceDir F) (results : List (RequestResult F)) {name : String}
    (h : isWarmFile name = false) : (dir.withWarm results).request name = dir.request name := by
  have hwarm : ((warmFiles results.length).zip results).lookup name = none := by
    rw [List.lookup_eq_none_iff]
    intro p hp
    have hmem := (List.of_mem_zip hp).1
    have hp1 := isWarmFile_warmFiles hmem
    by_contra hne
    have heq : name = p.1 := by simpa using hne
    rw [heq, hp1] at h
    contradiction
  have hothers : (dir.requests.filter (!isWarmFile ·.1)).lookup name = dir.requests.lookup name := by
    induction dir.requests with
    | nil => rfl
    | cons p requests ih =>
      obtain ⟨other, r⟩ := p
      by_cases hp : name = other
      · subst hp
        rw [List.filter_cons_of_pos (by simp [h]), List.lookup_cons_self, List.lookup_cons_self]
      · have hne : (name == other) = false := by simpa using hp
        by_cases hw : isWarmFile other = true
        · rw [List.filter_cons_of_neg (by simp [hw]), ih, List.lookup_cons, hne]
        · rw [List.filter_cons_of_pos (by simp [hw]), List.lookup_cons, List.lookup_cons, hne, ih]
  rw [EvidenceDir.request, EvidenceDir.request]
  simp only [EvidenceDir.withWarm, List.lookup_append, hwarm, hothers, Option.or_none]

theorem request_warm (dir : EvidenceDir F) (results : List (RequestResult F)) :
    List.Forall₂ (fun name r => (dir.withWarm results).request name = .ok r)
      (warmFiles results.length) results := by
  have hothers : ∀ name ∈ warmFiles results.length,
      (dir.requests.filter (!isWarmFile ·.1)).lookup name = none := by
    intro name hname
    rw [List.lookup_eq_none_iff]
    intro p hp
    have hp1 := (List.mem_filter.mp hp).2
    have hname1 := isWarmFile_warmFiles hname
    by_contra hne
    have heq : name = p.1 := by simpa using hne
    rw [← heq, hname1] at hp1
    contradiction
  rw [List.forall₂_iff_get]
  refine ⟨length_warmFiles _, fun i hi hr => ?_⟩
  rw [EvidenceDir.request, Check.orElse_ok]
  simp only [EvidenceDir.withWarm, List.lookup_append, hothers _ (List.get_mem _ _), Option.none_or]
  apply List.lookup_eq_some_iff.mpr
  have hlen : i < ((warmFiles results.length).zip results).length := by
    rw [List.length_zip, length_warmFiles]
    omega
  refine ⟨((warmFiles results.length).zip results).take i,
    ((warmFiles results.length).zip results).drop (i + 1), ?_, ?_⟩
  · have hget : ((warmFiles results.length).zip results)[i] =
        ((warmFiles results.length).get ⟨i, hi⟩, results.get ⟨i, hr⟩) := by
      simp
    rw [← hget, List.getElem_cons_drop, List.take_append_drop]
  · intro p hp
    obtain ⟨j, hj, rfl⟩ := List.mem_take_iff_getElem.mp hp
    have hne := (warmFiles_nodup results.length)
    rw [List.nodup_iff_injective_get] at hne
    simp only [List.getElem_zip, bne_iff_ne, ne_eq]
    intro heq
    have hinj := @hne ⟨i, hi⟩ ⟨j, by omega⟩ heq
    simp only [Fin.mk.injEq] at hinj
    omega

end Files

variable [PyFloat F]

/-- The times are compared as a total order, as floats other than NaN are. -/
class OrderedFloat (F : Type) [PyFloat F] : Prop where
  lt_asymm (x y : F) : PyFloat.lt x y = true → PyFloat.lt y x = false
  not_lt_trans (x y z : F) : PyFloat.lt y x = false → PyFloat.lt z y = false →
    PyFloat.lt z x = false
  not_lt_antisymm (x y : F) : PyFloat.lt y x = false → PyFloat.lt x y = false → x = y

def ttftLe (x y : F) : Prop := PyFloat.lt y x = false

instance : DecidableRel (ttftLe (F := F)) :=
  fun x y => inferInstanceAs (Decidable (PyFloat.lt y x = false))

instance [OrderedFloat F] : IsTrans F ttftLe := ⟨OrderedFloat.not_lt_trans⟩

instance [OrderedFloat F] : Std.Antisymm (ttftLe (F := F)) := ⟨OrderedFloat.not_lt_antisymm⟩

instance [OrderedFloat F] : Std.Total (ttftLe (F := F)) where
  total x y := by
    by_cases h : PyFloat.lt y x = true
    · exact Or.inr (OrderedFloat.lt_asymm y x h)
    · exact Or.inl (by simpa [ttftLe] using h)

instance [OrderedFloat F] : Std.Refl (ttftLe (F := F)) where
  refl x := by
    have h := Std.Total.total (r := ttftLe) x x
    exact h.elim id id

instance : OrderedFloat ℚ where
  lt_asymm x y h := by
    simp only [PyFloat.lt, decide_eq_true_eq, decide_eq_false_iff_not, not_lt] at h ⊢
    exact le_of_lt h
  not_lt_trans x y z h h' := by
    simp only [PyFloat.lt, decide_eq_false_iff_not, not_lt] at h h' ⊢
    exact le_trans h h'
  not_lt_antisymm x y h h' := by
    simp only [PyFloat.lt, decide_eq_false_iff_not, not_lt] at h h'
    exact le_antisymm h h'

/-- The verdict of `summarize_performance`, which first formats the speedup into
`comparison.md`; there is none if the warm request took no time. -/
def summarizePerformance (dir : EvidenceDir F) : Except EvidenceError Bool := do
  let s ← performanceSummary dir
  Check.require (!PyFloat.isZero s.warm.1) (.noneValue "ttft_speedup")
  strictGate dir.metadata s

variable {dir : EvidenceDir F} {results results' : List (RequestResult F)}

theorem decide_ttftLe (x y : F) : decide (ttftLe x y) = !PyFloat.lt y x := by
  cases h : PyFloat.lt y x <;> simp [ttftLe, h]

def sortedTtfts (results : List (RequestResult F)) : List F :=
  (results.filterMap (·.ttftSeconds)).insertionSort ttftLe

theorem sortedTtfts_perm [OrderedFloat F] (h : results.Perm results') :
    sortedTtfts results = sortedTtfts results' :=
  SortedMiddle.insertionSort_eq_of_perm (h.filterMap _)

theorem mapM_ok {α β ε : Type} {f : α → Except ε β} {l : List α} {r : List β}
    (h : List.Forall₂ (fun a b => f a = .ok b) l r) : l.mapM f = .ok r := by
  induction h with
  | nil => rfl
  | cons ha _ ih => simp [ha, ih]

omit [PyFloat F] in
theorem mapM_keyedByTtft (results : List (RequestResult F)) :
    (∃ r ∈ results, r.ttftSeconds = none) ∧
        results.mapM keyedByTtft = .error (.noneValue "ttft_seconds") ∨
      (∀ r ∈ results, r.ttftSeconds ≠ none) ∧ ∃ samples, results.mapM keyedByTtft = .ok samples ∧
        samples.map (·.2) = results ∧ samples.map (·.1) = results.filterMap (·.ttftSeconds) := by
  induction results with
  | nil => exact Or.inr ⟨by simp, [], rfl, rfl, rfl⟩
  | cons r results ih =>
    cases hr : r.ttftSeconds with
    | none =>
      refine Or.inl ⟨⟨r, List.mem_cons_self, hr⟩, ?_⟩
      simp only [List.mapM_cons, keyedByTtft, hr, Check.orElse]
      rfl
    | some ttft =>
      have hkey : keyedByTtft r = .ok (ttft, r) := by simp [keyedByTtft, hr, Check.orElse]
      rcases ih with ⟨⟨r', hmem, hnone⟩, herr⟩ | ⟨hall, samples, hok, hresults, htimes⟩
      · refine Or.inl ⟨⟨r', List.mem_cons_of_mem _ hmem, hnone⟩, ?_⟩
        rw [List.mapM_cons, hkey, herr]
        rfl
      · refine Or.inr ⟨?_, (ttft, r) :: samples, ?_, ?_, ?_⟩
        · intro r' hmem
          rcases List.mem_cons.mp hmem with rfl | hmem
          · simp [hr]
          · exact hall r' hmem
        · rw [List.mapM_cons, hkey, hok]
          rfl
        · simp [hresults]
        · simp [hr, htimes]

/-- The samples are the results, their times in the one sorted order. -/
theorem warmSamples_withWarm [OrderedFloat F] (dir : EvidenceDir F) (hne : results ≠ []) :
    (∃ r ∈ results, r.ttftSeconds = none) ∧
        warmSamples (dir.withWarm results) = .error (.noneValue "ttft_seconds") ∨
      (∀ r ∈ results, r.ttftSeconds ≠ none) ∧
        ∃ samples, warmSamples (dir.withWarm results) = .ok samples ∧
          (samples.map (·.2)).Perm results ∧ samples.map (·.1) = sortedTtfts results := by
  obtain ⟨read, hread, hperm⟩ :=
    List.perm_comp_forall₂ (warmNames_withWarm dir hne) (request_warm dir results)
  have hmem : ∀ r, r ∈ read ↔ r ∈ results := fun r => hperm.mem_iff
  rw [warmSamples, mapM_ok hread, Check.ok_bind]
  rcases mapM_keyedByTtft read with ⟨⟨r, hr, hnone⟩, herr⟩ | ⟨hall, samples, hok, hresults, htimes⟩
  · refine Or.inl ⟨⟨r, (hmem r).mp hr, hnone⟩, ?_⟩
    rw [herr]
    rfl
  · refine Or.inr ⟨fun r hr => hall r ((hmem r).mpr hr), sortByTtft samples,
      ?_, ?_, ?_⟩
    · rw [hok]
      rfl
    · have hsort := (List.perm_insertionSort (fun a b => PyFloat.lt b.1 a.1 = false) samples).map
        (·.2)
      rw [hresults] at hsort
      exact hsort.trans hperm
    · rw [← sortedTtfts_perm hperm, sortedTtfts, ← htimes]
      exact List.map_insertionSort _ _ _ _ fun a _ b _ => Iff.rfl

/-- `performanceSummary` once the samples are read. -/
def summaryOf (dir : EvidenceDir F) (cold : RequestResult F) (samples : List (Sample F)) :
    Except EvidenceError (PerformanceSummary F) := do
  let warm ← Check.orElse samples[samples.length / 2]? (.fileNotFound "warm.json")
  Check.each (fun file => Check.require (dir.isFile file) (.fileNotFound file))
    ["metrics-before.txt", "metrics-after-cold.txt", "metrics-after-warm.txt"]
  let before ← kvbmMetrics dir "metrics-before.txt"
  let afterCold ← kvbmMetrics dir "metrics-after-cold.txt"
  let afterWarm ← kvbmMetrics dir "metrics-after-warm.txt"
  let coldTtft ← Check.orElse cold.ttftSeconds (.noneValue "ttft_seconds")
  Check.require (!PyFloat.isZero coldTtft) .divisionByZero
  return ⟨cold, samples, warm,
    performanceComparison dir.metadata cold coldTtft samples warm before afterCold afterWarm⟩

theorem performanceSummary_withWarm (dir : EvidenceDir F) (results : List (RequestResult F)) :
    performanceSummary (dir.withWarm results) = (do
      let cold ← dir.request "cold.json"
      let samples ← warmSamples (dir.withWarm results)
      summaryOf dir cold samples) := by
  rw [performanceSummary, request_other dir results (by decide)]
  rfl

def Comparison.reported (c : Comparison F) : F × Option F × Option (List F) :=
  (c.warmGdsTtftSeconds, c.warmBestTtftSeconds, c.warmTtftSamplesSeconds)

/-- Two summaries that differ in nothing but which of the samples is which. -/
structure Alike (s s' : PerformanceSummary F) : Prop where
  cold : s.cold = s'.cold
  results : s.results.Perm s'.results
  warmTtft : s.warm.1 = s'.warm.1
  reported : s.comparison.reported = s'.comparison.reported
  coldOffload : s.comparison.coldOffloadBlocksDelta = s'.comparison.coldOffloadBlocksDelta
  warmOnboard : s.comparison.warmOnboardBlocksDelta = s'.comparison.warmOnboardBlocksDelta
  matched : s.comparison.matchedTokensDelta = s'.comparison.matchedTokensDelta

/-- Both fail with the same error, or both succeed with values that are related. -/
def SameOutcome {α : Type} (related : α → α → Prop) (x y : Except EvidenceError α) : Prop :=
  (∃ e, x = .error e ∧ y = .error e) ∨ ∃ a b, x = .ok a ∧ y = .ok b ∧ related a b

theorem SameOutcome.bind {α β : Type} {related : β → β → Prop} (x : Except EvidenceError α)
    {f g : α → Except EvidenceError β} (h : ∀ a, SameOutcome related (f a) (g a)) :
    SameOutcome related (x >>= f) (x >>= g) := by
  cases x with
  | error e => exact Or.inl ⟨e, rfl, rfl⟩
  | ok a => exact h a

theorem summaryOf_alike (dir : EvidenceDir F) (cold : RequestResult F)
    {samples samples' : List (Sample F)}
    (htimes : samples.map (·.1) = samples'.map (·.1))
    (hresults : (samples.map (·.2)).Perm (samples'.map (·.2))) :
    SameOutcome Alike (summaryOf dir cold samples) (summaryOf dir cold samples') := by
  have hlen : samples.length = samples'.length := by simpa using congrArg List.length htimes
  have hmiddle := congrArg (·[samples.length / 2]?) htimes
  simp only [List.getElem?_map] at hmiddle
  have hbest : (samples.head?.map fun s => PyFloat.minimum s.1 (samples.tail.map (·.1))) =
      samples'.head?.map fun s => PyFloat.minimum s.1 (samples'.tail.map (·.1)) := by
    cases samples with
    | nil =>
      cases samples' with
      | nil => rfl
      | cons t samples' => simp at hlen
    | cons s samples =>
      cases samples' with
      | nil => simp at hlen
      | cons t samples' =>
        simp only [List.map_cons, List.cons.injEq] at htimes
        simp [htimes.1, htimes.2]
  rw [summaryOf, summaryOf, ← hlen]
  cases hw : samples[samples.length / 2]? with
  | none =>
    have hw' : samples'[samples.length / 2]? = none := by simpa [hw] using hmiddle
    rw [hw']
    exact Or.inl ⟨_, rfl, rfl⟩
  | some warm =>
    cases hw' : samples'[samples.length / 2]? with
    | none => simp [hw, hw'] at hmiddle
    | some warm' =>
      have hwarm : warm.1 = warm'.1 := by simpa [hw, hw'] using hmiddle
      simp only [Check.orElse, Check.ok_bind]
      apply SameOutcome.bind
      intro _
      apply SameOutcome.bind
      intro before
      apply SameOutcome.bind
      intro afterCold
      apply SameOutcome.bind
      intro afterWarm
      apply SameOutcome.bind
      intro coldTtft
      apply SameOutcome.bind
      intro _
      refine Or.inr ⟨_, _, rfl, rfl, rfl, hresults, hwarm, ?_, rfl, rfl, rfl⟩
      simp only [Comparison.reported, performanceComparison, hwarm, hbest, htimes]

/-- Every `cached_tokens` is a number, and not `null`. -/
def CachedTokensRead (results : List (RequestResult F)) : Prop :=
  ∀ r ∈ results, ∃ k, r.usage.cachedTokensInt = .ok k

omit [PyFloat F] in
theorem allChecked_cached {expected : Int} (h : CachedTokensRead results) :
    allChecked (warmCachedExact expected) results =
      .ok (results.all fun r => r.usage.cachedTokensInt.toOption == some expected) := by
  induction results with
  | nil => rfl
  | cons r results ih =>
    obtain ⟨k, hk⟩ := h r List.mem_cons_self
    have hrest := ih fun r' hr' => h r' (List.mem_cons_of_mem _ hr')
    simp only [allChecked, warmCachedExact, hk, Check.ok_bind, pure_bind, hrest, List.all_cons]
    by_cases he : k = expected
    · simp [he, Except.toOption]
    · have hne : (k == expected) = false := by simpa using he
      simp [hne, Except.toOption]
      rfl

omit [PyFloat F] in
theorem requestsValid_perm {m : Metadata} {cold : RequestResult F}
    (h : results.Perm results') : requestsValid m cold results = requestsValid m cold results' := by
  simp only [requestsValid, h.all_eq]

/-- What the gate asks for behind the requests and their cached tokens. -/
def blockGate (m : Metadata) (c : Comparison F) (samples : Nat) : Except EvidenceError Bool := do
  if (← truncated c.coldOffloadBlocksDelta) != m.expectedKvBlocks then return false
  if !warmOnboardExact (← truncated c.warmOnboardBlocksDelta) m.expectedKvBlocks samples then
    return false
  return decide ((← truncated c.matchedTokensDelta) ≥ m.expectedCachedTokens * samples)

theorem strictGate_eq (m : Metadata) (s : PerformanceSummary F) : strictGate m s = (do
    if !requestsValid m s.cold s.results then return false
    if !(← allChecked (warmCachedExact m.expectedCachedTokens) s.results) then return false
    blockGate m s.comparison s.samples.length) := rfl

theorem Alike.blockGate {m : Metadata} {s s' : PerformanceSummary F} (h : Alike s s') :
    blockGate m s.comparison s.samples.length = blockGate m s'.comparison s'.samples.length := by
  have hlen : s.samples.length = s'.samples.length := by
    simpa [PerformanceSummary.results] using h.results.length_eq
  simp only [PdDisaggregation.blockGate, h.coldOffload, h.warmOnboard, h.matched, hlen]

theorem Alike.strictGate_iff {m : Metadata} {s s' : PerformanceSummary F} (h : Alike s s') :
    strictGate m s = .ok true ↔ strictGate m s' = .ok true := by
  have hcached : allChecked (warmCachedExact m.expectedCachedTokens) s.results = .ok true ↔
      allChecked (warmCachedExact m.expectedCachedTokens) s'.results = .ok true := by
    rw [allChecked_iff, allChecked_iff]
    simp only [h.results.mem_iff]
  have hgate : ∀ s : PerformanceSummary F, strictGate m s = .ok true ↔
      requestsValid m s.cold s.results = true ∧
        allChecked (warmCachedExact m.expectedCachedTokens) s.results = .ok true ∧
        PdDisaggregation.blockGate m s.comparison s.samples.length = .ok true := by
    intro s
    rw [strictGate_eq, Check.unless_ok, Check.bind_ok]
    apply and_congr_right
    intro _
    constructor
    · rintro ⟨b, hb, hrest⟩
      obtain ⟨rfl, hrest⟩ := Check.unless_ok.mp hrest
      exact ⟨hb, hrest⟩
    · rintro ⟨hb, hrest⟩
      exact ⟨true, hb, hrest⟩
  rw [hgate, hgate, h.cold, requestsValid_perm h.results, hcached, h.blockGate]

theorem Alike.strictGate_eq {m : Metadata} {s s' : PerformanceSummary F} (h : Alike s s')
    (hread : CachedTokensRead s.results) : strictGate m s = strictGate m s' := by
  have hread' : CachedTokensRead s'.results := fun r hr => hread r (h.results.mem_iff.mpr hr)
  rw [PdDisaggregation.strictGate_eq, PdDisaggregation.strictGate_eq, allChecked_cached hread,
    allChecked_cached hread', h.cold, requestsValid_perm h.results, h.results.all_eq, h.blockGate]

theorem performanceSummary_alike [OrderedFloat F] (dir : EvidenceDir F) (hne : results ≠ [])
    (hperm : results.Perm results') :
    SameOutcome Alike (performanceSummary (dir.withWarm results))
      (performanceSummary (dir.withWarm results')) := by
  have hne' : results' ≠ [] := fun h => hne (List.perm_nil.mp (h ▸ hperm))
  rw [performanceSummary_withWarm, performanceSummary_withWarm]
  apply SameOutcome.bind
  intro cold
  rcases warmSamples_withWarm dir hne with ⟨⟨r, hr, hnone⟩, herr⟩ | ⟨hall, ss, hok, hrs, hts⟩
  · rcases warmSamples_withWarm dir hne' with ⟨-, herr'⟩ | ⟨hall', -⟩
    · rw [herr, herr']
      exact Or.inl ⟨_, rfl, rfl⟩
    · exact absurd hnone (hall' r (hperm.mem_iff.mp hr))
  · rcases warmSamples_withWarm dir hne' with ⟨⟨r, hr, hnone⟩, -⟩ | ⟨-, ss', hok', hrs', hts'⟩
    · exact absurd hnone (hall r (hperm.mem_iff.mpr hr))
    · rw [hok, hok', Check.ok_bind, Check.ok_bind]
      apply summaryOf_alike
      · rw [hts, hts', sortedTtfts_perm hperm]
      · exact hrs.trans (hperm.trans hrs'.symm)

/-- Two directories give one verdict and one report. An exception refuses a run
as the gate does; which of the two it is may depend on the order of the samples
only where a `cached_tokens` is `null`. -/
structure SameSummary (results : List (RequestResult F)) (dir dir' : EvidenceDir F) : Prop where
  verdict : summarizePerformance dir = .ok true ↔ summarizePerformance dir' = .ok true
  outcome : CachedTokensRead results → summarizePerformance dir = summarizePerformance dir'
  report : (performanceSummary dir).map (·.comparison.reported) =
    (performanceSummary dir').map (·.comparison.reported)

/-- One of the times, with half of them on either side. -/
structure IsMedian (x : F) (times : List F) : Prop where
  mem : x ∈ times
  notAbove : times.length ≤ 2 * times.countP fun y => !PyFloat.lt x y
  notBelow : times.length ≤ 2 * times.countP fun y => !PyFloat.lt y x

/-- What a summary takes from the warm results: the results themselves, their
sorted times and the middle one. -/
structure SummaryOf (results : List (RequestResult F)) (s : PerformanceSummary F) : Prop where
  perm : s.results.Perm results
  times : s.samples.map (·.1) = sortedTtfts results
  middle : s.samples[s.samples.length / 2]? = some s.warm
  reportedTtft : s.comparison.warmGdsTtftSeconds = s.warm.1
  reportedTimes : s.comparison.warmTtftSamplesSeconds = some (sortedTtfts results)

theorem performanceSummary_warm [OrderedFloat F] (dir : EvidenceDir F) {s : PerformanceSummary F}
    (hne : results ≠ []) (h : performanceSummary (dir.withWarm results) = .ok s) :
    SummaryOf results s := by
  rw [performanceSummary_withWarm] at h
  obtain ⟨cold, -, h⟩ := Check.bind_ok.mp h
  obtain ⟨samples, hsamples, h⟩ := Check.bind_ok.mp h
  rcases warmSamples_withWarm dir hne with ⟨-, herr⟩ | ⟨-, samples', hok, hresults, htimes⟩
  · rw [herr] at hsamples
    contradiction
  · rw [hok] at hsamples
    cases hsamples
    simp only [summaryOf, ↓Check.seq_ok, Check.bind_ok, Check.orElse_ok] at h
    obtain ⟨warm, hw, -, before, -, afterCold, -, afterWarm, -, ttft, -, -, h⟩ := h
    cases h
    exact ⟨hresults, htimes, hw, rfl, congrArg some htimes⟩

theorem sameSummary_of_perm [OrderedFloat F] (dir : EvidenceDir F) (hne : results ≠ [])
    (hperm : results.Perm results') :
    SameSummary results (dir.withWarm results) (dir.withWarm results') := by
  have hmeta : (dir.withWarm results).metadata = (dir.withWarm results').metadata := rfl
  rcases performanceSummary_alike dir hne hperm with ⟨e, h, h'⟩ | ⟨s, s', h, h', halike⟩
  · have hsame : summarizePerformance (dir.withWarm results) =
        summarizePerformance (dir.withWarm results') := by
      rw [summarizePerformance, summarizePerformance, h, h']
      rfl
    refine ⟨by rw [hsame], fun _ => hsame, ?_⟩
    rw [h, h']
  · constructor
    · rw [summarizePerformance, summarizePerformance, h, h', Check.ok_bind, Check.ok_bind,
        Check.seq_ok, Check.seq_ok, halike.warmTtft, hmeta, halike.strictGate_iff]
    · intro hread
      have hread' : CachedTokensRead s.results := by
        intro r hr
        exact hread r ((performanceSummary_warm dir hne h).perm.mem_iff.mp hr)
      rw [summarizePerformance, summarizePerformance, h, h', Check.ok_bind, Check.ok_bind,
        halike.warmTtft, hmeta, halike.strictGate_eq hread']
    · rw [h, h']
      exact congrArg Except.ok halike.reported

theorem warm_summary_is_median [OrderedFloat F] (dir : EvidenceDir F)
    (results results' : List (RequestResult F)) (hne : results ≠ [])
    (hperm : results.Perm results') :
    SameSummary results (dir.withWarm results) (dir.withWarm results') ∧
      ∀ s, performanceSummary (dir.withWarm results) = .ok s →
        s.comparison.warmTtftSamplesSeconds = some (sortedTtfts results) ∧
        IsMedian s.comparison.warmGdsTtftSeconds (results.filterMap (·.ttftSeconds)) := by
  refine ⟨sameSummary_of_perm dir hne hperm, fun s hs => ?_⟩
  have h := performanceSummary_warm dir hne hs
  have hsorted : (sortedTtfts results).Pairwise ttftLe := List.pairwise_insertionSort _ _
  have htimes : (sortedTtfts results).Perm (results.filterMap (·.ttftSeconds)) :=
    List.perm_insertionSort _ _
  have hmiddle : (sortedTtfts results)[(sortedTtfts results).length / 2]? = some s.warm.1 := by
    rw [← h.times, List.length_map, List.getElem?_map, h.middle]
    rfl
  obtain ⟨hle, hge⟩ := SortedMiddle.middle_counts hsorted hmiddle
  rw [htimes.length_eq, htimes.countP_eq] at hle hge
  rw [h.reportedTtft, h.reportedTimes]
  simp only [decide_ttftLe] at hle hge
  exact ⟨rfl, htimes.mem_iff.mp (List.mem_of_getElem? hmiddle), hle, hge⟩

def warmPair : List (RequestResult ℚ) :=
  [sampleResult 6 "a1" true 38400, sampleResult 5 "a1" true 38400]

def pairSummary : PerformanceSummary ℚ where
  cold := sampleResult 30 "a1" true 0
  samples := [(5, sampleResult 5 "a1" true 38400), (6, sampleResult 6 "a1" true 38400)]
  warm := (6, sampleResult 6 "a1" true 38400)
  comparison := { shortComparison with
    warmTtftSamplesSeconds := some [5, 6]
    warmSampleCount := some 2 }

theorem warm_summary_is_median_pair :
    summarizePerformance (shortReload.withWarm warmPair) = .ok true ∧
      SameSummary warmPair (shortReload.withWarm warmPair)
        (shortReload.withWarm warmPair.reverse) ∧
      some [5, 6] = some (sortedTtfts warmPair) ∧ IsMedian (6 : ℚ) [6, 5] := by
  have hs : performanceSummary (shortReload.withWarm warmPair) = .ok pairSummary := by
    decide +kernel
  have h := warm_summary_is_median shortReload warmPair warmPair.reverse (by simp [warmPair])
    (List.reverse_perm _).symm
  exact ⟨by decide +kernel, h.1, h.2 pairSummary hs⟩

end PdDisaggregation
