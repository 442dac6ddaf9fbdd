import PdDisaggregation.BlobIntegrity

/-! What a well-behaved registry can repair. A partial of the blob's size or
less is drained in two attempts, a longer one is never left by the loop. -/

namespace PdDisaggregation

section

variable (sha256sum : Bytes → String) (blob : Bytes)

def requestOf : BlobRequest := ⟨sha256sum blob, blob.length⟩

/-- An honest registry answers a resume inside the blob with the rest of it,
and one at or past its end with a range error. -/
def honestAction (s : PullState) : PullAction :=
  match s.point with
  | .transfer resumeAt _ written =>
    if written = 0 ∧ resumeAt < blob.length then .receive (blob.drop resumeAt) else .curlExit
  | _ => .next

def honestRun : Nat → PullState → Option PullState
  | 0, s => some s
  | n + 1, s =>
    (pullStep sha256sum (requestOf sha256sum blob) s (honestAction blob s)).bind (honestRun n)

/-- Left alone with an honest registry, the call returns with the blob
installed after at most `k` further attempts. -/
def RecoversWithin (k : Nat) (s : PullState) : Prop :=
  ∃ n t, honestRun sha256sum blob n s = some t ∧ t.point = .returned ∧
    t.attempt ≤ s.attempt + k ∧ Installed sha256sum (requestOf sha256sum blob) t.dir

end

variable {sha256sum : Bytes → String} {blob : Bytes} {d : WorkDir} {n k : Nat}
  {s t u : PullState} {bytes : Bytes}

theorem RecoversWithin.of_run {j : Nat} (h : honestRun sha256sum blob n s = some u)
    (hu : u.attempt ≤ s.attempt + j) (hr : RecoversWithin sha256sum blob k u) :
    RecoversWithin sha256sum blob (j + k) s := by
  obtain ⟨m, t, ht, hret, hatt, hinst⟩ := hr
  refine ⟨n + m, t, ?_, hret, by omega, hinst⟩
  clear hu hatt
  induction n generalizing s with
  | zero =>
    cases Option.some.inj h
    simpa using ht
  | succ n ih =>
    obtain ⟨v, hv, hrun⟩ := Option.bind_eq_some_iff.mp h
    rw [show n + 1 + m = (n + m) + 1 by omega]
    exact Option.bind_eq_some_iff.mpr ⟨v, hv, ih hrun⟩

theorem RecoversWithin.mono {j : Nat} (h : RecoversWithin sha256sum blob k s) (hk : k ≤ j) :
    RecoversWithin sha256sum blob j s := by
  obtain ⟨m, t, ht, hret, hatt, hinst⟩ := h
  exact ⟨m, t, ht, hret, by omega, hinst⟩

theorem recovers_verified (hb : d.partials (sha256sum blob) = some bytes)
    (hlen : bytes.length = blob.length) (hsum : sha256sum bytes = sha256sum blob) :
    RecoversWithin sha256sum blob 0 ⟨d, .stat, n⟩ := by
  refine ⟨3, ⟨(d.setBlob (sha256sum blob) (some bytes)).setPartial (sha256sum blob) none,
    .returned, n⟩, ?_, rfl, Nat.le_refl _, ?_⟩
  · simp [honestRun, honestAction, pullStep, pullNext, requestOf, hb, hlen, hsum, PullState.goto]
  · simp [Installed, verified, requestOf, hlen, hsum]

theorem honestRun_short (hb : d.partials (sha256sum blob) = some bytes)
    (hlen : bytes.length < blob.length) :
    honestRun sha256sum blob 5 ⟨d, .stat, n⟩ =
      some ⟨d.setPartial (sha256sum blob) (some (bytes ++ blob.drop bytes.length)), .stat, n + 1⟩ := by
  have hne : bytes.length ≠ blob.length := by omega
  have hrest : blob.length - bytes.length ≠ 0 := by omega
  simp [honestRun, honestAction, pullStep, pullNext, requestOf, hb, hne, hlen, hrest,
    PullState.goto, curlWrite_connect]

theorem honestRun_mismatch (hb : d.partials (sha256sum blob) = some bytes)
    (hlen : bytes.length = blob.length) (hsum : sha256sum bytes ≠ sha256sum blob) :
    ∃ d', honestRun sha256sum blob 7 ⟨d, .stat, n⟩ = some ⟨d', .stat, n + 1⟩ ∧
      d'.partials (sha256sum blob) = some blob := by
  have hpos : 0 < blob.length := by
    rcases Nat.eq_zero_or_pos blob.length with h | h
    · rw [List.length_eq_zero_iff.mp h, List.length_eq_zero_iff.mp (hlen.trans h)] at hsum
      exact absurd rfl hsum
    · exact h
  let restarted := (d.setPartial (sha256sum blob) none).setPartial (sha256sum blob) (some [])
  refine ⟨restarted.setPartial (sha256sum blob) (some blob), ?_, setPartial_same⟩
  simp [honestRun, honestAction, pullStep, pullNext, requestOf, hb, hlen, hsum, hpos,
    Nat.ne_of_gt hpos, PullState.goto, restarted, curlWrite]

theorem recovers_exact (hb : d.partials (sha256sum blob) = some bytes)
    (hlen : bytes.length = blob.length) : RecoversWithin sha256sum blob 1 ⟨d, .stat, n⟩ := by
  by_cases hsum : sha256sum bytes = sha256sum blob
  · have hh := recovers_verified (n := n) hb hlen hsum
    exact hh.mono (by omega)
  · obtain ⟨d', hrun, hb'⟩ := honestRun_mismatch (n := n) hb hlen hsum
    exact .of_run hrun (Nat.le_refl _) (recovers_verified hb' rfl rfl)

theorem recovers_of_le (hb : d.partials (sha256sum blob) = some bytes)
    (hlen : bytes.length ≤ blob.length) : RecoversWithin sha256sum blob 2 ⟨d, .stat, n⟩ := by
  rcases Nat.lt_or_eq_of_le hlen with hlt | heq
  · have hlen' : (bytes ++ blob.drop bytes.length).length = blob.length := by
      simp only [List.length_append, List.length_drop]
      omega
    exact .of_run (honestRun_short hb hlt) (Nat.le_refl _) (recovers_exact setPartial_same hlen')
  · have hh := recovers_exact (n := n) hb heq
    exact hh.mono (by omega)

def OversizedRound (blob : Bytes) (hex : String) (s : PullState) : Prop :=
  ∃ bytes, s.dir.partials hex = some bytes ∧ blob.length < bytes.length ∧
    (s.point = .stat ∨ s.point = .compare bytes.length ∨ s.point = .connect ∨
      s.point = .transfer bytes.length true 0)

theorem oversizedRound_step (hs : OversizedRound blob (sha256sum blob) s)
    (h : pullStep sha256sum (requestOf sha256sum blob) s (honestAction blob s) = some t) :
    OversizedRound blob (sha256sum blob) t := by
  obtain ⟨dir, point, attempt⟩ := s
  obtain ⟨bytes, hb, hlen, hp⟩ := hs
  have hne : bytes.length ≠ blob.length := by omega
  have hnot : ¬ bytes.length < blob.length := by omega
  have hnil : bytes ≠ [] := List.ne_nil_of_length_pos (by omega)
  dsimp only at hb hp
  refine ⟨bytes, ?_⟩
  rcases hp with rfl | rfl | rfl | rfl <;>
    simp [honestAction, pullStep, pullNext, requestOf, hb, hne, hnot] at h <;>
    subst h <;> simp [hb, hlen, hnil]

theorem oversized_never_returns (hs : OversizedRound blob (sha256sum blob) s)
    (h : honestRun sha256sum blob n s = some t) : t.point ≠ .returned := by
  induction n generalizing s with
  | zero =>
    cases Option.some.inj h
    obtain ⟨bytes, _, _, hp⟩ := hs
    rcases hp with hp | hp | hp | hp <;> simp [hp]
  | succ n ih =>
    obtain ⟨v, hv, hrun⟩ := Option.bind_eq_some_iff.mp h
    exact ih (oversizedRound_step hs hv) hrun

theorem recovers_iff (hb : d.partials (sha256sum blob) = some bytes) :
    RecoversWithin sha256sum blob 2 ⟨d, .stat, n⟩ ↔ bytes.length ≤ blob.length := by
  refine ⟨fun hr => ?_, recovers_of_le hb⟩
  by_contra hlen
  obtain ⟨m, t, ht, hret, -⟩ := hr
  exact oversized_never_returns ⟨bytes, hb, by omega, .inl rfl⟩ ht hret

/-- The step leaves no partial longer than the blob for the retry loop to
find: no answer runs past the blob's end, and no longer ingest file is saved
once the oversized test is over. -/
def Fits (blob : Bytes) (hex : String) (s : PullState) : WriterAction → Prop
  | .pull (.receive bytes) =>
    match s.point with
    | .transfer resumeAt _ written =>
      (if resumeAt = 0 then written else fileSize (s.dir.partials hex)) + bytes.length ≤ blob.length
    | _ => True
  | .snapshot hex' data => hex' = hex → s.point.inLoop = true → data.length ≤ blob.length
  | _ => True

def PartialFits (blob : Bytes) (hex : String) (s : PullState) : Prop :=
  s.point.inLoop = true → fileSize (s.dir.partials hex) ≤ blob.length

def PartialThere (hex : String) (s : PullState) : Prop :=
  match s.point with
  | .stat | .compare _ | .install | .connect | .transfer _ _ _ => (s.dir.partials hex).isSome
  | _ => True

theorem partialThere_step {a : WriterAction} {req : BlobRequest} (hs : PartialThere req.hex s)
    (h : writersStep sha256sum req s a = some t) : PartialThere req.hex t := by
  cases a with
  | snapshot hex data =>
    cases Option.some.inj h
    obtain ⟨dir, point, attempt⟩ := s
    cases point <;> first | trivial | exact saveIngest_isSome hs
  | pull a =>
    cases pullStep_trans h with
    | touchPartial d n => simp [PartialThere]
    | stat d n bytes hb => simp [PartialThere, hb]
    | sizeDiffers d n currentSize hne => exact hs
    | checksumAgrees d n bytes hb hsum => simp [PartialThere, hb]
    | retouch d n => simp [PartialThere]
    | connect d n => exact hs
    | receive d n k o m bytes => simp [PartialThere]
    | retryAgain d n k o => exact hs
    | retryCut d n k o m hm => simp [PartialThere]
    | curlExit d n k o m => exact hs
    | _ => trivial

theorem partialFits_step {a : WriterAction} {req : BlobRequest} (hsize : req.expectedSize = blob.length)
    (hs : PartialFits blob req.hex s) (hf : Fits blob req.hex s a)
    (h : writersStep sha256sum req s a = some t) : PartialFits blob req.hex t := by
  cases a with
  | snapshot hex data =>
    cases Option.some.inj h
    intro hloop
    by_cases hh : req.hex = hex
    · subst hh
      have hd := hf rfl hloop
      have hp := hs hloop
      simp only [fileSize_saveIngest]
      omega
    · simpa [saveIngest_partials_other data hh] using hs hloop
  | pull a =>
    intro hloop
    cases pullStep_trans h with
    | discardOversized d n hlt => simp
    | keepPartial d n hle => simpa [hsize] using hle
    | touchPartial d n =>
      have hp := hs rfl
      cases hb : d.partials req.hex <;> simp_all
    | removePartial d n => simp
    | retouch d n =>
      have hp := hs rfl
      cases hb : d.partials req.hex <;> simp_all
    | receive d n k o m bytes =>
      have hp := hs rfl
      have hnew : (if k = 0 then m else fileSize (d.partials req.hex)) + bytes.length ≤
          blob.length := hf
      have hle := length_curlWrite_le k o m ((d.partials req.hex).getD []) bytes
      simp only [fileSize_eq_getD] at hp hnew
      simp only [setPartial_same, fileSize_some]
      omega
    | retryCut d n k o m hm =>
      have hp := hs rfl
      simp only [fileSize_eq_getD] at hp
      simp only [setPartial_same, fileSize_some, List.length_take]
      omega
    | stat | sizeDiffers | checksumAgrees | checksumDiffers | connect | retryAgain | curlExit =>
      exact hs rfl
    | _ => simp [PullPoint.inLoop] at hloop

/-- In a history that never makes the partial longer than the blob, every
state of the retry loop is left with the blob installed after two honest
attempts. Over all histories, these are exactly the states that are. -/
theorem retryLoop_recovers (sha256sum : Bytes → String) (blob : Bytes) (d : WorkDir) :
    (∀ s, Machine.Reaches (writersStep sha256sum (requestOf sha256sum blob))
        (Fits blob (sha256sum blob)) (downloadBlob d) s →
      s.point = .stat → RecoversWithin sha256sum blob 2 s) ∧
    ∀ s, Machine.Reachable (writersStep sha256sum (requestOf sha256sum blob)) (downloadBlob d) s →
      s.point = .stat → (RecoversWithin sha256sum blob 2 s ↔
        fileSize (s.dir.partials (sha256sum blob)) ≤ blob.length) := by
  have hiff : ∀ s, Machine.Reachable (writersStep sha256sum (requestOf sha256sum blob))
      (downloadBlob d) s → s.point = .stat → (RecoversWithin sha256sum blob 2 s ↔
        fileSize (s.dir.partials (sha256sum blob)) ≤ blob.length) := by
    intro s h hp
    have hthere : PartialThere (sha256sum blob) s :=
      h.invariant (fun _ _ _ hs _ ha => partialThere_step hs ha) trivial
    obtain ⟨dir, point, attempt⟩ := s
    dsimp only at hp
    subst hp
    obtain ⟨bytes, hb⟩ := Option.isSome_iff_exists.mp hthere
    dsimp only at hb
    simpa [hb] using recovers_iff (n := attempt) hb
  refine ⟨fun s h hp => ?_, hiff⟩
  have hfits : PartialFits blob (sha256sum blob) s :=
    h.invariant (I := PartialFits blob (sha256sum blob))
      (fun _ _ _ hs hf ha => partialFits_step rfl hs hf ha) (fun hloop => by
        simp [downloadBlob, PullPoint.inLoop] at hloop)
  exact (hiff s h.reachable hp).mpr (hfits (by rw [hp]; rfl))

/-- One answer with a byte too many: the loop then asks for the same range for
ever, and an honest registry keeps refusing it. -/
theorem retryLoop_oversized_stuck :
    ∃ s, Machine.Reachable (writersStep sampleSum (requestOf sampleSum [1, 2, 3]))
        (downloadBlob emptyDir) s ∧ s.point = .stat ∧
      ¬ RecoversWithin sampleSum [1, 2, 3] 2 s ∧
      ∀ n t, honestRun sampleSum [1, 2, 3] n s = some t → t.point ≠ .returned := by
  let history : List WriterAction :=
    (untilConnect ++ [PullAction.receive [1, 2, 3, 4], .curlExit]).map WriterAction.pull
  have hrun : ∃ s, Machine.exec (writersStep sampleSum (requestOf sampleSum [1, 2, 3]))
      (downloadBlob emptyDir) history = some s ∧ s.point = .stat ∧
      s.dir.partials (sampleSum [1, 2, 3]) = some [1, 2, 3, 4] := ⟨_, rfl, rfl, rfl⟩
  obtain ⟨s, hexec, hp, hb⟩ := hrun
  have hstuck : OversizedRound [1, 2, 3] (sampleSum [1, 2, 3]) s :=
    ⟨_, hb, by decide, .inl hp⟩
  refine ⟨s, Machine.reachable_of_exec history hexec, hp, ?_,
    fun n t ht => oversized_never_returns hstuck ht⟩
  rintro ⟨n, t, ht, hret, -⟩
  exact oversized_never_returns hstuck ht hret

end PdDisaggregation
