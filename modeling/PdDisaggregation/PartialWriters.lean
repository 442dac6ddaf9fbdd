import PdDisaggregation.BlobIntegrity
import PdDisaggregation.BlobRecovery
import Mathlib.Order.WithBot

/-! Two scripts writing one partial without a lock. A connection that resumed may
only go on appending while the partial is the one it chose its offset from. -/

namespace PdDisaggregation

/-- Every answer from outside is honest: the registry sends the blob from the
requested offset on, and an ingest file is a prefix of the blob. -/
def HonestAnswer (blob : Bytes) (hex : String) (s : PullState) : WriterAction → Prop
  | .pull (.receive bytes) =>
    match s.point with
    | .transfer resumeAt _ written => bytes <+: blob.drop (resumeAt + written)
    | _ => False
  | .pull (.ingest (some data)) => data <+: blob
  | .snapshot hex' data => hex' = hex → data <+: blob
  | _ => True

/-- A `curl` that appends finds the partial as it has made it: no snapshot has
replaced it since the offset was chosen. -/
def Undisturbed (hex : String) (s : PullState) : WriterAction → Prop
  | .pull (.receive _) =>
    match s.point with
    | .transfer resumeAt _ written =>
      resumeAt = 0 ∨ fileSize (s.dir.partials hex) = resumeAt + written
    | _ => False
  | _ => True

/-- `curl` makes the partial shorter itself: a retry throws away what came since
the offset, and output for offset 0 is emptied when it is opened. -/
def Shortens (hex : String) (s : PullState) : WriterAction → Prop
  | .pull .retry =>
    match s.point with
    | .transfer _ _ written => written ≠ 0
    | _ => False
  | .pull (.receive _) =>
    match s.point with
    | .transfer resumeAt opened _ =>
      resumeAt = 0 ∧ opened = false ∧ fileSize (s.dir.partials hex) ≠ 0
    | _ => False
  | _ => False

instance (blob : Bytes) (hex : String) (s : PullState) (a : WriterAction) :
    Decidable (HonestAnswer blob hex s a) := by
  unfold HonestAnswer
  split
  · split <;> infer_instance
  all_goals infer_instance

instance (hex : String) (s : PullState) (a : WriterAction) : Decidable (Undisturbed hex s a) := by
  unfold Undisturbed
  split
  · split <;> infer_instance
  · infer_instance

def CleanStep (blob : Bytes) (hex : String) (s : PullState) (a : WriterAction) : Prop :=
  HonestAnswer blob hex s a ∧ Undisturbed hex s a

instance (blob : Bytes) (hex : String) (s : PullState) (a : WriterAction) :
    Decidable (CleanStep blob hex s a) := inferInstanceAs (Decidable (_ ∧ _))

def Prefixed (blob : Bytes) (hex : String) (s : PullState) : Prop :=
  (∀ bytes, s.dir.partials hex = some bytes → bytes <+: blob) ∧
    match s.point with
    | .compare currentSize => currentSize ≤ fileSize (s.dir.partials hex)
    | .transfer resumeAt opened written =>
      resumeAt ≤ fileSize (s.dir.partials hex) ∧
        (resumeAt = 0 → written ≤ fileSize (s.dir.partials hex)) ∧ (opened = false → written = 0)
    | .removePartial | .retouch => False
    | _ => True

def installedOrSize (hex : String) (s : PullState) : WithTop Nat :=
  if s.point = .returned then ⊤ else WithTop.some (fileSize (s.dir.partials hex))

variable {sha256sum : Bytes → String} {blob : Bytes} {s t : PullState} {a : WriterAction}
  {d : WorkDir} {hex : String}

theorem fileSize_le_of_prefix (h : ∀ bytes, d.partials hex = some bytes → bytes <+: blob) :
    fileSize (d.partials hex) ≤ blob.length := by
  cases hb : d.partials hex with
  | none => simp
  | some bytes => exact (h bytes hb).length_le

theorem prefix_getD (h : ∀ bytes, d.partials hex = some bytes → bytes <+: blob) :
    (d.partials hex).getD [] <+: blob := by
  cases hb : d.partials hex with
  | none => exact List.nil_prefix
  | some bytes => exact h bytes hb

theorem prefix_saveIngest {hex' : String} {data : Bytes} (hd : hex' = hex → data <+: blob)
    (h : ∀ bytes, d.partials hex = some bytes → bytes <+: blob) :
    ∀ bytes, (saveIngest d hex' data).partials hex = some bytes → bytes <+: blob := by
  intro bytes hb
  by_cases hh : hex = hex'
  · subst hh
    rw [saveIngest_partials_same] at hb
    split at hb
    · exact Option.some.inj hb ▸ hd rfl
    · exact h bytes hb
  · rw [saveIngest_partials_other data hh] at hb
    exact h bytes hb

theorem prefix_append_drop {p bytes : Bytes} (hp : p <+: blob)
    (hb : bytes <+: blob.drop p.length) : p ++ bytes <+: blob := by
  obtain ⟨rest, rfl⟩ := hp
  rw [List.drop_left] at hb
  exact (List.prefix_append_right_inj p).mpr hb

theorem overwriteAt_prefix {content bytes : Bytes} {position : Nat} (hc : content <+: blob)
    (hpos : position ≤ content.length) (hb : bytes <+: blob.drop position) :
    overwriteAt content position bytes <+: blob := by
  have hlen : (content.take position).length = position := List.length_take_of_le hpos
  have hwritten : content.take position ++ bytes <+: blob :=
    prefix_append_drop ((List.take_prefix _ _).trans hc) (by rwa [hlen])
  have hend : (content.take position ++ bytes).length = position + bytes.length := by
    rw [List.length_append, hlen]
  rcases List.prefix_or_prefix_of_prefix hwritten hc with hinside | hpast
  · obtain ⟨rest, hrest⟩ := hinside
    have hdrop : (content.take position ++ bytes ++ rest).drop
        (content.take position ++ bytes).length = rest := List.drop_left
    rw [hend, hrest] at hdrop
    rwa [overwriteAt, hdrop, hrest]
  · have hdrop : content.drop (position + bytes.length) = [] :=
      List.drop_eq_nil_of_le (hend ▸ hpast.length_le)
    rwa [overwriteAt, hdrop, List.append_nil]

theorem curlWrite_prefix {content bytes : Bytes} {resumeAt written : Nat} {opened : Bool}
    (hc : content <+: blob) (hb : bytes <+: blob.drop (resumeAt + written))
    (hund : resumeAt = 0 ∨ content.length = resumeAt + written)
    (hwritten : resumeAt = 0 → written ≤ content.length) (hopened : opened = false → written = 0) :
    curlWrite resumeAt opened written content bytes <+: blob := by
  by_cases hk : resumeAt = 0
  · subst hk
    rw [Nat.zero_add] at hb
    cases opened with
    | true => simpa [curlWrite] using overwriteAt_prefix hc (hwritten rfl) hb
    | false => simpa [curlWrite, hopened rfl] using hb
  · rw [← hund.resolve_left hk] at hb
    simpa [curlWrite, hk] using prefix_append_drop hc hb

theorem written_le_length_curlWrite {content bytes : Bytes} {written : Nat} {opened : Bool}
    (hwritten : written ≤ content.length) (hopened : opened = false → written = 0) :
    written + bytes.length ≤ (curlWrite 0 opened written content bytes).length := by
  cases opened with
  | true =>
    simp only [curlWrite, overwriteAt, ne_eq, not_true, if_true, if_false, List.length_append,
      List.length_take]
    omega
  | false => simp [curlWrite, hopened rfl]

theorem le_length_curlWrite {content bytes : Bytes} {resumeAt written : Nat} {opened : Bool}
    (h : ¬ (resumeAt = 0 ∧ opened = false ∧ content.length ≠ 0)) :
    content.length ≤ (curlWrite resumeAt opened written content bytes).length := by
  by_cases hk : resumeAt = 0
  · cases opened with
    | true => simpa [curlWrite, hk] using le_length_overwriteAt content bytes written
    | false => simp_all
  · simp [curlWrite, hk]

theorem prefixed_snapshot {data : Bytes} (hs : Prefixed blob (sha256sum blob) s)
    (hd : hex = sha256sum blob → data <+: blob) :
    Prefixed blob (sha256sum blob) { s with dir := saveIngest s.dir hex data } := by
  obtain ⟨hpre, hpoint⟩ := hs
  refine ⟨prefix_saveIngest hd hpre, ?_⟩
  obtain ⟨dir, point, attempt⟩ := s
  have hle : fileSize (dir.partials (sha256sum blob)) ≤
      fileSize ((saveIngest dir hex data).partials (sha256sum blob)) :=
    fileSize_le_saveIngest data
  cases point with
  | compare currentSize => exact (show currentSize ≤ _ from hpoint).trans hle
  | transfer resumeAt opened written =>
    exact ⟨hpoint.1.trans hle, fun hk => (hpoint.2.1 hk).trans hle, hpoint.2.2⟩
  | removePartial | retouch => exact hpoint
  | _ => trivial

theorem prefixed_receive {n k m : Nat} {o : Bool} {bytes : Bytes}
    (hs : Prefixed blob hex ⟨d, .transfer k o m, n⟩)
    (hbytes : bytes <+: blob.drop (k + m))
    (hund : k = 0 ∨ ((d.partials hex).getD []).length = k + m) :
    Prefixed blob hex ⟨d.setPartial hex
      (some (curlWrite k o m ((d.partials hex).getD []) bytes)),
      .transfer k true (m + bytes.length), n⟩ := by
  obtain ⟨hpre, hoffset, hwritten, hopened⟩ := hs
  simp only [fileSize_eq_getD] at hoffset hwritten
  refine ⟨fun p hp => ?_, ?_⟩
  · cases Option.some.inj (setPartial_same.symm.trans hp)
    exact curlWrite_prefix (prefix_getD hpre) hbytes hund hwritten hopened
  · simp only [setPartial_same, fileSize_some]
    refine ⟨?_, fun hk => ?_, fun hn => by contradiction⟩
    · by_cases hk : k = 0
      · omega
      · exact hoffset.trans (le_length_curlWrite fun hcut => hk hcut.1)
    · subst hk
      exact written_le_length_curlWrite (hwritten rfl) hopened

theorem prefixed_step (hs : Prefixed blob (sha256sum blob) s)
    (hc : CleanStep blob (sha256sum blob) s a)
    (h : writersStep sha256sum (requestOf sha256sum blob) s a = some t) :
    Prefixed blob (sha256sum blob) t := by
  cases a with
  | snapshot hex data =>
    cases Option.some.inj h
    exact prefixed_snapshot hs hc.1
  | pull a =>
    have ⟨hpre, hpoint⟩ := hs
    cases pullStep_trans h with
    | contentFound | contentFails | removeCandidate | alreadyComplete | notComplete
    | candidateAgrees | candidateDiffers | installCandidate | noIngest | keepPartial
    | sizeDiffers | checksumAgrees | curlExit => exact ⟨hpre, trivial⟩
    | connect d n => exact ⟨hpre, Nat.le_refl _, fun _ => Nat.zero_le _, fun _ => rfl⟩
    | seedIngest d n data => exact ⟨prefix_saveIngest (fun _ => hc.1) hpre, trivial⟩
    | discardOversized d n hlt =>
      have hle := fileSize_le_of_prefix hpre
      exact absurd hlt (by simpa [requestOf] using hle)
    | touchPartial d n =>
      refine ⟨fun bytes hb => ?_, trivial⟩
      cases Option.some.inj (setPartial_same.symm.trans hb)
      exact prefix_getD hpre
    | stat d n bytes hb => exact ⟨hpre, by simp_all [requestOf]⟩
    | checksumDiffers d n bytes hb hsum =>
      have hle : blob.length ≤ fileSize (d.partials (sha256sum blob)) := hpoint
      have hp : bytes <+: blob := hpre bytes hb
      have hb' : d.partials (sha256sum blob) = some bytes := hb
      rw [hb', fileSize_some] at hle
      exact absurd (congrArg sha256sum (hp.eq_of_length_le hle)) hsum
    | install d n bytes hb => exact ⟨by simp [requestOf], trivial⟩
    | removePartial | retouch => exact hpoint.elim
    | receive d n k o m bytes =>
      obtain ⟨hbytes, hund⟩ := hc
      simp only [HonestAnswer, Undisturbed] at hbytes hund
      rw [fileSize_eq_getD] at hund
      exact prefixed_receive hs hbytes hund
    | retryAgain d n k o => exact ⟨hpre, hpoint⟩
    | retryCut d n k o m hm =>
      refine ⟨fun p hp => ?_, ?_, fun _ => Nat.zero_le _, fun _ => rfl⟩
      · cases Option.some.inj (setPartial_same.symm.trans hp)
        exact (List.take_prefix _ _).trans (prefix_getD hpre)
      · have hoffset : k ≤ fileSize (d.partials (sha256sum blob)) := hpoint.1
        rw [fileSize_eq_getD] at hoffset
        simp [requestOf, hoffset]

theorem shortens_transfer (hshort : Shortens (sha256sum blob) s a)
    (h : writersStep sha256sum (requestOf sha256sum blob) s a = some t) :
    ∃ k o m o' m', s.point = .transfer k o m ∧ t.point = .transfer k o' m' := by
  cases a with
  | snapshot hex data => exact hshort.elim
  | pull a =>
    cases pullStep_trans h with
    | receive d n k o m bytes => exact ⟨k, o, m, true, m + bytes.length, rfl, rfl⟩
    | retryCut d n k o m hm => exact ⟨k, o, m, o, 0, rfl, rfl⟩
    | retryAgain d n k o => exact absurd rfl hshort
    | _ => exact hshort.elim

theorem installedOrSize_le (hs : s.point ≠ .returned)
    (h : t.point ≠ .returned → fileSize (s.dir.partials hex) ≤ fileSize (t.dir.partials hex)) :
    installedOrSize hex s ≤ installedOrSize hex t := by
  rw [installedOrSize, if_neg hs]
  by_cases ht : t.point = .returned
  · rw [installedOrSize, if_pos ht]
    exact le_top
  · rw [installedOrSize, if_neg ht]
    exact WithTop.coe_le_coe.mpr (h ht)

theorem installedOrSize_step (hs : Prefixed blob (sha256sum blob) s)
    (hshort : ¬ Shortens (sha256sum blob) s a)
    (h : writersStep sha256sum (requestOf sha256sum blob) s a = some t) :
    installedOrSize (sha256sum blob) s ≤ installedOrSize (sha256sum blob) t := by
  obtain ⟨hpre, hpoint⟩ := hs
  cases a with
  | snapshot hex data =>
    cases Option.some.inj h
    by_cases hret : s.point = .returned
    · simp [installedOrSize, hret]
    · exact installedOrSize_le hret fun _ => fileSize_le_saveIngest data
  | pull a =>
    cases pullStep_trans h with
    | seedIngest d n data =>
      exact installedOrSize_le (by simp) fun _ => fileSize_le_saveIngest data
    | discardOversized d n hlt =>
      have hle := fileSize_le_of_prefix hpre
      exact absurd hlt (by simpa [requestOf] using hle)
    | touchPartial d n =>
      refine installedOrSize_le (by simp) fun _ => ?_
      simp [requestOf, fileSize_eq_getD]
    | install d n bytes hb => exact installedOrSize_le (by simp) fun hret => absurd rfl hret
    | removePartial | retouch => exact hpoint.elim
    | receive d n k o m bytes =>
      refine installedOrSize_le (by simp) fun _ => ?_
      simp only [Shortens, fileSize_eq_getD] at hshort
      simpa [requestOf, fileSize_eq_getD] using le_length_curlWrite hshort
    | retryCut d n k o m hm => exact absurd hm hshort
    | _ => exact installedOrSize_le (by simp) fun _ => Nat.le_refl _

/-- As long as every answer is honest and no connection that resumed appends to a
partial that was replaced after it chose its offset, the partial stays a prefix of
the blob, only `curl` itself makes it shorter before it is installed, to no less
than the running connection had found, and the checksum never fails. -/
theorem writers_keep_prefix (sha256sum : Bytes → String) (blob : Bytes) (d : WorkDir)
    (hd : ∀ bytes, d.partials (sha256sum blob) = some bytes → bytes <+: blob) (s : PullState)
    (h : Machine.Reaches (writersStep sha256sum (requestOf sha256sum blob))
      (CleanStep blob (sha256sum blob)) (downloadBlob d) s) :
    (∀ bytes, s.dir.partials (sha256sum blob) = some bytes → bytes <+: blob) ∧
    fileSize (s.dir.partials (sha256sum blob)) ≤ blob.length ∧
    s.point ≠ .removePartial ∧
    (∀ t, Machine.Reaches (writersStep sha256sum (requestOf sha256sum blob))
        (fun u a => CleanStep blob (sha256sum blob) u a ∧ ¬ Shortens (sha256sum blob) u a) s t →
      t.point ≠ .returned →
      fileSize (s.dir.partials (sha256sum blob)) ≤ fileSize (t.dir.partials (sha256sum blob))) ∧
    ∀ a t, CleanStep blob (sha256sum blob) s a → Shortens (sha256sum blob) s a →
      writersStep sha256sum (requestOf sha256sum blob) s a = some t →
      ∃ resumeAt opened written, s.point = .transfer resumeAt opened written ∧
        resumeAt ≤ fileSize (t.dir.partials (sha256sum blob)) := by
  have hstep := fun u b v (hu : Prefixed blob (sha256sum blob) u) hb hv =>
    prefixed_step (a := b) (t := v) hu hb hv
  have hs : Prefixed blob (sha256sum blob) s := h.invariant hstep ⟨hd, trivial⟩
  refine ⟨hs.1, fileSize_le_of_prefix hs.1, fun hp => ?_, fun t ht hret => ?_,
    fun a t hc hshort ha => ?_⟩
  · simpa [hp] using hs.2
  · have hle := Machine.Reaches.monotone (fun u b v hu hb hv => hstep u b v hu hb.1 hv)
      (fun u b v hu hb hv => installedOrSize_step hu hb.2 hv) ht hs
    rw [installedOrSize, installedOrSize, if_neg hret] at hle
    by_cases hp : s.point = .returned
    · rw [if_pos hp] at hle
      exact absurd hle (by simp)
    · rw [if_neg hp] at hle
      exact WithTop.coe_le_coe.mp hle
  · obtain ⟨resumeAt, opened, written, opened', written', hp, hp'⟩ := shortens_transfer hshort ha
    have ht := (hstep s a t hs hc ha).2
    rw [hp'] at ht
    exact ⟨resumeAt, opened, written, hp, ht.1⟩

def seededRun : List WriterAction :=
  untilConnect.map WriterAction.pull ++ [.pull (.receive [1]), .pull .curlExit,
    .snapshot "a1" [1, 2], .pull .next, .pull .next, .pull .next, .pull (.receive [3])]

theorem writers_keep_prefix_seeded :
    ∃ s, Machine.exec (Machine.restrict (writersStep sampleSum (requestOf sampleSum [1, 2, 3]))
        (CleanStep [1, 2, 3] "a1")) (downloadBlob emptyDir) seededRun = some s ∧
      s.dir.partials "a1" = some [1, 2, 3] ∧ fileSize (s.dir.partials "a1") ≤ 3 ∧
      s.point ≠ .removePartial := by
  refine ⟨_, rfl, rfl, ?_⟩
  have h := writers_keep_prefix sampleSum [1, 2, 3] emptyDir (fun _ hb => nomatch hb) _
    (Machine.reaches_of_exec seededRun rfl)
  exact ⟨h.2.1, h.2.2.1⟩

/-- A snapshot under a connection that resumed at offset 1: every answer is honest,
and yet the byte for that offset lands behind the two bytes of the snapshot. -/
def racingRun : List WriterAction :=
  untilConnect.map WriterAction.pull ++ [.pull (.receive [1]), .pull .curlExit, .pull .next,
    .pull .next, .pull .next, .snapshot "a1" [1, 2], .pull (.receive [2]), .pull .curlExit,
    .pull .next, .pull .next]

theorem racing_writers_corrupt :
    ∃ s, Machine.Reaches (writersStep sampleSum (requestOf sampleSum [1, 2, 3]))
        (HonestAnswer [1, 2, 3] "a1") (downloadBlob emptyDir) s ∧
      s.dir.partials "a1" = some [1, 2, 2] ∧ ¬ ([1, 2, 2] : Bytes) <+: [1, 2, 3] ∧
      s.point = .removePartial ∧
      ∃ t, pullStep sampleSum (requestOf sampleSum [1, 2, 3]) s .next = some t ∧
        fileSize (t.dir.partials "a1") < fileSize (s.dir.partials "a1") :=
  ⟨_, Machine.reaches_of_exec racingRun rfl, rfl, by decide, rfl, _, rfl, by decide⟩

end PdDisaggregation
