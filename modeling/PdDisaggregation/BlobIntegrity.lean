import PdDisaggregation.BlobPull

/-! A blob is installed only after its size and checksum were tested, whatever
the work directory held and wherever a call is cut short. -/

namespace PdDisaggregation

variable {sha256sum : Bytes → String} {req : BlobRequest} {s t : PullState} {a : PullAction}
  {d : WorkDir}

/-- What the tests made so far have established at each command. -/
def Sound (sha256sum : Bytes → String) (req : BlobRequest) (s : PullState) : Prop :=
  match s.point with
  | .installCandidate => verified sha256sum req (s.dir.candidates req.hex) = true
  | .compare currentSize =>
    ∃ bytes, s.dir.partials req.hex = some bytes ∧ bytes.length = currentSize
  | .install => verified sha256sum req (s.dir.partials req.hex) = true
  | .returned => Installed sha256sum req s.dir
  | _ => True

theorem installed_setBlob {file : Option Bytes} {bytes : Bytes}
    (hv : verified sha256sum req file = true) (hb : file = some bytes) :
    Installed sha256sum req (d.setBlob req.hex (some bytes)) := by
  rw [hb] at hv
  simpa [Installed] using hv

theorem pullStep_blobs (hs : Sound sha256sum req s) (h : pullStep sha256sum req s a = some t) :
    t.dir.blobs = s.dir.blobs ∨
      Installed sha256sum req t.dir ∧ ∀ hex, hex ≠ req.hex → t.dir.blobs hex = s.dir.blobs hex := by
  cases pullStep_trans h with
  | installCandidate d n bytes hb =>
    have hv : verified sha256sum req (d.candidates req.hex) = true := hs
    exact .inr ⟨installed_setBlob (d := d) hv hb, fun hex hne => setBlob_blobs_other hne⟩
  | install d n bytes hb =>
    have hv : verified sha256sum req (d.partials req.hex) = true := hs
    exact .inr ⟨installed_setBlob (d := d) hv hb, fun hex hne => setBlob_blobs_other hne⟩
  | seedIngest d n data => exact .inl (saveIngest_blobs data)
  | _ => exact .inl rfl

theorem pullStep_sound (hs : Sound sha256sum req s) (h : pullStep sha256sum req s a = some t) :
    Sound sha256sum req t := by
  cases pullStep_trans h with
  | alreadyComplete d n hv => exact hv
  | candidateAgrees d n hv => exact hv
  | installCandidate d n bytes hb =>
    have hv : verified sha256sum req (d.candidates req.hex) = true := hs
    exact installed_setBlob (d := d) hv hb
  | stat d n bytes hb => exact ⟨bytes, hb, rfl⟩
  | checksumAgrees d n bytes hb hsum =>
    obtain ⟨bytes', hb', hlen⟩ := hs
    cases Option.some.inj (hb.symm.trans hb')
    exact verified_iff.mpr ⟨bytes, hb, hlen, hsum⟩
  | install d n bytes hb =>
    have hv : verified sha256sum req (d.partials req.hex) = true := hs
    exact installed_setBlob (d := d) hv hb
  | _ => trivial

theorem downloadBlob_sound (h : Machine.Reachable (pullStep sha256sum req) (downloadBlob d) s) :
    Sound sha256sum req s :=
  h.invariant (fun _ _ _ hs _ ha => pullStep_sound hs ha) trivial

theorem downloadBlob_blobs (h : Machine.Reachable (pullStep sha256sum req) (downloadBlob d) s) :
    (s.dir.blobs req.hex = d.blobs req.hex ∨ Installed sha256sum req s.dir) ∧
      ∀ hex, hex ≠ req.hex → s.dir.blobs hex = d.blobs hex := by
  refine (h.invariant (I := fun u => Sound sha256sum req u ∧
    (u.dir.blobs req.hex = d.blobs req.hex ∨ Installed sha256sum req u.dir) ∧
      ∀ hex, hex ≠ req.hex → u.dir.blobs hex = d.blobs hex) ?_ ⟨trivial, .inl rfl, fun _ _ => rfl⟩).2
  rintro u b v ⟨hu, hkept, hother⟩ _ hb
  refine ⟨pullStep_sound hu hb, ?_⟩
  rcases pullStep_blobs hu hb with hsame | ⟨hinst, hframe⟩
  · simpa only [Installed, hsame] using And.intro hkept hother
  · exact ⟨.inr hinst, fun hex hne => (hframe hex hne).trans (hother hex hne)⟩

/-- Integrity of the blob store: a call that returns leaves the blob with its
size and checksum, and no step of a call installs anything else or touches the
blob of another digest. -/
theorem downloadBlob_integrity (sha256sum : Bytes → String) (req : BlobRequest) (d : WorkDir)
    (s : PullState) (h : Machine.Reachable (pullStep sha256sum req) (downloadBlob d) s) :
    (s.point = .returned → ∃ bytes, s.dir.blobs req.hex = some bytes ∧
      bytes.length = req.expectedSize ∧ sha256sum bytes = req.hex) ∧
    (s.dir.blobs req.hex = d.blobs req.hex ∨ ∃ bytes, s.dir.blobs req.hex = some bytes ∧
      bytes.length = req.expectedSize ∧ sha256sum bytes = req.hex) ∧
    (∀ hex, hex ≠ req.hex → s.dir.blobs hex = d.blobs hex) ∧
    ∀ a t, pullStep sha256sum req s a = some t → ∀ hex, t.dir.blobs hex ≠ s.dir.blobs hex →
      hex = req.hex ∧ ∃ bytes, t.dir.blobs hex = some bytes ∧
        bytes.length = req.expectedSize ∧ sha256sum bytes = hex := by
  have hsound := downloadBlob_sound h
  have hblobs := downloadBlob_blobs h
  simp only [Installed, verified_iff] at hblobs
  refine ⟨fun hret => ?_, hblobs.1, hblobs.2, fun a t ha hex hne => ?_⟩
  · simpa only [Sound, hret, Installed, verified_iff] using hsound
  · rcases pullStep_blobs hsound ha with hsame | ⟨hinst, hframe⟩
    · exact absurd (congrFun hsame hex) hne
    · have hhex : hex = req.hex := by
        by_contra hother
        exact hne (hframe hex hother)
      subst hhex
      exact ⟨rfl, verified_iff.mp hinst⟩

def emptyDir : WorkDir := ⟨fun _ => none, fun _ => none, fun _ => none⟩

def sampleSum (bytes : Bytes) : String := if bytes = [1, 2, 3] then "a1" else "00"

def sampleRequest : BlobRequest := ⟨"a1", 3⟩

def untilConnect : List PullAction :=
  [.next, .content false [], .next, .ingest none, .next, .next, .next, .next, .next]

def resumedRun : List PullAction :=
  untilConnect ++ [.receive [1], .curlExit, .next, .next, .next,
    .receive [2, 3], .curlExit, .next, .next, .next]

theorem downloadBlob_integrity_resumed :
    ∃ s, Machine.exec (pullStep sampleSum sampleRequest) (downloadBlob emptyDir) resumedRun = some s ∧
      s.point = .returned ∧ ∃ bytes, s.dir.blobs "a1" = some bytes ∧
        bytes.length = 3 ∧ sampleSum bytes = "a1" :=
  ⟨_, rfl, rfl, (downloadBlob_integrity sampleSum sampleRequest emptyDir _
    (Machine.reachable_of_exec resumedRun rfl)).1 rfl⟩

end PdDisaggregation
