import PdDisaggregation.RamRuns

/-! Whether a start works again after a stop. A start consumes a blank device,
and only unloading the module makes it blank again. -/

namespace PdDisaggregation

open Script

variable {env env' : RamEnv} {s t t' u v : RamHost}

/-- Everything that the disk consists of is the same. -/
structure SameDisk (s t : RamHost) : Prop where
  brd : t.brd = s.brd
  mounts : t.mounts = s.mounts
  stateFile : t.stateFile = s.stateFile

/-- The host with the memory figures of an earlier state of it. -/
def underFiguresOf (s u : RamHost) : RamHost :=
  { u with memTotalKib := s.memTotalKib, memAvailableKib := s.memAvailableKib }

theorem device_congr (hb : t.brd = s.brd) (name : String) : t.device name = s.device name := by
  unfold RamHost.device
  rw [hb]

theorem deviceBlank_congr (hb : t.brd = s.brd) (hm : t.mounts = s.mounts)
    (h : DeviceBlank env s) : DeviceBlank env t := by
  have hd := device_congr hb env.ramDevice
  refine ⟨?_, ?_, ?_⟩
  · rw [hd]
    exact h.size
  · have hun := h.unmounted
    unfold RamHost.deviceMounted at hun ⊢
    rwa [hm]
  · have hblank := h.blank
    unfold RamHost.hasSignature at hblank ⊢
    rwa [hd]

theorem withBrd_congr (hs : s.brd = none) (ht : t.brd = none) :
    (withBrd env t).brd = (withBrd env s).brd := by
  have hsn : s.brd.isNone = true := by rw [hs]; rfl
  have htn : t.brd.isNone = true := by rw [ht]; rfl
  rw [withBrd, withBrd, if_pos hsn, if_pos htn]
  rfl

theorem filter_of_sourcesAt {mountPoint : String} (hun : s.sourcesAt mountPoint = []) :
    s.mounts.filter (·.target != mountPoint) = s.mounts := by
  have hnone := List.filter_eq_nil_iff.mp (List.map_eq_nil_iff.mp hun)
  apply List.filter_eq_self.mpr
  intro e he
  have hne := hnone e he
  simpa using hne

/-- What a stop leaves after a start from an unmounted host: the earlier mounts,
and the module only if it was there before. -/
theorem stop_after_start (hun : s.sourcesAt env.mountPoint = [])
    (hsame : SameDisk (started env s) t) (hstop : Ends (stopRamStorage env') t (.ok ()) u) :
    u.mounts = s.mounts ∧ u.brd = if s.brd = none then none else t.brd := by
  obtain ⟨-, v, w, hunmount, hunload, rfl⟩ := stop_ok.mp hstop
  have hfile : t.stateFile = (started env s).stateFile := hsame.stateFile
  have hvars : sourced env' t =
      { env' with ramDevice := env.ramDevice, mountPoint := env.mountPoint } := by
    unfold sourced
    rw [hfile]
    rfl
  have hmounts : t.mounts = ⟨env.ramDevice, env.mountPoint⟩ :: s.mounts :=
    hsame.mounts.trans (congrArg (List.cons _) mounts_withBrd)
  have hsources : t.sourcesAt env.mountPoint ≠ [] := by
    unfold RamHost.sourcesAt
    rw [hmounts, List.filter_cons_of_pos (by simp)]
    exact List.cons_ne_nil _ _
  have hv : v = unmounted env t := by
    rw [hvars] at hunmount
    rcases unmountRam_ok.mp hunmount with ⟨hh, -⟩ | ⟨-, hv⟩
    · exact absurd hh hsources
    · exact hv
  have hvmounts : v.mounts = s.mounts := by
    rw [hv, unmounted, hmounts, List.filter_cons_of_neg (by simp)]
    exact filter_of_sourcesAt hun
  have hvbrd : v.brd = t.brd := by rw [hv]; rfl
  have htbrd : t.brd ≠ none := by
    rw [hsame.brd]
    exact brd_started
  have hcreated : recordedModule t = createdModule s := by
    have hne : createdModule s ≠ "" := by
      unfold createdModule
      split <;> decide
    unfold recordedModule
    rw [hfile]
    exact Text.orDefault_some hne "0"
  rw [hcreated] at hunload
  by_cases hs : s.brd = none
  · have hone : createdModule s = "1" ∧ v.brd.isSome = true := by
      refine ⟨?_, ?_⟩
      · rw [createdModule, if_pos (by rw [hs]; rfl)]
      · rw [hvbrd]
        exact Option.isSome_iff_ne_none.mpr htbrd
    rw [if_pos hs]
    rcases unloadBrd_ok.mp hunload with ⟨hno, -⟩ | ⟨-, -, rfl⟩
    · exact absurd hone hno
    · exact ⟨hvmounts, rfl⟩
  · have hzero : ¬ (createdModule s = "1" ∧ v.brd.isSome = true) := by
      rintro ⟨hone, -⟩
      rw [createdModule, if_neg (by simpa using hs)] at hone
      exact absurd hone (by decide)
    rw [if_neg hs]
    rcases unloadBrd_ok.mp hunload with ⟨-, rfl⟩ | ⟨hone, -⟩
    · exact ⟨hvmounts, hvbrd⟩
    · exact absurd hone hzero

theorem hasSignature_started (hblank : DeviceBlank env (withBrd env s)) (hb : u.brd = t.brd)
    (hsame : SameDisk (started env s) t) : u.hasSignature env.ramDevice = true := by
  obtain ⟨d, hd, -⟩ := device_activated hblank
  have hu : u.device env.ramDevice = some { d with fileSystem := some ⟨true⟩ } := by
    rw [device_congr hb, device_congr hsame.brd]
    exact hd
  unfold RamHost.hasSignature
  rw [hu]
  rfl

theorem sourcesAt_underFigures (hmounts : u.mounts = s.mounts) :
    (underFiguresOf s u).sourcesAt env.mountPoint = s.sourcesAt env.mountPoint := by
  have hsources : (underFiguresOf s u).mounts = s.mounts := hmounts
  unfold RamHost.sourcesAt
  rw [hsources]

/-- Where the module was unloaded, the device comes back blank. -/
theorem restart_again (hun : s.sourcesAt env.mountPoint = [])
    (hstart : Ends (startRamStorage env) s (.ok ()) t) (hmounts : u.mounts = s.mounts)
    (hs : s.brd = none) (hbrd : u.brd = none) :
    ∃ v, Ends (startRamStorage env) (underFiguresOf s u) (.ok ()) v ∧ DiskActive env v := by
  obtain ⟨henv, hfits, hblank, rfl⟩ := (start_fresh_ok hun).mp hstart
  have hun' : (underFiguresOf s u).sourcesAt env.mountPoint = [] := by
    rw [sourcesAt_underFigures hmounts, hun]
  have hagain : DeviceBlank env (withBrd env (underFiguresOf s u)) := by
    refine deviceBlank_congr (withBrd_congr hs hbrd) ?_ hblank
    rw [mounts_withBrd, mounts_withBrd]
    exact hmounts
  refine ⟨started env (underFiguresOf s u), ?_, started_active hun' hagain⟩
  rw [start_fresh_ok hun']
  exact ⟨henv, ⟨hfits.share, hfits.reserve⟩, hagain, rfl⟩

/-- Where the module stayed, so did the file system of the first start. -/
theorem restart_signed (hun : s.sourcesAt env.mountPoint = [])
    (hstart : Ends (startRamStorage env) s (.ok ()) t) (hsame : SameDisk t t')
    (hmounts : u.mounts = s.mounts) (hbrd : u.brd = t'.brd) :
    Ends (startRamStorage env) (underFiguresOf s u) (.error (signatureRefusal env))
      (underFiguresOf s u) := by
  obtain ⟨henv, hfits, hblank, rfl⟩ := (start_fresh_ok hun).mp hstart
  have hbrd' : (underFiguresOf s u).brd = (started env s).brd := hbrd.trans hsame.brd
  have hloaded : (underFiguresOf s u).brd ≠ none := by
    rw [hbrd']
    exact brd_started
  have hsize : ((underFiguresOf s u).device env.ramDevice).any
      (·.sizeBytes == env.sizeBytes) = true := by
    rw [device_congr hbrd']
    exact (started_active hun hblank).size
  have hmounted : (underFiguresOf s u).deviceMounted env.ramDevice = false := by
    have hfree := hblank.unmounted
    unfold RamHost.deviceMounted at hfree ⊢
    rw [mounts_withBrd] at hfree
    rw [← hfree]
    exact congrArg (fun m => m.any (·.source == env.ramDevice)) hmounts
  have hsig : (underFiguresOf s u).hasSignature env.ramDevice = true :=
    hasSignature_started hblank hbrd hsame
  have hun' : (underFiguresOf s u).sourcesAt env.mountPoint = [] := by
    rw [sourcesAt_underFigures hmounts, hun]
  exact start_signed hun' henv ⟨hfits.share, hfits.reserve⟩ hloaded
    (deviceGate_signed hsize hmounted hsig)

/-- After a start from an unmounted host and a stop, both successful, a further
start under the memory figures of the first gives the disk again exactly if the
first start had found no `brd` module, and refuses otherwise. -/
theorem restart_iff (hun : s.sourcesAt env.mountPoint = [])
    (hstart : Ends (startRamStorage env) s (.ok ()) t) (hsame : SameDisk t t')
    (hstop : Ends (stopRamStorage env') t' (.ok ()) u) :
    ((∃ v, Ends (startRamStorage env) (underFiguresOf s u) (.ok ()) v ∧ DiskActive env v) ↔
        s.brd = none) ∧
      (s.brd ≠ none → Ends (startRamStorage env) (underFiguresOf s u)
        (.error (signatureRefusal env)) (underFiguresOf s u)) := by
  have ht : t = started env s := ((start_fresh_ok hun).mp hstart).2.2.2
  obtain ⟨hmounts, hbrd⟩ := stop_after_start hun (ht ▸ hsame) hstop
  have hrefused (hs : s.brd ≠ none) : Ends (startRamStorage env) (underFiguresOf s u)
      (.error (signatureRefusal env)) (underFiguresOf s u) := by
    rw [if_neg hs] at hbrd
    exact restart_signed hun hstart hsame hmounts hbrd
  refine ⟨⟨?_, ?_⟩, hrefused⟩
  · rintro ⟨v, hv, -⟩
    by_contra hs
    have hboth := hv.1.symm.trans (hrefused hs).1
    contradiction
  · intro hs
    rw [if_pos hs] at hbrd
    exact restart_again hun hstart hmounts hs hbrd

theorem restart_from_clean : ∃ v,
    Ends (startRamStorage {}) (underFiguresOf cleanHost cleanHost) (.ok ()) v ∧
      DiskActive {} v := by
  have hstop : Ends (stopRamStorage {}) activeHost (.ok ()) cleanHost :=
    ⟨by decide +kernel, by decide +kernel⟩
  exact (restart_iff rfl start_activates ⟨rfl, rfl, rfl⟩ hstop).1.mpr rfl

/-- Another party has loaded `brd` with a blank device of the right size. -/
def preloadedHost : RamHost :=
  { cleanHost with brd := some ⟨.other, [⟨"/dev/ram0", 8 * 1024 * 1024 * 1024, none⟩]⟩ }

theorem preloaded_restart_refused : ∃ t u,
    Ends (startRamStorage {}) preloadedHost (.ok ()) t ∧ DiskActive {} t ∧
      Ends (stopRamStorage {}) t (.ok ()) u ∧
      ¬ ∃ v, Ends (startRamStorage {}) (underFiguresOf preloadedHost u) (.ok ()) v ∧
        DiskActive {} v := by
  refine ⟨(startRamStorage {} preloadedHost).state,
    (stopRamStorage {} (startRamStorage {} preloadedHost).state).state,
    ⟨by decide +kernel, rfl⟩, ⟨by decide +kernel, by decide +kernel, by decide +kernel⟩,
    ⟨by decide +kernel, rfl⟩, ?_⟩
  rintro ⟨v, hv, -⟩
  have hno : (startRamStorage {} (underFiguresOf preloadedHost
      (stopRamStorage {} (startRamStorage {} preloadedHost).state).state)).result ≠ .ok () := by
    decide +kernel
  exact hno hv.1

end PdDisaggregation
