import PdDisaggregation.RamOwnership

/-! What a start and a stop that run to their end have found and what they leave. -/

namespace PdDisaggregation

open Script

variable {env : RamEnv} {s t : RamHost}

def reserveKib (s : RamHost) : Nat := max (s.memTotalKib * 35 / 100) (16 * 1024 * 1024)

structure MemoryFits (env : RamEnv) (s : RamHost) : Prop where
  share : env.sizeKib ≤ s.memTotalKib / 4
  reserve : env.sizeKib + reserveKib s ≤ s.memAvailableKib

structure DeviceBlank (env : RamEnv) (s : RamHost) : Prop where
  size : (s.device env.ramDevice).any (·.sizeBytes == env.sizeBytes) = true
  unmounted : s.deviceMounted env.ramDevice = false
  blank : s.hasSignature env.ramDevice = false

structure EnvAccepted (env : RamEnv) : Prop where
  size : env.sizeGib.isSome = true
  device : isRamDevice env.ramDevice = true
  mountPoint : env.mountPoint = "/srv/dynamo-g4"

theorem memoryGate_ok : Ends (memoryGate env) s (.ok ()) t ↔ MemoryFits env s ∧ t = s := by
  rw [memoryGate, ends_read_ok, ends_read_ok, ends_check_ok, ends_dieUnless_ok,
    decide_eq_true_iff, decide_eq_true_iff]
  constructor
  · rintro ⟨hshare, hreserve, rfl⟩
    exact ⟨⟨hshare, hreserve⟩, rfl⟩
  · rintro ⟨⟨hshare, hreserve⟩, rfl⟩
    exact ⟨hshare, hreserve, rfl⟩

def withBrd (env : RamEnv) (s : RamHost) : RamHost :=
  if s.brd.isNone then s.loadBrd env.sizeKib else s

def createdModule (s : RamHost) : String := if s.brd.isNone then "1" else "0"

theorem ensureModule_ok {c : String} : Ends (ensureModule env) s (.ok c) t ↔
    c = createdModule s ∧ t = withBrd env s := by
  rw [ensureModule, ends_read_ok, createdModule, withBrd]
  by_cases hb : s.brd.isNone = true
  · rw [if_pos hb, if_pos hb, if_pos hb, ends_exec_ok, ends_pure, Except.ok.injEq]
  · rw [if_neg hb, if_neg hb, if_neg hb, ends_pure, Except.ok.injEq]

theorem deviceGate_ok : Ends (deviceGate env) s (.ok ()) t ↔ DeviceBlank env s ∧ t = s := by
  rw [deviceGate, ends_read_ok, ends_check_ok, ends_read_ok, ends_check_ok, ends_read_ok,
    ends_check_ok, ends_read_ok, ends_dieUnless_ok, Bool.not_eq_true', Bool.not_eq_true']
  constructor
  · rintro ⟨-, hsize, hun, hblank, rfl⟩
    exact ⟨⟨hsize, hun, hblank⟩, rfl⟩
  · rintro ⟨⟨hsize, hun, hblank⟩, rfl⟩
    refine ⟨?_, hsize, hun, hblank, rfl⟩
    cases hd : t.device env.ramDevice with
    | none => simp [hd] at hsize
    | some d => rfl

theorem deviceGate_signed (hsize : (s.device env.ramDevice).any (·.sizeBytes == env.sizeBytes) = true)
    (hun : s.deviceMounted env.ramDevice = false) (hsig : s.hasSignature env.ramDevice = true) :
    Ends (deviceGate env) s (.error (signatureRefusal env)) s := by
  have hdev : (s.device env.ramDevice).isSome = true := by
    cases hd : s.device env.ramDevice with
    | none => simp [hd] at hsize
    | some d => rfl
  simp [deviceGate, hdev, hsize, hun, hsig]

def withMount (env : RamEnv) (s : RamHost) : RamHost :=
  { s with mounts := ⟨env.ramDevice, env.mountPoint⟩ :: s.mounts }

def activated (env : RamEnv) (s : RamHost) : RamHost :=
  (withMount env (s.setFileSystem env.ramDevice ⟨false⟩)).setFileSystem env.ramDevice ⟨true⟩

def recorded (env : RamEnv) (c : String) (s : RamHost) : RamHost :=
  { s with
    stateFile := some {
      ramDevice := some env.ramDevice
      mountPoint := some env.mountPoint
      ramSizeGib := some env.ramSizeGib
      createdModule := some c } }

theorem formatAndMount_ok : Ends (formatAndMount env) s (.ok ()) t ↔ t = activated env s := by
  rw [formatAndMount, ends_exec_ok, ends_exec_ok, ends_exec]
  exact ⟨fun h => h.2, fun h => ⟨rfl, h⟩⟩

theorem writeRamState_ok {c : String} :
    Ends (writeRamState env c) s (.ok ()) t ↔ t = recorded env c s := by
  rw [writeRamState, ends_exec_ok, ends_exec_ok, ends_exec_ok, ends_exec_ok, ends_exec]
  simp only [true_and]
  rfl

/-- Where a start from an unmounted host ends. -/
def started (env : RamEnv) (s : RamHost) : RamHost :=
  recorded env (createdModule s) (activated env (withBrd env s))

theorem start_fresh_ok (hun : s.sourcesAt env.mountPoint = []) :
    Ends (startRamStorage env) s (.ok ()) t ↔
      EnvAccepted env ∧ MemoryFits env s ∧ DeviceBlank env (withBrd env s) ∧ t = started env s := by
  rw [startRamStorage, ends_check_ok, ends_check_ok, ends_check_ok, ends_read_ok, hun,
    if_pos List.isEmpty_nil, beq_iff_eq]
  constructor
  · rintro ⟨hsize, hdev, hmp, hrun⟩
    obtain ⟨u, hmem, hrun⟩ := ends_seq_ok.mp hrun
    obtain ⟨hfits, hu⟩ := memoryGate_ok.mp hmem
    rw [hu] at hrun
    obtain ⟨c, v, hmod, hrun⟩ := ends_bind_ok.mp hrun
    obtain ⟨hc, hv⟩ := ensureModule_ok.mp hmod
    rw [hc, hv] at hrun
    obtain ⟨w, hgate, hrun⟩ := ends_seq_ok.mp hrun
    obtain ⟨hblank, hw⟩ := deviceGate_ok.mp hgate
    rw [hw] at hrun
    obtain ⟨x, hformat, hrun⟩ := ends_seq_ok.mp hrun
    rw [formatAndMount_ok.mp hformat] at hrun
    exact ⟨⟨hsize, hdev, hmp⟩, hfits, hblank, writeRamState_ok.mp hrun⟩
  · rintro ⟨henv, hfits, hblank, rfl⟩
    refine ⟨henv.size, henv.device, henv.mountPoint, ?_⟩
    rw [ends_seq_ok]
    refine ⟨s, memoryGate_ok.mpr ⟨hfits, rfl⟩, ?_⟩
    rw [ends_bind_ok]
    refine ⟨createdModule s, withBrd env s, ensureModule_ok.mpr ⟨rfl, rfl⟩, ?_⟩
    rw [ends_seq_ok]
    refine ⟨withBrd env s, deviceGate_ok.mpr ⟨hblank, rfl⟩, ?_⟩
    rw [ends_seq_ok]
    exact ⟨_, formatAndMount_ok.mpr rfl, writeRamState_ok.mpr rfl⟩

theorem withBrd_of_brd (hloaded : s.brd ≠ none) : withBrd env s = s := by
  rw [withBrd, if_neg (by simpa using hloaded)]

/-- A start that finds the module loaded and a file system on the device changes nothing. -/
theorem start_signed (hun : s.sourcesAt env.mountPoint = []) (henv : EnvAccepted env)
    (hfits : MemoryFits env s) (hloaded : s.brd ≠ none)
    (hgate : Ends (deviceGate env) s (.error (signatureRefusal env)) s) :
    Ends (startRamStorage env) s (.error (signatureRefusal env)) s := by
  have hmemory : Ends (memoryGate env) s (.ok ()) s := memoryGate_ok.mpr ⟨hfits, rfl⟩
  have hmodule : Ends (ensureModule env) s (.ok (createdModule s)) s :=
    ensureModule_ok.mpr ⟨rfl, (withBrd_of_brd hloaded).symm⟩
  have hrest : Ends (memoryGate env >>= fun _ => ensureModule env >>= fun c =>
      deviceGate env >>= fun _ => formatAndMount env >>= fun _ => writeRamState env c) s
      (.error (signatureRefusal env)) s := by
    rw [ends_seq_error]
    refine Or.inr ⟨s, hmemory, ?_⟩
    rw [ends_bind_error]
    refine Or.inr ⟨createdModule s, s, hmodule, ?_⟩
    rw [ends_seq_error]
    exact Or.inl hgate
  have hmount : (env.mountPoint == "/srv/dynamo-g4") = true := beq_iff_eq.mpr henv.mountPoint
  simpa [startRamStorage, henv.size, henv.device, hmount, hun] using hrest

/-- The disk of the request is mounted with its marker. -/
structure DiskActive (env : RamEnv) (s : RamHost) : Prop where
  mounted : s.sourcesAt env.mountPoint = [env.ramDevice]
  marked : s.hasMarker env.ramDevice = true
  size : (s.device env.ramDevice).any (·.sizeBytes == env.sizeBytes) = true

theorem adoptActive_ok : Ends (adoptActive env) s (.ok ()) t ↔ DiskActive env s ∧ t = s := by
  rw [adoptActive, ends_read_ok, ends_check_ok, ends_read_ok, ends_check_ok, ends_read_ok,
    ends_dieUnless_ok, beq_iff_eq]
  constructor
  · rintro ⟨hmounted, hmarked, hsize, rfl⟩
    exact ⟨⟨hmounted, hmarked, hsize⟩, rfl⟩
  · rintro ⟨⟨hmounted, hmarked, hsize⟩, rfl⟩
    exact ⟨hmounted, hmarked, hsize, rfl⟩

theorem start_adopt_ok (hmounted : s.sourcesAt env.mountPoint ≠ []) :
    Ends (startRamStorage env) s (.ok ()) t ↔ EnvAccepted env ∧ DiskActive env s ∧ t = s := by
  have hne : ¬ (s.sourcesAt env.mountPoint).isEmpty = true := by
    rwa [List.isEmpty_iff]
  rw [startRamStorage, ends_check_ok, ends_check_ok, ends_check_ok, ends_read_ok, if_neg hne,
    adoptActive_ok, beq_iff_eq]
  constructor
  · rintro ⟨hsize, hdev, hmp, hactive⟩
    exact ⟨⟨hsize, hdev, hmp⟩, hactive⟩
  · rintro ⟨henv, hactive⟩
    exact ⟨henv.size, henv.device, henv.mountPoint, hactive⟩

def unmounted (env : RamEnv) (s : RamHost) : RamHost :=
  { s with mounts := s.mounts.filter (·.target != env.mountPoint) }

structure UnmountAllowed (env : RamEnv) (s : RamHost) : Prop where
  source : s.sourcesAt env.mountPoint = [env.ramDevice]
  marked : s.hasMarker env.ramDevice = true
  notExported : s.exported = false
  noUsers : s.openUsers = false

theorem unmountRam_ok : Ends (unmountRam env) s (.ok ()) t ↔
    s.sourcesAt env.mountPoint = [] ∧ t = s ∨
      UnmountAllowed env s ∧ t = unmounted env s := by
  rw [unmountRam, ends_read_ok]
  by_cases hun : s.sourcesAt env.mountPoint = []
  · have hno : ¬ UnmountAllowed env s := by
      rintro ⟨hsource, -, -, -⟩
      rw [hun] at hsource
      contradiction
    simp [hun, hno]
  · have hne : (!(s.sourcesAt env.mountPoint).isEmpty) = true := by
      simpa [List.isEmpty_iff] using hun
    rw [if_pos hne, ends_check_ok, ends_read_ok, ends_check_ok, ends_read_ok, ends_check_ok,
      ends_read_ok, ends_check_ok, ends_exec, beq_iff_eq, Bool.not_eq_true', Bool.not_eq_true']
    constructor
    · rintro ⟨hsource, hmarked, hexported, husers, -, rfl⟩
      exact Or.inr ⟨⟨hsource, hmarked, hexported, husers⟩, rfl⟩
    · rintro (⟨hh, -⟩ | ⟨⟨hsource, hmarked, hexported, husers⟩, rfl⟩)
      · contradiction
      · exact ⟨hsource, hmarked, hexported, husers, rfl, rfl⟩

theorem unloadBrd_ok {c : String} : Ends (unloadBrd c) s (.ok ()) t ↔
    ¬ (c = "1" ∧ s.brd.isSome = true) ∧ t = s ∨
      (c = "1" ∧ s.brd.isSome = true) ∧ s.ramMounted = false ∧ t = { s with brd := none } := by
  rw [unloadBrd, ends_read_ok]
  by_cases hload : c = "1" ∧ s.brd.isSome = true
  · have htest : (c == "1" && s.brd.isSome) = true := by simp [hload]
    rw [if_pos htest, ends_read_ok, ends_check_ok, ends_exec, Bool.not_eq_true']
    simp [hload]
  · have htest : ¬ (c == "1" && s.brd.isSome) = true := by
      simpa using fun hc => by simpa [hc] using hload
    rw [if_neg htest, ends_pure]
    simp [hload]

theorem stop_ok : Ends (stopRamStorage env) s (.ok ()) t ↔
    (isRamDevice env.ramDevice = true ∧ env.mountPoint = "/srv/dynamo-g4") ∧
      ∃ u v, Ends (unmountRam (sourced env s)) s (.ok ()) u ∧
        Ends (unloadBrd (recordedModule s)) u (.ok ()) v ∧ t = { v with stateFile := none } := by
  rw [stopRamStorage, ends_check_ok, ends_check_ok, ends_read_ok, ends_read_ok, beq_iff_eq,
    ← and_assoc]
  refine and_congr_right fun _ => ?_
  rw [ends_seq_ok]
  constructor
  · rintro ⟨u, hu, hrun⟩
    obtain ⟨v, hv, hrun⟩ := ends_seq_ok.mp hrun
    exact ⟨u, v, hu, hv, ((ends_exec _ _).mp hrun).2⟩
  · rintro ⟨u, v, hu, hv, rfl⟩
    refine ⟨u, hu, ?_⟩
    rw [ends_seq_ok]
    exact ⟨v, hv, (ends_exec _ _).mpr ⟨rfl, rfl⟩⟩

section

variable (s) (name : String) (fs : FileSystem)

theorem device_setFileSystem :
    (s.setFileSystem name fs).device name =
      (s.device name).map fun d => { d with fileSystem := some fs } := by
  unfold RamHost.device RamHost.setFileSystem
  cases s.brd with
  | none => rfl
  | some m =>
    show List.find? _ (m.devices.map _) = (List.find? _ m.devices).map _
    induction m.devices with
    | nil => rfl
    | cons d ds ih =>
      by_cases hd : d.name = name
      · simp [hd]
      · simp only [List.map_cons, if_neg hd]
        rw [List.find?_cons_of_neg (by simpa using hd), List.find?_cons_of_neg (by simpa using hd)]
        exact ih

theorem brd_setFileSystem : (s.setFileSystem name fs).brd = none ↔ s.brd = none :=
  Option.map_eq_none_iff

end

theorem mounts_withBrd : (withBrd env s).mounts = s.mounts := by
  unfold withBrd
  split <;> rfl

theorem brd_withBrd : (withBrd env s).brd ≠ none := by
  unfold withBrd
  by_cases hb : s.brd.isNone = true
  · rw [if_pos hb]
    exact Option.some_ne_none _
  · rw [if_neg hb]
    exact fun hn => hb (by rw [hn]; rfl)

theorem brd_started : (started env s).brd ≠ none := by
  intro hn
  have hload : (withBrd env s).brd = none :=
    (brd_setFileSystem _ _ _).mp ((brd_setFileSystem _ _ _).mp hn)
  exact brd_withBrd hload

theorem device_activated (h : DeviceBlank env s) :
    ∃ d : RamDevice,
      (activated env s).device env.ramDevice = some { d with fileSystem := some ⟨true⟩ } ∧
      d.sizeBytes = env.sizeBytes := by
  have hsize := h.size
  cases hd : s.device env.ramDevice with
  | none =>
    rw [hd] at hsize
    contradiction
  | some d =>
    rw [hd] at hsize
    refine ⟨d, ?_, by simpa using hsize⟩
    unfold activated
    rw [device_setFileSystem]
    have hfirst : (withMount env (s.setFileSystem env.ramDevice ⟨false⟩)).device env.ramDevice =
        (s.setFileSystem env.ramDevice ⟨false⟩).device env.ramDevice := rfl
    rw [hfirst, device_setFileSystem, hd]
    rfl

theorem started_active (hun : s.sourcesAt env.mountPoint = [])
    (h : DeviceBlank env (withBrd env s)) : DiskActive env (started env s) := by
  obtain ⟨d, hd, hsize⟩ := device_activated h
  have hdev : (started env s).device env.ramDevice = some { d with fileSystem := some ⟨true⟩ } := hd
  refine ⟨?_, ?_, ?_⟩
  · have hmounts : (started env s).mounts = ⟨env.ramDevice, env.mountPoint⟩ :: s.mounts :=
      congrArg (List.cons _) mounts_withBrd
    unfold RamHost.sourcesAt at hun ⊢
    rw [hmounts, List.filter_cons_of_pos (by simp), List.map_cons, hun]
  · unfold RamHost.hasMarker
    rw [hdev]
  · rw [hdev]
    simpa using hsize

end PdDisaggregation
