import PdDisaggregation.RamRecovery

/-! When the RAM storage is wedged: no sequence of runs of the two scripts gives
an active disk again. -/

namespace PdDisaggregation

open Script

variable {env : RamEnv} {s t : RamHost} {d : Disk} {n : Nat} {marker : Bool}

/-- A run of one of the scripts, cut anywhere, or a change of the memory figures. -/
inductive DiskRun : RamHost → RamHost → Prop
  | start {s t : RamHost} (env : RamEnv) (done : List StartCommand)
      (h : Stops (startRamStorage env) s done t) : DiskRun s t
  | stop {s t : RamHost} (env : RamEnv) (done : List StopCommand)
      (h : Stops (stopRamStorage env) s done t) : DiskRun s t
  | memory (s : RamHost) (total available : Nat) :
      DiskRun s { s with memTotalKib := total, memAvailableKib := available }

/-- A run that is cut safely, and unmounts only the disk of a module that
`STATE_FILE` says is its own. -/
inductive SafeDiskRun : RamHost → RamHost → Prop
  | start {s t : RamHost} (env : RamEnv) (done : List StartCommand)
      (h : Stops (startRamStorage env) s done t) (hsafe : CutSafely done (recordedModule t)) :
      SafeDiskRun s t
  | stop {s t : RamHost} (env : RamEnv) (done : List StopCommand)
      (h : Stops (stopRamStorage env) s done t)
      (hsafe : .umount ∈ done → recordedModule s = "1") : SafeDiskRun s t
  | memory (s : RamHost) (total available : Nat) :
      SafeDiskRun s { s with memTotalKib := total, memAvailableKib := available }

structure Clean (s : RamHost) : Prop where
  brd : s.brd = none
  mounts : s.mounts = []
  notExported : s.exported = false
  noUsers : s.openUsers = false
  noFile : s.stateFile = none

def CompleteRun (s t : RamHost) : Prop :=
  ∃ env r, Ends (startRamStorage env) s r t ∨ Ends (stopRamStorage env) s r t

structure NotWedged (s : RamHost) : Prop where
  succeeds : ∃ env t, Ends (startRamStorage env) s (.ok ()) t ∨ Ends (stopRamStorage env) s (.ok ()) t
  activates : ∃ env t, Relation.ReflTransGen CompleteRun s t ∧ EnvAccepted env ∧ DiskActive env t

/-- Memory for the largest disk. -/
abbrev EnoughMemory (s : RamHost) : Prop := MemoryFits {} s

theorem Clean.holds (h : Clean s) : Holds s .absent := by
  refine ⟨h.brd, h.mounts, trivial, h.notExported, h.noUsers, ?_⟩
  rw [h.noFile]
  rintro f hf
  contradiction

theorem Holds.run (h : Holds s d) (hrun : DiskRun s t) : ∃ d', Holds t d' := by
  cases hrun with
  | start env done hstops =>
    obtain ⟨d', hd', -⟩ := (start_cuts h).stops hstops
    exact ⟨d', hd'⟩
  | stop env done hstops =>
    obtain ⟨d', hd', -⟩ := (stop_cuts h).stops hstops
    exact ⟨d', hd'⟩
  | memory => exact ⟨d, h.congr rfl rfl rfl rfl h.file⟩

theorem Holds.safeRun (h : Holds s d) (hrun : SafeDiskRun s t)
    (hr : d.Recovers (recordedModule s)) :
    ∃ d', Holds t d' ∧ d'.Recovers (recordedModule t) := by
  cases hrun with
  | start env done hstops hsafe =>
    obtain ⟨d', hd', hr'⟩ := (start_cuts h).stops hstops
    exact ⟨d', hd', hr' hr hsafe⟩
  | stop env done hstops hsafe =>
    obtain ⟨d', hd', hr'⟩ := (stop_cuts h).stops hstops
    exact ⟨d', hd', hr' hr hsafe⟩
  | memory => exact ⟨d, h.congr rfl rfl rfl rfl h.file, hr⟩

theorem holds_of_runs {clean : RamHost} (hclean : Clean clean)
    (hruns : Relation.ReflTransGen DiskRun clean s) : ∃ d, Holds s d := by
  induction hruns with
  | refl => exact ⟨.absent, hclean.holds⟩
  | tail _ hrun ih =>
    obtain ⟨d, hd⟩ := ih
    exact hd.run hrun

theorem recovers_of_safeRuns {clean : RamHost} (hclean : Clean clean)
    (hruns : Relation.ReflTransGen SafeDiskRun clean s) :
    ∃ d, Holds s d ∧ d.Recovers (recordedModule s) := by
  induction hruns with
  | refl => exact ⟨.absent, hclean.holds, trivial⟩
  | tail _ hrun ih =>
    obtain ⟨d, hd, hr⟩ := ih
    exact hd.safeRun hrun hr

/-! From a phase that recovers. -/

theorem sizeKib_le (henv : EnvAccepted env) : env.sizeKib ≤ RamEnv.sizeKib {} := by
  have hsize := henv.size
  unfold RamEnv.sizeKib RamEnv.sizeGib at *
  split at hsize
  · decide
  · decide
  · decide
  · contradiction

theorem EnoughMemory.fits (h : EnoughMemory s) (henv : EnvAccepted env) : MemoryFits env s := by
  have hle := sizeKib_le henv
  exact ⟨le_trans hle h.share, le_trans (Nat.add_le_add_right hle _) h.reserve⟩

theorem envAccepted_default : EnvAccepted {} := ⟨by decide, by decide, rfl⟩

theorem Holds.deviceBlank (h : Holds s (.blank env.sizeBytes)) (hdev : env.ramDevice = "/dev/ram0") :
    DeviceBlank env s := by
  have hd := h.device env.sizeBytes none rfl env.ramDevice
  rw [hdev, if_pos rfl] at hd
  refine ⟨?_, ?_, ?_⟩
  · rw [hdev, hd]
    simp
  · unfold RamHost.deviceMounted
    rw [h.mounts]
    rfl
  · unfold RamHost.hasSignature
    rw [hdev, hd]
    rfl

theorem start_of_deviceBlank (henv : EnvAccepted env) (hmem : MemoryFits env s)
    (hs : s.sourcesAt "/srv/dynamo-g4" = []) (hblank : DeviceBlank env (withBrd env s)) :
    ∃ t, Ends (startRamStorage env) s (.ok ()) t ∧ DiskActive env t := by
  have hun : s.sourcesAt env.mountPoint = [] := by
    rw [henv.mountPoint]
    exact hs
  exact ⟨started env s, (start_fresh_ok hun).mpr ⟨henv, hmem, hblank, rfl⟩,
    started_active hun hblank⟩

theorem absent_starts (h : Holds s .absent) (hmem : EnoughMemory s) :
    ∃ t, Ends (startRamStorage {}) s (.ok ()) t ∧ DiskActive {} t := by
  have hload : withBrd {} s = s.loadBrd (RamEnv.sizeKib {}) := by
    have hnone : s.brd.isNone = true := by
      rw [h.brd]
      rfl
    rw [withBrd, if_pos hnone]
  have hblank : DeviceBlank {} (withBrd {} s) := by
    rw [hload]
    exact (h.load envAccepted_default).deviceBlank rfl
  exact start_of_deviceBlank envAccepted_default hmem h.sourcesAt hblank

theorem blank_starts (h : Holds s (.blank n)) (hmem : EnoughMemory s) :
    ∃ env t, EnvAccepted env ∧ Ends (startRamStorage env) s (.ok ()) t ∧ DiskActive env t := by
  obtain ⟨env, henv, hdev, rfl⟩ := h.size
  have hbrd : s.brd ≠ none := by
    rw [h.brd]
    exact Option.some_ne_none _
  have hblank : DeviceBlank env (withBrd env s) := by
    rw [withBrd_of_brd hbrd]
    exact h.deviceBlank hdev
  obtain ⟨t, ht, hactive⟩ := start_of_deviceBlank henv (hmem.fits henv) h.sourcesAt hblank
  exact ⟨env, t, henv, ht, hactive⟩

theorem mounted_active (h : Holds s (.mounted n true)) :
    ∃ env, EnvAccepted env ∧ Ends (startRamStorage env) s (.ok ()) s ∧ DiskActive env s := by
  obtain ⟨env, henv, hdev, rfl⟩ := h.size
  have hd := h.device env.sizeBytes (some ⟨true⟩) rfl env.ramDevice
  rw [hdev, if_pos rfl] at hd
  have hactive : DiskActive env s := by
    refine ⟨?_, ?_, ?_⟩
    · rw [henv.mountPoint, hdev]
      exact h.sourcesAt
    · unfold RamHost.hasMarker
      rw [hdev, hd]
    · rw [hdev, hd]
      simp
  have hne : s.sourcesAt env.mountPoint ≠ [] := by
    rw [hactive.mounted]
    exact List.cons_ne_nil _ _
  exact ⟨env, henv, (start_adopt_ok hne).mpr ⟨henv, hactive, rfl⟩, hactive⟩

theorem formatted_stops (h : Holds s (.formatted n marker)) (hrec : recordedModule s = "1") :
    ∃ t, Ends (stopRamStorage {}) s (.ok ()) t ∧ Holds t .absent ∧
      t.memTotalKib = s.memTotalKib ∧ t.memAvailableKib = s.memAvailableKib := by
  have hpoint := Holds.sourced_mountPoint h (rfl : ({} : RamEnv).mountPoint = "/srv/dynamo-g4")
  have hempty : s.sourcesAt (sourced {} s).mountPoint = [] := by
    rw [hpoint]
    exact h.sourcesAt
  have hload : recordedModule s = "1" ∧ s.brd.isSome = true := by
    refine ⟨hrec, ?_⟩
    rw [h.brd]
    rfl
  have hfree : s.ramMounted = false := by
    unfold RamHost.ramMounted RamHost.deviceMounted
    rw [h.brd, h.mounts]
    rfl
  refine ⟨{ { s with brd := none } with stateFile := none }, ?_, (h.unload rfl).forget, rfl, rfl⟩
  refine stop_ok.mpr ⟨⟨by decide, rfl⟩, s, _, unmountRam_ok.mpr (Or.inl ⟨hempty, rfl⟩),
    unloadBrd_ok.mpr (Or.inr ⟨hload, hfree, rfl⟩), rfl⟩

theorem notWedged_of_recovers (h : Holds s d) (hmem : EnoughMemory s)
    (hr : d.Recovers (recordedModule s)) : NotWedged s := by
  cases d with
  | absent =>
    obtain ⟨t, ht, hactive⟩ := absent_starts h hmem
    exact ⟨⟨{}, t, Or.inl ht⟩, {}, t, .single ⟨{}, _, Or.inl ht⟩, envAccepted_default, hactive⟩
  | blank n =>
    obtain ⟨env, t, henv, ht, hactive⟩ := blank_starts h hmem
    exact ⟨⟨env, t, Or.inl ht⟩, env, t, .single ⟨env, _, Or.inl ht⟩, henv, hactive⟩
  | formatted n marker =>
    obtain ⟨u, hu, habsent, htotal, havailable⟩ := formatted_stops h hr
    have hmemu : EnoughMemory u := by
      refine ⟨?_, ?_⟩
      · rw [htotal]
        exact hmem.share
      · unfold reserveKib
        rw [htotal, havailable]
        exact hmem.reserve
    obtain ⟨t, ht, hactive⟩ := absent_starts habsent hmemu
    refine ⟨⟨{}, u, Or.inr hu⟩, {}, t, ?_, envAccepted_default, hactive⟩
    exact .tail (.single ⟨{}, _, Or.inr hu⟩) ⟨{}, _, Or.inl ht⟩
  | mounted n marker =>
    obtain rfl : marker = true := hr
    obtain ⟨env, henv, hstart, hactive⟩ := mounted_active h
    exact ⟨⟨env, s, Or.inl hstart⟩, env, s, .refl, henv, hactive⟩

/-! From a phase that does not. -/

theorem Holds.not_marked (h : Holds s (.mounted n false)) : s.hasMarker "/dev/ram0" = false := by
  have hd := h.device n (some ⟨false⟩) rfl "/dev/ram0"
  unfold RamHost.hasMarker
  rw [hd]
  rfl

theorem unmarked_refuses_start (h : Holds s (.mounted n false)) :
    ¬ Ends (startRamStorage env) s (.ok ()) t := by
  intro hstart
  by_cases hmp : env.mountPoint = "/srv/dynamo-g4"
  · have hsources : s.sourcesAt env.mountPoint = ["/dev/ram0"] := by
      rw [hmp]
      exact h.sourcesAt
    have hne : s.sourcesAt env.mountPoint ≠ [] := by
      rw [hsources]
      exact List.cons_ne_nil _ _
    obtain ⟨-, hactive, -⟩ := (start_adopt_ok hne).mp hstart
    have hdev : "/dev/ram0" = env.ramDevice := by
      have hmounted := hactive.mounted
      rw [hsources] at hmounted
      exact (List.cons.inj hmounted).1
    have hmarked := hactive.marked
    rw [← hdev, h.not_marked] at hmarked
    contradiction
  · rw [startRamStorage, ends_check_ok, ends_check_ok, ends_check_ok, beq_iff_eq] at hstart
    exact hmp hstart.2.2.1

theorem unmarked_refuses_stop (h : Holds s (.mounted n false)) :
    ¬ Ends (stopRamStorage env) s (.ok ()) t := by
  intro hstop
  obtain ⟨⟨-, hmp⟩, u, -, hunmount, -⟩ := stop_ok.mp hstop
  have hpoint := h.sourced_mountPoint hmp
  have hsources : s.sourcesAt (sourced env s).mountPoint = ["/dev/ram0"] := by
    rw [hpoint]
    exact h.sourcesAt
  rcases unmountRam_ok.mp hunmount with ⟨hempty, -⟩ | ⟨hallowed, -⟩
  · rw [hsources] at hempty
    contradiction
  · have hsource := hallowed.source
    rw [hsources] at hsource
    have hmarked := hallowed.marked
    rw [← (List.cons.inj hsource).1, h.not_marked] at hmarked
    contradiction

/-- A formatted disk whose module no record claims. -/
def Stuck (n : Nat) (marker : Bool) (s : RamHost) : Prop :=
  Holds s (.formatted n marker) ∧ recordedModule s ≠ "1"

theorem stuck_start (h : Stuck n marker s) :
    Cuts (fun _ t => Stuck n marker t) [] (startRamStorage env) s := by
  refine startRamStorage_cuts h (fun _ hnone => ?_) fun _ _ => ?_
  · have habsent := h.1.absent hnone
    contradiction
  · refine passive_deviceGate.meets_bind h fun _ hgate => ?_
    exact absurd (deviceGate_ok.mp hgate).1 (h.1.not_gate n ⟨marker⟩ rfl)

theorem stuck_stop (h : Stuck n marker s) :
    Cuts (fun _ t => Stuck n marker t) [] (stopRamStorage env) s := by
  refine stopRamStorage_cuts h fun hmp => ?_
  have hpoint := h.1.sourced_mountPoint hmp
  refine unmountRam_cuts h (fun _ => ?_) fun hallowed => ?_
  · refine unloadBrd_cuts h (fun _ => ?_) fun hone => absurd hone h.2
    have hforgot : recordedModule { s with stateFile := none } ≠ "1" := by
      show "0" ≠ "1"
      decide
    rw [Cuts, meets_exec]
    exact ⟨h, h.1.forget, hforgot⟩
  · have hsource := hallowed.source
    rw [hpoint, h.1.sourcesAt] at hsource
    contradiction

theorem stuck_completeRun (h : Stuck n marker s) (hrun : CompleteRun s t) : Stuck n marker t := by
  obtain ⟨env, r, hstart | hstop⟩ := hrun
  · obtain ⟨_, ht⟩ := (stuck_start h).ends hstart
    exact ht
  · obtain ⟨_, ht⟩ := (stuck_stop h).ends hstop
    exact ht

theorem stuck_completeRuns (h : Stuck n marker s) (hruns : Relation.ReflTransGen CompleteRun s t) :
    Stuck n marker t := by
  induction hruns with
  | refl => exact h
  | tail _ hrun ih => exact stuck_completeRun ih hrun

theorem stuck_not_active (h : Stuck n marker s) : ¬ DiskActive env s := by
  intro hactive
  have hmounted := hactive.mounted
  unfold RamHost.sourcesAt at hmounted
  rw [h.1.mounts] at hmounted
  contradiction

theorem recovers_of_notWedged (h : Holds s d) (hnot : NotWedged s) :
    d.Recovers (recordedModule s) := by
  cases d with
  | absent => trivial
  | blank n => trivial
  | formatted n marker =>
    by_contra hrec
    obtain ⟨env, t, hruns, -, hactive⟩ := hnot.activates
    exact stuck_not_active (stuck_completeRuns ⟨h, hrec⟩ hruns) hactive
  | mounted n marker =>
    cases marker with
    | true => rfl
    | false =>
      obtain ⟨env, t, hstart | hstop⟩ := hnot.succeeds
      · exact absurd hstart (unmarked_refuses_start h)
      · exact absurd hstop (unmarked_refuses_stop h)

/-- Of the states that cut runs can reach from a clean host, those are not wedged
whose mount has its marker and whose unmounted disk is gone, blank or claimed by
the record. Runs that are cut safely reach no others. -/
theorem notWedged_iff_recoverable {clean : RamHost} (hclean : Clean clean) :
    (∀ s, Relation.ReflTransGen DiskRun clean s → EnoughMemory s →
      (NotWedged s ↔ Recoverable s)) ∧
    ∀ s, Relation.ReflTransGen SafeDiskRun clean s → Recoverable s := by
  constructor
  · intro s hruns hmem
    obtain ⟨d, hd⟩ := holds_of_runs hclean hruns
    rw [hd.recoverable_iff]
    exact ⟨recovers_of_notWedged hd, notWedged_of_recovers hd hmem⟩
  · intro s hruns
    obtain ⟨d, hd, hr⟩ := recovers_of_safeRuns hclean hruns
    exact hd.recoverable_iff.mpr hr

theorem cleanHost_clean : Clean cleanHost := ⟨rfl, rfl, rfl, rfl, rfl⟩

theorem notWedged_active : NotWedged activeHost ↔ Recoverable activeHost := by
  obtain ⟨done, hdone⟩ := start_activates.stops
  exact (notWedged_iff_recoverable cleanHost_clean).1 activeHost (.single (.start {} done hdone))
    ⟨by decide, by decide⟩

/-- A start was cut after `mount` and before the marker. -/
def unmarkedHost : RamHost :=
  { cleanHost with
    brd := some ⟨.start, [⟨"/dev/ram0", 8 * 1024 * 1024 * 1024, some ⟨false⟩⟩]⟩
    mounts := [⟨"/dev/ram0", "/srv/dynamo-g4"⟩] }

theorem unmarked_wedged :
    Relation.ReflTransGen DiskRun cleanHost unmarkedHost ∧ EnoughMemory unmarkedHost ∧
      ¬ NotWedged unmarkedHost := by
  have hstops : Stops (startRamStorage {}) cleanHost [.mount, .mkfsExt4, .modprobeBrd]
      unmarkedHost := by decide +kernel
  have hrun : DiskRun cleanHost unmarkedHost := .start {} _ hstops
  refine ⟨.single hrun, ⟨by decide, by decide⟩, fun hnot => ?_⟩
  obtain ⟨d, hd⟩ := cleanHost_clean.holds.run hrun
  have hmarker : unmarkedHost.hasMarker "/dev/ram0" = true :=
    (hd.recoverable_iff.mpr (recovers_of_notWedged hd hnot)).mounted (List.cons_ne_nil _ _)
  have hno : unmarkedHost.hasMarker "/dev/ram0" = false := by decide
  rw [hno] at hmarker
  contradiction

end PdDisaggregation
