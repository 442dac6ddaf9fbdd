import PdDisaggregation.SetupMemory

/-! A setup followed by a rollback. The files always go; the threads and the
listener of a server that was running before stay as the setup left them. -/

namespace PdDisaggregation

open Script

variable {env : SetupEnv} {s t u : NfsHost}

structure NoPhase2Files (s : NfsHost) : Prop where
  exportFile : s.exportFile = none
  nfsConfigFile : s.nfsConfigFile = none
  stateFile : s.stateFile = none

structure Restored (s u : NfsHost) : Prop where
  serverActive : u.serverActive = s.serverActive
  listener : rdmaListener ∈ u.portlist ↔ rdmaListener ∈ s.portlist
  threads : u.threads = s.threads
  exportFile : u.exportFile = s.exportFile
  nfsConfigFile : u.nfsConfigFile = s.nfsConfigFile
  stateFile : u.stateFile = s.stateFile

/-- The hosts a setup and a rollback take back to where they were: a stopped
server without threads or listener, or a running one already set up as Phase 2
wants it. `wasActive` is what the setup recorded. -/
def Restorable (wasActive : String) (s : NfsHost) : Prop :=
  if wasActive = "0" then
    s.serverActive = false ∧ s.threads = 0 ∧ rdmaListener ∉ s.portlist
  else s.serverActive = true ∧ s.threads = 64 ∧ rdmaListener ∈ s.portlist

theorem configAccepted_nfsConfig : configAccepted (nfsConfig ++ ['\n']) = true := by decide +kernel

theorem exportAccepted_exportLine : exportAccepted exportPath (exportLine ++ ['\n']) = true := by
  decide +kernel

theorem capturedState_ne_empty (env : SetupEnv) (s : NfsHost) : (capturedState env s).2 ≠ "" := by
  unfold capturedState
  cases s.stateFile with
  | some f => exact Text.orDefault_ne_empty (by decide) _
  | none =>
    cases env.serviceWasActiveOverride with
    | some v => exact Text.orDefault_ne_empty (by decide) _
    | none => exact flag_ne_empty _

theorem restored_iff (hs : NoPhase2Files s) (hu : NoPhase2Files u) :
    Restored s u ↔ u.serverActive = s.serverActive ∧
      (rdmaListener ∈ u.portlist ↔ rdmaListener ∈ s.portlist) ∧ u.threads = s.threads := by
  constructor
  · intro h
    exact ⟨h.serverActive, h.listener, h.threads⟩
  · rintro ⟨ha, hl, ht⟩
    exact ⟨ha, hl, ht, hu.1.trans hs.1.symm, hu.2.trans hs.2.symm, hu.3.trans hs.3.symm⟩

theorem rollback_serving (ht : Serving t) (hplain : t.Plain)
    (hx : t.exportFile = some (exportLine ++ ['\n']))
    (hc : t.nfsConfigFile = some (nfsConfig ++ ['\n'])) (ha : activeClients exportPath t = []) :
    ∃ u, Ends (node3NfsRdmaRollback {}) t (.ok ()) u ∧ NoPhase2Files u ∧
      if recordedActivity t = "0" then
        u.serverActive = false ∧ u.threads = 0 ∧ rdmaListener ∉ u.portlist
      else u.serverActive = true ∧ u.threads = 64 ∧ rdmaListener ∈ u.portlist := by
  let v := NfsHost.reexport { t with exportFile := none, nfsConfigFile := none }
  have hv : Ends (removeExport exportPath exportFilePath) { t with nfsConfigFile := none }
      (.ok ()) v := by
    refine removeExport_ok.mpr ⟨?_, ?_⟩
    · simp [NfsHost.exportUnexpected, file_export, hx, exportAccepted_exportLine]
    · rw [file_export, if_neg (by simp [hx]), removeFile_export]
      exact withPackage_ok.mpr ⟨ht.packageInstalled, rfl⟩
  have hunexpected : t.configUnexpected nfsConfigPath = false := by
    simp [NfsHost.configUnexpected, file_config, hc, configAccepted_nfsConfig]
  have hactive : v.serverActive = true := ht.serverActive
  by_cases hw : recordedActivity t = "0"
  · let w : NfsHost :=
      { v with nfsServer := .inactive, threads := 0, portlist := [], activeExports := [] }
    refine ⟨{ w with stateFile := none }, (rollback_plain hplain).mpr ⟨hunexpected, ha, v, hv, ?_⟩,
      ⟨rfl, rfl, rfl⟩, ?_⟩
    · rw [if_pos hw]
      exact ⟨w, stopServer_of_active hactive, rfl⟩
    · rw [if_pos hw]
      exact ⟨rfl, rfl, List.not_mem_nil⟩
  · refine ⟨{ v with stateFile := none }, (rollback_plain hplain).mpr ⟨hunexpected, ha, v, hv, ?_⟩,
      ⟨rfl, rfl, rfl⟩, ?_⟩
    · rw [if_neg hw]
    · rw [if_neg hw]
      exact ⟨hactive, ht.threads, ht.portlist⟩

/-- Whether a rollback gives back what the setup found. -/
theorem setup_rollback_restores_iff (env : SetupEnv) (s t : NfsHost)
    (clients : Option (List Text)) (hclean : NoPhase2Files s)
    (hs : Ends (node3NfsRdmaSetup env) s (.ok ()) t)
    (hnone : activeClients exportPath { t with showmount := clients } = []) :
    ∃ u, Ends (node3NfsRdmaRollback {}) { t with showmount := clients } (.ok ()) u ∧
      (Restored s u ↔ Restorable (capturedState env s).2 s) := by
  obtain ⟨hserve, hstate, hexport, hconfig⟩ := setup_ok hs
  have hserve' : Serving { t with showmount := clients } :=
    ⟨hserve.1, hserve.2, hserve.3, hserve.4⟩
  have hplain : NfsHost.Plain { t with showmount := clients } := written_plain hstate
  obtain ⟨u, hu, hfiles, hh⟩ := rollback_serving hserve' hplain (hexport hclean.exportFile)
    (hconfig hclean.nfsConfigFile) hnone
  have hrec : recordedActivity { t with showmount := clients } = (capturedState env s).2 := by
    simp [recordedActivity, hstate, writtenState,
      Text.orDefault_some (capturedState_ne_empty env s)]
  rw [hrec] at hh
  refine ⟨u, hu, (restored_iff hclean hfiles).trans ?_⟩
  by_cases hw : (capturedState env s).2 = "0"
  · rw [if_pos hw] at hh
    obtain ⟨ha, hthreads, hl⟩ := hh
    rw [Restorable, if_pos hw, ha, hthreads]
    constructor
    · rintro ⟨hactive, hlistener, hzero⟩
      exact ⟨hactive.symm, hzero.symm, fun hmem => hl (hlistener.mpr hmem)⟩
    · rintro ⟨hactive, hzero, habsent⟩
      exact ⟨hactive.symm, iff_of_false hl habsent, hzero.symm⟩
  · rw [if_neg hw] at hh
    obtain ⟨ha, hthreads, hl⟩ := hh
    rw [Restorable, if_neg hw, ha, hthreads]
    constructor
    · rintro ⟨hactive, hlistener, hcount⟩
      exact ⟨hactive.symm, hcount.symm, hlistener.mp hl⟩
    · rintro ⟨hactive, hcount, hpresent⟩
      exact ⟨hactive.symm, iff_of_true hl hpresent, hcount.symm⟩

theorem setup_rollback_restores_stopped :
    ∃ u, Ends (node3NfsRdmaRollback {})
        { (node3NfsRdmaSetup {} (freshHost .inactive)).state with showmount := some [] } (.ok ()) u ∧
      (Restored (freshHost .inactive) u ↔
        Restorable (capturedState {} (freshHost .inactive)).2 (freshHost .inactive)) :=
  setup_rollback_restores_iff {} (freshHost .inactive) _ (some []) ⟨rfl, rfl, rfl⟩
    ⟨by decide +kernel, rfl⟩ rfl

theorem running_server_not_restored :
    ∃ t u, Ends (node3NfsRdmaSetup {}) (freshHost .active) (.ok ()) t ∧
      activeClients exportPath t = [] ∧ Ends (node3NfsRdmaRollback {}) t (.ok ()) u ∧ ¬ Restored (freshHost .active) u :=
  ⟨_, _, ⟨by decide +kernel, rfl⟩, rfl, ⟨by decide +kernel, rfl⟩, fun h =>
    absurd h.threads (by decide +kernel)⟩

end PdDisaggregation
