import PdDisaggregation.Node3Units
import PdDisaggregation.RamRecovery
import PdDisaggregation.SetupRollback
import PdDisaggregation.StopConditions

/-! What no sequence of script runs, cut anywhere, and of power losses takes away from node3.
Nobody but the scripts starts or stops `nfs-server` here. -/

namespace PdDisaggregation

open Script

/-- The package is there, and the files are those of the setup or absent. -/
structure NfsOwn (s : NfsHost) : Prop where
  address : s.hasServerIp = true
  package : s.packageInstalled = true
  unit : s.nfsServer ≠ .missing
  exportFile : s.exportFile = none ∨ s.exportFile = some (exportLine ++ ['\n'])
  nfsConfigFile : s.nfsConfigFile = none ∨ s.nfsConfigFile = some (nfsConfig ++ ['\n'])
  otherExports : exportLine ∉ s.otherExports
  plain : s.Plain

section Server

variable {s t u : NfsHost} {done : List SetupCommand}

theorem SameFiles.otherExports (h : SameFiles s t) : t.otherExports = s.otherExports := by
  rw [NfsHost.otherExports, NfsHost.otherExports, h.otherFiles]

theorem SameFiles.plain (h : SameFiles s t) (hs : s.Plain) : t.Plain :=
  fun f hf => hs f (h.stateFile.symm.trans hf)

theorem NfsOwn.congr (h : NfsOwn s) (ha : t.hasServerIp = s.hasServerIp)
    (hp : t.packageInstalled = s.packageInstalled) (hu : t.nfsServer ≠ .missing)
    (hf : SameFiles s t) : NfsOwn t := by
  refine ⟨ha.trans h.address, hp.trans h.package, hu, ?_, ?_, ?_, hf.plain h.plain⟩
  · rw [hf.exportFile]
    exact h.exportFile
  · rw [hf.nfsConfigFile]
    exact h.nfsConfigFile
  · rw [hf.otherExports]
    exact h.otherExports

theorem NfsOwn.withState (h : NfsOwn s) (p a : Option String) :
    NfsOwn { s with stateFile := some (writtenState p a) } :=
  ⟨h.address, h.package, h.unit, h.exportFile, h.nfsConfigFile, h.otherExports, written_plain rfl⟩

theorem NfsOwn.removeFile (h : NfsOwn s) (path : String) : NfsOwn (s.removeFile path) := by
  have hserver := removeFile_server s path
  refine ⟨hserver.hasServerIp.trans h.address, hserver.packageInstalled.trans h.package, ?_, ?_, ?_,
    fun hin => h.otherExports (mem_otherExports_removeFile hin), ?_⟩
  · rw [hserver.nfsServer]
    exact h.unit
  · rw [removeFile_exportFile]
    split
    · exact Or.inl rfl
    · exact h.exportFile
  · rw [removeFile_nfsConfigFile]
    split
    · exact Or.inl rfl
    · exact h.nfsConfigFile
  · intro f hf
    rw [removeFile_stateFile] at hf
    split at hf
    · contradiction
    · exact h.plain f hf

theorem NfsOwn.startServer (h : NfsOwn s) (hs : s.startServer = .ok t) : NfsOwn t := by
  cases hunit : s.nfsServer with
  | missing => exact absurd hunit h.unit
  | active =>
    rw [NfsHost.startServer, hunit, Except.ok.injEq] at hs
    exact hs ▸ h
  | inactive =>
    rw [NfsHost.startServer, hunit, Except.ok.injEq] at hs
    subst hs
    exact h.congr rfl rfl (by simp) ⟨rfl, rfl, rfl, rfl, rfl⟩

theorem NfsOwn.installServer (h : NfsOwn s) (starts : Bool) : NfsOwn (s.installServer starts) := by
  have hinstalled : NfsOwn { s with
      packageInstalled := true
      nfsServer := if s.nfsServer = .missing then .inactive else s.nfsServer } := by
    refine h.congr rfl h.package.symm ?_ ⟨rfl, rfl, rfl, rfl, rfl⟩
    rw [if_neg h.unit]
    exact h.unit
  rw [NfsHost.installServer]
  cases starts with
  | false => exact hinstalled
  | true =>
    simp only [if_true]
    split
    next hu => exact hinstalled.startServer hu
    next => exact hinstalled

theorem keeps_nfsOwn_setup : Keeps (fun _ => NfsOwn) (node3NfsRdmaSetup {}) := by
  have hinstall (p : String) : Keeps (fun _ => NfsOwn) (installPackage {} p) := by
    refine keeps_reading fun installed => keeps_ite ?_ (keeps_pure ())
    iterate 2 apply keeps_check
    exact keeps_exec fun _ _ h => h.installServer _
  have hexport : Keeps (fun _ => NfsOwn) writeExport := by
    refine keeps_reading fun content => ?_
    cases content with
    | some content => exact keeps_dieUnless _ _
    | none =>
      refine keeps_exec fun _ s h => ?_
      exact ⟨h.address, h.package, h.unit, Or.inr rfl, h.nfsConfigFile, h.otherExports, h.plain⟩
  have hconfig : Keeps (fun _ => NfsOwn) writeConfig := by
    refine keeps_reading fun content => ?_
    cases content with
    | some content => exact keeps_dieUnless _ _
    | none =>
      refine keeps_exec fun _ s h => ?_
      exact ⟨h.address, h.package, h.unit, h.exportFile, Or.inr rfl, h.otherExports, h.plain⟩
  have hstart : Keeps (fun _ => NfsOwn) startNfsd := by
    have hrpcrdma (s : NfsHost) (h : NfsOwn s) : NfsOwn { s with rpcrdma := true } :=
      h.congr rfl rfl h.unit ⟨rfl, rfl, rfl, rfl, rfl⟩
    refine keeps_bind (keeps_exec fun _ => hrpcrdma) fun _ => ?_
    refine keeps_bind (keeps_attempt (fun _ s t h ht => h.startServer ht) fun _ _ h => h) fun _ => ?_
    refine keeps_bind (keeps_attempt ?_ fun _ _ h => h) fun _ => ?_
    · intro _ s t h ht
      obtain ⟨-, rfl⟩ := withPackage_ok.mp ht
      exact h.congr rfl rfl h.unit ⟨rfl, rfl, rfl, rfl, rfl⟩
    refine keeps_bind (keeps_attempt ?_ fun _ _ h => h) fun _ => ?_
    · intro _ s t h ht
      obtain ⟨-, rfl⟩ := withPackage_ok.mp ht
      exact h.congr rfl rfl h.unit ⟨rfl, rfl, rfl, rfl, rfl⟩
    refine keeps_reading fun listed => keeps_ite ?_ (keeps_pure ())
    exact keeps_exec fun _ s h => h.congr rfl rfl h.unit ⟨rfl, rfl, rfl, rfl, rfl⟩
  have hstate (p a : String) : Keeps (fun _ => NfsOwn) (writeState p a) := by
    refine keeps_bind (keeps_exec fun _ s h => h.withState _ _) fun _ => ?_
    refine keeps_bind (keeps_exec fun _ s h => h.withState _ _) fun _ => ?_
    exact keeps_exec fun _ s h => h.withState _ _
  refine keeps_bind passive_setupChecks.keeps fun _ => keeps_reading fun captured => ?_
  refine keeps_bind (hinstall _) fun _ => keeps_bind hexport fun _ => ?_
  refine keeps_bind hconfig fun _ => keeps_bind hstart fun _ => keeps_bind (hstate _ _) fun _ => ?_
  exact keeps_bind (keeps_exec fun _ s h => h) fun _ => keeps_exec fun _ s h => h

theorem keeps_nfsOwn_rollback : Keeps (fun _ => NfsOwn) (node3NfsRdmaRollback {}) := by
  refine keeps_rollback (fun s path h => h.removeFile path) (fun s h => ?_) fun s t h ht => ?_
  · exact h.congr rfl rfl h.unit (reexport_files s)
  · rcases stopServer_cases ht with ⟨-, rfl⟩ | ⟨-, rfl⟩
    · exact h
    · exact h.congr rfl rfl (by simp) ⟨rfl, rfl, rfl, rfl, rfl⟩

theorem setupChecks_ok :
    Ends (setupChecks {}) s (.ok ()) t ↔ s.hasServerIp = true ∧ s.ramMarker = true ∧ t = s := by
  simp [setupChecks, and_assoc]

/-- Without the marker of the RAM disk a setup does nothing. -/
theorem setup_refused (h : s.ramMarker = false) :
    Cuts (fun _ t => t = s) [] (node3NfsRdmaSetup {}) s := by
  refine passive_setupChecks.meets_bind rfl fun _ hok => ?_
  have hmarker := (setupChecks_ok.mp hok).2.1
  rw [h] at hmarker
  contradiction

theorem exportLine_accepted :
    (Text.captured (Text.delete '\r' (exportLine ++ ['\n'])) == exportLine) = true := by
  decide +kernel

theorem writeExport_own (h : NfsOwn s) :
    ∃ t, Ends writeExport s (.ok ()) t ∧ NfsOwn t ∧ t.ramMarker = s.ramMarker ∧
      t.exportFile = some (exportLine ++ ['\n']) := by
  rw [writeExport]
  rcases h.exportFile with hnone | hsome
  · refine ⟨{ s with exportFile := some (exportLine ++ ['\n']) }, ?_, ?_, rfl, rfl⟩
    · rw [ends_read_ok, hnone]
      exact (ends_exec _ _).mpr ⟨rfl, rfl⟩
    · exact ⟨h.address, h.package, h.unit, Or.inr rfl, h.nfsConfigFile, h.otherExports, h.plain⟩
  · refine ⟨s, ?_, h, rfl, hsome⟩
    rw [ends_read_ok, hsome]
    exact ends_dieUnless_ok.mpr ⟨exportLine_accepted, rfl⟩

theorem writeConfig_own (h : NfsOwn s) :
    ∃ t, Ends writeConfig s (.ok ()) t ∧ NfsOwn t ∧ t.exportFile = s.exportFile ∧
      t.nfsConfigFile = some (nfsConfig ++ ['\n']) := by
  rw [writeConfig]
  rcases h.nfsConfigFile with hnone | hsome
  · refine ⟨{ s with nfsConfigFile := some (nfsConfig ++ ['\n']) }, ?_, ?_, rfl, rfl⟩
    · rw [ends_read_ok, hnone]
      exact (ends_exec _ _).mpr ⟨rfl, rfl⟩
    · exact ⟨h.address, h.package, h.unit, h.exportFile, Or.inr rfl, h.otherExports, h.plain⟩
  · refine ⟨s, ?_, h, rfl, hsome⟩
    rw [ends_read_ok, hsome]
    exact ends_dieUnless_ok.mpr ⟨configAccepted_nfsConfig, rfl⟩

theorem exists_startServer (h : NfsOwn s) : ∃ t, s.startServer = .ok t := by
  cases hunit : s.nfsServer with
  | missing => exact absurd hunit h.unit
  | active => exact ⟨s, by rw [NfsHost.startServer, hunit]⟩
  | inactive => exact ⟨_, by rw [NfsHost.startServer, hunit]⟩

theorem startNfsd_own (h : NfsOwn s) : ∃ t, Ends startNfsd s (.ok ()) t := by
  have hmodule : NfsOwn { s with rpcrdma := true } :=
    h.congr rfl rfl h.unit ⟨rfl, rfl, rfl, rfl, rfl⟩
  obtain ⟨u, hu⟩ := exists_startServer hmodule
  have hpackage : u.packageInstalled = true := (hmodule.startServer hu).package
  let v : NfsHost := { u with threads := 64 }.reexport
  have hlisting : ∃ t, Ends ((do
      if !(← read fun s => s.portlist.contains rdmaListener) then
        exec .writePortlist fun s => { s with portlist := rdmaListener :: s.portlist }) :
      Setup Unit) v (.ok ()) t := by
    simp only [ends_read_ok]
    split
    · exact ⟨_, (ends_exec _ _).mpr ⟨rfl, rfl⟩⟩
    · exact ⟨_, ends_pure.mpr ⟨rfl, rfl⟩⟩
  obtain ⟨t, ht⟩ := hlisting
  refine ⟨t, ?_⟩
  rw [startNfsd, ends_exec_ok, ends_seq_ok]
  refine ⟨u, (ends_attempt_ok _).mpr hu, ?_⟩
  rw [ends_seq_ok]
  refine ⟨{ u with threads := 64 }, (ends_attempt_ok _).mpr ?_, ?_⟩
  · exact withPackage_ok.mpr ⟨hpackage, rfl⟩
  rw [ends_seq_ok]
  refine ⟨v, (ends_attempt_ok _).mpr ?_, ht⟩
  exact withPackage_ok.mpr ⟨hpackage, rfl⟩

theorem startNfsd_exports (h : Ends startNfsd s (.ok ()) t) :
    t.activeExports = t.otherExports ++ (t.exportFile.map Text.lines).getD [] := by
  rw [startNfsd, ends_exec_ok, ends_seq_ok] at h
  obtain ⟨u, -, h⟩ := h
  simp only [ends_seq_ok, ends_attempt_ok, withPackage_ok] at h
  obtain ⟨_, ⟨-, rfl⟩, v, ⟨-, rfl⟩, h⟩ := h
  rw [ends_read_ok] at h
  split at h
  · obtain ⟨-, rfl⟩ := (ends_exec _ _).mp h
    rfl
  · obtain ⟨-, rfl⟩ := ends_pure.mp h
    rfl

theorem exportLine_exported : exportLine ∈ Text.lines (exportLine ++ ['\n']) := by decide +kernel

/-- Where a setup of Phase 2's own host ends. -/
structure SetUp (s t : NfsHost) : Prop where
  own : NfsOwn t
  serving : Serving t
  exportFile : t.exportFile = some (exportLine ++ ['\n'])
  nfsConfigFile : t.nfsConfigFile = some (nfsConfig ++ ['\n'])
  exported : exportLine ∈ t.activeExports
  stateFile : t.stateFile =
    some (writtenState (some (capturedState {} s).1) (some (capturedState {} s).2))

theorem setup_own (h : NfsOwn s) (hmarker : s.ramMarker = true) :
    ∃ t, Ends (node3NfsRdmaSetup {}) s (.ok ()) t ∧ SetUp s t := by
  obtain ⟨a, ha, hown, -, hexport⟩ := writeExport_own h
  obtain ⟨b, hb, hownb, hsame, hconfig⟩ := writeConfig_own hown
  obtain ⟨c, hc⟩ := startNfsd_own hownb
  have hinstall (p : String) : Ends (installPackage {} p) s (.ok ()) s := by
    rw [installPackage, ends_read_ok, h.package]
    simp
  have hwrite (p r : String) :
      Ends (writeState p r) c (.ok ())
        { c with stateFile := some (writtenState (some p) (some r)) } := by
    rw [writeState, ends_exec_ok, ends_exec_ok, ends_exec]
    exact ⟨rfl, rfl⟩
  let record := writtenState (some (capturedState {} s).1) (some (capturedState {} s).2)
  have hrun : Ends (node3NfsRdmaSetup {}) s (.ok ()) { c with stateFile := some record } := by
    rw [node3NfsRdmaSetup, ends_seq_ok]
    refine ⟨s, setupChecks_ok.mpr ⟨h.address, hmarker, rfl⟩, ?_⟩
    rw [ends_read_ok]
    simp only [ends_seq_ok]
    exact ⟨s, hinstall _, a, ha, b, hb, c, hc, _, hwrite _ _, _, (ends_exec _ _).mpr ⟨rfl, rfl⟩,
      (ends_exec _ _).mpr ⟨rfl, rfl⟩⟩
  obtain ⟨hfiles, -⟩ := startNfsd_ok hc
  obtain ⟨hserving, hstate, -⟩ := setup_ok hrun
  obtain ⟨-, howned⟩ := (keeps_nfsOwn_setup [] s h).ends hrun
  refine ⟨_, hrun, howned, hserving, ?_, ?_, ?_, hstate⟩
  · exact hfiles.exportFile.trans (hsame.trans hexport)
  · exact hfiles.nfsConfigFile.trans hconfig
  · show exportLine ∈ c.activeExports
    rw [startNfsd_exports hc, hfiles.exportFile.trans (hsame.trans hexport)]
    exact List.mem_append_right _ exportLine_exported

/-- What `STATE_FILE` says, as far as it is written, is that the package was there and the
server stopped. -/
def Recorded (s : NfsHost) : Prop := ∀ f, s.stateFile = some f →
  Text.orDefault f.packageInstalledBefore "1" = "1" ∧ Text.orDefault f.serviceWasActive "0" = "0"

structure NfsRemembers (s : NfsHost) : Prop where
  recorded : Recorded s
  unrecorded : s.stateFile = none → s.nfsServer = .inactive

theorem NfsRemembers.captured (h : NfsRemembers s) (hs : NfsOwn s) :
    capturedState {} s = ("1", "0") := by
  cases hf : s.stateFile with
  | some f =>
    obtain ⟨hp, ha⟩ := h.recorded f hf
    simp [capturedState, hf, hp, ha]
  | none =>
    simp [capturedState, hf, hs.package, NfsHost.serverActive, h.unrecorded hf, flag]

theorem NfsRemembers.activity (h : NfsRemembers s) : recordedActivity s = "0" := by
  rw [recordedActivity]
  cases hf : s.stateFile with
  | some f => exact (h.recorded f hf).2
  | none => rfl

theorem Recorded.congr (h : Recorded s) (hf : t.stateFile = s.stateFile) : Recorded t := by
  intro f hs
  exact h f (hf ▸ hs)

theorem setup_recorded (hs : NfsOwn s) (h : NfsRemembers s) :
    Cuts (fun _ => Recorded) [] (node3NfsRdmaSetup {}) s := by
  have hbefore (done : List SetupCommand) (t : NfsHost) (hb : BeforeRecord s done t) : Recorded t :=
    h.recorded.congr hb.stateFile
  refine passive_setupChecks.meets_bind h.recorded fun _ _ => ?_
  rw [Cuts, meets_bind, meets_read, h.captured hs]
  refine (keeps_installPackage _).meets_bind (.refl _) hbefore fun _ done t hb => ?_
  refine keeps_writeExport.meets_bind hb hbefore fun _ done t hb => ?_
  refine keeps_writeConfig.meets_bind hb hbefore fun _ done t hb => ?_
  refine keeps_startNfsd.meets_bind hb hbefore fun _ done t hb => ?_
  have hwritten (p a : Option String) (hp : Text.orDefault p "1" = "1")
      (ha : Text.orDefault a "0" = "0") :
      Recorded { t with stateFile := some (writtenState p a) } := by
    intro f hf
    rw [← Option.some.inj hf]
    exact ⟨hp, ha⟩
  simp only [writeState, meets_bind, meets_exec]
  refine ⟨hbefore _ _ hb, ?_, ?_, ?_, ?_, ?_⟩
  · exact hwritten none none rfl rfl
  · exact hwritten (some "1") none rfl rfl
  · exact hwritten (some "1") (some "0") rfl rfl
  · exact hwritten (some "1") (some "0") rfl rfl
  · exact hwritten (some "1") (some "0") rfl rfl

/-- A setup that ends has done nothing or recorded what it found. -/
theorem setup_remembers_end (hs : NfsOwn s) (h : NfsRemembers s) {r : Except String Unit}
    (hend : Ends (node3NfsRdmaSetup {}) s r t) : NfsRemembers t := by
  cases hmarker : s.ramMarker with
  | false =>
    obtain ⟨-, rfl⟩ := (setup_refused hmarker).ends hend
    exact h
  | true =>
    obtain ⟨u, hu, hset⟩ := setup_own hs hmarker
    obtain rfl : t = u := hend.2.symm.trans hu.2
    obtain ⟨-, hrecorded⟩ := (setup_recorded hs h).ends hend
    refine ⟨hrecorded, fun hnone => ?_⟩
    rw [hset.stateFile] at hnone
    contradiction

/-- A rollback of a host with plain settings goes by the names of the setup. -/
theorem rollback_cuts {J : List RollbackCommand → NfsHost → Prop} (h : s.Plain) (hs : J [] s)
    (hrest : Cuts J [] (rollBack
      ⟨exportPath, exportFilePath, nfsConfigPath, stateFilePath, recordedActivity s⟩) s) :
    Cuts J [] (node3NfsRdmaRollback {}) s := by
  have hchecks : Passive (rollbackChecks {}) := passive_check (passive_check (passive_dieUnless _ _))
  refine hchecks.meets_bind hs fun _ _ => ?_
  rw [Cuts, meets_bind, meets_read, settings_plain h]
  exact hrest

section Removals

variable {P : NfsHost → Prop}

theorem keeps_removeConfig (h : ∀ s, P s → P { s with nfsConfigFile := none }) :
    Keeps (fun _ => P) (removeConfig nfsConfigPath) := by
  refine keeps_reading fun content => ?_
  cases content with
  | none => exact keeps_pure _
  | some content =>
    refine keeps_check (keeps_exec fun _ s hs => ?_)
    rw [removeFile_config]
    exact h s hs

theorem keeps_removeExport (h : ∀ s, P s → P { s with exportFile := none })
    (hreexport : ∀ s, P s → P (NfsHost.reexport { s with exportFile := none })) :
    Keeps (fun _ => P) (removeExport exportPath exportFilePath) := by
  intro done t ht
  simp only [removeExport, meets_bind, meets_read, file_export]
  cases hf : t.exportFile with
  | none => exact (meets_pure ()).mpr ht
  | some content =>
    simp only [meets_bind, meets_dieUnless, meets_exec, meets_attempt, removeFile_export]
    refine ⟨fun _ => ⟨ht, h t ht, ?_⟩, fun _ => ht⟩
    split
    next u hu =>
      obtain ⟨-, rfl⟩ := withPackage_ok.mp hu
      exact hreexport t ht
    next => exact h t ht

end Removals

theorem rollback_remembers (hplain : s.Plain) (h : NfsRemembers s) :
    Cuts (fun _ => NfsRemembers) [] (node3NfsRdmaRollback {}) s := by
  -- `STATE_FILE` goes last, and the server has been stopped by then
  have hconfig : Keeps (fun _ => NfsRemembers) (removeConfig nfsConfigPath) :=
    keeps_removeConfig fun _ h => ⟨h.recorded, h.unrecorded⟩
  have hexport : Keeps (fun _ => NfsRemembers) (removeExport exportPath exportFilePath) :=
    keeps_removeExport (fun _ h => ⟨h.recorded, h.unrecorded⟩)
      fun _ h => ⟨h.recorded, h.unrecorded⟩
  have hid (done : List RollbackCommand) (t : NfsHost) (h : NfsRemembers t) : NfsRemembers t := h
  refine rollback_cuts hplain h ?_
  rw [h.activity]
  refine hconfig.meets_bind h hid fun _ done t ht => ?_
  refine (keeps_read _).meets_bind ht hid fun clients done t ht => ?_
  refine (keeps_dieUnless _ _).meets_bind ht hid fun _ done t ht => ?_
  refine hexport.meets_bind ht hid fun _ done t ht => ?_
  simp only [beq_self_eq_true, if_true, meets_bind, meets_attempt, unlink_state]
  refine ⟨ht, ?_⟩
  cases hstop : t.stopServer with
  | error e => exact ht
  | ok u =>
    obtain ⟨hfiles, -⟩ := stopServer_ok hstop
    have hstopped : u.nfsServer = .inactive := by
      rcases stopServer_cases hstop with ⟨hinactive, rfl⟩ | ⟨-, rfl⟩
      · exact hinactive
      · rfl
    refine ⟨⟨ht.recorded.congr hfiles.stateFile, fun _ => hstopped⟩, ⟨?_, fun _ => hstopped⟩⟩
    intro f hf
    contradiction

theorem rollback_exports (h : NfsOwn s) (hnot : exportLine ∉ s.activeExports) :
    Cuts (fun _ t => exportLine ∉ t.activeExports) [] (node3NfsRdmaRollback {}) s := by
  let P (t : NfsHost) : Prop := exportLine ∉ t.activeExports ∧ exportLine ∉ t.otherExports
  have hconfig : Keeps (fun _ => P) (removeConfig nfsConfigPath) := keeps_removeConfig fun _ h => h
  have hexport : Keeps (fun _ => P) (removeExport exportPath exportFilePath) := by
    refine keeps_removeExport (fun _ h => h) fun t ht => ⟨?_, ht.2⟩
    show exportLine ∉ t.otherExports ++ []
    rw [List.append_nil]
    exact ht.2
  have hstop : Keeps (fun _ => P) (attempt .systemctlStop NfsHost.stopServer : Rollback Unit) := by
    refine keeps_attempt ?_ fun _ _ h => h
    intro _ s t h ht
    rcases stopServer_cases ht with ⟨-, rfl⟩ | ⟨-, rfl⟩
    · exact h
    · exact ⟨List.not_mem_nil, h.2⟩
  have hrecord : Keeps (fun _ => P)
      (attempt .removeStateFile (·.unlink stateFilePath) : Rollback Unit) := by
    refine keeps_attempt ?_ fun _ _ h => h
    intro _ s t h ht
    rw [unlink_state, Except.ok.injEq] at ht
    exact ht ▸ h
  refine rollback_cuts h.plain hnot ?_
  have hkeeps : Keeps (fun _ => P) (rollBack
      ⟨exportPath, exportFilePath, nfsConfigPath, stateFilePath, recordedActivity s⟩) := by
    refine keeps_bind hconfig fun _ => keeps_reading fun clients => keeps_check ?_
    refine keeps_bind hexport fun _ => ?_
    by_cases hw : (recordedActivity s == "0") = true
    · simp only [hw, if_true]
      exact keeps_bind hstop fun _ => hrecord
    · simp only [hw]
      exact hrecord
  exact (hkeeps [] s ⟨hnot, h.otherExports⟩).mono (fun _ _ _ h => h.1) fun _ _ _ h => h.1

end Server

section Ram

variable {s t : RamHost}

theorem sourcesAt_of_markerAt {mountPoint : String} (h : s.markerAt mountPoint = true) :
    s.sourcesAt mountPoint ≠ [] := by
  rw [RamHost.markerAt] at h
  cases hm : s.mounts.find? (·.target == mountPoint) with
  | none =>
    rw [hm] at h
    contradiction
  | some m =>
    have hin : m.source ∈ s.sourcesAt mountPoint := by
      refine List.mem_map.mpr ⟨m, List.mem_filter.mpr ⟨?_, ?_⟩, rfl⟩
      · exact List.mem_of_find?_eq_some hm
      · exact (List.find?_eq_some_iff_append.mp hm).1
    exact List.ne_nil_of_mem hin

theorem start_mounted (h : s.sourcesAt exportPath ≠ []) :
    Cuts (fun _ t => t = s) [] (startRamStorage {}) s := by
  have hpassive : Keeps (fun _ t => t = s) (adoptActive {} : Start Unit) := passive_adoptActive.keeps
  unfold startRamStorage
  refine (passive_dieUnless _ _).meets_bind rfl fun _ _ => ?_
  refine (passive_dieUnless _ _).meets_bind rfl fun _ _ => ?_
  refine (passive_dieUnless _ _).meets_bind rfl fun _ _ => ?_
  refine (passive_read _).meets_bind rfl fun sources hsources => ?_
  obtain rfl : sources = s.sourcesAt exportPath := Except.ok.inj ((ends_read _).mp hsources).1
  have hne : ¬ (s.sourcesAt exportPath).isEmpty = true := by
    rwa [List.isEmpty_iff]
  rw [if_neg hne]
  exact hpassive [] s rfl

theorem stop_exported (hfile : OwnFile s.stateFile) (hmounted : s.sourcesAt exportPath ≠ [])
    (hexported : s.exported = true) : Cuts (fun _ t => t = s) [] (stopRamStorage {}) s := by
  refine stopRamStorage_cuts rfl fun _ => ?_
  have hpoint : (sourced {} s).mountPoint = exportPath := by
    unfold sourced
    cases hf : s.stateFile with
    | none => rfl
    | some f => exact (hfile f hf).2
  refine unmountRam_cuts rfl (fun hnone => ?_) fun hallowed => ?_
  · rw [hpoint] at hnone
    exact absurd hnone hmounted
  · have hnot := hallowed.notExported
    rw [hexported] at hnot
    contradiction

theorem keeps_ownFile_start : Keeps (fun _ s => OwnFile s.stateFile) (startRamStorage {}) := by
  have hstate (c : String) : Keeps (fun _ s => OwnFile s.stateFile) (writeRamState {} c) := by
    apply keeps_writes
    · rintro s - f hf
      rw [← Option.some.inj hf]
      exact ⟨rfl, rfl⟩
    · intro f s hprints h r hr
      obtain ⟨r', hr', rfl⟩ := Option.map_eq_some_iff.mp hr
      obtain ⟨hdevice, hpoint⟩ := h r' hr'
      constructor
      · rcases hprints.ramDevice r' with hh | hh
        · rw [hh]
          exact hdevice
        · rw [hh]
          rfl
      · rcases hprints.mountPoint r' with hh | hh
        · rw [hh]
          exact hpoint
        · rw [hh]
          rfl
  have hmodule : Keeps (fun _ s => OwnFile s.stateFile) (ensureModule {}) := by
    refine keeps_reading fun loaded => keeps_ite ?_ (keeps_pure _)
    exact keeps_bind (keeps_exec fun _ s h => h) fun _ => keeps_pure _
  have hformat : Keeps (fun _ s => OwnFile s.stateFile) (formatAndMount {}) := by
    refine keeps_bind (keeps_exec fun _ s h => h) fun _ => ?_
    exact keeps_bind (keeps_exec fun _ s h => h) fun _ => keeps_exec fun _ s h => h
  iterate 3 apply keeps_check
  apply keeps_reading
  intro sources
  refine keeps_ite ?_ passive_adoptActive.keeps
  refine keeps_bind passive_memoryGate.keeps fun _ => keeps_bind hmodule fun c => ?_
  refine keeps_bind passive_deviceGate.keeps fun _ => keeps_bind hformat fun _ => ?_
  exact hstate c

theorem keeps_ownFile_stop : Keeps (fun _ s => OwnFile s.stateFile) (stopRamStorage {}) := by
  iterate 2 apply keeps_check
  refine keeps_reading fun created => keeps_reading fun vars => ?_
  refine keeps_bind ?_ fun _ => keeps_bind ?_ fun _ => ?_
  · refine keeps_reading fun sources => keeps_ite ?_ (keeps_pure ())
    refine keeps_check (keeps_reading fun marker => ?_)
    refine keeps_check (keeps_reading fun clients => ?_)
    refine keeps_check (keeps_reading fun users => ?_)
    exact keeps_check (keeps_exec fun _ s h => h)
  · refine keeps_reading fun loaded => keeps_ite ?_ (keeps_pure ())
    exact keeps_reading fun mounted => keeps_check (keeps_exec fun _ s h => h)
  · refine keeps_exec fun _ s h f hf => ?_
    contradiction

end Ram

/-- Of the pair there is no rule but that of Phase 2. -/
structure OwnRules (rules : Option (List Text)) : Prop where
  control : rules.isSome = true
  own : ∀ lines, rules = some lines → ∀ line ∈ lines,
    Text.contains tosKey line = true → line = tosRule

structure Node3Holds (n : Node3) : Prop where
  nfs : NfsOwn n.nfs
  file : OwnFile n.ram.stateFile
  exported : n.serverEnabled = false → exportLine ∈ n.nfs.activeExports →
    n.ram.markerAt exportPath = true
  rules : OwnRules n.trafficClass

section Steps

variable {killed : Prop} {n t : Node3}

theorem OwnRules.set (h : OwnRules n.trafficClass) : OwnRules n.setTosRule.trafficClass := by
  constructor
  · rw [Node3.setTosRule, Option.isSome_map]
    exact h.control
  · intro lines hlines line hline hkey
    obtain ⟨lines', hlines', rfl⟩ := Option.map_eq_some_iff.mp hlines
    rcases List.mem_append.mp hline with hold | hnew
    · exact h.own lines' hlines' line (List.mem_filter.mp hold).1 hkey
    · exact List.mem_singleton.mp hnew

theorem OwnRules.clear (h : OwnRules n.trafficClass) : OwnRules n.clearTosRule.trafficClass := by
  constructor
  · rw [Node3.clearTosRule, Option.isSome_map]
    exact h.control
  · intro lines hlines line hline hkey
    obtain ⟨lines', hlines', rfl⟩ := Option.map_eq_some_iff.mp hlines
    exact h.own lines' hlines' line (List.mem_filter.mp hline).1 hkey

/-- The server and the disk are left alone. -/
structure RulesOnly (n t : Node3) : Prop where
  nfs : t.nfs = n.nfs
  ram : t.ram = n.ram
  serverEnabled : t.serverEnabled = n.serverEnabled
  rules : OwnRules t.trafficClass

theorem keeps_tos (n : Node3) : Keeps (fun _ => RulesOnly n) rdmaCmTos106Apply ∧
    Keeps (fun _ => RulesOnly n) rdmaCmTos106Remove := by
  constructor
  · refine keeps_reading fun _ => keeps_check (keeps_reading fun _ => keeps_check ?_)
    refine keeps_reading fun present => ?_
    cases present with
    | true => exact keeps_reading fun _ => keeps_dieUnless _ _
    | false =>
      refine keeps_bind (keeps_exec fun _ s h => ?_) fun _ => ?_
      · exact ⟨h.nfs, h.ram, h.serverEnabled, h.rules.set⟩
      · exact keeps_reading fun _ => keeps_dieUnless _ _
  · refine keeps_reading fun _ => keeps_check (keeps_reading fun _ => keeps_check ?_)
    refine keeps_reading fun present => ?_
    cases present with
    | true =>
      refine keeps_bind (keeps_exec fun _ s h => ?_) fun _ => ?_
      · exact ⟨h.nfs, h.ram, h.serverEnabled, h.rules.clear⟩
      · exact keeps_reading fun _ => keeps_dieUnless _ _
    | false => exact keeps_reading fun _ => keeps_dieUnless _ _

theorem Node3Holds.tosStops {done : List TosCommand} (h : Node3Holds n)
    (hstops : Stops rdmaCmTos106Apply n done t ∨ Stops rdmaCmTos106Remove n done t) :
    RulesOnly n t := by
  have hn : RulesOnly n n := ⟨rfl, rfl, rfl, h.rules⟩
  rcases hstops with happly | hremove
  · exact ((keeps_tos n).1 [] n hn).stops happly
  · exact ((keeps_tos n).2 [] n hn).stops hremove

theorem Node3Holds.withRules (h : Node3Holds n) (ht : RulesOnly n t) : Node3Holds t := by
  obtain ⟨hnfs, hram, henabled, hrules⟩ := ht
  refine ⟨hnfs ▸ h.nfs, hram ▸ h.file, ?_, hrules⟩
  rw [hnfs, hram, henabled]
  exact h.exported

theorem Node3Holds.exportedView (h : Node3Holds n) (he : exportLine ∈ n.nfs.activeExports) :
    n.ramView.exported = true := by
  have hpath : Text.contains exportPath.toList exportLine = true := by decide +kernel
  show (n.nfs.packageInstalled && n.nfs.activeExports.any _) = true
  rw [h.nfs.package, Bool.true_and, List.any_eq_true]
  exact ⟨exportLine, he, hpath⟩

/-- A run of a RAM script leaves a disk that is exported as it is. -/
theorem Node3Holds.withRam {r : RamHost} (h : Node3Holds n) (hfile : OwnFile r.stateFile)
    (hsame : exportLine ∈ n.nfs.activeExports → n.ram.markerAt exportPath = true →
      r = n.ramView) : Node3Holds { n with ram := r } := by
  refine ⟨h.nfs, hfile, fun hdisabled he => ?_, h.rules⟩
  have hmarker := h.exported hdisabled he
  show r.markerAt exportPath = true
  rw [hsame he hmarker]
  exact hmarker

theorem Node3Holds.startRam {r : RamHost} {done : List StartCommand} (h : Node3Holds n)
    (hstops : Stops (startRamStorage {}) n.ramView done r) : Node3Holds { n with ram := r } := by
  refine h.withRam ((keeps_ownFile_start [] n.ramView h.file).stops hstops) fun _ hmarker => ?_
  have hmounted : n.ramView.sourcesAt exportPath ≠ [] := sourcesAt_of_markerAt hmarker
  exact (start_mounted hmounted).stops hstops

theorem Node3Holds.stopRam {r : RamHost} {done : List StopCommand} (h : Node3Holds n)
    (hstops : Stops (stopRamStorage {}) n.ramView done r) : Node3Holds { n with ram := r } := by
  refine h.withRam ((keeps_ownFile_stop [] n.ramView h.file).stops hstops) fun he hmarker => ?_
  have hmounted : n.ramView.sourcesAt exportPath ≠ [] := sourcesAt_of_markerAt hmarker
  have hfile : OwnFile n.ramView.stateFile := h.file
  exact (stop_exported hfile hmounted (h.exportedView he)).stops hstops

theorem NfsOwn.view (h : NfsOwn n.nfs) : NfsOwn n.nfsView :=
  h.congr rfl rfl h.unit ⟨rfl, rfl, rfl, rfl, rfl⟩

theorem Node3Holds.setup {s : NfsHost} {done : List SetupCommand} (h : Node3Holds n)
    (hstops : Stops (node3NfsRdmaSetup {}) n.nfsView done s) : Node3Holds { n with nfs := s } := by
  refine ⟨(keeps_nfsOwn_setup [] _ h.nfs.view).stops hstops, h.file, fun hdisabled he => ?_,
    h.rules⟩
  by_cases hmarker : n.ram.markerAt exportPath = true
  · exact hmarker
  · rw [(setup_refused (Bool.eq_false_iff.mpr hmarker)).stops hstops] at he
    exact absurd (h.exported hdisabled he) hmarker

theorem Node3Holds.rollback {s : NfsHost} {done : List RollbackCommand} (h : Node3Holds n)
    (hstops : Stops (node3NfsRdmaRollback {}) n.nfs done s) : Node3Holds { n with nfs := s } := by
  refine ⟨(keeps_nfsOwn_rollback [] _ h.nfs).stops hstops, h.file, fun hdisabled he => ?_, h.rules⟩
  by_cases hbefore : exportLine ∈ n.nfs.activeExports
  · exact h.exported hdisabled hbefore
  · exact absurd he ((rollback_exports h.nfs hbefore).stops hstops)

theorem NfsOwn.reboot {s : NfsHost} (h : NfsOwn s) (enabled : Bool) :
    NfsOwn (s.reboot enabled) := by
  have hoff : NfsOwn (s.reboot false) := by
    refine h.congr rfl rfl ?_ ⟨rfl, rfl, rfl, rfl, rfl⟩
    show (if s.nfsServer = .missing then _ else _) ≠ ServiceUnit.missing
    rw [if_neg h.unit]
    decide
  cases enabled with
  | false => exact hoff
  | true =>
    simp only [NfsHost.reboot, if_true]
    split
    next t ht => exact hoff.startServer ht
    next => exact hoff

theorem Node3Holds.powerLoss (h : Node3Holds n) {rules : List Text}
    (hrules : tosRuleAbsent rules = true) : Node3Holds (n.powerLoss rules) := by
  refine ⟨h.nfs.reboot _, h.file, fun hdisabled he => ?_, ?_, ?_⟩
  · change n.serverEnabled = false at hdisabled
    change exportLine ∈ (n.nfs.reboot n.serverEnabled).activeExports at he
    rw [hdisabled] at he
    exact absurd he List.not_mem_nil
  · rw [Node3.powerLoss, Option.isSome_map]
    exact h.rules.control
  · intro lines hlines line hline hkey
    obtain ⟨-, -, rfl⟩ := Option.map_eq_some_iff.mp hlines
    exact absurd hkey (tosRuleAbsent_iff.mp hrules line hline)

theorem Node3Holds.change (h : Node3Holds n) (hchange : Node3Change killed n t) : Node3Holds t := by
  cases hchange with
  | applyTos done hstops =>
    exact h.withRules (h.tosStops (.inl hstops))
  | removeTos done hstops =>
    exact h.withRules (h.tosStops (.inr hstops))
  | startRam done hstops => exact h.startRam hstops
  | stopRam done hstops => exact h.stopRam hstops
  | setup r hends =>
    obtain ⟨done, hstops⟩ := hends.stops
    exact h.setup hstops
  | setupKilled done _ hstops => exact h.setup hstops
  | rollback done hstops => exact h.rollback hstops
  | units => exact ⟨h.nfs, h.file, h.exported, h.rules⟩
  | others =>
    refine ⟨?_, h.file, h.exported, h.rules⟩
    exact h.nfs.congr rfl rfl h.nfs.unit ⟨rfl, rfl, rfl, rfl, rfl⟩

theorem Node3Holds.outage (h : Node3Holds n) (houtage : Node3Outage n t) : Node3Holds t := by
  cases houtage with
  | idle rules hrules => exact h.powerLoss hrules
  | setup done rules hstops hrules => exact (h.setup hstops).powerLoss hrules

theorem Node3Holds.step (h : Node3Holds n) (hstep : Node3Step killed n t) : Node3Holds t := by
  cases hstep with
  | change hchange => exact h.change hchange
  | outage houtage => exact h.outage houtage

/-- node3 as it is given to Phase 2: the NFS package there and stopped, no file or rule of
Phase 2. -/
structure BeforePhase2 (n : Node3) : Prop where
  address : n.nfs.hasServerIp = true
  package : n.nfs.packageInstalled = true
  server : n.nfs.nfsServer = .inactive
  threads : n.nfs.threads = 0
  portlist : rdmaListener ∉ n.nfs.portlist
  files : NoPhase2Files n.nfs
  exports : exportLine ∉ n.nfs.otherExports ∧ exportLine ∉ n.nfs.activeExports
  ramFile : n.ram.stateFile = none
  rules : ∃ lines, n.trafficClass = some lines ∧ tosRuleAbsent lines = true

theorem BeforePhase2.holds (h : BeforePhase2 n) : Node3Holds n := by
  refine ⟨⟨h.address, h.package, ?_, Or.inl h.files.exportFile, Or.inl h.files.nfsConfigFile,
    h.exports.1, ?_⟩, ?_, fun _ he => absurd he h.exports.2, ?_, ?_⟩
  · rw [h.server]
    decide
  · intro f hf
    rw [h.files.stateFile] at hf
    contradiction
  · intro f hf
    rw [h.ramFile] at hf
    contradiction
  · obtain ⟨lines, hlines, -⟩ := h.rules
    rw [hlines]
    rfl
  · intro lines hlines line hline hkey
    obtain ⟨lines', hlines', habsent⟩ := h.rules
    rw [hlines', Option.some.injEq] at hlines
    exact absurd hkey (tosRuleAbsent_iff.mp habsent line (hlines ▸ hline))

theorem node3Holds {before : Node3} (hbefore : BeforePhase2 before)
    (h : Node3Reaches killed before n) : Node3Holds n := by
  induction h with
  | refl => exact hbefore.holds
  | tail _ hstep ih => exact ih.step hstep

theorem NfsRemembers.view {s : NfsHost} (h : NfsRemembers s) (marker : Bool) :
    NfsRemembers { s with ramMarker := marker } := ⟨h.recorded, h.unrecorded⟩

theorem NfsOwn.afterPowerLoss (h : NfsOwn n.nfs) (hdisabled : n.serverEnabled = false)
    (rules : List Text) : (n.powerLoss rules).nfs.nfsServer = .inactive := by
  rw [Node3.powerLoss, hdisabled]
  exact if_neg h.unit

theorem reboot_stateFile (s : NfsHost) (enabled : Bool) :
    (s.reboot enabled).stateFile = s.stateFile := by
  cases enabled with
  | false => rfl
  | true =>
    simp only [NfsHost.reboot, if_true]
    split
    next t ht => exact (startServer_ok ht).1.stateFile
    next => rfl

/-- Nothing in a run enables or disables `nfs-server`. -/
theorem Node3Step.serverEnabled (h : Node3Holds n) (hstep : Node3Step killed n t) :
    t.serverEnabled = n.serverEnabled := by
  cases hstep with
  | change hchange =>
    cases hchange with
    | applyTos done hstops => exact (h.tosStops (.inl hstops)).serverEnabled
    | removeTos done hstops => exact (h.tosStops (.inr hstops)).serverEnabled
    | startRam | stopRam | setup | setupKilled | rollback | units | others => rfl
  | outage houtage =>
    cases houtage with
    | idle | setup => rfl

theorem node3Reaches_serverEnabled {before : Node3} (hbefore : BeforePhase2 before)
    (h : Node3Reaches killed before n) : n.serverEnabled = before.serverEnabled := by
  induction h with
  | refl => rfl
  | tail hreach hstep ih => exact (hstep.serverEnabled (node3Holds hbefore hreach)).trans ih

theorem Node3Holds.remembers_change (h : Node3Holds n) (hn : NfsRemembers n.nfs)
    (hchange : Node3Change False n t) : NfsRemembers t.nfs := by
  cases hchange with
  | applyTos done hstops => exact (h.tosStops (.inl hstops)).nfs ▸ hn
  | removeTos done hstops => exact (h.tosStops (.inr hstops)).nfs ▸ hn
  | startRam | stopRam | units => exact hn
  | setup r hends => exact setup_remembers_end h.nfs.view (hn.view _) hends
  | setupKilled done hk => exact hk.elim
  | rollback done hstops => exact (rollback_remembers h.nfs.plain hn).stops hstops
  | others => exact ⟨hn.recorded, hn.unrecorded⟩

theorem Node3Holds.remembers_outage (h : Node3Holds n) (hdisabled : n.serverEnabled = false)
    (hn : NfsRemembers n.nfs) (houtage : Node3Outage n t) : NfsRemembers t.nfs := by
  cases houtage with
  | idle rules hrules =>
    have hafter := h.nfs.afterPowerLoss hdisabled rules
    exact ⟨hn.recorded.congr (reboot_stateFile _ _), fun _ => hafter⟩
  | @setup s done rules hstops hrules =>
    have hafter := (h.setup hstops).nfs.afterPowerLoss hdisabled rules
    have hrecorded := (setup_recorded h.nfs.view (hn.view _)).stops hstops
    exact ⟨hrecorded.congr (reboot_stateFile s n.serverEnabled), fun _ => hafter⟩

/-- Only a setup that is killed, with the server started and the state not recorded, could
make node3 forget. -/
theorem node3Remembers {before : Node3} (hbefore : BeforePhase2 before)
    (hdisabled : before.serverEnabled = false) (h : Node3Reaches False before n) :
    NfsRemembers n.nfs := by
  induction h with
  | refl =>
    refine ⟨?_, fun _ => hbefore.server⟩
    intro f hf
    rw [hbefore.files.stateFile] at hf
    contradiction
  | @tail n t hreach hstep ih =>
    have hholds := node3Holds hbefore hreach
    cases hstep with
    | change hchange => exact hholds.remembers_change ih hchange
    | outage houtage =>
      have hstill := (node3Reaches_serverEnabled hbefore hreach).trans hdisabled
      exact hholds.remembers_outage hstill ih houtage

end Steps

end PdDisaggregation
