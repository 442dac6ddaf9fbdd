import PdDisaggregation.Node3Teardown
import PdDisaggregation.RollbackRefusals

/-! From which states of node3 each of the three stop scripts goes through, and
what is left behind it. -/

namespace PdDisaggregation

open Script

/-- The host without the config file of the settings, which goes before the clients are
asked for. -/
def NfsHost.unconfigured (s : NfsHost) : NfsHost := s.removeFile s.settings.nfsConfigFile

def NfsHost.unexported (s : NfsHost) : NfsHost := s.unconfigured.removeFile s.settings.exportFile

/-- The host gives `node3-nfs-rdma-rollback.sh` nothing to refuse. -/
structure ServerWilling (s : NfsHost) : Prop where
  config : s.configUnexpected s.settings.nfsConfigFile = false
  clients : activeClients s.settings.exportPath s = []
  exports : s.unconfigured.exportUnexpected s.settings.exportPath s.settings.exportFile = false
  package : s.unconfigured.file s.settings.exportFile ≠ none → s.packageInstalled = true
  unit : recordedActivity s = "0" → s.nfsServer ≠ .missing
  record : s.unexported.isDirectory s.settings.stateFile = false

def exportsAfterStop (s : NfsHost) : List Text :=
  if recordedActivity s = "0" ∧ s.nfsServer = .active then []
  else if s.unconfigured.file s.settings.exportFile = none then s.activeExports
  else s.unexported.reexport.activeExports

/-- The files as a stop leaves them that refuses nothing. -/
def filesAfterStop (s : NfsHost) : NfsHost := s.unexported.removeFile s.settings.stateFile

/-- The host gives `stop-ram-storage.sh` nothing to refuse. -/
structure RamWilling (s : RamHost) : Prop where
  unmount : s.sourcesAt (sourced {} s).mountPoint = [] ∨ UnmountAllowed (sourced {} s) s
  unload : recordedModule s = "1" → s.brd.isSome = true →
    (unmounted (sourced {} s) s).ramMounted = false

/-- The host gives `rdma-cm-tos106.sh remove` nothing to refuse. -/
structure TosWilling (n : Node3) : Prop where
  control : n.trafficClass.isSome = true
  address : n.nfs.hasServerIp = true
  rules : ∀ lines, n.trafficClass = some lines → ∀ line ∈ lines, Text.contains tosKey line = true →
    ofTosPair line = true ∧ tosRule ∈ lines

section Server

variable {s t : NfsHost}

theorem stopServer_exports (h : s.stopServer = .ok t) :
    t.activeExports = if s.nfsServer = .active then [] else s.activeExports := by
  rcases stopServer_cases h with ⟨hs, rfl⟩ | ⟨hs, rfl⟩
  · rw [hs]
    rfl
  · rw [hs]
    rfl

theorem stopServer_ok_iff : (∃ t, s.stopServer = .ok t) ↔ s.nfsServer ≠ .missing := by
  cases hs : s.nfsServer with
  | missing => simp [NfsHost.stopServer, hs]
  | inactive => simp [NfsHost.stopServer, hs]
  | active => simp [NfsHost.stopServer, hs]

theorem unconfigured_server (s : NfsHost) : SameServer s s.unconfigured := removeFile_server s _

theorem unexported_server (s : NfsHost) : SameServer s s.unexported :=
  (unconfigured_server s).trans (removeFile_server _ _)

theorem removeExport_exports (h : Ends (removeExport s.settings.exportPath s.settings.exportFile)
      s.unconfigured (.ok ()) t) :
    SameFiles s.unexported t ∧ t.nfsServer = s.nfsServer ∧
      t.activeExports = if s.unconfigured.file s.settings.exportFile = none then s.activeExports
        else s.unexported.reexport.activeExports := by
  have hconfig := unconfigured_server s
  have hexport := unexported_server s
  have hh := (removeExport_ok.mp h).2
  by_cases hf : s.unconfigured.file s.settings.exportFile = none
  · rw [if_pos hf] at hh ⊢
    subst hh
    have hsame : s.unexported = s.unconfigured := removeFile_eq_iff.mpr hf
    exact ⟨hsame ▸ .refl _, hconfig.nfsServer, hconfig.activeExports⟩
  · rw [if_neg hf] at hh ⊢
    obtain ⟨-, rfl⟩ := withPackage_ok.mp hh
    exact ⟨reexport_files _, hexport.nfsServer, rfl⟩

theorem rollback_willing : (∃ t, Ends (node3NfsRdmaRollback {}) s (.ok ()) t) ↔ ServerWilling s := by
  constructor
  · rintro ⟨t, ht⟩
    obtain ⟨-, hconfig, hclients, u, hu, hstop⟩ := rollback_ok.mp ht
    change Ends _ s.unconfigured _ _ at hu
    obtain ⟨hexports, hpackage⟩ := removeExport_ok.mp hu
    obtain ⟨hfiles, hunit, -⟩ := removeExport_exports hu
    refine ⟨hconfig, hclients, hexports, ?_, ?_, ?_⟩
    · intro hf
      rw [if_neg hf] at hpackage
      have hinstalled : s.unexported.packageInstalled = true := (withPackage_ok.mp hpackage).1
      rwa [(unexported_server s).packageInstalled] at hinstalled
    · intro hw
      rw [if_pos hw] at hstop
      obtain ⟨v, hv, -⟩ := hstop
      exact hunit ▸ stopServer_ok_iff.mp ⟨v, hv⟩
    · split at hstop
      · obtain ⟨v, hv, hstop⟩ := hstop
        rw [← (hfiles.trans (stopServer_ok hv).1).isDirectory]
        exact (unlink_ok.mp hstop).1
      · rw [← hfiles.isDirectory]
        exact (unlink_ok.mp hstop).1
  · intro h
    have hu : ∃ u, Ends (removeExport s.settings.exportPath s.settings.exportFile) s.unconfigured
        (.ok ()) u := by
      by_cases hf : s.unconfigured.file s.settings.exportFile = none
      · exact ⟨_, removeExport_ok.mpr ⟨h.exports, by rw [if_pos hf]⟩⟩
      · have hinstalled : s.unexported.packageInstalled = true := by
          rw [(unexported_server s).packageInstalled]
          exact h.package hf
        have hp : s.unexported.withPackage "exportfs" NfsHost.reexport =
            .ok s.unexported.reexport := withPackage_ok.mpr ⟨hinstalled, rfl⟩
        exact ⟨_, removeExport_ok.mpr ⟨h.exports, by rw [if_neg hf]; exact hp⟩⟩
    obtain ⟨u, hu⟩ := hu
    obtain ⟨hfiles, hunit, -⟩ := removeExport_exports hu
    by_cases hw : recordedActivity s = "0"
    · obtain ⟨v, hv⟩ := stopServer_ok_iff.mpr (hunit ▸ h.unit hw)
      refine ⟨v.removeFile s.settings.stateFile, ?_⟩
      refine rollback_ok.mpr ⟨rfl, h.config, h.clients, u, hu, ?_⟩
      rw [if_pos hw]
      refine ⟨v, hv, unlink_ok.mpr ⟨?_, rfl⟩⟩
      rw [(hfiles.trans (stopServer_ok hv).1).isDirectory]
      exact h.record
    · refine ⟨u.removeFile s.settings.stateFile, ?_⟩
      refine rollback_ok.mpr ⟨rfl, h.config, h.clients, u, hu, ?_⟩
      rw [if_neg hw]
      refine unlink_ok.mpr ⟨?_, rfl⟩
      rw [hfiles.isDirectory]
      exact h.record

theorem rollback_gone (h : Ends (node3NfsRdmaRollback {}) s (.ok ()) t) :
    SameFiles (filesAfterStop s) t ∧ t.activeExports = exportsAfterStop s := by
  obtain ⟨-, -, -, u, hu, hstop⟩ := rollback_ok.mp h
  obtain ⟨hfiles, hunit, hexports⟩ := removeExport_exports hu
  by_cases hw : recordedActivity s = "0"
  · rw [if_pos hw] at hstop
    obtain ⟨v, hv, hstop⟩ := hstop
    obtain ⟨-, rfl⟩ := unlink_ok.mp hstop
    refine ⟨(hfiles.trans (stopServer_ok hv).1).removeFile _, ?_⟩
    rw [(removeFile_server v _).activeExports, stopServer_exports hv, hunit, hexports,
      exportsAfterStop]
    by_cases ha : s.nfsServer = .active
    · rw [if_pos ha, if_pos ⟨hw, ha⟩]
    · have hn : ¬ (recordedActivity s = "0" ∧ s.nfsServer = .active) := fun hh => ha hh.2
      rw [if_neg ha, if_neg hn]
  · rw [if_neg hw] at hstop
    obtain ⟨-, rfl⟩ := unlink_ok.mp hstop
    have hn : ¬ (recordedActivity s = "0" ∧ s.nfsServer = .active) := fun hh => hw hh.1
    refine ⟨hfiles.removeFile _, ?_⟩
    rw [(removeFile_server u _).activeExports, hexports, exportsAfterStop, if_neg hn]

/-- What the removal of any file, a new export and a stop of the server each keep, a
rollback keeps, wherever it is cut off. -/
theorem keeps_rollback {P : NfsHost → Prop} (hremove : ∀ s path, P s → P (s.removeFile path))
    (hreexport : ∀ s, P s → P s.reexport) (hstop : ∀ s t, P s → s.stopServer = .ok t → P t) :
    Keeps (fun _ => P) (node3NfsRdmaRollback {}) := by
  have hchecks : Keeps (fun _ => P) (rollbackChecks {}) :=
    keeps_check (keeps_check (keeps_dieUnless _ _))
  have hconfig (path : String) : Keeps (fun _ => P) (removeConfig path) := by
    refine keeps_reading fun content => ?_
    cases content with
    | none => exact keeps_pure _
    | some content => exact keeps_check (keeps_exec fun _ s h => hremove s path h)
  have hexport (exportPath path : String) : Keeps (fun _ => P) (removeExport exportPath path) := by
    refine keeps_reading fun content => ?_
    cases content with
    | none => exact keeps_pure _
    | some content =>
      refine keeps_check (keeps_bind (keeps_exec fun _ s h => hremove s path h) fun _ => ?_)
      refine keeps_attempt (fun _ s t h ht => ?_) fun _ _ h => h
      obtain ⟨-, rfl⟩ := withPackage_ok.mp ht
      exact hreexport s h
  have hserver : Keeps (fun _ => P) (attempt .systemctlStop NfsHost.stopServer : Rollback Unit) :=
    keeps_attempt (fun _ s t h ht => hstop s t h ht) fun _ _ h => h
  have hrecord (path : String) :
      Keeps (fun _ => P) (attempt .removeStateFile (·.unlink path) : Rollback Unit) := by
    refine keeps_attempt (fun _ s t h ht => ?_) fun _ _ h => h
    obtain ⟨-, rfl⟩ := unlink_ok.mp ht
    exact hremove s path h
  refine keeps_bind hchecks fun _ => keeps_reading fun settings => ?_
  unfold rollBack
  refine keeps_bind (hconfig _) fun _ => keeps_reading fun clients => keeps_check ?_
  refine keeps_bind (hexport _ _) fun _ => ?_
  by_cases hw : (settings.serviceWasActive == "0") = true
  · simp only [hw, if_true]
    exact keeps_bind hserver fun _ => hrecord _
  · simp only [hw]
    exact hrecord _

theorem rollback_keeps (b c : Bool) :
    Keeps (fun _ t => t.hasServerIp = b ∧ t.packageInstalled = c) (node3NfsRdmaRollback {}) := by
  refine keeps_rollback (fun s path h => ?_) (fun _ h => h) fun s t h ht => ?_
  · have hserver := removeFile_server s path
    exact ⟨hserver.hasServerIp.trans h.1, hserver.packageInstalled.trans h.2⟩
  · rcases stopServer_cases ht with ⟨-, rfl⟩ | ⟨-, rfl⟩
    · exact h
    · exact h

end Server

section Ram

variable {s t : RamHost}

theorem sourcesAt_unmounted (vars : RamEnv) (mp : String) :
    (unmounted vars s).sourcesAt mp = [] ↔ s.sourcesAt mp = [] ∨ vars.mountPoint = mp := by
  unfold RamHost.sourcesAt unmounted
  rw [List.map_eq_nil_iff, List.map_eq_nil_iff, List.filter_filter, List.filter_eq_nil_iff,
    List.filter_eq_nil_iff]
  by_cases hm : vars.mountPoint = mp
  · refine ⟨fun _ => Or.inr hm, fun _ e _ => ?_⟩
    simp [hm]
  · simp only [hm, or_false]
    refine forall₂_congr fun e _ => ?_
    by_cases he : e.target = mp
    · simp [he, Ne.symm hm]
    · simp [he]

theorem unmounted_of_nil {vars : RamEnv} (h : s.sourcesAt vars.mountPoint = []) :
    unmounted vars s = s := by
  have hmounts : s.mounts.filter (·.target != vars.mountPoint) = s.mounts := by
    rw [List.filter_eq_self]
    unfold RamHost.sourcesAt at h
    rw [List.map_eq_nil_iff, List.filter_eq_nil_iff] at h
    intro e he
    simpa using h e he
  unfold unmounted
  rw [hmounts]

theorem stop_willing : (∃ t, Ends (stopRamStorage {}) s (.ok ()) t) ↔ RamWilling s := by
  have hunload (u : RamHost) : (∃ v, Ends (unloadBrd (recordedModule s)) u (.ok ()) v) ↔
      (recordedModule s = "1" → u.brd.isSome = true → u.ramMounted = false) := by
    simp only [unloadBrd_ok]
    by_cases hload : recordedModule s = "1" ∧ u.brd.isSome = true
    · simp [hload]
    · simp only [hload, not_false_eq_true, true_and, false_and, or_false, exists_eq, true_iff]
      exact fun hm hb => absurd ⟨hm, hb⟩ hload
  have henv : isRamDevice ({} : RamEnv).ramDevice = true ∧
      ({} : RamEnv).mountPoint = "/srv/dynamo-g4" := ⟨by decide, rfl⟩
  constructor
  · rintro ⟨t, ht⟩
    obtain ⟨-, u, v, hu, hv, -⟩ := stop_ok.mp ht
    have hmodule := (hunload u).mp ⟨v, hv⟩
    rcases unmountRam_ok.mp hu with ⟨hnil, rfl⟩ | ⟨hallowed, rfl⟩
    · exact ⟨Or.inl hnil, by rwa [unmounted_of_nil hnil]⟩
    · exact ⟨Or.inr hallowed, hmodule⟩
  · rintro ⟨hunmount, hmodule⟩
    obtain ⟨v, hv⟩ := (hunload (unmounted (sourced {} s) s)).mpr hmodule
    refine ⟨_, stop_ok.mpr ⟨henv, _, v, unmountRam_ok.mpr ?_, hv, rfl⟩⟩
    rcases hunmount with hnil | hallowed
    · exact Or.inl ⟨hnil, unmounted_of_nil hnil⟩
    · exact Or.inr ⟨hallowed, rfl⟩

theorem stop_mounts (h : Ends (stopRamStorage {}) s (.ok ()) t) :
    t.mounts = (unmounted (sourced {} s) s).mounts := by
  obtain ⟨-, u, v, hu, hv, rfl⟩ := stop_ok.mp h
  have hv' : v.mounts = u.mounts := by
    rcases unloadBrd_ok.mp hv with ⟨-, rfl⟩ | ⟨-, -, rfl⟩
    · rfl
    · rfl
  show v.mounts = _
  rw [hv']
  rcases unmountRam_ok.mp hu with ⟨hnil, rfl⟩ | ⟨-, rfl⟩
  · rw [unmounted_of_nil hnil]
  · rfl

end Ram

section Tos

variable {n t : Node3}

theorem tos_keeps (nfs : NfsHost) (ram : RamHost) (scripts : List String) :
    Keeps (fun _ t => t.nfs = nfs ∧ t.ram = ram ∧ t.scripts = scripts) rdmaCmTos106Remove := by
  refine keeps_reading fun _ => keeps_check ?_
  refine keeps_reading fun _ => keeps_check ?_
  refine keeps_reading fun present => ?_
  cases present with
  | true =>
    refine keeps_bind (keeps_exec fun _ _ h => h) fun _ => ?_
    exact keeps_reading fun _ => keeps_dieUnless _ _
  | false => exact keeps_reading fun _ => keeps_dieUnless _ _

/-- The rules once the script has written, if it does. -/
def afterTosWrite (n : Node3) : Node3 :=
  if n.trafficClass.any (·.contains tosRule) then n.clearTosRule else n

theorem tos_ok : Ends rdmaCmTos106Remove n (.ok ()) t ↔
    n.trafficClass.isSome = true ∧ n.nfs.hasServerIp = true ∧
      (afterTosWrite n).trafficClass.all tosRuleAbsent = true ∧ t = afterTosWrite n := by
  rw [rdmaCmTos106Remove, ends_read_ok, ends_check_ok, ends_read_ok, ends_check_ok, ends_read_ok]
  refine and_congr_right fun _ => and_congr_right fun _ => ?_
  by_cases hp : n.trafficClass.any (·.contains tosRule) = true
  · rw [if_pos hp, ends_exec_ok, ends_read_ok, ends_dieUnless_ok, afterTosWrite, if_pos hp]
  · rw [if_neg hp, ends_read_ok, ends_dieUnless_ok, afterTosWrite, if_neg hp]

theorem tosRuleAbsent_iff {lines : List Text} :
    tosRuleAbsent lines = true ↔ ∀ line ∈ lines, ¬ Text.contains tosKey line = true := by
  rw [tosRuleAbsent, Bool.not_eq_true', List.any_eq_false]

theorem tos_willing : (∃ t, Ends rdmaCmTos106Remove n (.ok ()) t) ↔ TosWilling n := by
  have hrules (hc : n.trafficClass.isSome = true) :
      (afterTosWrite n).trafficClass.all tosRuleAbsent = true ↔
        ∀ lines, n.trafficClass = some lines → ∀ line ∈ lines,
          Text.contains tosKey line = true → ofTosPair line = true ∧ tosRule ∈ lines := by
    obtain ⟨lines, hl⟩ := Option.isSome_iff_exists.mp hc
    have hforall {P : List Text → Prop} : (∀ l, n.trafficClass = some l → P l) ↔ P lines := by
      rw [hl]
      simp
    rw [hforall]
    by_cases hp : tosRule ∈ lines
    · have hany : n.trafficClass.any (·.contains tosRule) = true := by
        rw [hl]
        simpa using hp
      rw [afterTosWrite, if_pos hany, Node3.clearTosRule, hl, Option.map_some, Option.all_some,
        tosRuleAbsent_iff]
      constructor
      · intro h line hline hkey
        refine ⟨?_, hp⟩
        by_contra hpair
        exact h line (List.mem_filter.mpr ⟨hline, by simpa using hpair⟩) hkey
      · intro h line hline hkey
        obtain ⟨hmem, hpair⟩ := List.mem_filter.mp hline
        have hno : ¬ ofTosPair line = true := by simpa using hpair
        exact hno (h line hmem hkey).1
    · have hany : ¬ n.trafficClass.any (·.contains tosRule) = true := by
        rw [hl]
        simpa using hp
      rw [afterTosWrite, if_neg hany, hl, Option.all_some, tosRuleAbsent_iff]
      exact forall₂_congr fun line _ => ⟨fun h hkey => absurd hkey h, fun h hkey => hp (h hkey).2⟩
  constructor
  · rintro ⟨t, ht⟩
    obtain ⟨hc, ha, habsent, -⟩ := tos_ok.mp ht
    exact ⟨hc, ha, (hrules hc).mp habsent⟩
  · rintro ⟨hc, ha, hr⟩
    exact ⟨_, tos_ok.mpr ⟨hc, ha, (hrules hc).mpr hr, rfl⟩⟩

end Tos

end PdDisaggregation
