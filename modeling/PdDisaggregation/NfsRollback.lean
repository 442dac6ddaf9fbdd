import PdDisaggregation.NfsHost

/-! `node3-nfs-rdma-rollback.sh`. -/

namespace PdDisaggregation

inductive RollbackCommand where
  | removeConfigFile
  | removeExportFile
  | exportfsRa
  | systemctlStop
  | removeStateFile
  deriving DecidableEq

structure RollbackEnv where
  exportPath : String := "/srv/dynamo-g4"
  exportFile : String := "/etc/exports.d/dynamo-phase2.exports"
  nfsConfigFile : String := "/etc/nfs.conf.d/dynamo-phase2.conf"

abbrev Rollback := Script RollbackCommand String NfsHost

open Script

def rollbackChecks (env : RollbackEnv) : Rollback Unit := do
  dieUnless (env.exportPath == "/srv/dynamo-g4") "refusing unexpected export path"
  dieUnless (env.exportFile == "/etc/exports.d/dynamo-phase2.exports")
    "refusing unexpected export file"
  dieUnless (env.nfsConfigFile == "/etc/nfs.conf.d/dynamo-phase2.conf")
    "refusing unexpected NFS config file"

/-- What a run goes by once it has sourced `STATE_FILE`. -/
structure RollbackSettings where
  exportPath : String
  exportFile : String
  nfsConfigFile : String
  stateFile : String
  serviceWasActive : String
  deriving DecidableEq

/-- `SERVICE_WAS_ACTIVE` as the rollback reads it back. -/
def recordedActivity (s : NfsHost) : String :=
  match s.stateFile with
  | some f => Text.orDefault f.serviceWasActive "0"
  | none => "0"

/-- The checks come before the source: what is assigned there is not checked. -/
def NfsHost.settings (s : NfsHost) (env : RollbackEnv := {}) : RollbackSettings where
  exportPath := (s.stateFile.bind (·.exportPath)).getD env.exportPath
  exportFile := (s.stateFile.bind (·.exportFile)).getD env.exportFile
  nfsConfigFile := (s.stateFile.bind (·.nfsConfigFile)).getD env.nfsConfigFile
  stateFile := (s.stateFile.bind (·.stateFile)).getD stateFilePath
  serviceWasActive := recordedActivity s

def contentRefusal (path : String) : String := path ++ " has unexpected content"

def clientsRefusal (path : String) : String := "NFS clients still reference " ++ path

def configAccepted (content : Text) : Bool := Text.captured (Text.delete '\r' content) == nfsConfig

/-- `grep` reads a file with NUL bytes as binary data, where these end lines too. -/
def endsLine (c : Char) : Bool := c == '\n' || c == '\x00'

/-- Nothing that ends in a newline has a line behind it. -/
def grepLines (content : Text) : List Text :=
  if content.getLast?.all (· == '\n') then (content.splitOnP endsLine).dropLast
  else content.splitOnP endsLine

def exportOptions : Text :=
  " 172.31.230.111(rw,async,insecure,no_root_squash,no_subtree_check)".toList

/-- The patterns of `grep -Fx`, one a line. -/
def exportPatterns (path : String) : List Text :=
  (path.toList ++ exportOptions).splitOnP (· == '\n')

def exportAccepted (path : String) (content : Text) : Bool :=
  (grepLines content).any (exportPatterns path).contains

/-- The lines of `showmount -a` that name the export. -/
def activeClients (path : String) (s : NfsHost) : List Text :=
  match s.showmount with
  | none => []
  | some lines =>
    if path = exportPath then lines.filter (Text.contains path.toList) else s.otherClients

def removeConfig (path : String) : Rollback Unit := do
  match ← read (·.file path) with
  | some content =>
    dieUnless (configAccepted content) (contentRefusal path)
    exec .removeConfigFile (·.removeFile path)
  | none => pure ()

def removeExport (exportPath path : String) : Rollback Unit := do
  match ← read (·.file path) with
  | some content =>
    dieUnless (exportAccepted exportPath content) (contentRefusal path)
    exec .removeExportFile (·.removeFile path)
    attempt .exportfsRa fun s => s.withPackage "exportfs" NfsHost.reexport
  | none => pure ()

/-- The script from the source of `STATE_FILE` on. -/
def rollBack (settings : RollbackSettings) : Rollback Unit := do
  removeConfig settings.nfsConfigFile
  dieUnless (← read (activeClients settings.exportPath)).isEmpty (clientsRefusal settings.exportPath)
  removeExport settings.exportPath settings.exportFile
  if settings.serviceWasActive == "0" then
    attempt .systemctlStop NfsHost.stopServer
  attempt .removeStateFile (·.unlink settings.stateFile)

def node3NfsRdmaRollback (env : RollbackEnv) : Rollback Unit := do
  rollbackChecks env
  rollBack (← read (·.settings env))

def NfsHost.configUnexpected (s : NfsHost) (path : String) : Bool :=
  (s.file path).any (!configAccepted ·)

def NfsHost.exportUnexpected (s : NfsHost) (exportPath path : String) : Bool :=
  (s.file path).any (!exportAccepted exportPath ·)

/-- The refusals of the rollback that are about what it finds on the host. -/
def OwnRefusal (e : String) : Prop := ∃ path, e = contentRefusal path ∨ e = clientsRefusal path

/-- `STATE_FILE` assigns nothing but what a setup writes there. -/
def NfsHost.Plain (s : NfsHost) : Prop := ∀ f, s.stateFile = some f →
  f.exportPath = none ∧ f.exportFile = none ∧ f.nfsConfigFile = none ∧ f.stateFile = none

variable {s t : NfsHost} {e path : String} {env : RollbackEnv}

theorem settings_plain (h : s.Plain) : s.settings =
    ⟨exportPath, exportFilePath, nfsConfigPath, stateFilePath, recordedActivity s⟩ := by
  cases hf : s.stateFile with
  | none => simp [NfsHost.settings, hf, exportPath, exportFilePath, nfsConfigPath]
  | some f =>
    obtain ⟨hpath, hexport, hconfig, hstate⟩ := h f hf
    simp [NfsHost.settings, hf, hpath, hexport, hconfig, hstate, exportPath, exportFilePath,
      nfsConfigPath]

theorem written_plain {p a : Option String} (h : s.stateFile = some (writtenState p a)) :
    s.Plain := by
  intro f hf
  rw [h, Option.some.injEq] at hf
  subst hf
  exact ⟨rfl, rfl, rfl, rfl⟩

/-- No other message of the script ends or begins like a refusal of its own. -/
theorem ownRefusal_ends (h : OwnRefusal e) :
    e.toList.getLast? = some 't' ∨ e.toList.head? = some 'N' := by
  obtain ⟨path, rfl | rfl⟩ := h
  · left
    have htext : (contentRefusal path).toList = path.toList ++ " has unexpected content".toList :=
      String.toList_append
    rw [htext, List.getLast?_append]
    rfl
  · right
    have htext : (clientsRefusal path).toList =
        "NFS clients still reference ".toList ++ path.toList := String.toList_append
    rw [htext]
    rfl

theorem unlink_ok : s.unlink path = .ok t ↔ s.isDirectory path = false ∧ t = s.removeFile path := by
  cases h : s.isDirectory path <;> simp [NfsHost.unlink, h, eq_comm]

theorem unlink_error :
    s.unlink path = .error e ↔
      s.isDirectory path = true ∧ e = "rm: cannot remove '" ++ path ++ "': Is a directory" := by
  cases h : s.isDirectory path <;> simp [NfsHost.unlink, h, eq_comm]

theorem rollbackChecks_ok : Ends (rollbackChecks env) s (.ok ()) t ↔ env = {} ∧ t = s := by
  rcases env with ⟨path, file, config⟩
  simp only [rollbackChecks, ends_seq_ok, ends_dieUnless_ok, beq_iff_eq, RollbackEnv.mk.injEq]
  constructor
  · rintro ⟨_, ⟨rfl, rfl⟩, _, ⟨rfl, rfl⟩, rfl, rfl⟩
    exact ⟨⟨rfl, rfl, rfl⟩, rfl⟩
  · rintro ⟨⟨rfl, rfl, rfl⟩, rfl⟩
    exact ⟨t, ⟨rfl, rfl⟩, t, ⟨rfl, rfl⟩, rfl, rfl⟩

theorem rollbackChecks_error (h : Ends (rollbackChecks env) s (.error e) t) :
    t = s ∧ ¬ OwnRefusal e := by
  simp only [rollbackChecks, ends_seq_error, ends_dieUnless_ok, ends_dieUnless_error] at h
  rcases h with ⟨-, rfl, rfl⟩ | ⟨_, ⟨-, rfl⟩, ⟨-, rfl, rfl⟩ | ⟨_, ⟨-, rfl⟩, -, rfl, rfl⟩⟩
  all_goals exact ⟨rfl, fun ho => absurd (ownRefusal_ends ho) (by decide)⟩

theorem removeConfig_ok : Ends (removeConfig path) s (.ok ()) t ↔
    s.configUnexpected path = false ∧ t = s.removeFile path := by
  rw [removeConfig, ends_bind_ok]
  simp only [ends_read, Except.ok.injEq]
  cases h : s.file path with
  | none => simp [NfsHost.configUnexpected, h, removeFile_eq_iff.mpr h]
  | some content => simp [NfsHost.configUnexpected, h]

theorem removeConfig_error : Ends (removeConfig path) s (.error e) t ↔
    s.configUnexpected path = true ∧ e = contentRefusal path ∧ t = s := by
  rw [removeConfig, ends_bind_error]
  simp only [ends_read, Except.ok.injEq]
  cases h : s.file path with
  | none => simp [NfsHost.configUnexpected, h]
  | some content => simp [NfsHost.configUnexpected, h]

section Export

variable {exportPath : String}

theorem removeExport_ok : Ends (removeExport exportPath path) s (.ok ()) t ↔
    s.exportUnexpected exportPath path = false ∧
      if s.file path = none then t = s
      else (s.removeFile path).withPackage "exportfs" NfsHost.reexport = .ok t := by
  rw [removeExport, ends_bind_ok]
  simp only [ends_read, Except.ok.injEq]
  cases h : s.file path with
  | none => simp [NfsHost.exportUnexpected, h]
  | some content => simp [NfsHost.exportUnexpected, h]

theorem removeExport_error : Ends (removeExport exportPath path) s (.error e) t ↔
    (s.exportUnexpected exportPath path = true ∧ e = contentRefusal path ∧ t = s) ∨
      (s.exportUnexpected exportPath path = false ∧ s.file path ≠ none ∧
        (s.removeFile path).withPackage "exportfs" NfsHost.reexport = .error e ∧
        t = s.removeFile path) := by
  rw [removeExport, ends_bind_error]
  simp only [ends_read, Except.ok.injEq]
  cases h : s.file path with
  | none => simp [NfsHost.exportUnexpected, h]
  | some content => simp [NfsHost.exportUnexpected, h]

theorem removeExport_server (h : Ends (removeExport exportPath path) s (.ok ()) t) :
    t.nfsServer = s.nfsServer ∧ t.threads = s.threads ∧ t.portlist = s.portlist := by
  have hremoved := removeFile_server s path
  have hh := (removeExport_ok.mp h).2
  split at hh
  · rw [hh]
    exact ⟨rfl, rfl, rfl⟩
  · obtain ⟨-, rfl⟩ := withPackage_ok.mp hh
    exact ⟨hremoved.nfsServer, hremoved.threads, hremoved.portlist⟩

end Export

theorem activeClients_removeFile (clientPath : String) :
    activeClients clientPath (s.removeFile path) = activeClients clientPath s := by
  have hremoved := removeFile_server s path
  rw [activeClients, activeClients, hremoved.showmount, hremoved.otherClients]

theorem rollback_ok : Ends (node3NfsRdmaRollback env) s (.ok ()) t ↔
    env = {} ∧ s.configUnexpected s.settings.nfsConfigFile = false ∧
      activeClients s.settings.exportPath s = [] ∧
      ∃ u, Ends (removeExport s.settings.exportPath s.settings.exportFile)
          (s.removeFile s.settings.nfsConfigFile) (.ok ()) u ∧
        if recordedActivity s = "0" then
          ∃ v, u.stopServer = .ok v ∧ v.unlink s.settings.stateFile = .ok t
        else u.unlink s.settings.stateFile = .ok t := by
  have hactivity : s.settings.serviceWasActive = recordedActivity s := rfl
  simp only [node3NfsRdmaRollback, rollBack, ends_seq_ok, rollbackChecks_ok, and_assoc,
    exists_and_left, exists_eq_left, ends_read_ok, removeConfig_ok]
  refine and_congr_right fun henv => ?_
  subst henv
  rw [hactivity]
  by_cases hw : recordedActivity s = "0"
  · simp [hw, activeClients_removeFile]
  · simp [hw, activeClients_removeFile]

theorem unlink_state : s.unlink stateFilePath = .ok { s with stateFile := none } :=
  unlink_ok.mpr ⟨isDirectory_state, removeFile_state.symm⟩

/-- The rollback of a host whose `STATE_FILE` the setup has written. -/
theorem rollback_plain (h : s.Plain) : Ends (node3NfsRdmaRollback {}) s (.ok ()) t ↔
    s.configUnexpected nfsConfigPath = false ∧ activeClients exportPath s = [] ∧
      ∃ u, Ends (removeExport exportPath exportFilePath) { s with nfsConfigFile := none } (.ok ()) u ∧
        if recordedActivity s = "0" then
          ∃ v, u.stopServer = .ok v ∧ t = { v with stateFile := none }
        else t = { u with stateFile := none } := by
  rw [rollback_ok, settings_plain h, removeFile_config]
  simp only [unlink_state, Except.ok.injEq, true_and, eq_comm]

/-- What may go wrong once the checks have passed and the config file is gone. -/
def LateError (s t : NfsHost) (e : String) : Prop :=
  let u := s.removeFile s.settings.nfsConfigFile
  activeClients s.settings.exportPath s ≠ [] ∧ e = clientsRefusal s.settings.exportPath ∧ t = u ∨
    activeClients s.settings.exportPath s = [] ∧
      (Ends (removeExport s.settings.exportPath s.settings.exportFile) u (.error e) t ∨
        ∃ v, Ends (removeExport s.settings.exportPath s.settings.exportFile) u (.ok ()) v ∧
          if recordedActivity s = "0" then
            v.stopServer = .error e ∧ t = v ∨
              v.stopServer = .ok t ∧ t.unlink s.settings.stateFile = .error e
          else v.unlink s.settings.stateFile = .error e ∧ t = v)

theorem rollback_error : Ends (node3NfsRdmaRollback env) s (.error e) t ↔
    Ends (rollbackChecks env) s (.error e) t ∨
      env = {} ∧ (s.configUnexpected s.settings.nfsConfigFile = true ∧
          e = contentRefusal s.settings.nfsConfigFile ∧ t = s ∨
        s.configUnexpected s.settings.nfsConfigFile = false ∧ LateError s t e) := by
  have hactivity : s.settings.serviceWasActive = recordedActivity s := rfl
  simp only [node3NfsRdmaRollback, rollBack, ends_seq_error, rollbackChecks_ok, and_assoc,
    exists_and_left]
  refine or_congr_right (and_congr_right fun henv => ?_)
  subst henv
  rw [LateError]
  by_cases hw : recordedActivity s = "0"
  · simp [hw, hactivity, activeClients_removeFile, removeConfig_ok, removeConfig_error]
  · simp [hw, hactivity, activeClients_removeFile, removeConfig_ok, removeConfig_error]

theorem rollback_activity (h : Ends (node3NfsRdmaRollback env) s (.ok ()) t) :
    t.serverActive = if recordedActivity s = "0" then false else s.serverActive := by
  obtain ⟨-, -, -, u, hu, ht⟩ := rollback_ok.mp h
  have hserver : u.serverActive = s.serverActive := by
    rw [NfsHost.serverActive, (removeExport_server hu).1, (removeFile_server s _).nfsServer,
      NfsHost.serverActive]
  split at ht
  next hw =>
    obtain ⟨v, hv, ht⟩ := ht
    obtain ⟨-, rfl⟩ := unlink_ok.mp ht
    rw [if_pos hw, NfsHost.serverActive, (removeFile_server v _).nfsServer]
    exact (stopServer_ok hv).2
  next hw =>
    obtain ⟨-, rfl⟩ := unlink_ok.mp ht
    rw [if_neg hw, NfsHost.serverActive, (removeFile_server u _).nfsServer]
    exact hserver

end PdDisaggregation
