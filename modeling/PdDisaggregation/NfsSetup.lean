import PdDisaggregation.NfsHost

/-! `node3-nfs-rdma-setup.sh`. -/

namespace PdDisaggregation

inductive SetupCommand where
  | aptGetInstall
  | writeExportFile
  | writeConfigFile
  | modprobeRpcrdma
  | systemctlStart
  | rpcNfsd
  | exportfsRa
  | writePortlist
  | openStateFile
  | printfPackage
  | printfService
  | exportfsV
  | catPortlist
  deriving DecidableEq

/-- The environment of a run, and what `apt-get` answers: the packages its
simulation names, and whether installing the package starts the server. -/
structure SetupEnv where
  exportPath : String := "/srv/dynamo-g4"
  clientIp : String := "172.31.230.111"
  serverIp : String := "172.31.230.113"
  rdmaPort : String := "20049"
  exportFile : String := "/etc/exports.d/dynamo-phase2.exports"
  nfsConfigFile : String := "/etc/nfs.conf.d/dynamo-phase2.conf"
  nfsdThreads : String := "64"
  installPackage : String := "0"
  packageInstalledBeforeOverride : Option String := none
  serviceWasActiveOverride : Option String := none
  simulatedInstalls : List String := ["nfs-kernel-server"]
  aptStartsServer : Bool := true

abbrev Setup := Script SetupCommand String NfsHost

open Script

def setupChecks (env : SetupEnv) : Setup Unit := do
  dieUnless (env.exportPath == "/srv/dynamo-g4") "refusing unexpected export path"
  dieUnless (env.exportFile == "/etc/exports.d/dynamo-phase2.exports")
    "refusing unexpected export file"
  dieUnless (env.nfsConfigFile == "/etc/nfs.conf.d/dynamo-phase2.conf")
    "refusing unexpected NFS config file"
  dieUnless (env.nfsdThreads == "64") "refusing unvalidated nfsd thread count"
  dieUnless (env.clientIp == "172.31.230.111") "refusing unexpected client address"
  dieUnless (env.serverIp == "172.31.230.113") "refusing unexpected server address"
  dieUnless (env.rdmaPort == "20049") "refusing unexpected RDMA port"
  dieUnless (← read (·.hasServerIp)) (env.serverIp ++ " is not configured on this host")
  dieUnless (← read (·.ramMarker)) "RAM storage marker is absent"

/-- The two values the run will record. An existing `STATE_FILE` wins over the
live system, so that a repeated start keeps the original state. Its other
assignments, which a setup never writes, are not looked at here. -/
def capturedState (env : SetupEnv) (s : NfsHost) : String × String :=
  match s.stateFile with
  | some f => (Text.orDefault f.packageInstalledBefore "1", Text.orDefault f.serviceWasActive "0")
  | none =>
    (match env.packageInstalledBeforeOverride with
      | some v => Text.orDefault (some v) "1"
      | none => flag s.packageInstalled,
     match env.serviceWasActiveOverride with
      | some v => Text.orDefault (some v) "0"
      | none => flag s.serverActive)

def installPackage (env : SetupEnv) (packageInstalledBefore : String) : Setup Unit := do
  if packageInstalledBefore == "0" && !(← read (·.packageInstalled)) then
    dieUnless (env.installPackage == "1")
      "nfs-kernel-server is missing; rerun with INSTALL_PACKAGE=1 after reviewing apt-get -s"
    dieUnless (env.simulatedInstalls.all (· == "nfs-kernel-server"))
      "dry-run would install or replace unexpected packages"
    exec .aptGetInstall fun s => s.installServer env.aptStartsServer

def writeExport : Setup Unit := do
  match ← read (·.exportFile) with
  | some content =>
    dieUnless (Text.captured (Text.delete '\r' content) == exportLine)
      "/etc/exports.d/dynamo-phase2.exports already exists with unexpected content"
  | none => exec .writeExportFile fun s => { s with exportFile := some (exportLine ++ ['\n']) }

def writeConfig : Setup Unit := do
  match ← read (·.nfsConfigFile) with
  | some content =>
    dieUnless (Text.captured (Text.delete '\r' content) == nfsConfig)
      "/etc/nfs.conf.d/dynamo-phase2.conf already exists with unexpected content"
  | none => exec .writeConfigFile fun s => { s with nfsConfigFile := some (nfsConfig ++ ['\n']) }

def startNfsd : Setup Unit := do
  exec .modprobeRpcrdma fun s => { s with rpcrdma := true }
  attempt .systemctlStart NfsHost.startServer
  attempt .rpcNfsd fun s => s.withPackage "rpc.nfsd" fun s => { s with threads := 64 }
  attempt .exportfsRa fun s => s.withPackage "exportfs" NfsHost.reexport
  if !(← read fun s => s.portlist.contains rdmaListener) then
    exec .writePortlist fun s => { s with portlist := rdmaListener :: s.portlist }

/-- The redirection empties the file before the two `printf`s fill it. -/
def writeState (packageInstalledBefore serviceWasActive : String) : Setup Unit := do
  exec .openStateFile fun s => { s with stateFile := some (writtenState none none) }
  exec .printfPackage fun s =>
    { s with stateFile := some (writtenState (some packageInstalledBefore) none) }
  exec .printfService fun s => { s with
    stateFile := some (writtenState (some packageInstalledBefore) (some serviceWasActive)) }

def node3NfsRdmaSetup (env : SetupEnv) : Setup Unit := do
  setupChecks env
  let (packageInstalledBefore, serviceWasActive) ← read (capturedState env)
  installPackage env packageInstalledBefore
  writeExport
  writeConfig
  startNfsd
  writeState packageInstalledBefore serviceWasActive
  exec .exportfsV id
  exec .catPortlist id

structure Serving (t : NfsHost) : Prop where
  packageInstalled : t.packageInstalled = true
  serverActive : t.serverActive = true
  threads : t.threads = 64
  portlist : rdmaListener ∈ t.portlist

variable {env : SetupEnv} {s t : NfsHost}

theorem passive_setupChecks : Passive (setupChecks env) := by
  iterate 7 apply passive_check
  apply passive_reading
  intro content
  apply passive_check
  apply passive_reading
  intro content
  exact passive_dieUnless _ _

theorem installPackage_ok {p : String} (h : Ends (installPackage env p) s (.ok ()) t) :
    SameFiles s t := by
  rw [installPackage, ends_read_ok] at h
  split at h
  · rw [ends_check_ok, ends_check_ok, ends_exec] at h
    obtain ⟨-, -, -, rfl⟩ := h
    exact installServer_files _ _
  · obtain ⟨-, rfl⟩ := ends_pure.mp h
    exact .refl _

theorem writeExport_ok (h : Ends writeExport s (.ok ()) t) :
    t = if s.exportFile = none then { s with exportFile := some (exportLine ++ ['\n']) } else s := by
  rw [writeExport, ends_read_ok] at h
  cases hf : s.exportFile with
  | none =>
    rw [hf] at h
    exact ((ends_exec _ _).mp h).2
  | some content =>
    rw [hf] at h
    exact (ends_dieUnless_ok.mp h).2

theorem writeConfig_ok (h : Ends writeConfig s (.ok ()) t) :
    t = if s.nfsConfigFile = none then { s with nfsConfigFile := some (nfsConfig ++ ['\n']) }
      else s := by
  rw [writeConfig, ends_read_ok] at h
  cases hf : s.nfsConfigFile with
  | none =>
    rw [hf] at h
    exact ((ends_exec _ _).mp h).2
  | some content =>
    rw [hf] at h
    exact (ends_dieUnless_ok.mp h).2

theorem writeExport_config (h : Ends writeExport s (.ok ()) t) :
    t.nfsConfigFile = s.nfsConfigFile := by
  rw [writeExport_ok h]
  split <;> rfl

theorem writeConfig_export (h : Ends writeConfig s (.ok ()) t) : t.exportFile = s.exportFile := by
  rw [writeConfig_ok h]
  split <;> rfl

theorem startNfsd_ok (h : Ends startNfsd s (.ok ()) t) : SameFiles s t ∧ Serving t := by
  rw [startNfsd, ends_exec_ok, ends_seq_ok] at h
  obtain ⟨u, hu, h⟩ := h
  rw [ends_attempt_ok] at hu
  obtain ⟨hfiles, hactive, -⟩ := startServer_ok hu
  simp only [ends_seq_ok, ends_attempt_ok, withPackage_ok] at h
  obtain ⟨_, ⟨-, rfl⟩, v, ⟨hp, rfl⟩, h⟩ := h
  rw [ends_read_ok] at h
  have hfiles : SameFiles s { u with threads := 64 }.reexport :=
    ⟨hfiles.1, hfiles.2, hfiles.3, hfiles.4, hfiles.5⟩
  by_cases hc : u.portlist.contains rdmaListener = true
  · rw [if_neg (by simpa [NfsHost.reexport] using hc)] at h
    obtain ⟨-, rfl⟩ := ends_pure.mp h
    exact ⟨hfiles, hp, hactive, rfl, by simpa [NfsHost.reexport] using hc⟩
  · rw [if_pos (by simpa [NfsHost.reexport] using hc)] at h
    obtain ⟨-, rfl⟩ := (ends_exec _ _).mp h
    exact ⟨⟨hfiles.1, hfiles.2, hfiles.3, hfiles.4, hfiles.5⟩, hp, hactive, rfl, List.mem_cons_self⟩

theorem setup_ok (h : Ends (node3NfsRdmaSetup env) s (.ok ()) t) :
    Serving t ∧
      t.stateFile =
        some (writtenState (some (capturedState env s).1) (some (capturedState env s).2)) ∧
      (s.exportFile = none → t.exportFile = some (exportLine ++ ['\n'])) ∧
      (s.nfsConfigFile = none → t.nfsConfigFile = some (nfsConfig ++ ['\n'])) := by
  rw [node3NfsRdmaSetup, ends_seq_ok] at h
  obtain ⟨u, hc, h⟩ := h
  rw [passive_setupChecks.ends hc, ends_read_ok] at h
  obtain ⟨a, hi, h⟩ := ends_seq_ok.mp h
  obtain ⟨b, he, h⟩ := ends_seq_ok.mp h
  obtain ⟨c, hf, h⟩ := ends_seq_ok.mp h
  obtain ⟨d, hn, h⟩ := ends_seq_ok.mp h
  have hfiles := installPackage_ok hi
  obtain ⟨hsame, hserve⟩ := startNfsd_ok hn
  obtain ⟨e, hw, h⟩ := ends_seq_ok.mp h
  rw [writeState, ends_exec_ok, ends_exec_ok, ends_exec] at hw
  rw [ends_exec_ok, ends_exec] at h
  obtain ⟨-, rfl⟩ := hw
  obtain ⟨-, rfl⟩ := h
  refine ⟨⟨hserve.1, hserve.2, hserve.3, hserve.4⟩, rfl, fun hx => ?_, fun hx => ?_⟩
  · have hb := writeExport_ok he
    rw [if_pos (hfiles.exportFile.trans hx)] at hb
    change d.exportFile = _
    rw [hsame.exportFile, writeConfig_export hf, hb]
  · have hb : b.nfsConfigFile = none :=
      (writeExport_config he).trans (hfiles.nfsConfigFile.trans hx)
    have hc' := writeConfig_ok hf
    rw [if_pos hb] at hc'
    change d.nfsConfigFile = _
    rw [hsame.nfsConfigFile, hc']

end PdDisaggregation
