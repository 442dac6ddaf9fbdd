import PdDisaggregation.Script
import PdDisaggregation.Text

/-! The NFS server host: what `node3-nfs-rdma-setup.sh` and
`node3-nfs-rdma-rollback.sh` read and change, and the commands they run. -/

namespace PdDisaggregation

inductive ServiceUnit where
  | missing
  | inactive
  | active
  deriving DecidableEq

/-- A line of `/proc/fs/nfsd/portlist`. -/
structure Listener where
  transport : String
  port : String
  deriving DecidableEq

/-- What is in `STATE_FILE`, and its assignments to names the rollback reads once
it has sourced it. An interrupted write leaves some of them out, and the last four,
which name a directory and files, are in none that the setup writes. -/
structure NfsState where
  text : Text
  packageInstalledBefore : Option String
  serviceWasActive : Option String
  exportPath : Option String := none
  exportFile : Option String := none
  nfsConfigFile : Option String := none
  stateFile : Option String := none
  deriving DecidableEq

def assignment (name : String) : Option String → Text
  | some value => (name ++ "=" ++ value ++ "\n").toList
  | none => []

/-- What the two `printf`s of the setup write, as far as they have been executed. -/
def writtenState (packageInstalledBefore serviceWasActive : Option String) : NfsState where
  text := assignment "PACKAGE_INSTALLED_BEFORE" packageInstalledBefore ++
    assignment "SERVICE_WAS_ACTIVE" serviceWasActive
  packageInstalledBefore := packageInstalledBefore
  serviceWasActive := serviceWasActive

/-- `showmount` is the output of `showmount -a`, absent when the command is, and
`otherClients` what `awk` finds there for an export path that is not the tested one.
`configuredThreads` is what `nfs.conf` asks for without a Phase 2 file. Every file has
one name, to which `spellings` takes the other paths that lead to it. Of the files that
have no field of their own, those without a content are directories. -/
structure NfsHost where
  hasServerIp : Bool
  ramMarker : Bool
  packageInstalled : Bool
  nfsServer : ServiceUnit
  rpcrdma : Bool
  configuredThreads : Nat
  threads : Nat
  portlist : List Listener
  exportFile : Option Text
  nfsConfigFile : Option Text
  otherFiles : List (String × Option Text) := []
  spellings : List (String × String) := []
  activeExports : List Text
  showmount : Option (List Text)
  otherClients : List Text := []
  stateFile : Option NfsState
  deriving DecidableEq

def exportPath : String := "/srv/dynamo-g4"

def exportFilePath : String := "/etc/exports.d/dynamo-phase2.exports"

def nfsConfigPath : String := "/etc/nfs.conf.d/dynamo-phase2.conf"

def stateFilePath : String := "/var/lib/dynamo-phase2/nfs.env"

def exportLine : Text :=
  "/srv/dynamo-g4 172.31.230.111(rw,async,insecure,no_root_squash,no_subtree_check)".toList

def nfsConfig : Text := "[nfsd]\nthreads=64".toList

def rdmaListener : Listener := ⟨"rdma", "20049"⟩

def flag (b : Bool) : String := if b then "1" else "0"

def NfsHost.serverActive (s : NfsHost) : Bool := s.nfsServer == .active

/-- The name of the file a path leads to. -/
def NfsHost.resolve (s : NfsHost) (path : String) : String :=
  if path = exportFilePath ∨ path = nfsConfigPath ∨ path = stateFilePath then path
  else (s.spellings.lookup path).getD path

def NfsHost.content (s : NfsHost) (name : String) : Option (Option Text) :=
  if name = exportFilePath then s.exportFile.map some
  else if name = nfsConfigPath then s.nfsConfigFile.map some
  else if name = stateFilePath then s.stateFile.map fun f => some f.text
  else s.otherFiles.lookup name

def NfsHost.isDirectory (s : NfsHost) (path : String) : Bool :=
  s.content (s.resolve path) == some none

/-- What is read at a path where there is something: from a directory, nothing. -/
def NfsHost.file (s : NfsHost) (path : String) : Option Text :=
  (s.content (s.resolve path)).map (·.getD [])

def NfsHost.remove (s : NfsHost) (name : String) : NfsHost :=
  if name = exportFilePath then { s with exportFile := none }
  else if name = nfsConfigPath then { s with nfsConfigFile := none }
  else if name = stateFilePath then { s with stateFile := none }
  else { s with otherFiles := s.otherFiles.filter (·.1 ≠ name) }

/-- `rm -f` of a path that is no directory. -/
def NfsHost.removeFile (s : NfsHost) (path : String) : NfsHost := s.remove (s.resolve path)

def NfsHost.unlink (s : NfsHost) (path : String) : Except String NfsHost :=
  if s.isDirectory path then .error ("rm: cannot remove '" ++ path ++ "': Is a directory")
  else .ok (s.removeFile path)

/-- `/etc/exports` and what stands in `/etc/exports.d`. -/
def exportTable (path : String) : Bool :=
  let directory := "/etc/exports.d/".toList
  path == "/etc/exports" ||
    directory.isPrefixOf path.toList && ".exports".toList.isSuffixOf path.toList &&
      !(path.toList.drop directory.length).contains '/'

def NfsHost.otherExports (s : NfsHost) : List Text :=
  s.otherFiles.flatMap fun f => if exportTable f.1 then (f.2.map Text.lines).getD [] else []

/-- What `exportfs -ra` makes of the export tables. -/
def NfsHost.reexport (s : NfsHost) : NfsHost :=
  { s with activeExports := s.otherExports ++ (s.exportFile.map Text.lines).getD [] }

/-- Starting the unit runs `rpc.nfsd` from its configuration. -/
def NfsHost.startServer (s : NfsHost) : Except String NfsHost :=
  match s.nfsServer with
  | .missing => .error "Unit nfs-server.service not found."
  | .active => .ok s
  | .inactive =>
    .ok { s.reexport with
      nfsServer := .active
      threads := if s.nfsConfigFile.isSome then 64 else s.configuredThreads
      portlist := ⟨"tcp", "2049"⟩ :: s.portlist }

def NfsHost.stopServer (s : NfsHost) : Except String NfsHost :=
  match s.nfsServer with
  | .missing => .error "Unit nfs-server.service not loaded."
  | .inactive => .ok s
  | .active =>
    .ok { s with nfsServer := .inactive, threads := 0, portlist := [], activeExports := [] }

/-- Installing the package brings the unit, and `apt-get` may start it. -/
def NfsHost.installServer (s : NfsHost) (starts : Bool) : NfsHost :=
  let t := { s with
    packageInstalled := true
    nfsServer := if s.nfsServer = .missing then .inactive else s.nfsServer }
  if starts then
    match t.startServer with
    | .ok u => u
    | .error _ => t
  else t

def NfsHost.withPackage (s : NfsHost) (name : String) (f : NfsHost → NfsHost) :
    Except String NfsHost :=
  if s.packageInstalled then .ok (f s) else .error (name ++ ": command not found")

structure SameFiles (s t : NfsHost) : Prop where
  exportFile : t.exportFile = s.exportFile
  nfsConfigFile : t.nfsConfigFile = s.nfsConfigFile
  otherFiles : t.otherFiles = s.otherFiles
  spellings : t.spellings = s.spellings
  stateFile : t.stateFile = s.stateFile

variable {s t u : NfsHost}

theorem SameFiles.refl (s : NfsHost) : SameFiles s s := ⟨rfl, rfl, rfl, rfl, rfl⟩

theorem SameFiles.trans (h : SameFiles s t) (h' : SameFiles t u) : SameFiles s u :=
  ⟨h'.1.trans h.1, h'.2.trans h.2, h'.3.trans h.3, h'.4.trans h.4, h'.5.trans h.5⟩

section Files

variable {path : String}

theorem resolve_named (h : path = exportFilePath ∨ path = nfsConfigPath ∨ path = stateFilePath) :
    s.resolve path = path := if_pos h

theorem resolve_export : s.resolve exportFilePath = exportFilePath := resolve_named (Or.inl rfl)

theorem resolve_config : s.resolve nfsConfigPath = nfsConfigPath :=
  resolve_named (Or.inr (Or.inl rfl))

theorem resolve_state : s.resolve stateFilePath = stateFilePath :=
  resolve_named (Or.inr (Or.inr rfl))

theorem file_export : s.file exportFilePath = s.exportFile := by
  rw [NfsHost.file, resolve_export, NfsHost.content, if_pos rfl]
  cases s.exportFile <;> rfl

theorem file_config : s.file nfsConfigPath = s.nfsConfigFile := by
  have hne : nfsConfigPath ≠ exportFilePath := by decide
  rw [NfsHost.file, resolve_config, NfsHost.content, if_neg hne, if_pos rfl]
  cases s.nfsConfigFile <;> rfl

theorem removeFile_export : s.removeFile exportFilePath = { s with exportFile := none } := by
  rw [NfsHost.removeFile, resolve_export, NfsHost.remove, if_pos rfl]

theorem removeFile_config : s.removeFile nfsConfigPath = { s with nfsConfigFile := none } := by
  have hne : nfsConfigPath ≠ exportFilePath := by decide
  rw [NfsHost.removeFile, resolve_config, NfsHost.remove, if_neg hne, if_pos rfl]

theorem removeFile_state : s.removeFile stateFilePath = { s with stateFile := none } := by
  have hexport : stateFilePath ≠ exportFilePath := by decide
  have hconfig : stateFilePath ≠ nfsConfigPath := by decide
  rw [NfsHost.removeFile, resolve_state, NfsHost.remove, if_neg hexport, if_neg hconfig, if_pos rfl]

theorem isDirectory_state : s.isDirectory stateFilePath = false := by
  have hexport : stateFilePath ≠ exportFilePath := by decide
  have hconfig : stateFilePath ≠ nfsConfigPath := by decide
  rw [NfsHost.isDirectory, resolve_state, NfsHost.content, if_neg hexport, if_neg hconfig, if_pos rfl]
  cases s.stateFile <;> rfl

theorem removeFile_exportFile : (s.removeFile path).exportFile =
    if s.resolve path = exportFilePath then none else s.exportFile := by
  unfold NfsHost.removeFile NfsHost.remove
  by_cases hexport : s.resolve path = exportFilePath
  · simp [hexport]
  · split_ifs <;> rfl

theorem removeFile_nfsConfigFile : (s.removeFile path).nfsConfigFile =
    if s.resolve path = nfsConfigPath then none else s.nfsConfigFile := by
  unfold NfsHost.removeFile NfsHost.remove
  by_cases hconfig : s.resolve path = nfsConfigPath
  · simp [hconfig, nfsConfigPath, exportFilePath]
  · split_ifs <;> rfl

theorem removeFile_stateFile : (s.removeFile path).stateFile =
    if s.resolve path = stateFilePath then none else s.stateFile := by
  unfold NfsHost.removeFile NfsHost.remove
  by_cases hstate : s.resolve path = stateFilePath
  · simp [hstate, stateFilePath, nfsConfigPath, exportFilePath]
  · split_ifs <;> rfl

theorem mem_otherExports_removeFile {line : Text} (h : line ∈ (s.removeFile path).otherExports) :
    line ∈ s.otherExports := by
  unfold NfsHost.removeFile NfsHost.remove at h
  split_ifs at h
  · exact h
  · exact h
  · exact h
  · obtain ⟨f, hf, hline⟩ := List.mem_flatMap.mp h
    exact List.mem_flatMap.mpr ⟨f, (List.mem_filter.mp hf).1, hline⟩

/-- What the host is apart from its files. -/
structure SameServer (s t : NfsHost) : Prop where
  hasServerIp : t.hasServerIp = s.hasServerIp
  packageInstalled : t.packageInstalled = s.packageInstalled
  nfsServer : t.nfsServer = s.nfsServer
  threads : t.threads = s.threads
  portlist : t.portlist = s.portlist
  activeExports : t.activeExports = s.activeExports
  showmount : t.showmount = s.showmount
  otherClients : t.otherClients = s.otherClients

theorem SameServer.trans (h : SameServer s t) (h' : SameServer t u) : SameServer s u :=
  ⟨h'.1.trans h.1, h'.2.trans h.2, h'.3.trans h.3, h'.4.trans h.4, h'.5.trans h.5,
    h'.6.trans h.6, h'.7.trans h.7, h'.8.trans h.8⟩

theorem removeFile_files (s : NfsHost) (path : String) : s.removeFile path =
    { s with
      exportFile := (s.removeFile path).exportFile
      nfsConfigFile := (s.removeFile path).nfsConfigFile
      otherFiles := (s.removeFile path).otherFiles
      stateFile := (s.removeFile path).stateFile } := by
  unfold NfsHost.removeFile NfsHost.remove
  split_ifs <;> rfl

theorem removeFile_server (s : NfsHost) (path : String) : SameServer s (s.removeFile path) := by
  rw [removeFile_files]
  exact ⟨rfl, rfl, rfl, rfl, rfl, rfl, rfl, rfl⟩

theorem removeFile_eq_iff : s.removeFile path = s ↔ s.file path = none := by
  rw [NfsHost.file, Option.map_eq_none_iff]
  unfold NfsHost.removeFile NfsHost.remove NfsHost.content
  generalize s.resolve path = name
  obtain ⟨⟩ := s
  split_ifs
  · rw [Option.map_eq_none_iff]
    simp [eq_comm]
  · rw [Option.map_eq_none_iff]
    simp [eq_comm]
  · rw [Option.map_eq_none_iff]
    simp [eq_comm]
  · simp only [NfsHost.mk.injEq, List.filter_eq_self, List.lookup_eq_none_iff, and_true, true_and]
    refine forall₂_congr fun f _ => ?_
    rw [decide_eq_true_iff, bne_iff_ne]
    exact ne_comm

theorem SameFiles.resolve (h : SameFiles s t) (path : String) : t.resolve path = s.resolve path := by
  rw [NfsHost.resolve, NfsHost.resolve, h.spellings]

theorem SameFiles.isDirectory (h : SameFiles s t) (path : String) :
    t.isDirectory path = s.isDirectory path := by
  rw [NfsHost.isDirectory, NfsHost.isDirectory, h.resolve, NfsHost.content, NfsHost.content,
    h.exportFile, h.nfsConfigFile, h.otherFiles, h.stateFile]

theorem SameFiles.removeFile (h : SameFiles s t) (path : String) :
    SameFiles (s.removeFile path) (t.removeFile path) := by
  unfold NfsHost.removeFile NfsHost.remove
  rw [h.resolve]
  obtain ⟨hexport, hconfig, hothers, hspellings, hstate⟩ := h
  split_ifs
  · exact ⟨rfl, hconfig, hothers, hspellings, hstate⟩
  · exact ⟨hexport, rfl, hothers, hspellings, hstate⟩
  · exact ⟨hexport, hconfig, hothers, hspellings, rfl⟩
  · refine ⟨hexport, hconfig, ?_, hspellings, hstate⟩
    simp only [hothers]

theorem reexport_files (s : NfsHost) : SameFiles s s.reexport := ⟨rfl, rfl, rfl, rfl, rfl⟩

end Files

theorem flag_ne_empty (b : Bool) : flag b ≠ "" := by cases b <;> decide

theorem flag_injective {b c : Bool} : flag b = flag c ↔ b = c := by cases b <;> cases c <;> decide

theorem withPackage_ok {name : String} {f : NfsHost → NfsHost} :
    s.withPackage name f = .ok t ↔ s.packageInstalled = true ∧ t = f s := by
  by_cases h : s.packageInstalled = true <;> simp [NfsHost.withPackage, h, eq_comm]

theorem startServer_ok (h : s.startServer = .ok t) :
    SameFiles s t ∧ t.serverActive = true ∧ t.packageInstalled = s.packageInstalled := by
  cases hs : s.nfsServer with
  | missing => simp [NfsHost.startServer, hs] at h
  | inactive =>
    rw [NfsHost.startServer, hs, Except.ok.injEq] at h
    subst h
    exact ⟨⟨rfl, rfl, rfl, rfl, rfl⟩, rfl, rfl⟩
  | active =>
    rw [NfsHost.startServer, hs, Except.ok.injEq] at h
    subst h
    have hactive : s.serverActive = true := by simp [NfsHost.serverActive, hs]
    exact ⟨.refl s, hactive, rfl⟩

/-- A stopped unit is left alone, a running one loses its threads and exports. -/
theorem stopServer_cases (h : s.stopServer = .ok t) :
    s.nfsServer = .inactive ∧ t = s ∨ s.nfsServer = .active ∧
      t = { s with nfsServer := .inactive, threads := 0, portlist := [], activeExports := [] } := by
  cases hs : s.nfsServer with
  | missing => simp [NfsHost.stopServer, hs] at h
  | inactive =>
    rw [NfsHost.stopServer, hs, Except.ok.injEq] at h
    exact Or.inl ⟨rfl, h.symm⟩
  | active =>
    rw [NfsHost.stopServer, hs, Except.ok.injEq] at h
    exact Or.inr ⟨rfl, h.symm⟩

theorem stopServer_ok (h : s.stopServer = .ok t) : SameFiles s t ∧ t.serverActive = false := by
  rcases stopServer_cases h with ⟨hs, rfl⟩ | ⟨-, rfl⟩
  · have hstopped : t.serverActive = false := by simp [NfsHost.serverActive, hs]
    exact ⟨.refl t, hstopped⟩
  · exact ⟨⟨rfl, rfl, rfl, rfl, rfl⟩, rfl⟩

theorem stopServer_of_active (h : s.serverActive = true) :
    s.stopServer = .ok { s with
      nfsServer := .inactive, threads := 0, portlist := [], activeExports := [] } := by
  have hs : s.nfsServer = .active := by simpa [NfsHost.serverActive] using h
  simp [NfsHost.stopServer, hs]

theorem installServer_files (s : NfsHost) (starts : Bool) : SameFiles s (s.installServer starts) := by
  unfold NfsHost.installServer
  cases starts with
  | false => exact ⟨rfl, rfl, rfl, rfl, rfl⟩
  | true =>
    simp only [if_true]
    split
    · rename_i hu
      obtain ⟨⟨hexport, hconfig, hothers, hspellings, hstate⟩, -⟩ := startServer_ok hu
      exact ⟨hexport, hconfig, hothers, hspellings, hstate⟩
    · exact ⟨rfl, rfl, rfl, rfl, rfl⟩

theorem installServer_active (h : s.serverActive = true) (starts : Bool) :
    (s.installServer starts).serverActive = true := by
  have hs : s.nfsServer = .active := by simpa [NfsHost.serverActive] using h
  cases starts <;> simp [NfsHost.installServer, NfsHost.startServer, NfsHost.serverActive, hs]

end PdDisaggregation
