import PdDisaggregation.Script
import PdDisaggregation.Text

/-! `start-ram-storage.sh` and `stop-ram-storage.sh`: a `brd` RAM disk with a
file system, its mount and marker, and the `STATE_FILE` that outlives them. -/

namespace PdDisaggregation

structure FileSystem where
  marker : Bool
  deriving DecidableEq

structure RamDevice where
  name : String
  sizeBytes : Nat
  fileSystem : Option FileSystem
  deriving DecidableEq

/-- Who loaded the `brd` module that is in the kernel now. -/
inductive Loader where
  | start
  | other
  deriving DecidableEq

structure BrdModule where
  loader : Loader
  devices : List RamDevice
  deriving DecidableEq

structure MountEntry where
  source : String
  target : String
  deriving DecidableEq

structure RamState where
  ramDevice : Option String := none
  mountPoint : Option String := none
  ramSizeGib : Option String := none
  createdModule : Option String := none
  deriving DecidableEq

structure RamHost where
  memTotalKib : Nat
  memAvailableKib : Nat
  brd : Option BrdModule
  mounts : List MountEntry
  exported : Bool
  openUsers : Bool
  stateFile : Option RamState
  deriving DecidableEq

structure RamEnv where
  ramSizeGib : String := "8"
  ramDevice : String := "/dev/ram0"
  mountPoint : String := "/srv/dynamo-g4"

inductive StartCommand where
  | modprobeBrd
  | mkfsExt4
  | mount
  | installMarker
  | openStateFile
  | printfRamDevice
  | printfMountPoint
  | printfRamSizeGib
  | printfCreatedModule
  deriving DecidableEq

inductive StopCommand where
  | umount
  | modprobeRemove
  | removeStateFile
  deriving DecidableEq

abbrev Start := Script StartCommand String RamHost

abbrev Stop := Script StopCommand String RamHost

open Script

/-- `^/dev/ram[0-9]+$`. -/
def isRamDevice (device : String) : Bool :=
  let digits := device.toList.drop 8
  device.toList.take 8 == "/dev/ram".toList && !digits.isEmpty && digits.all Char.isDigit

def RamEnv.sizeGib (env : RamEnv) : Option Nat :=
  match env.ramSizeGib with
  | "4" => some 4
  | "6" => some 6
  | "8" => some 8
  | _ => none

def RamEnv.sizeKib (env : RamEnv) : Nat := env.sizeGib.getD 0 * 1024 * 1024

def RamEnv.sizeBytes (env : RamEnv) : Nat := env.sizeKib * 1024

namespace RamHost

def sourcesAt (s : RamHost) (mountPoint : String) : List String :=
  (s.mounts.filter (·.target == mountPoint)).map (·.source)

def device (s : RamHost) (name : String) : Option RamDevice :=
  match s.brd with
  | some m => m.devices.find? (·.name == name)
  | none => none

def deviceMounted (s : RamHost) (name : String) : Bool := s.mounts.any (·.source == name)

def hasMarker (s : RamHost) (name : String) : Bool :=
  match s.device name with
  | some ⟨_, _, some fs⟩ => fs.marker
  | _ => false

def hasSignature (s : RamHost) (name : String) : Bool :=
  match s.device name with
  | some d => d.fileSystem.isSome
  | none => false

/-- A `ram` line of `lsblk` that shows a mount point. -/
def ramMounted (s : RamHost) : Bool :=
  match s.brd with
  | some m => m.devices.any fun d => s.deviceMounted d.name
  | none => false

def setFileSystem (s : RamHost) (name : String) (fs : FileSystem) : RamHost :=
  { s with brd := s.brd.map fun m =>
      { m with devices := m.devices.map fun d =>
          if d.name = name then { d with fileSystem := some fs } else d } }

/-- `modprobe brd rd_nr=1 rd_size=...`. -/
def loadBrd (s : RamHost) (sizeKib : Nat) : RamHost :=
  { s with brd := some ⟨.start, [⟨"/dev/ram0", sizeKib * 1024, none⟩]⟩ }

def loadedBy (s : RamHost) (l : Loader) : Prop := ∃ m, s.brd = some m ∧ m.loader = l

/-- Modules, mounts and RAM contents are lost. -/
def reboot (s : RamHost) : RamHost :=
  { s with brd := none, mounts := [], exported := false, openUsers := false }

end RamHost

/-- `$source_device`: `findmnt` prints a line for each mount, the oldest first. -/
def sourceDevice (sources : List String) : String := "\n".intercalate sources.reverse

def adoptActive (env : RamEnv) : Start Unit := do
  let sources ← read (·.sourcesAt env.mountPoint)
  dieUnless (sources == [env.ramDevice])
    (env.mountPoint ++ " is mounted from unexpected source " ++ sourceDevice sources)
  dieUnless (← read (·.hasMarker env.ramDevice)) "existing mount lacks the Phase 2 marker"
  dieUnless ((← read (·.device env.ramDevice)).any (·.sizeBytes == env.sizeBytes))
    "existing RAM device size does not match request"

def memoryGate (env : RamEnv) : Start Unit := do
  let memTotalKib ← read (·.memTotalKib)
  let memAvailableKib ← read (·.memAvailableKib)
  let reserveKib := max (memTotalKib * 35 / 100) (16 * 1024 * 1024)
  dieUnless (env.sizeKib ≤ memTotalKib / 4) "requested RAM disk exceeds 25% of physical memory"
  dieUnless (env.sizeKib + reserveKib ≤ memAvailableKib)
    "requested RAM disk would violate the memory reserve"

def ensureModule (env : RamEnv) : Start String := do
  if ← read (·.brd.isNone) then
    exec .modprobeBrd (·.loadBrd env.sizeKib)
    return "1"
  else
    return "0"

def sizeRefusal (env : RamEnv) (device : Option RamDevice) : String :=
  "RAM device is " ++ toString ((device.map (·.sizeBytes)).getD 0) ++ " bytes, expected " ++
    toString env.sizeBytes

def signatureRefusal (env : RamEnv) : String :=
  env.ramDevice ++ " has an existing filesystem signature; refusing mkfs"

/-- Every device here has its entry under `/sys/class/block`, which the script asks for next. -/
def deviceGate (env : RamEnv) : Start Unit := do
  dieUnless (← read (·.device env.ramDevice)).isSome (env.ramDevice ++ " was not created")
  let device ← read (·.device env.ramDevice)
  dieUnless (device.any (·.sizeBytes == env.sizeBytes)) (sizeRefusal env device)
  dieUnless (!(← read (·.deviceMounted env.ramDevice)))
    (env.ramDevice ++ " is already mounted elsewhere")
  dieUnless (!(← read (·.hasSignature env.ramDevice))) (signatureRefusal env)

def formatAndMount (env : RamEnv) : Start Unit := do
  exec .mkfsExt4 (·.setFileSystem env.ramDevice ⟨false⟩)
  exec .mount fun s => { s with mounts := ⟨env.ramDevice, env.mountPoint⟩ :: s.mounts }
  exec .installMarker (·.setFileSystem env.ramDevice ⟨true⟩)

def printState (f : RamState → RamState) (s : RamHost) : RamHost :=
  { s with stateFile := s.stateFile.map f }

def writeRamState (env : RamEnv) (createdModule : String) : Start Unit := do
  exec .openStateFile fun s => { s with stateFile := some {} }
  exec .printfRamDevice (printState fun f => { f with ramDevice := some env.ramDevice })
  exec .printfMountPoint (printState fun f => { f with mountPoint := some env.mountPoint })
  exec .printfRamSizeGib (printState fun f => { f with ramSizeGib := some env.ramSizeGib })
  exec .printfCreatedModule (printState fun f => { f with createdModule := some createdModule })

def startRamStorage (env : RamEnv) : Start Unit := do
  dieUnless env.sizeGib.isSome "RAM_SIZE_GIB must be one of 4, 6, or 8"
  dieUnless (isRamDevice env.ramDevice) "RAM_DEVICE must be a brd /dev/ramN device"
  dieUnless (env.mountPoint == "/srv/dynamo-g4")
    ("refusing unexpected mount point: " ++ env.mountPoint)
  if (← read (·.sourcesAt env.mountPoint)).isEmpty then
    memoryGate env
    let createdModule ← ensureModule env
    deviceGate env
    formatAndMount env
    writeRamState env createdModule
  else adoptActive env

/-- The variables of the stop after it has sourced `STATE_FILE`. -/
def sourced (env : RamEnv) (s : RamHost) : RamEnv :=
  match s.stateFile with
  | some f =>
    { env with
      ramDevice := f.ramDevice.getD env.ramDevice
      mountPoint := f.mountPoint.getD env.mountPoint }
  | none => env

def recordedModule (s : RamHost) : String :=
  match s.stateFile with
  | some f => Text.orDefault f.createdModule "0"
  | none => "0"

def unmountRam (env : RamEnv) : Stop Unit := do
  let sources ← read (·.sourcesAt env.mountPoint)
  if !sources.isEmpty then
    dieUnless (sources == [env.ramDevice])
      (env.mountPoint ++ " uses unexpected source " ++ sourceDevice sources)
    dieUnless (← read (·.hasMarker env.ramDevice)) "mount lacks the Phase 2 marker"
    dieUnless (!(← read (·.exported))) (env.mountPoint ++ " is still exported; roll back NFS first")
    dieUnless (!(← read (·.openUsers))) (env.mountPoint ++ " still has open users")
    exec .umount fun s => { s with mounts := s.mounts.filter (·.target != env.mountPoint) }

def unloadBrd (createdModule : String) : Stop Unit := do
  if createdModule == "1" && (← read (·.brd.isSome)) then
    dieUnless (!(← read (·.ramMounted)))
      "another RAM block device is mounted; refusing to unload brd"
    exec .modprobeRemove fun s => { s with brd := none }

def stopRamStorage (env : RamEnv) : Stop Unit := do
  dieUnless (isRamDevice env.ramDevice) "RAM_DEVICE must be a brd /dev/ramN device"
  dieUnless (env.mountPoint == "/srv/dynamo-g4")
    ("refusing unexpected mount point: " ++ env.mountPoint)
  let createdModule ← read recordedModule
  let vars ← read (sourced env)
  unmountRam vars
  unloadBrd createdModule
  exec .removeStateFile fun s => { s with stateFile := none }

end PdDisaggregation
