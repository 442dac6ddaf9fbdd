import PdDisaggregation.Check
import PdDisaggregation.Tasks

/-! The message handlers of a KVBM worker (`runtime-kvbm-distributed-worker.rs`). Each
message is handled by a task of its own; the leader's metadata makes one of them start
the allocation of the block tiers, and pings are answered when that has finished. -/

namespace PdDisaggregation.Kvbm

structure DeviceLayout where
  numBlocks : Nat
  deriving DecidableEq

/-- The blocks of one tier. The index is 0 for the device, 1 for the host, 2 for the disk. -/
structure BlockSet where
  blockSetIdx : Nat
  workerId : Nat
  numBlocks : Nat
  deriving DecidableEq

structure LeaderMetadata where
  numHostBlocks : Nat
  numDiskBlocks : Nat
  deriving DecidableEq

structure BlockTransferHandler where
  backends : List String
  deviceBlocks : Option BlockSet
  hostBlocks : Option BlockSet
  diskBlocks : Option BlockSet
  deriving DecidableEq

/-- `rank` is `none` in sharded mode. -/
structure KvbmWorkerConfig where
  deviceId : Nat
  numDeviceBlocks : Nat
  bytesPerBlock : Nat
  rank : Option Int
  deriving DecidableEq

/-- The calls of an allocation that can fail; a number is the index of a tier. -/
inductive AllocationCall where
  | newAgent
  | gdsParams
  | gdsBackend
  | posixParams
  | posixBackend
  | newStream
  | transferContext
  | buildLayout (blockSetIdx : Nat)
  | allocateLayout (blockSetIdx : Nat)
  | diskAllocator
  | nixlRegister (blockSetIdx : Nat)
  | layoutToBlocks (blockSetIdx : Nat)
  | newHandler
  deriving DecidableEq

def call (calls : AllocationCall → Bool) (c : AllocationCall) : Except AllocationCall Unit :=
  Check.require (calls c) c

def buildAgent (calls : AllocationCall → Bool) (useGds : Bool) :
    Except AllocationCall (List String) := do
  call calls .newAgent
  if useGds then
    call calls .gdsParams
    call calls .gdsBackend
  call calls .posixParams
  call calls .posixBackend
  return if useGds then ["GDS_MT", "POSIX"] else ["POSIX"]

def makeLayout (calls : AllocationCall → Bool) (blockSetIdx workerId numBlocks : Nat) :
    Except AllocationCall BlockSet := do
  call calls (.nixlRegister blockSetIdx)
  call calls (.layoutToBlocks blockSetIdx)
  return ⟨blockSetIdx, workerId, numBlocks⟩

/-- In replicated mode only rank 0 has host and disk blocks. -/
def shouldAllocateOffload : Option Int → Bool
  | none => true
  | some rank => rank == 0

def hostTier (calls : AllocationCall → Bool) (wanted : Bool) (workerId numBlocks : Nat) :
    Except AllocationCall (Option BlockSet) :=
  if wanted then do
    call calls (.buildLayout 1)
    call calls (.allocateLayout 1)
    let blocks ← makeLayout calls 1 workerId numBlocks
    return some blocks
  else return none

def diskTier (calls : AllocationCall → Bool) (wanted : Bool) (workerId numBlocks : Nat) :
    Except AllocationCall (Option BlockSet) :=
  if wanted then do
    call calls .diskAllocator
    call calls (.buildLayout 2)
    call calls (.allocateLayout 2)
    let blocks ← makeLayout calls 2 workerId numBlocks
    return some blocks
  else return none

def performAllocationAndBuildHandler (calls : AllocationCall → Bool) (config : KvbmWorkerConfig)
    (layout : DeviceLayout) (leaderMeta : LeaderMetadata) :
    Except AllocationCall BlockTransferHandler := do
  let offload := shouldAllocateOffload config.rank
  let needDisk := offload && decide (0 < leaderMeta.numDiskBlocks)
  let backends ← buildAgent calls needDisk
  call calls .newStream
  call calls .transferContext
  let deviceBlocks ← makeLayout calls 0 config.deviceId layout.numBlocks
  let hostBlocks ← hostTier calls (offload && decide (0 < leaderMeta.numHostBlocks))
    config.deviceId leaderMeta.numHostBlocks
  let diskBlocks ← diskTier calls needDisk config.deviceId leaderMeta.numDiskBlocks
  call calls .newHandler
  return ⟨backends, some deviceBlocks, hostBlocks, diskBlocks⟩

variable {ρ : Type}

inductive Message (ρ : Type) where
  | ping
  | workerMetadata
  | leaderMetadata (data : List (List UInt8))
  | transferBlocks (request : ρ)

/-- What the worker did with a message. A ping that is put off gets no answer. -/
inductive Reply (ρ : Type) where
  | metadata (numDeviceBlocks bytesPerBlock : Nat)
  | leaderAck
  | pingDeferred
  | pingAck
  | transfer (handler : BlockTransferHandler) (request : ρ)
  | notReady (request : ρ)

/-- Where a task is: each constructor stands before the step it names. -/
inductive WorkerTask (ρ : Type) where
  | workerMetadata
  | leaderMetadata (data : List (List UInt8))
  | leaderPayload (data : List (List UInt8))
  | compareExchange (leaderMeta : LeaderMetadata)
  | takeLayout (leaderMeta : LeaderMetadata)
  | allocate (layout : DeviceLayout) (leaderMeta : LeaderMetadata)
  | install (handler : BlockTransferHandler)
  | sendHandler (handler : BlockTransferHandler)
  | markReady
  | ping
  | pingAck
  | reportLayout
  | transferBlocks (request : ρ)
  | transfer (handler : BlockTransferHandler) (request : ρ)

def Message.task : Message ρ → WorkerTask ρ
  | .ping => .ping
  | .workerMetadata => .workerMetadata
  | .leaderMetadata data => .leaderMetadata data
  | .transferBlocks request => .transferBlocks request

/-- `handlerSent` and `layoutReady` are what has gone through the two oneshot channels,
`allocations` and `failures` the allocations begun and failed. -/
structure Worker (ρ : Type) where
  ready : Bool
  started : Bool
  deviceLayout : Option DeviceLayout
  handlerCell : Option BlockTransferHandler
  handlerTx : Bool
  handlerSent : Option BlockTransferHandler
  layoutReadyTx : Bool
  layoutReady : Bool
  allocations : List LeaderMetadata
  failures : List AllocationCall
  replies : List (Reply ρ)

def Worker.new (config : KvbmWorkerConfig) : Worker ρ where
  ready := false
  started := false
  deviceLayout := some ⟨config.numDeviceBlocks⟩
  handlerCell := none
  handlerTx := true
  handlerSent := none
  layoutReadyTx := true
  layoutReady := false
  allocations := []
  failures := []
  replies := []

def Worker.reply (w : Worker ρ) (r : Reply ρ) : Worker ρ := { w with replies := w.replies ++ [r] }

/-- What the world answers to a step: whether a reply can be sent, and which calls of an
allocation succeed. -/
structure Answer where
  sent : Bool
  calls : AllocationCall → Bool

/-- The message must have one frame. -/
def leaderPayload (decode : List UInt8 → Option LeaderMetadata) :
    List (List UInt8) → Option LeaderMetadata
  | [payload] => decode payload
  | _ => none

/-- One step of a task. `decode` is the decoding of the leader's payload. -/
def advance (config : KvbmWorkerConfig) (decode : List UInt8 → Option LeaderMetadata)
    (w : Worker ρ) (task : WorkerTask ρ) (answer : Answer) : Worker ρ × List (WorkerTask ρ) :=
  match task with
  | .workerMetadata =>
    (if answer.sent then w.reply (.metadata config.numDeviceBlocks config.bytesPerBlock) else w, [])
  | .leaderMetadata data =>
    -- a failed ACK is only logged
    (if answer.sent then w.reply .leaderAck else w, [.leaderPayload data])
  | .leaderPayload data =>
    match leaderPayload decode data with
    | some leaderMeta => (w, [.compareExchange leaderMeta])
    | none => (w, [])
  | .compareExchange leaderMeta =>
    if w.started then (w, []) else ({ w with started := true }, [.takeLayout leaderMeta])
  | .takeLayout leaderMeta =>
    match w.deviceLayout with
    | some layout => ({ w with deviceLayout := none }, [.allocate layout leaderMeta])
    | none => (w, [])
  | .allocate layout leaderMeta =>
    let w := { w with allocations := w.allocations ++ [leaderMeta] }
    match performAllocationAndBuildHandler answer.calls config layout leaderMeta with
    | .ok handler => (w, [.install handler])
    | .error c => ({ w with failures := w.failures ++ [c] }, [])
  | .install handler => ({ w with handlerCell := some handler }, [.sendHandler handler])
  | .sendHandler handler =>
    if w.handlerTx then ({ w with handlerTx := false, handlerSent := some handler }, [.markReady])
    else (w, [.markReady])
  | .markReady => ({ w with ready := true }, [])
  | .ping => if w.ready then (w, [.pingAck]) else (w.reply .pingDeferred, [])
  | .pingAck => if answer.sent then (w.reply .pingAck, [.reportLayout]) else (w, [])
  | .reportLayout =>
    if w.layoutReadyTx then ({ w with layoutReadyTx := false, layoutReady := true }, []) else (w, [])
  | .transferBlocks request =>
    match w.handlerCell with
    | some handler => (w, [.transfer handler request])
    | none => (w.reply (.notReady request), [])
  | .transfer handler request => (w.reply (.transfer handler request), [])

def Starts (task : WorkerTask ρ) : Prop := ∃ m : Message ρ, task = m.task

/-- The states of a worker that any messages, in any interleaving of their tasks, lead to. -/
def WorkerReaches (config : KvbmWorkerConfig) (decode : List UInt8 → Option LeaderMetadata)
    (s : Tasks.System (Worker ρ) (WorkerTask ρ)) : Prop :=
  Tasks.Reaches Starts (advance config decode) ⟨Worker.new config, []⟩ s

end PdDisaggregation.Kvbm
