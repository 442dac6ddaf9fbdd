import PdDisaggregation.KvbmWorker

/-! What a KVBM worker's answers mean, whatever messages come and however their tasks
interleave. The worker goes through the phases of one allocation; a ping is answered at
the last of them only. -/

namespace PdDisaggregation.Kvbm

inductive Phase where
  | idle
  | claimed
  | allocating
  | failed
  | built
  | installed (handler : BlockTransferHandler)
  | sent (handler : BlockTransferHandler)
  | ready (handler : BlockTransferHandler)

namespace Phase

inductive Next : Phase → Phase → Prop where
  | claim : Next idle claimed
  | take : Next claimed allocating
  | fail : Next allocating failed
  | build : Next allocating built
  | install (h : BlockTransferHandler) : Next built (installed h)
  | send (h : BlockTransferHandler) : Next (installed h) (sent h)
  | open (h : BlockTransferHandler) : Next (sent h) (ready h)

/-- The handler that transfers are given to. -/
def handler : Phase → Option BlockTransferHandler
  | installed h => some h
  | sent h => some h
  | ready h => some h
  | _ => none

def isReady : Phase → Bool
  | ready _ => true
  | _ => false

end Phase

variable {ρ : Type}

def Allowed (p : Phase) : Reply ρ → Prop
  | .pingAck => p.isReady = true
  | .pingDeferred => p.isReady = false
  | .transfer h _ => p.handler = some h
  | .notReady _ => p.handler = none
  | .metadata _ _ => True
  | .leaderAck => True

/-- The replies a worker may have given by the time it is in a phase: what it is for. -/
inductive Serves : List (Reply ρ) → Phase → Prop where
  | start : Serves [] .idle
  | next {replies : List (Reply ρ)} {p q : Phase} (h : Serves replies p) (hn : p.Next q) :
      Serves replies q
  | reply {replies : List (Reply ρ)} {p : Phase} {r : Reply ρ} (h : Serves replies p)
      (hr : Allowed p r) : Serves (replies ++ [r]) p

/-- The fields of a worker that an allocation changes. -/
structure Core where
  ready : Bool
  started : Bool
  deviceLayout : Option DeviceLayout
  handlerCell : Option BlockTransferHandler
  handlerTx : Bool
  handlerSent : Option BlockTransferHandler
  attempts : Nat
  failures : Nat

def Worker.core (w : Worker ρ) : Core :=
  ⟨w.ready, w.started, w.deviceLayout, w.handlerCell, w.handlerTx, w.handlerSent,
    w.allocations.length, w.failures.length⟩

def Phase.core (config : KvbmWorkerConfig) : Phase → Core
  | idle => ⟨false, false, some ⟨config.numDeviceBlocks⟩, none, true, none, 0, 0⟩
  | claimed => ⟨false, true, some ⟨config.numDeviceBlocks⟩, none, true, none, 0, 0⟩
  | allocating => ⟨false, true, none, none, true, none, 0, 0⟩
  | failed => ⟨false, true, none, none, true, none, 1, 1⟩
  | built => ⟨false, true, none, none, true, none, 1, 0⟩
  | installed h => ⟨false, true, none, some h, true, none, 1, 0⟩
  | sent h => ⟨false, true, none, some h, false, some h, 1, 0⟩
  | ready h => ⟨true, true, none, some h, false, some h, 1, 0⟩

/-- The phase a worker is in. -/
def Core.phase (c : Core) : Phase :=
  match c.handlerCell with
  | some h => if c.ready then .ready h else if c.handlerTx then .installed h else .sent h
  | none =>
    if !c.started then .idle
    else if c.deviceLayout.isSome then .claimed
    else if c.failures != 0 then .failed
    else if c.attempts == 0 then .allocating
    else .built

def Worker.phase (w : Worker ρ) : Phase := w.core.phase

/-- The handler comes from one of the allocations, which succeeded. -/
def Built (config : KvbmWorkerConfig) (allocations : List LeaderMetadata)
    (h : BlockTransferHandler) : Prop :=
  ∃ calls, ∃ leaderMeta ∈ allocations,
    performAllocationAndBuildHandler calls config ⟨config.numDeviceBlocks⟩ leaderMeta = .ok h

variable {config : KvbmWorkerConfig} {decode : List UInt8 → Option LeaderMetadata}
  {w : Worker ρ} {p : Phase}

theorem Phase.phase_core : (p.core config).phase = p := by cases p <;> rfl

theorem Worker.phase_of_core (hw : w.core = p.core config) : w.phase = p := by
  rw [phase, hw, Phase.phase_core]

theorem Phase.ready_core : (p.core config).ready = p.isReady := by cases p <;> rfl

theorem Phase.handlerCell_core : (p.core config).handlerCell = p.handler := by cases p <;> rfl

/-- Where the allocation is, as the task that carries it knows, and what the tasks of the
other messages have seen. -/
def TaskHolds (config : KvbmWorkerConfig) (w : Worker ρ) : WorkerTask ρ → Prop
  | .takeLayout _ => w.core = Phase.claimed.core config
  | .allocate layout _ =>
    w.core = Phase.allocating.core config ∧ layout = ⟨config.numDeviceBlocks⟩
  | .install h => w.core = Phase.built.core config ∧ Built config w.allocations h
  | .sendHandler h => w.core = (Phase.installed h).core config
  | .markReady => ∃ h, w.core = (Phase.sent h).core config
  | .pingAck => w.ready = true
  | .reportLayout => .pingAck ∈ w.replies
  | .transfer h _ => w.handlerCell = some h
  | _ => True

/-- The right to allocate, with the task that carries the allocation. -/
def held : WorkerTask ρ → ℕ
  | .takeLayout _ => 1
  | .allocate _ _ => 1
  | .install _ => 1
  | .sendHandler _ => 1
  | .markReady => 1
  | _ => 0

def Core.free (c : Core) : ℕ := if c.started && !c.ready && c.failures == 0 then 0 else 1

def free (w : Worker ρ) : ℕ := w.core.free

structure WorkerHolds (config : KvbmWorkerConfig) (w : Worker ρ) : Prop where
  core : w.core = w.phase.core config
  serves : Serves w.replies w.phase
  built : ∀ h, w.handlerCell = some h → Built config w.allocations h
  layoutReady : w.layoutReady = true → .pingAck ∈ w.replies
  layoutReadyTx : w.layoutReadyTx = !w.layoutReady

variable {answer : Answer} {leaderMeta : LeaderMetadata} {layout : DeviceLayout}
  {h : BlockTransferHandler}

theorem Built.mono {before after : List LeaderMetadata} (hb : Built config before h)
    (hsub : before <+: after) : Built config after h := by
  obtain ⟨calls, leaderMeta, hin, hok⟩ := hb
  exact ⟨calls, leaderMeta, hsub.subset hin, hok⟩

theorem advance_takeLayout (hw : w.core = Phase.claimed.core config) :
    advance config decode w (.takeLayout leaderMeta) answer =
      ({ w with deviceLayout := none }, [.allocate ⟨config.numDeviceBlocks⟩ leaderMeta]) := by
  have hlayout : w.deviceLayout = some ⟨config.numDeviceBlocks⟩ := congrArg Core.deviceLayout hw
  simp only [advance, hlayout]

theorem core_takeLayout (hw : w.core = Phase.claimed.core config) :
    { w with deviceLayout := none }.core = Phase.allocating.core config := by
  show { w.core with deviceLayout := none } = _
  rw [hw]
  rfl

theorem core_allocated (hw : w.core = Phase.allocating.core config) :
    { w with allocations := w.allocations ++ [leaderMeta] }.core = Phase.built.core config := by
  have hattempts : w.allocations.length = 0 := congrArg Core.attempts hw
  show { w.core with attempts := (w.allocations ++ [leaderMeta]).length } = _
  rw [hw, List.length_append, hattempts]
  rfl

theorem core_failed (hw : w.core = Phase.allocating.core config) (c : AllocationCall) :
    { w with
      allocations := w.allocations ++ [leaderMeta]
      failures := w.failures ++ [c] }.core = Phase.failed.core config := by
  have hattempts : w.allocations.length = 0 := congrArg Core.attempts hw
  have hfailures : w.failures.length = 0 := congrArg Core.failures hw
  show { w.core with
    attempts := (w.allocations ++ [leaderMeta]).length
    failures := (w.failures ++ [c]).length } = _
  rw [hw, List.length_append, List.length_append, hattempts, hfailures]
  rfl

theorem core_install (hw : w.core = Phase.built.core config) :
    { w with handlerCell := some h }.core = (Phase.installed h).core config := by
  show { w.core with handlerCell := some h } = _
  rw [hw]
  rfl

theorem advance_sendHandler (hw : w.core = (Phase.installed h).core config) :
    advance config decode w (.sendHandler h) answer =
      ({ w with handlerTx := false, handlerSent := some h }, [.markReady]) := by
  have htx : w.handlerTx = true := congrArg Core.handlerTx hw
  rw [advance, if_pos htx]

theorem core_sendHandler (hw : w.core = (Phase.installed h).core config) :
    { w with handlerTx := false, handlerSent := some h }.core = (Phase.sent h).core config := by
  show { w.core with handlerTx := false, handlerSent := some h } = _
  rw [hw]
  rfl

theorem core_markReady (hw : w.core = (Phase.sent h).core config) :
    { w with ready := true }.core = (Phase.ready h).core config := by
  show { w.core with ready := true } = _
  rw [hw]
  rfl

theorem core_claim (hw : w.core = Phase.idle.core config) :
    { w with started := true }.core = Phase.claimed.core config := by
  show { w.core with started := true } = _
  rw [hw]
  rfl

theorem WorkerHolds.isReady (hw : WorkerHolds config w) : w.phase.isReady = w.ready := by
  have hready : w.core.ready = (w.phase.core config).ready := congrArg Core.ready hw.core
  rw [Phase.ready_core] at hready
  exact hready.symm

theorem WorkerHolds.handler (hw : WorkerHolds config w) : w.phase.handler = w.handlerCell := by
  have hcell : w.core.handlerCell = (w.phase.core config).handlerCell :=
    congrArg Core.handlerCell hw.core
  rw [Phase.handlerCell_core] at hcell
  exact hcell.symm

theorem WorkerHolds.reply (hw : WorkerHolds config w) {r : Reply ρ} (hr : Allowed w.phase r) :
    WorkerHolds config (w.reply r) where
  core := hw.core
  serves := hw.serves.reply hr
  built := hw.built
  layoutReady h := List.mem_append_left _ (hw.layoutReady h)
  layoutReadyTx := hw.layoutReadyTx

/-- A step of the allocation. -/
theorem WorkerHolds.next {w' : Worker ρ} {q : Phase} (hw : WorkerHolds config w)
    (hp : w.core = p.core config) (hn : p.Next q) (hq : w'.core = q.core config)
    (hbuilt : ∀ h, w'.handlerCell = some h → Built config w'.allocations h)
    (hreplies : w'.replies = w.replies) (hlayout : w'.layoutReady = w.layoutReady)
    (htx : w'.layoutReadyTx = w.layoutReadyTx) : WorkerHolds config w' where
  core := by rw [Worker.phase_of_core hq, hq]
  serves := by
    have hserves := hw.serves
    rw [Worker.phase_of_core hp] at hserves
    rw [hreplies, Worker.phase_of_core hq]
    exact hserves.next hn
  built := hbuilt
  layoutReady h := by
    rw [hreplies]
    rw [hlayout] at h
    exact hw.layoutReady h
  layoutReadyTx := by rw [htx, hlayout, hw.layoutReadyTx]

/-- Before the allocation is claimed the worker is idle. -/
theorem WorkerHolds.idle (hw : WorkerHolds config w) (hstarted : w.started = false) :
    w.core = Phase.idle.core config := by
  have hcore : (w.phase.core config).started = false := by
    rw [← hw.core]
    exact hstarted
  rw [hw.core]
  cases hp : w.phase with
  | idle => rfl
  | _ => simp [hp, Phase.core] at hcore

theorem free_core (hw : w.core = p.core config) : free w = (p.core config).free := by
  rw [free, hw]

/-- What no step takes back. -/
structure Extends (w w' : Worker ρ) : Prop where
  ready : w.ready = true → w'.ready = true
  cell : ∀ h, w.handlerCell = some h → w'.handlerCell = some h
  replies : w.replies <+: w'.replies
  allocations : w.allocations <+: w'.allocations
  failures : w.failures <+: w'.failures

theorem Extends.refl : Extends w w :=
  ⟨id, fun _ => id, List.prefix_rfl, List.prefix_rfl, List.prefix_rfl⟩

theorem extends_reply (r : Reply ρ) : Extends w (w.reply r) :=
  ⟨id, fun _ => id, List.prefix_append _ _, List.prefix_rfl, List.prefix_rfl⟩

/-- A task that takes the allocation from one phase to the next. -/
structure Allocates (config : KvbmWorkerConfig) (w w' : Worker ρ) (task : WorkerTask ρ)
    (next : List (WorkerTask ρ)) (p q : Phase) : Prop where
  before : w.core = p.core config
  step : p.Next q
  after : w'.core = q.core config
  built : ∀ h, w'.handlerCell = some h → Built config w'.allocations h
  replies : w'.replies = w.replies
  layoutReady : w'.layoutReady = w.layoutReady
  layoutReadyTx : w'.layoutReadyTx = w.layoutReadyTx
  kept : Extends w w'
  tasks : ∀ task' ∈ next, TaskHolds config w' task'
  tokens : (q.core config).free + (next.map held).sum = (p.core config).free + held task
  claims : held task = 0 → w.started = false

/-- All that a task does to the worker at one of its steps. -/
inductive Move (config : KvbmWorkerConfig) (w : Worker ρ) :
    WorkerTask ρ → Worker ρ → List (WorkerTask ρ) → Prop where
  | pass {task : WorkerTask ρ} {next : List (WorkerTask ρ)} (hheld : held task = 0)
      (hnext : ∀ task' ∈ next, held task' = 0 ∧ TaskHolds config w task') :
      Move config w task w next
  | reply {task : WorkerTask ρ} {next : List (WorkerTask ρ)} {r : Reply ρ}
      (hheld : held task = 0) (hr : Allowed w.phase r)
      (hnext : ∀ task' ∈ next, held task' = 0 ∧ TaskHolds config (w.reply r) task') :
      Move config w task (w.reply r) next
  | layout (hack : .pingAck ∈ w.replies) :
      Move config w .reportLayout { w with layoutReadyTx := false, layoutReady := true } []
  | allocation {task : WorkerTask ρ} {w' : Worker ρ} {next : List (WorkerTask ρ)} {p q : Phase}
      (h : Allocates config w w' task next p q) : Move config w task w' next

theorem move_claim (hw : WorkerHolds config w) (hstarted : w.started = false) :
    Move config w (.compareExchange leaderMeta) { w with started := true }
      [.takeLayout leaderMeta] := by
  have hidle := hw.idle hstarted
  have hkept : Extends w { w with started := true } :=
    ⟨id, fun _ => id, List.prefix_rfl, List.prefix_rfl, List.prefix_rfl⟩
  apply Move.allocation
  refine ⟨hidle, .claim, core_claim hidle, hw.built, rfl, rfl, rfl, hkept, ?_, rfl,
    fun _ => hstarted⟩
  exact List.forall_mem_singleton.mpr (core_claim hidle)

theorem move_take (hw : WorkerHolds config w) (hcore : w.core = Phase.claimed.core config) :
    Move config w (.takeLayout leaderMeta) { w with deviceLayout := none }
      [.allocate ⟨config.numDeviceBlocks⟩ leaderMeta] := by
  have hkept : Extends w { w with deviceLayout := none } :=
    ⟨id, fun _ => id, List.prefix_rfl, List.prefix_rfl, List.prefix_rfl⟩
  apply Move.allocation
  refine ⟨hcore, .take, core_takeLayout hcore, hw.built, rfl, rfl, rfl, hkept, ?_, rfl,
    fun hheld => absurd hheld Nat.one_ne_zero⟩
  exact List.forall_mem_singleton.mpr ⟨core_takeLayout hcore, rfl⟩

theorem move_build {calls : AllocationCall → Bool} (hw : WorkerHolds config w)
    (hcore : w.core = Phase.allocating.core config)
    (hok : performAllocationAndBuildHandler calls config ⟨config.numDeviceBlocks⟩ leaderMeta =
      .ok h) :
    Move config w (.allocate ⟨config.numDeviceBlocks⟩ leaderMeta)
      { w with allocations := w.allocations ++ [leaderMeta] } [.install h] := by
  have hmono : w.allocations <+: w.allocations ++ [leaderMeta] := List.prefix_append _ _
  have hkept : Extends w { w with allocations := w.allocations ++ [leaderMeta] } :=
    ⟨id, fun _ => id, List.prefix_rfl, hmono, List.prefix_rfl⟩
  have hin : leaderMeta ∈ w.allocations ++ [leaderMeta] :=
    List.mem_append_right _ (List.mem_singleton.mpr rfl)
  apply Move.allocation
  refine ⟨hcore, .build, core_allocated hcore, fun h' hcell => (hw.built h' hcell).mono hmono,
    rfl, rfl, rfl, hkept, ?_, rfl, fun hheld => absurd hheld Nat.one_ne_zero⟩
  exact List.forall_mem_singleton.mpr ⟨core_allocated hcore, calls, leaderMeta, hin, hok⟩

theorem move_fail (hw : WorkerHolds config w) (hcore : w.core = Phase.allocating.core config)
    (c : AllocationCall) :
    Move config w (.allocate layout leaderMeta)
      { w with
        allocations := w.allocations ++ [leaderMeta]
        failures := w.failures ++ [c] } [] := by
  have hmono : w.allocations <+: w.allocations ++ [leaderMeta] := List.prefix_append _ _
  have hkept : Extends w { w with
      allocations := w.allocations ++ [leaderMeta]
      failures := w.failures ++ [c] } :=
    ⟨id, fun _ => id, List.prefix_rfl, hmono, List.prefix_append _ _⟩
  apply Move.allocation
  exact ⟨hcore, .fail, core_failed hcore c, fun h' hcell => (hw.built h' hcell).mono hmono,
    rfl, rfl, rfl, hkept, List.forall_mem_nil _, rfl, fun hheld => absurd hheld Nat.one_ne_zero⟩

theorem move_install (hcore : w.core = Phase.built.core config)
    (hbuilt : Built config w.allocations h) :
    Move config w (.install h) { w with handlerCell := some h } [.sendHandler h] := by
  -- the cell is empty until the one allocation is built
  have hnone : w.handlerCell = none := congrArg Core.handlerCell hcore
  have hkept : Extends w { w with handlerCell := some h } := by
    refine ⟨id, fun h' hcell => ?_, List.prefix_rfl, List.prefix_rfl, List.prefix_rfl⟩
    rw [hnone] at hcell
    contradiction
  have hcell : ∀ h', some h = some h' → Built config w.allocations h' := by
    rintro h' ⟨⟩
    exact hbuilt
  apply Move.allocation
  refine ⟨hcore, .install h, core_install hcore, hcell, rfl, rfl, rfl, hkept, ?_, rfl,
    fun hheld => absurd hheld Nat.one_ne_zero⟩
  exact List.forall_mem_singleton.mpr (core_install hcore)

theorem move_send (hw : WorkerHolds config w) (hcore : w.core = (Phase.installed h).core config) :
    Move config w (.sendHandler h) { w with handlerTx := false, handlerSent := some h }
      [.markReady] := by
  have hkept : Extends w { w with handlerTx := false, handlerSent := some h } :=
    ⟨id, fun _ => id, List.prefix_rfl, List.prefix_rfl, List.prefix_rfl⟩
  apply Move.allocation
  refine ⟨hcore, .send h, core_sendHandler hcore, hw.built, rfl, rfl, rfl, hkept, ?_, rfl,
    fun hheld => absurd hheld Nat.one_ne_zero⟩
  exact List.forall_mem_singleton.mpr ⟨h, core_sendHandler hcore⟩

theorem move_markReady (hw : WorkerHolds config w) (hcore : w.core = (Phase.sent h).core config) :
    Move config w .markReady { w with ready := true } [] := by
  have hkept : Extends w { w with ready := true } :=
    ⟨fun _ => rfl, fun _ => id, List.prefix_rfl, List.prefix_rfl, List.prefix_rfl⟩
  apply Move.allocation
  exact ⟨hcore, .open h, core_markReady hcore, hw.built, rfl, rfl, rfl, hkept,
    List.forall_mem_nil _, rfl, fun hheld => absurd hheld Nat.one_ne_zero⟩

/-- A ping waits for `ready`, and its answer opens the layout channel. -/
theorem advance_pings {task : WorkerTask ρ} (hw : WorkerHolds config w)
    (ht : TaskHolds config w task) (answer : Answer)
    (htask : task = .ping ∨ task = .pingAck ∨ task = .reportLayout) :
    Move config w task (advance config decode w task answer).1
      (advance config decode w task answer).2 := by
  rcases htask with rfl | rfl | rfl
  · rw [advance]
    split
    next hready => exact .pass rfl (List.forall_mem_singleton.mpr ⟨rfl, hready⟩)
    next hready =>
      have hphase : w.phase.isReady = false := by
        rw [hw.isReady]
        exact Bool.eq_false_iff.mpr hready
      exact .reply rfl hphase (List.forall_mem_nil _)
  · rw [advance]
    split
    · have hphase : w.phase.isReady = true := by
        rw [hw.isReady]
        exact ht
      have hack : .pingAck ∈ (w.reply .pingAck).replies :=
        List.mem_append_right _ (List.mem_singleton.mpr rfl)
      exact .reply rfl hphase (List.forall_mem_singleton.mpr ⟨rfl, hack⟩)
    · exact .pass rfl (List.forall_mem_nil _)
  · rw [advance]
    split
    · exact .layout ht
    · exact .pass rfl (List.forall_mem_nil _)

/-- A transfer goes to the handler in the cell, or is answered that there is none. -/
theorem advance_transfers {task : WorkerTask ρ} (hw : WorkerHolds config w)
    (ht : TaskHolds config w task) (answer : Answer)
    (htask : (∃ request, task = .transferBlocks request) ∨
      ∃ h request, task = .transfer h request) :
    Move config w task (advance config decode w task answer).1
      (advance config decode w task answer).2 := by
  rcases htask with ⟨request, rfl⟩ | ⟨h, request, rfl⟩
  · rw [advance]
    split
    next h hcell => exact .pass rfl (List.forall_mem_singleton.mpr ⟨rfl, hcell⟩)
    next hnone =>
      have hphase : w.phase.handler = none := by
        rw [hw.handler]
        exact hnone
      exact .reply rfl hphase (List.forall_mem_nil _)
  · have hphase : w.phase.handler = some h := by
      rw [hw.handler]
      exact ht
    exact .reply rfl hphase (List.forall_mem_nil _)

theorem advance_move {task : WorkerTask ρ} (hw : WorkerHolds config w)
    (ht : TaskHolds config w task) (answer : Answer) :
    Move config w task (advance config decode w task answer).1
      (advance config decode w task answer).2 := by
  cases task with
  | workerMetadata =>
    rw [advance]
    split
    · exact .reply rfl trivial (List.forall_mem_nil _)
    · exact .pass rfl (List.forall_mem_nil _)
  | leaderMetadata data =>
    rw [advance]
    split
    · exact .reply rfl trivial (List.forall_mem_singleton.mpr ⟨rfl, trivial⟩)
    · exact .pass rfl (List.forall_mem_singleton.mpr ⟨rfl, trivial⟩)
  | leaderPayload data =>
    rw [advance]
    split
    · exact .pass rfl (List.forall_mem_singleton.mpr ⟨rfl, trivial⟩)
    · exact .pass rfl (List.forall_mem_nil _)
  | compareExchange leaderMeta =>
    rw [advance]
    split
    · exact .pass rfl (List.forall_mem_nil _)
    next hstarted => exact move_claim hw (Bool.eq_false_iff.mpr hstarted)
  | takeLayout leaderMeta =>
    rw [advance_takeLayout ht]
    exact move_take hw ht
  | allocate layout leaderMeta =>
    obtain ⟨hcore, rfl⟩ := ht
    rw [advance]
    dsimp only
    split
    next h hok => exact move_build hw hcore hok
    next c hfailed => exact move_fail hw hcore c
  | install h => exact move_install ht.1 ht.2
  | sendHandler h =>
    rw [advance_sendHandler ht]
    exact move_send hw ht
  | markReady =>
    obtain ⟨h, hsent⟩ := ht
    exact move_markReady hw hsent
  | ping => exact advance_pings hw ht answer (.inl rfl)
  | pingAck => exact advance_pings hw ht answer (.inr (.inl rfl))
  | reportLayout => exact advance_pings hw ht answer (.inr (.inr rfl))
  | transferBlocks request => exact advance_transfers hw ht answer (.inl ⟨request, rfl⟩)
  | transfer h request => exact advance_transfers hw ht answer (.inr ⟨h, request, rfl⟩)

section Moves

variable {w' : Worker ρ} {task : WorkerTask ρ} {next : List (WorkerTask ρ)}

theorem Move.worker (hw : WorkerHolds config w) (hm : Move config w task w' next) :
    WorkerHolds config w' := by
  cases hm with
  | pass hheld hnext => exact hw
  | reply hheld hr hnext => exact hw.reply hr
  | layout hack => exact ⟨hw.core, hw.serves, hw.built, fun _ => hack, rfl⟩
  | allocation h =>
    exact hw.next h.before h.step h.after h.built h.replies h.layoutReady h.layoutReadyTx

theorem Move.tasks (hm : Move config w task w' next) :
    ∀ task' ∈ next, TaskHolds config w' task' := by
  cases hm with
  | pass hheld hnext => exact fun task' hin => (hnext task' hin).2
  | reply hheld hr hnext => exact fun task' hin => (hnext task' hin).2
  | layout hack => exact List.forall_mem_nil _
  | allocation h => exact h.tasks

theorem sum_held (hnext : ∀ task' ∈ next, held task' = 0) : (next.map held).sum = 0 := by
  apply List.sum_eq_zero
  intro n hn
  obtain ⟨task', hin, rfl⟩ := List.mem_map.mp hn
  exact hnext task' hin

/-- The right to allocate is handed on, never doubled or lost. -/
theorem Move.conserved (hm : Move config w task w' next) :
    free w' + (next.map held).sum = free w + held task := by
  cases hm with
  | pass hheld hnext => rw [hheld, sum_held fun task' hin => (hnext task' hin).1]
  | reply hheld hr hnext =>
    rw [hheld, sum_held fun task' hin => (hnext task' hin).1]
    rfl
  | layout hack => rfl
  | allocation h => rw [free_core h.before, free_core h.after, h.tokens]

theorem Move.kept (hm : Move config w task w' next) : Extends w w' := by
  cases hm with
  | pass hheld hnext => exact Extends.refl
  | reply hheld hr hnext => exact extends_reply _
  | layout hack => exact ⟨id, fun _ => id, List.prefix_rfl, List.prefix_rfl, List.prefix_rfl⟩
  | allocation h => exact h.kept

/-- A task that does not carry the allocation changes nothing of it, once it is claimed. -/
theorem Move.core_other (hm : Move config w task w' next) (hheld : held task = 0)
    (hstarted : w.started = true) : w'.core = w.core := by
  cases hm with
  | pass hheld hnext => rfl
  | reply hheld hr hnext => rfl
  | layout hack => rfl
  | allocation h =>
    rw [h.claims hheld] at hstarted
    contradiction

end Moves

/-- The other tasks: those that carry no allocation leave it as it is. -/
theorem advance_others {task other : WorkerTask ρ} (hw : WorkerHolds config w)
    (ht : TaskHolds config w task) (hu : TaskHolds config w other)
    (htokens : free w + held task + held other ≤ 1) (answer : Answer) :
    TaskHolds config (advance config decode w task answer).1 other := by
  have hmove : Move config w task (advance config decode w task answer).1 _ :=
    advance_move hw ht answer
  have hextends := hmove.kept
  have hcore : held other ≠ 0 → w.started = true →
      (advance config decode w task answer).1.core = w.core :=
    fun hheld => hmove.core_other (by omega)
  cases other with
  | takeLayout leaderMeta =>
    show Worker.core _ = _
    rw [hcore Nat.one_ne_zero (congrArg Core.started hu)]
    exact hu
  | allocate layout leaderMeta =>
    refine ⟨?_, hu.2⟩
    rw [hcore Nat.one_ne_zero (congrArg Core.started hu.1)]
    exact hu.1
  | install h =>
    refine ⟨?_, hu.2.mono hextends.allocations⟩
    rw [hcore Nat.one_ne_zero (congrArg Core.started hu.1)]
    exact hu.1
  | sendHandler h =>
    show Worker.core _ = _
    rw [hcore Nat.one_ne_zero (congrArg Core.started hu)]
    exact hu
  | markReady =>
    obtain ⟨h, hsent⟩ := hu
    refine ⟨h, ?_⟩
    rw [hcore Nat.one_ne_zero (congrArg Core.started hsent)]
    exact hsent
  | pingAck => exact hextends.ready hu
  | reportLayout => exact hextends.replies.subset hu
  | transfer h request => exact hextends.cell h hu
  | _ => trivial

theorem worker_sound (config : KvbmWorkerConfig) (decode : List UInt8 → Option LeaderMetadata) :
    Tasks.Sound (Starts (ρ := ρ)) (advance config decode) (WorkerHolds config)
      (TaskHolds config) free held 1 where
  arrives w task hstart := by
    obtain ⟨m, rfl⟩ := hstart
    cases m <;> trivial
  arrivesEmpty task hstart := by
    obtain ⟨m, rfl⟩ := hstart
    cases m <;> rfl
  shared w task answer hw ht := (advance_move hw ht answer).worker hw
  own w task answer hw ht := (advance_move hw ht answer).tasks
  conserved w task answer hw ht := (advance_move hw ht answer).conserved
  others w task other answer hw ht hu htokens := advance_others hw ht hu htokens answer

theorem worker_holds {s : Tasks.System (Worker ρ) (WorkerTask ρ)}
    (h : WorkerReaches config decode s) :
    Tasks.Holds (WorkerHolds config) (TaskHolds config) free held 1 s := by
  refine (worker_sound config decode).holds h ⟨?_, ?_, rfl⟩
  · exact ⟨rfl, .start, by simp [Worker.new], by simp [Worker.new], rfl⟩
  · intro task hin
    contradiction

/-- The answer under which everything succeeds. -/
def allWell : Answer := ⟨true, fun _ => true⟩

/-- The leader's metadata comes twice, then a ping and a transfer; a task runs to its end. -/
def servedRun : List (Tasks.Event (WorkerTask Unit) Answer) :=
  [.arrive (.leaderMetadata [[]]), .arrive (.leaderMetadata [[]])] ++
    List.replicate 11 (.run 0 allWell) ++
    [.arrive .ping] ++ List.replicate 3 (.run 0 allWell) ++
    [.arrive (.transferBlocks ())] ++ List.replicate 2 (.run 0 allWell)

def servedConfig : KvbmWorkerConfig := ⟨0, 4, 16, none⟩

def servedMetadata : LeaderMetadata := ⟨2, 0⟩

def servedHandler : BlockTransferHandler := ⟨["POSIX"], some ⟨0, 0, 4⟩, some ⟨1, 0, 2⟩, none⟩

def servedWorker : Worker Unit where
  ready := true
  started := true
  deviceLayout := none
  handlerCell := some servedHandler
  handlerTx := false
  handlerSent := some servedHandler
  layoutReadyTx := false
  layoutReady := true
  allocations := [servedMetadata]
  failures := []
  replies := [.leaderAck, .leaderAck, .pingAck, .transfer servedHandler ()]

theorem servedRun_starts : ∀ task, .arrive task ∈ servedRun → Starts task := by
  intro task hin
  simp only [servedRun, List.mem_append, List.mem_cons, List.not_mem_nil, or_false,
    List.mem_replicate, Tasks.Event.arrive.injEq, reduceCtorEq, and_false, or_self] at hin
  rcases hin with (rfl | rfl) | rfl
  · exact ⟨.leaderMetadata [[]], rfl⟩
  · exact ⟨.ping, rfl⟩
  · exact ⟨.transferBlocks (), rfl⟩

theorem servedRun_reaches :
    WorkerReaches servedConfig (fun _ => some servedMetadata) ⟨servedWorker, []⟩ :=
  Tasks.reaches_of_exec servedRun servedRun_starts rfl

/-- The first message has claimed the allocation, and the second has yet to be answered. -/
def claimedWorker : Worker Unit :=
  { (Worker.new servedConfig : Worker Unit) with started := true, replies := [.leaderAck] }

theorem claimedRun_reaches :
    WorkerReaches servedConfig (fun _ => some servedMetadata)
      ⟨claimedWorker, [.takeLayout servedMetadata, .leaderMetadata [[]]]⟩ :=
  Tasks.reaches_of_exec (servedRun.take 5)
    (fun task hin => servedRun_starts task (List.mem_of_mem_take hin)) rfl

variable {s t : Tasks.System (Worker ρ) (WorkerTask ρ)}

/-- However the messages interleave, what the worker replies is what its phase allows. -/
theorem worker_refines (h : WorkerReaches config decode s) :
    s.shared.core = s.shared.phase.core config ∧ Serves s.shared.replies s.shared.phase :=
  ⟨(worker_holds h).shared.core, (worker_holds h).shared.serves⟩

theorem worker_refines_served :
    servedWorker.core = (Phase.ready servedHandler).core servedConfig ∧
      Serves servedWorker.replies (Phase.ready servedHandler) :=
  worker_refines servedRun_reaches

theorem attempts_le (p : Phase) : (p.core config).attempts ≤ 1 := by
  cases p with
  | idle => exact Nat.zero_le 1
  | claimed => exact Nat.zero_le 1
  | allocating => exact Nat.zero_le 1
  | _ => exact Nat.le_refl 1

theorem allocations_le_one (h : WorkerReaches config decode s) :
    s.shared.allocations.length ≤ 1 := by
  show s.shared.core.attempts ≤ 1
  rw [(worker_holds h).shared.core]
  exact attempts_le _

/-- One allocation at most is ever begun, and the task that begins it finds the device layout. -/
theorem allocation_single_flight (h : WorkerReaches config decode s) :
    s.shared.allocations.length ≤ 1 ∧
      ∀ leaderMeta, .takeLayout leaderMeta ∈ s.tasks →
        s.shared.deviceLayout = some ⟨config.numDeviceBlocks⟩ := by
  constructor
  · exact allocations_le_one h
  · intro leaderMeta hin
    have hclaimed : s.shared.core = Phase.claimed.core config := (worker_holds h).tasks _ hin
    exact congrArg Core.deviceLayout hclaimed

theorem allocation_single_flight_claimed :
    claimedWorker.allocations.length ≤ 1 ∧
      ∀ leaderMeta, .takeLayout leaderMeta ∈
          [WorkerTask.takeLayout (ρ := Unit) servedMetadata, .leaderMetadata [[]]] →
        claimedWorker.deviceLayout = some ⟨4⟩ :=
  allocation_single_flight claimedRun_reaches

theorem Serves.after_ping {replies pre post : List (Reply ρ)} (h : Serves replies p)
    (heq : replies = pre ++ .pingAck :: post) :
    p.isReady = true ∧ ∀ r ∈ post, Allowed p r := by
  induction h generalizing post with
  | start => simp at heq
  | next hserves hn ih =>
    have hready := (ih heq).1
    cases hn <;> contradiction
  | @reply replies p r hserves hr ih =>
    rcases List.eq_nil_or_concat post with rfl | ⟨front, last, rfl⟩
    · have hlast : r = .pingAck := by
        have hinj := List.append_inj' heq rfl
        exact List.singleton_inj.mp hinj.2
      subst hlast
      exact ⟨hr, by simp⟩
    · rw [List.concat_eq_append, ← List.cons_append, ← List.append_assoc] at heq
      obtain ⟨hreplies, hlast⟩ := List.append_inj' heq rfl
      obtain ⟨hready, hpost⟩ := ih hreplies
      refine ⟨hready, ?_⟩
      intro r' hr'
      rw [List.concat_eq_append] at hr'
      rcases List.mem_append.mp hr' with hfront | hend
      · exact hpost r' hfront
      · rw [List.mem_singleton.mp hend, ← List.singleton_inj.mp hlast]
        exact hr

theorem isReady_core (hready : p.isReady = true) :
    ∃ h, p.core config = (Phase.ready h).core config := by
  cases p with
  | ready h => exact ⟨h, rfl⟩
  | _ => contradiction

theorem WorkerHolds.core_ready {w : Worker ρ} (hw : WorkerHolds config w)
    (hready : w.phase.isReady = true) :
    ∃ handler, w.core = (Phase.ready handler).core config := by
  rw [hw.core]
  exact isReady_core hready

/-- A worker that has acknowledged a ping has handed its transfer handler over, puts off no
later ping and refuses no later transfer, and that handler gets them all. -/
theorem ping_ack_means_ready (h : WorkerReaches config decode s) {pre post : List (Reply ρ)}
    (hreplies : s.shared.replies = pre ++ .pingAck :: post) :
    ∃ handler, s.shared.handlerCell = some handler ∧ s.shared.handlerSent = some handler ∧
      Built config s.shared.allocations handler ∧
      ∀ r ∈ post, r ≠ .pingDeferred ∧ (∀ request, r ≠ .notReady request) ∧
        ∀ handler' request, r = .transfer handler' request → handler' = handler := by
  have hw := (worker_holds h).shared
  obtain ⟨hready, hpost⟩ := hw.serves.after_ping hreplies
  obtain ⟨handler, hcore⟩ := hw.core_ready hready
  have hcell : s.shared.handlerCell = some handler := congrArg Core.handlerCell hcore
  have hphase : s.shared.phase.handler = some handler := by rw [hw.handler, hcell]
  refine ⟨handler, hcell, congrArg Core.handlerSent hcore, hw.built handler hcell, ?_⟩
  intro r hr
  have hallowed := hpost r hr
  refine ⟨?_, ?_, ?_⟩
  · rintro rfl
    rw [Allowed, hready] at hallowed
    contradiction
  · rintro request rfl
    rw [Allowed, hphase] at hallowed
    contradiction
  · rintro handler' request rfl
    rw [Allowed, hphase] at hallowed
    exact (Option.some.inj hallowed).symm

theorem ping_ack_means_ready_served :
    ∃ handler, servedWorker.handlerCell = some handler ∧
      servedWorker.handlerSent = some handler ∧
      Built servedConfig servedWorker.allocations handler ∧
      ∀ r ∈ [Reply.transfer servedHandler ()], r ≠ .pingDeferred ∧
        (∀ request, r ≠ .notReady request) ∧
          ∀ handler' request, r = .transfer handler' request → handler' = handler :=
  ping_ack_means_ready servedRun_reaches
    (show servedWorker.replies = [.leaderAck, .leaderAck] ++ .pingAck :: _ from rfl)

/-- The caller that waits for the layout goes on only when a ping was acknowledged and the
handler is there to be received. -/
theorem layout_ready_means_handler (h : WorkerReaches config decode s)
    (hlayout : s.shared.layoutReady = true) :
    .pingAck ∈ s.shared.replies ∧ ∃ handler, s.shared.handlerSent = some handler ∧
      s.shared.handlerCell = some handler := by
  have hw := (worker_holds h).shared
  have hack := hw.layoutReady hlayout
  refine ⟨hack, ?_⟩
  obtain ⟨pre, post, hreplies⟩ := List.append_of_mem hack
  obtain ⟨handler, hcore⟩ := hw.core_ready (hw.serves.after_ping hreplies).1
  exact ⟨handler, congrArg Core.handlerSent hcore, congrArg Core.handlerCell hcore⟩

end PdDisaggregation.Kvbm
