import PdDisaggregation.KvbmReadiness

/-! When a KVBM worker can still become ready. There is one allocation in its life: while
it has not failed there are answers of the world that lead to an acknowledged ping, and
after it has failed no message does. -/

namespace PdDisaggregation.Kvbm

variable {ρ : Type} {config : KvbmWorkerConfig} {decode : List UInt8 → Option LeaderMetadata}
  {w : Worker ρ} {h : BlockTransferHandler} {pre post : List (WorkerTask ρ)}

theorem call_ok {calls : AllocationCall → Bool} {c : AllocationCall} :
    call calls c = .ok () ↔ calls c = true := Check.require_ok

theorem return_ok {ε α : Type} {a b : α} : (pure a : Except ε α) = .ok b ↔ b = a := by
  rw [eq_comm]
  exact Except.ok.injEq b a ▸ Iff.rfl

def agentCalls (useGds : Bool) : List AllocationCall :=
  .newAgent :: (if useGds then [.gdsParams, .gdsBackend] else []) ++ [.posixParams, .posixBackend]

def layoutCalls (blockSetIdx : Nat) : List AllocationCall :=
  [.nixlRegister blockSetIdx, .layoutToBlocks blockSetIdx]

def hostCalls (wanted : Bool) : List AllocationCall :=
  if wanted then [.buildLayout 1, .allocateLayout 1] ++ layoutCalls 1 else []

def diskCalls (wanted : Bool) : List AllocationCall :=
  if wanted then [.diskAllocator, .buildLayout 2, .allocateLayout 2] ++ layoutCalls 2 else []

variable {calls : AllocationCall → Bool}

theorem buildAgent_ok {useGds : Bool} {backends : List String} :
    buildAgent calls useGds = .ok backends ↔ (∀ c ∈ agentCalls useGds, calls c = true) ∧
      backends = if useGds then ["GDS_MT", "POSIX"] else ["POSIX"] := by
  cases useGds <;>
    simp [buildAgent, agentCalls, call_ok, return_ok, and_assoc, -bind_pure_comp]

theorem makeLayout_ok {blockSetIdx workerId numBlocks : Nat} {blocks : BlockSet} :
    makeLayout calls blockSetIdx workerId numBlocks = .ok blocks ↔
      (∀ c ∈ layoutCalls blockSetIdx, calls c = true) ∧
        blocks = ⟨blockSetIdx, workerId, numBlocks⟩ := by
  simp [makeLayout, layoutCalls, call_ok, return_ok, and_assoc, -bind_pure_comp]

theorem hostTier_ok {wanted : Bool} {workerId numBlocks : Nat} {blocks : Option BlockSet} :
    hostTier calls wanted workerId numBlocks = .ok blocks ↔
      (∀ c ∈ hostCalls wanted, calls c = true) ∧
        blocks = if wanted then some ⟨1, workerId, numBlocks⟩ else none := by
  cases wanted <;>
    simp [hostTier, hostCalls, call_ok, makeLayout_ok, return_ok, and_assoc,
      or_imp, forall_and, -bind_pure_comp]

theorem diskTier_ok {wanted : Bool} {workerId numBlocks : Nat} {blocks : Option BlockSet} :
    diskTier calls wanted workerId numBlocks = .ok blocks ↔
      (∀ c ∈ diskCalls wanted, calls c = true) ∧
        blocks = if wanted then some ⟨2, workerId, numBlocks⟩ else none := by
  cases wanted <;>
    simp [diskTier, diskCalls, call_ok, makeLayout_ok, return_ok, and_assoc,
      or_imp, forall_and, -bind_pure_comp]

def wantsHost (config : KvbmWorkerConfig) (leaderMeta : LeaderMetadata) : Bool :=
  shouldAllocateOffload config.rank && decide (0 < leaderMeta.numHostBlocks)

def wantsDisk (config : KvbmWorkerConfig) (leaderMeta : LeaderMetadata) : Bool :=
  shouldAllocateOffload config.rank && decide (0 < leaderMeta.numDiskBlocks)

/-- The calls an allocation makes, in order. -/
def neededCalls (config : KvbmWorkerConfig) (leaderMeta : LeaderMetadata) : List AllocationCall :=
  agentCalls (wantsDisk config leaderMeta) ++ [.newStream, .transferContext] ++ layoutCalls 0 ++
    hostCalls (wantsHost config leaderMeta) ++ diskCalls (wantsDisk config leaderMeta) ++
    [.newHandler]

/-- The handler of an allocation that succeeds. -/
def wantedHandler (config : KvbmWorkerConfig) (layout : DeviceLayout)
    (leaderMeta : LeaderMetadata) : BlockTransferHandler where
  backends := if wantsDisk config leaderMeta then ["GDS_MT", "POSIX"] else ["POSIX"]
  deviceBlocks := some ⟨0, config.deviceId, layout.numBlocks⟩
  hostBlocks :=
    if wantsHost config leaderMeta then some ⟨1, config.deviceId, leaderMeta.numHostBlocks⟩
    else none
  diskBlocks :=
    if wantsDisk config leaderMeta then some ⟨2, config.deviceId, leaderMeta.numDiskBlocks⟩
    else none

/-- An allocation succeeds when all the calls it makes do. -/
theorem performAllocation_ok {layout : DeviceLayout} {leaderMeta : LeaderMetadata} :
    performAllocationAndBuildHandler calls config layout leaderMeta = .ok h ↔
      (∀ c ∈ neededCalls config leaderMeta, calls c = true) ∧
        h = wantedHandler config layout leaderMeta := by
  simp [performAllocationAndBuildHandler, neededCalls, wantedHandler, wantsHost, wantsDisk,
    buildAgent_ok, makeLayout_ok, hostTier_ok, diskTier_ok, call_ok, return_ok, and_assoc, or_imp,
    forall_and, -bind_pure_comp]

variable {handler : BlockTransferHandler} {s t : Tasks.System (Worker ρ) (WorkerTask ρ)}

/-- In replicated mode a worker of another rank than 0 has device blocks only, and no GDS. -/
theorem wantedHandler_replicated {rank : Int} (hrank : config.rank = some rank) (hne : rank ≠ 0)
    (layout : DeviceLayout) (leaderMeta : LeaderMetadata) :
    wantedHandler config layout leaderMeta =
      ⟨["POSIX"], some ⟨0, config.deviceId, layout.numBlocks⟩, none, none⟩ := by
  have hoffload : shouldAllocateOffload config.rank = false := by
    rw [hrank]
    exact beq_eq_false_iff_ne.mpr hne
  rw [wantedHandler, wantsHost, wantsDisk, hoffload]
  rfl

/-- The handler that transfers are given to is the one the first allocation's metadata asks
for, and device blocks only on a replica. -/
theorem handler_as_wanted (hreach : WorkerReaches config decode s)
    (hcell : s.shared.handlerCell = some handler) :
    (∃ leaderMeta, s.shared.allocations = [leaderMeta] ∧
        handler = wantedHandler config ⟨config.numDeviceBlocks⟩ leaderMeta) ∧
      ∀ rank, config.rank = some rank → rank ≠ 0 →
        handler = ⟨["POSIX"], some ⟨0, config.deviceId, config.numDeviceBlocks⟩, none, none⟩ := by
  obtain ⟨calls, leaderMeta, hin, hbuilt⟩ := (worker_holds hreach).shared.built handler hcell
  have hhandler := (performAllocation_ok.mp hbuilt).2
  refine ⟨⟨leaderMeta, ?_, hhandler⟩, ?_⟩
  · have hlength : s.shared.allocations.length = 1 :=
      Nat.le_antisymm (allocations_le_one hreach) (List.length_pos_of_mem hin)
    obtain ⟨m, hall⟩ := List.length_eq_one_iff.mp hlength
    rw [hall, List.mem_singleton] at hin
    rw [hall, hin]
  · intro rank hrank hne
    rw [hhandler, wantedHandler_replicated hrank hne]

def replicaConfig : KvbmWorkerConfig := ⟨3, 4, 16, some 1⟩

def replicaHandler : BlockTransferHandler := ⟨["POSIX"], some ⟨0, 3, 4⟩, none, none⟩

def replicaWorker : Worker Unit :=
  { servedWorker with
    handlerCell := some replicaHandler
    handlerSent := some replicaHandler
    replies := [.leaderAck, .leaderAck, .pingAck, .transfer replicaHandler ()] }

theorem replicaRun_reaches :
    WorkerReaches replicaConfig (fun _ => some servedMetadata) ⟨replicaWorker, []⟩ :=
  Tasks.reaches_of_exec servedRun servedRun_starts rfl

theorem handler_as_wanted_replica :
    (∃ leaderMeta, replicaWorker.allocations = [leaderMeta] ∧
        replicaHandler = wantedHandler replicaConfig ⟨4⟩ leaderMeta) ∧
      ∀ rank, replicaConfig.rank = some rank → rank ≠ 0 →
        replicaHandler = ⟨["POSIX"], some ⟨0, 3, 4⟩, none, none⟩ :=
  handler_as_wanted replicaRun_reaches rfl

/-- Some answers of the world from here on make the worker acknowledge a ping. -/
def CanBecomeReady (config : KvbmWorkerConfig) (decode : List UInt8 → Option LeaderMetadata)
    (s : Tasks.System (Worker ρ) (WorkerTask ρ)) : Prop :=
  ∃ t, Tasks.Reaches Starts (advance config decode) s t ∧ .pingAck ∈ t.shared.replies

theorem CanBecomeReady.of_reaches (h : Tasks.Reaches Starts (advance config decode) s t)
    (ht : CanBecomeReady config decode t) : CanBecomeReady config decode s := by
  obtain ⟨u, hu, hack⟩ := ht
  exact ⟨u, h.trans hu, hack⟩

theorem canBecomeReady_run {task : WorkerTask ρ}
    (h : CanBecomeReady config decode ⟨(advance config decode w task allWell).1,
      pre ++ (advance config decode w task allWell).2 ++ post⟩) :
    CanBecomeReady config decode ⟨w, pre ++ task :: post⟩ :=
  h.of_reaches (Tasks.Reaches.run allWell)

theorem canBecomeReady_arrive (m : Message ρ)
    (h : CanBecomeReady config decode { s with tasks := s.tasks ++ [m.task] }) :
    CanBecomeReady config decode s :=
  h.of_reaches (Tasks.Reaches.arrive ⟨m, rfl⟩)

theorem canBecomeReady_of_ready (hready : s.shared.ready = true) :
    CanBecomeReady config decode s := by
  apply canBecomeReady_arrive .ping
  apply canBecomeReady_run
  rw [Message.task, advance, if_pos hready, List.append_nil]
  apply canBecomeReady_run
  exact ⟨_, .refl, List.mem_append_right _ (List.mem_singleton.mpr rfl)⟩

theorem canBecomeReady_markReady :
    CanBecomeReady config decode ⟨w, pre ++ .markReady :: post⟩ := by
  apply canBecomeReady_run
  exact canBecomeReady_of_ready rfl

theorem canBecomeReady_sendHandler :
    CanBecomeReady config decode ⟨w, pre ++ .sendHandler handler :: post⟩ := by
  apply canBecomeReady_run
  rw [advance]
  split
  · rw [List.append_assoc]
    exact canBecomeReady_markReady
  · rw [List.append_assoc]
    exact canBecomeReady_markReady

theorem canBecomeReady_install :
    CanBecomeReady config decode ⟨w, pre ++ .install handler :: post⟩ := by
  apply canBecomeReady_run
  rw [advance, List.append_assoc]
  exact canBecomeReady_sendHandler

theorem canBecomeReady_allocate {layout : DeviceLayout} {leaderMeta : LeaderMetadata} :
    CanBecomeReady config decode ⟨w, pre ++ .allocate layout leaderMeta :: post⟩ := by
  have hok : performAllocationAndBuildHandler allWell.calls config layout leaderMeta =
      .ok (wantedHandler config layout leaderMeta) :=
    performAllocation_ok.mpr ⟨fun _ _ => rfl, rfl⟩
  apply canBecomeReady_run
  simp only [advance, hok]
  rw [List.append_assoc]
  exact canBecomeReady_install

theorem canBecomeReady_takeLayout {leaderMeta : LeaderMetadata}
    (hw : w.core = Phase.claimed.core config) :
    CanBecomeReady config decode ⟨w, pre ++ .takeLayout leaderMeta :: post⟩ := by
  apply canBecomeReady_run
  rw [advance_takeLayout hw, List.append_assoc]
  exact canBecomeReady_allocate

/-- The leader's metadata arrives and is handled before anything else. -/
theorem canBecomeReady_idle {payload : List UInt8} {leaderMeta : LeaderMetadata}
    (hdecode : decode payload = some leaderMeta) (hw : s.shared.core = Phase.idle.core config) :
    CanBecomeReady config decode s := by
  have hstarted : s.shared.started = false := congrArg Core.started hw
  apply canBecomeReady_arrive (.leaderMetadata [payload])
  apply canBecomeReady_run
  rw [Message.task, advance, List.append_assoc]
  apply canBecomeReady_run
  simp only [advance, leaderPayload, hdecode]
  rw [List.append_assoc]
  apply canBecomeReady_run
  simp only [advance, allWell, Worker.reply, if_true, hstarted, Bool.false_eq_true, if_false]
  rw [List.append_assoc]
  exact canBecomeReady_takeLayout (core_claim hw)

/-- The task that carries the allocation can run to its end. -/
theorem canBecomeReady_of_held {task : WorkerTask ρ} (ht : TaskHolds config w task)
    (hheld : held task ≠ 0) : CanBecomeReady config decode ⟨w, pre ++ task :: post⟩ := by
  cases task with
  | takeLayout leaderMeta => exact canBecomeReady_takeLayout ht
  | allocate layout leaderMeta => exact canBecomeReady_allocate
  | install h => exact canBecomeReady_install
  | sendHandler h => exact canBecomeReady_sendHandler
  | markReady => exact canBecomeReady_markReady
  | _ => contradiction

theorem canBecomeReady_of_no_failure {payload : List UInt8} {leaderMeta : LeaderMetadata}
    (hdecode : decode payload = some leaderMeta) (hreach : WorkerReaches config decode s)
    (hfailures : s.shared.failures = []) : CanBecomeReady config decode s := by
  have hs := worker_holds hreach
  by_cases hready : s.shared.ready = true
  · exact canBecomeReady_of_ready hready
  by_cases hstarted : s.shared.started = true
  · have hfree : free s.shared < 1 := by
      simp [free, Core.free, Worker.core, hready, hstarted, hfailures]
    obtain ⟨task, hin, hheld⟩ := hs.exists_held hfree
    obtain ⟨pre, post, htasks⟩ := List.append_of_mem hin
    obtain ⟨w, tasks⟩ := s
    subst htasks
    exact canBecomeReady_of_held (hs.tasks task hin) hheld
  · exact canBecomeReady_idle hdecode (hs.shared.idle (Bool.eq_false_iff.mpr hstarted))

/-- No step takes a failure back. -/
theorem reaches_failures (hreach : WorkerReaches config decode s)
    (h : Tasks.Reaches Starts (advance config decode) s t) :
    s.shared.failures <+: t.shared.failures := by
  induction h with
  | refl => exact List.prefix_rfl
  | @tail t u ht hstep ih =>
    obtain ⟨e, -, he⟩ := hstep
    have hholds := worker_holds (hreach.trans ht)
    rcases Tasks.step_cases he with ⟨task, rfl, rfl⟩ | ⟨pre, task, post, answer, htasks, rfl⟩
    · exact ih
    · have htask : task ∈ t.tasks := by simp [htasks]
      exact ih.trans (advance_move hholds.shared (hholds.tasks task htask) answer).kept.failures

theorem failures_of_pingAck (h : WorkerReaches config decode s)
    (hack : .pingAck ∈ s.shared.replies) : s.shared.failures = [] := by
  have hw := (worker_holds h).shared
  obtain ⟨pre, post, hreplies⟩ := List.append_of_mem hack
  obtain ⟨handler, hcore⟩ := hw.core_ready (hw.serves.after_ping hreplies).1
  exact List.length_eq_zero_iff.mp (congrArg Core.failures hcore)

/-- A worker can still become ready exactly when its allocation has not failed: a failure is
for good, and nothing else stands in the way. -/
theorem can_become_ready_iff (hpayload : ∃ payload, (decode payload).isSome = true)
    (hreach : WorkerReaches config decode s) :
    CanBecomeReady config decode s ↔ s.shared.failures = [] := by
  constructor
  · rintro ⟨t, ht, hack⟩
    have hnone := failures_of_pingAck (hreach.trans ht) hack
    have hprefix := reaches_failures hreach ht
    rw [hnone] at hprefix
    exact List.prefix_nil.mp hprefix
  · intro hnone
    obtain ⟨payload, hsome⟩ := hpayload
    obtain ⟨leaderMeta, hdecode⟩ := Option.isSome_iff_exists.mp hsome
    exact canBecomeReady_of_no_failure hdecode hreach hnone

theorem can_become_ready_iff_claimed :
    CanBecomeReady servedConfig (fun _ => some servedMetadata)
        ⟨claimedWorker, [.takeLayout servedMetadata, .leaderMetadata [[]]]⟩ ↔
      claimedWorker.failures = [] :=
  can_become_ready_iff ⟨[], rfl⟩ claimedRun_reaches

end PdDisaggregation.Kvbm
