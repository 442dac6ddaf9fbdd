import PdDisaggregation.NfsMount
import PdDisaggregation.Node3Boot

/-! node1, which mounts the export of node3, and node3. Their scripts run in any order and may
be cut anywhere, but one is not begun while another one runs. -/

namespace PdDisaggregation

open Script

/-- What `mount` on node1 needs of node3. -/
structure Offering (s : NfsHost) : Prop where
  running : s.nfsServer = .active
  exported : exportLine ∈ s.activeExports
  listener : rdmaListener ∈ s.portlist

/-- The mount is `stale` when node3 has lost its power since. A server that runs lists
whoever has mounted its export. -/
structure StoragePair where
  mount : Option Mount
  stale : Bool
  node3 : Node3
  listed : mount.isSome = true → stale = false → node3.nfs.nfsServer = .active →
    activeClients exportPath node3.nfs ≠ []

def NfsHost.listing (s : NfsHost) (showmount : Option (List Text)) : NfsHost :=
  { s with showmount := showmount }

def Node3.listing (n : Node3) (showmount : Option (List Text)) : Node3 :=
  { n with nfs := n.nfs.listing showmount }

namespace StoragePair

/-- node1 has the export mounted, and node3 has kept its power. -/
def Holding (p : StoragePair) : Prop := p.mount.isSome = true ∧ p.stale = false

/-- node1 before it mounts. -/
def fresh (n : Node3) : StoragePair := ⟨none, false, n, by simp⟩

end StoragePair

/-- One run on node1, which may be cut anywhere, one change of node3, or a loss of power. The
marker node1 finds below its mount point is that of the directory node3 exports. -/
inductive PairStep (killed : Prop) : StoragePair → StoragePair → Prop
  | mount {p q : StoragePair} {t : MountHost} (done : List MountCommand) (out : MountOutcomes)
      (users : Bool) (showmount : Option (List Text))
      (h : Stops (node1NfsRdmaMount {} out)
        ⟨p.mount, p.node3.ram.markerAt exportPath, users⟩ done t)
      (hoffers : out.mount.isSome = true → Offering p.node3.nfs) (hm : q.mount = t.mount)
      (hs : q.stale = (p.stale && p.mount.isSome)) (hn : q.node3 = p.node3.listing showmount) :
      PairStep killed p q
  | unmount {p q : StoragePair} {t : MountHost} (done : List MountCommand) (marker users : Bool)
      (showmount : Option (List Text))
      (h : Stops (node1NfsRdmaUnmount {}) ⟨p.mount, marker, users⟩ done t)
      (hmarker : p.Holding → marker = p.node3.ram.markerAt exportPath) (hm : q.mount = t.mount)
      (hs : q.stale = p.stale) (hn : q.node3 = p.node3.listing showmount) :
      PairStep killed p q
  | change {p q : StoragePair} (h : Node3Change killed p.node3 q.node3) (hm : q.mount = p.mount)
      (hs : q.stale = p.stale) : PairStep killed p q
  | node3Lost {p q : StoragePair} (h : Node3Outage p.node3 q.node3) (hm : q.mount = p.mount)
      (hs : q.stale = true) : PairStep killed p q
  | node1Lost (p : StoragePair) : PairStep killed p (.fresh p.node3)

abbrev PairReaches (killed : Prop) := Relation.ReflTransGen (PairStep killed)

/-- A run in which node1 keeps the export mounted and node3 its power. -/
abbrev KeepsMounted (killed : Prop) :=
  Relation.ReflTransGen fun p q => PairStep killed p q ∧ q.Holding

section Server

variable {s t : NfsHost}

/-- The export file is that of the setup or absent. -/
def OwnExport (s : NfsHost) : Prop :=
  s.exportFile = none ∨ s.exportFile = some (exportLine ++ ['\n'])

theorem Offering.congr (h : Offering s) (hu : t.nfsServer = s.nfsServer)
    (he : t.activeExports = s.activeExports) (hl : t.portlist = s.portlist) : Offering t :=
  ⟨hu.trans h.running, he ▸ h.exported, hl ▸ h.listener⟩

theorem Offering.startServer (h : Offering s) (hs : s.startServer = .ok t) : t = s := by
  rw [NfsHost.startServer, h.running, Except.ok.injEq] at hs
  exact hs.symm

theorem Offering.installServer (h : Offering s) (starts : Bool) :
    s.installServer starts = { s with packageInstalled := true } := by
  have hrunning : (if s.nfsServer = .missing then ServiceUnit.inactive else s.nfsServer) =
      s.nfsServer := by
    rw [h.running]
    rfl
  rw [NfsHost.installServer, hrunning]
  cases starts with
  | false => rfl
  | true => simp [NfsHost.startServer, h.running]

def OfferingOwn (_ : List SetupCommand) (s : NfsHost) : Prop := Offering s ∧ OwnExport s

/-- Every `exportfs -ra` reads the export from the file. -/
def OfferingFile (_ : List SetupCommand) (s : NfsHost) : Prop :=
  Offering s ∧ s.exportFile = some (exportLine ++ ['\n'])

theorem OfferingFile.reexport {done : List SetupCommand} (h : OfferingFile done s) :
    OfferingFile (done ++ [.exportfsRa]) s.reexport := by
  refine ⟨⟨h.1.running, ?_, h.1.listener⟩, h.2⟩
  show exportLine ∈ s.otherExports ++ (s.exportFile.map Text.lines).getD []
  rw [h.2]
  exact List.mem_append_right _ exportLine_exported

theorem offering_installPackage (p : String) : Keeps OfferingOwn (installPackage {} p) := by
  refine keeps_reading fun installed => keeps_ite ?_ (keeps_pure ())
  iterate 2 apply keeps_check
  refine keeps_exec fun _ s h => ?_
  rw [h.1.installServer]
  exact ⟨h.1.congr rfl rfl rfl, h.2⟩

theorem offering_writeConfig : Keeps OfferingFile writeConfig := by
  refine keeps_reading fun content => ?_
  cases content with
  | some content => exact keeps_dieUnless _ _
  | none => exact keeps_exec fun _ s h => ⟨h.1.congr rfl rfl rfl, h.2⟩

theorem offering_startNfsd : Keeps OfferingFile startNfsd := by
  refine keeps_bind (keeps_exec fun _ s h => ⟨h.1.congr rfl rfl rfl, h.2⟩) fun _ => ?_
  refine keeps_bind (keeps_attempt ?_ fun _ _ h => h) fun _ => ?_
  · intro _ s t h ht
    exact h.1.startServer ht ▸ h
  refine keeps_bind (keeps_attempt ?_ fun _ _ h => h) fun _ => ?_
  · intro _ s t h ht
    obtain ⟨-, rfl⟩ := withPackage_ok.mp ht
    exact ⟨h.1.congr rfl rfl rfl, h.2⟩
  refine keeps_bind (keeps_attempt ?_ fun _ _ h => h) fun _ => ?_
  · intro _ s t h ht
    obtain ⟨-, rfl⟩ := withPackage_ok.mp ht
    exact h.reexport
  refine keeps_reading fun listed => keeps_ite ?_ (keeps_pure ())
  refine keeps_exec fun _ s h => ⟨⟨h.1.running, h.1.exported, ?_⟩, h.2⟩
  exact List.mem_cons_of_mem _ h.1.listener

theorem offering_writeState (p a : String) : Keeps OfferingFile (writeState p a) := by
  refine keeps_bind (keeps_exec fun _ s h => ⟨h.1.congr rfl rfl rfl, h.2⟩) fun _ => ?_
  refine keeps_bind (keeps_exec fun _ s h => ⟨h.1.congr rfl rfl rfl, h.2⟩) fun _ => ?_
  exact keeps_exec fun _ s h => ⟨h.1.congr rfl rfl rfl, h.2⟩

/-- The setup behind the check of the export file. -/
theorem offering_afterExport (p a : String) : Keeps OfferingFile (do
    writeConfig
    startNfsd
    writeState p a
    exec .exportfsV id
    exec .catPortlist id : Setup Unit) := by
  refine keeps_bind offering_writeConfig fun _ => keeps_bind offering_startNfsd fun _ => ?_
  refine keeps_bind (offering_writeState p a) fun _ => ?_
  exact keeps_bind (keeps_exec fun _ _ h => h) fun _ => keeps_exec fun _ _ h => h

/-- A setup does not take a running server's export away, wherever it stops. -/
theorem setup_offering (hown : OwnExport s) (h : Offering s) :
    Cuts (fun _ => Offering) [] (node3NfsRdmaSetup {}) s := by
  refine passive_setupChecks.meets_bind h fun _ _ => ?_
  rw [Cuts, meets_bind, meets_read]
  refine (offering_installPackage _).meets_bind ⟨h, hown⟩ (fun _ _ h => h.1) fun _ done t ht => ?_
  have hwritten (done : List SetupCommand) (u : NfsHost) (hu : OfferingFile done u) :=
    (offering_afterExport (capturedState {} s).1 (capturedState {} s).2 done u hu).mono
      (fun _ _ _ h => h.1) (fun _ _ _ h => h.1)
  rw [meets_bind, writeExport, meets_bind, meets_read]
  rcases ht.2 with hnone | hsome
  · simp only [hnone, meets_exec]
    exact ⟨ht.1, hwritten _ _ ⟨ht.1.congr rfl rfl rfl, rfl⟩⟩
  · simp only [hsome, meets_dieUnless, exportLine_accepted, true_implies, reduceCtorEq,
      false_implies, and_true]
    exact hwritten _ _ ⟨ht.1, hsome⟩

/-- With a client listed the rollback gives up before it touches the export. -/
theorem rollback_listed (hplain : s.Plain) (h : activeClients exportPath s ≠ []) :
    Cuts (fun _ t => t = s ∨ t = { s with nfsConfigFile := none }) []
      (node3NfsRdmaRollback {}) s := by
  let P (t : NfsHost) : Prop := t = s ∨ t = { s with nfsConfigFile := none }
  have hconfig : Keeps (fun _ => P) (removeConfig nfsConfigPath) := by
    refine keeps_removeConfig fun t ht => ?_
    rcases ht with rfl | rfl
    · exact Or.inr rfl
    · exact Or.inr rfl
  have hid (done : List RollbackCommand) (t : NfsHost) (ht : P t) : P t := ht
  refine rollback_cuts hplain (Or.inl rfl) ?_
  refine hconfig.meets_bind (Or.inl rfl) hid fun _ done t ht => ?_
  have hclients : (activeClients exportPath t).isEmpty = false := by
    rw [Bool.eq_false_iff, Ne, List.isEmpty_iff]
    rcases ht with rfl | rfl
    · exact h
    · exact h
  simp only [meets_bind, meets_read, meets_dieUnless, hclients, reduceCtorEq, false_implies,
    true_implies, true_and]
  exact ht

end Server

section Steps

variable {killed : Prop} {n t : Node3} {p q : StoragePair}

/-- Of what node3 can do, only what a listed client forbids would take the export away. -/
theorem Node3Holds.change_offering (h : Node3Holds n) (ho : Offering n.nfs)
    (hclients : activeClients exportPath n.nfs ≠ []) (hchange : Node3Change killed n t) :
    Offering t.nfs := by
  have hview : Offering n.nfsView := ho.congr rfl rfl rfl
  have hown : OwnExport n.nfsView := h.nfs.exportFile
  cases hchange with
  | applyTos done hstops => exact (h.tosStops (.inl hstops)).nfs ▸ ho
  | removeTos done hstops => exact (h.tosStops (.inr hstops)).nfs ▸ ho
  | startRam | stopRam | units => exact ho
  | setup r hends =>
    obtain ⟨-, hafter⟩ := (setup_offering hown hview).ends hends
    exact hafter
  | setupKilled done _ hstops => exact (setup_offering hown hview).stops hstops
  | rollback done hstops =>
    rcases (rollback_listed h.nfs.plain hclients).stops hstops with rfl | rfl
    · exact ho
    · exact ho.congr rfl rfl rfl
  | others => exact ho.congr rfl rfl rfl

/-- No more does it take the disk away where that is what is exported. -/
theorem Node3Holds.change_disk (h : Node3Holds n) (he : exportLine ∈ n.nfs.activeExports)
    (hmarker : n.ram.markerAt exportPath = true) (hchange : Node3Change killed n t) :
    SameDisk n.ram t.ram := by
  have hmounted : n.ramView.sourcesAt exportPath ≠ [] := sourcesAt_of_markerAt hmarker
  cases hchange with
  | applyTos done hstops =>
    rw [(h.tosStops (.inl hstops)).ram]
    exact ⟨rfl, rfl, rfl⟩
  | removeTos done hstops =>
    rw [(h.tosStops (.inr hstops)).ram]
    exact ⟨rfl, rfl, rfl⟩
  | @startRam r done hstops =>
    obtain rfl : r = n.ramView := (start_mounted hmounted).stops hstops
    exact ⟨rfl, rfl, rfl⟩
  | @stopRam r done hstops =>
    have hfile : OwnFile n.ramView.stateFile := h.file
    obtain rfl : r = n.ramView := (stop_exported hfile hmounted (h.exportedView he)).stops hstops
    exact ⟨rfl, rfl, rfl⟩
  | setup | setupKilled | rollback | units | others => exact ⟨rfl, rfl, rfl⟩

/-- What a pair does is a run of its node3. -/
theorem PairStep.node3 (h : PairStep killed p q) : Node3Reaches killed p.node3 q.node3 := by
  have hlisting (showmount : Option (List Text)) :
      Node3Reaches killed p.node3 (p.node3.listing showmount) :=
    .single (.change (.others p.node3 showmount p.node3.ram.openUsers p.node3.nfs.ramMarker
      p.node3.ram.exported p.node3.ram.memTotalKib p.node3.ram.memAvailableKib))
  cases h with
  | mount done out users showmount _ _ _ _ hn => exact hn ▸ hlisting showmount
  | unmount done marker users showmount _ _ _ _ hn => exact hn ▸ hlisting showmount
  | change hchange => exact .single (.change hchange)
  | node3Lost houtage => exact .single (.outage houtage)
  | node1Lost => exact .refl

theorem PairReaches.node3 (h : PairReaches killed p q) : Node3Reaches killed p.node3 q.node3 := by
  induction h with
  | refl => exact .refl
  | tail _ hstep ih => exact ih.trans hstep.node3

/-- Whose export node1 has mounted still offers it. -/
def Offered (p : StoragePair) : Prop := p.Holding → Offering p.node3.nfs

theorem Offered.clients (h : Offered p) (hp : p.Holding) :
    activeClients exportPath p.node3.nfs ≠ [] :=
  p.listed hp.1 hp.2 (h hp).running

theorem passive_mountChecks (env : MountEnv) : Passive (mountChecks env) :=
  passive_check (passive_check (passive_check (passive_dieUnless _ _)))

theorem passive_fastPath (env : MountEnv) (m : Mount) : Passive (fastPath env m) :=
  passive_check (passive_check (passive_dieUnless _ _))

theorem passive_mountedChecks : Passive mountedChecks :=
  passive_reading fun _ => passive_check (passive_check (passive_reading fun _ =>
    passive_dieUnless _ _))

theorem keeps_runs {J : List MountCommand → MountHost → Prop}
    (hJ : ∀ c done u, J done u → J (c :: done) u) (ok : Bool) (c : MountCommand) :
    Keeps J (runs ok c) := by
  refine keeps_attempt (fun done u v hu hv => ?_) (hJ c)
  cases ok with
  | false => simp at hv
  | true =>
    rw [if_pos rfl, Except.ok.injEq] at hv
    exact hv ▸ hJ c done u hu

/-- A run of the mount script either leaves what was mounted or mounts what node3 offers. -/
theorem mount_stops {out : MountOutcomes} {s t : MountHost} {done : List MountCommand}
    (h : Stops (node1NfsRdmaMount {} out) s done t) :
    t.mount = s.mount ∨ s.mount = none ∧ out.mount.isSome = true := by
  let J (_ : List MountCommand) (u : MountHost) : Prop :=
    u.mount = s.mount ∨ s.mount = none ∧ out.mount.isSome = true
  have hslow (hnone : s.mount = none) : Keeps J (slowPath {} out) := by
    have hmount : Keeps J (mountNfs {} out) := by
      refine keeps_attempt (fun _ u v hu hv => ?_) fun _ _ h => h
      cases hout : out.mount with
      | none => simp [hout] at hv
      | some options =>
        right
        rw [hout]
        exact ⟨hnone, rfl⟩
    have hruns := keeps_runs (J := J) fun _ _ _ h => h
    refine keeps_bind (hruns _ _) fun _ => keeps_bind (hruns _ _) fun _ => ?_
    refine keeps_bind hmount fun _ => keeps_bind passive_mountedChecks.keeps fun _ => ?_
    exact keeps_bind (hruns _ _) fun _ => keeps_bind (hruns _ _) fun _ => hruns _ _
  have hcuts : Cuts J [] (node1NfsRdmaMount {} out) s := by
    refine (passive_mountChecks _).meets_bind (Or.inl rfl) fun _ _ => ?_
    rw [Cuts, meets_bind, meets_read]
    cases hs : s.mount with
    | none => exact hslow hs [] s (Or.inl rfl)
    | some m => exact (passive_fastPath _ m).keeps [] s (Or.inl rfl)
  exact hcuts.stops h

/-- A run of the unmount script leaves what is mounted or nothing. -/
theorem unmount_stops {s t : MountHost} {done : List MountCommand}
    (h : Stops (node1NfsRdmaUnmount {}) s done t) : t.mount = s.mount ∨ t.mount = none := by
  let J (_ : List MountCommand) (u : MountHost) : Prop := u.mount = s.mount ∨ u.mount = none
  have humount : Keeps J umount := by
    refine keeps_attempt (fun _ u v hu hv => ?_) fun _ _ h => h
    split at hv
    · contradiction
    · exact Or.inr (Except.ok.inj hv ▸ rfl)
  have hkeeps : Keeps J (node1NfsRdmaUnmount {}) := by
    refine keeps_check (keeps_reading fun mounted => ?_)
    have hrmdir : Keeps J (exec .rmdir id : MountScript Unit) := keeps_exec fun _ _ h => h
    cases mounted with
    | none => exact keeps_bind (keeps_pure ()) fun _ => hrmdir
    | some m =>
      refine keeps_check (keeps_reading fun marker => keeps_check ?_)
      refine keeps_reading fun users => keeps_check (keeps_bind humount fun _ => hrmdir)
  exact (hkeeps [] s (Or.inl rfl)).stops h

theorem Offered.step (h : Offered p) (hnode3 : Node3Holds p.node3) (hstep : PairStep killed p q) :
    Offered q := by
  intro hq
  obtain ⟨hmounted, hstale⟩ := hq
  cases hstep with
  | mount done out users showmount hstops hoffers hm hs hn =>
    have hoffering : Offering p.node3.nfs := by
      rw [hm] at hmounted
      rcases mount_stops hstops with hsame | ⟨hnone, hmounts⟩
      · have hbefore : p.mount.isSome = true := by rwa [hsame] at hmounted
        rw [hs, hbefore, Bool.and_true] at hstale
        exact h ⟨hbefore, hstale⟩
      · exact hoffers hmounts
    rw [hn]
    exact hoffering.congr rfl rfl rfl
  | unmount done marker users showmount hstops hmarker hm hs hn =>
    rw [hm] at hmounted
    have hbefore : p.mount.isSome = true := by
      rcases unmount_stops hstops with hsame | hnone
      · rwa [hsame] at hmounted
      · rw [hnone] at hmounted
        contradiction
    rw [hn]
    exact (h ⟨hbefore, hs ▸ hstale⟩).congr rfl rfl rfl
  | change hchange hm hs =>
    have hp : p.Holding := ⟨hm ▸ hmounted, hs ▸ hstale⟩
    exact hnode3.change_offering (h hp) (h.clients hp) hchange
  | node3Lost houtage hm hs =>
    rw [hs] at hstale
    contradiction
  | node1Lost => exact absurd hmounted Bool.false_ne_true

theorem offered_fresh (n : Node3) : Offered (.fresh n) :=
  fun hp => absurd hp.1 Bool.false_ne_true

theorem pair_holds {before : Node3} (hbefore : BeforePhase2 before)
    (h : PairReaches killed (.fresh before) p) : Node3Holds p.node3 ∧ Offered p := by
  induction h with
  | refl => exact ⟨hbefore.holds, offered_fresh before⟩
  | tail hreach hstep ih =>
    exact ⟨node3Holds hbefore ((PairReaches.node3 hreach).trans hstep.node3), ih.2.step ih.1 hstep⟩

theorem Offered.sameDisk (h : Offered p) (hnode3 : Node3Holds p.node3) (hp : p.Holding)
    (hmarker : p.node3.ram.markerAt exportPath = true) (hq : q.Holding)
    (hstep : PairStep killed p q) : SameDisk p.node3.ram q.node3.ram := by
  cases hstep with
  | mount done out users showmount _ _ _ _ hn =>
    rw [hn]
    exact ⟨rfl, rfl, rfl⟩
  | unmount done marker users showmount _ _ _ _ hn =>
    rw [hn]
    exact ⟨rfl, rfl, rfl⟩
  | change hchange => exact hnode3.change_disk (h hp).exported hmarker hchange
  | node3Lost houtage hm hs =>
    have hstale := hs.symm.trans hq.2
    contradiction
  | node1Lost => exact ⟨rfl, rfl, rfl⟩

theorem SameDisk.markerAt {s t : RamHost} (h : SameDisk s t) (mountPoint : String) :
    t.markerAt mountPoint = s.markerAt mountPoint := by
  have hdevice (source : String) : t.hasMarker source = s.hasMarker source := by
    rw [RamHost.hasMarker, RamHost.hasMarker, device_congr h.brd]
  rw [RamHost.markerAt, RamHost.markerAt, h.mounts]
  cases s.mounts.find? (·.target == mountPoint) with
  | none => rfl
  | some m => exact hdevice m.source

theorem keepsMounted_reaches (h : KeepsMounted killed p q) : PairReaches killed p q := by
  induction h with
  | refl => exact .refl
  | tail _ hstep ih => exact ih.tail hstep.1

theorem keepsMounted_sameDisk {before : Node3} (hbefore : BeforePhase2 before)
    (hreach : PairReaches killed (.fresh before) p) (hp : p.Holding)
    (hmarker : p.node3.ram.markerAt exportPath = true) (hrun : KeepsMounted killed p q) :
    q.Holding ∧ SameDisk p.node3.ram q.node3.ram := by
  induction hrun with
  | refl => exact ⟨hp, ⟨rfl, rfl, rfl⟩⟩
  | tail hrun hstep ih =>
    obtain ⟨hq, hsame⟩ := ih
    obtain ⟨hnode3, hoffered⟩ := pair_holds hbefore (hreach.trans (keepsMounted_reaches hrun))
    have hstill := (hsame.markerAt exportPath).trans hmarker
    have hdisk := hoffered.sameDisk hnode3 hq hstill hstep.2 hstep.1
    refine ⟨hstep.2, hdisk.brd.trans hsame.brd, hdisk.mounts.trans hsame.mounts, ?_⟩
    exact hdisk.stateFile.trans hsame.stateFile

/-- Every command of the mount script succeeds, and the new mount has `options`. -/
structure Mounts (out : MountOutcomes) (options : Text) : Prop where
  commands : out.modprobe = true ∧ out.install = true ∧ out.mount = some options
  reports : out.findmnt = true ∧ out.nfsstat = true ∧ out.ipRoute = true
  rdma : isOption "proto=rdma" options = true ∧ rdmaWord options = true
  nfsv3 : isOption "vers=3" options = true

theorem Serving.offering {s : NfsHost} (h : Serving s) (he : exportLine ∈ s.activeExports) :
    Offering s := by
  have hrunning := h.serverActive
  rw [NfsHost.serverActive, beq_iff_eq] at hrunning
  exact ⟨hrunning, he, h.portlist⟩

def diskNode3 : Node3 := { installFiles freshNode3 with ram := activeHost }

/-- A setup has ended on it. -/
def servingNode3 : Node3 :=
  { diskNode3 with nfs := (node3NfsRdmaSetup {} diskNode3.nfsView).state }

def node1Listed : Option (List Text) := some ["172.31.230.111:/srv/dynamo-g4".toList]

theorem node1Listed_clients (s : NfsHost) :
    activeClients exportPath (s.listing node1Listed) ≠ [] := by
  show ["172.31.230.111:/srv/dynamo-g4".toList].filter (Text.contains exportPath.toList) ≠ []
  decide +kernel

def mountedPair : StoragePair where
  mount := some ⟨({} : MountEnv).source, nfsOptions⟩
  stale := false
  node3 := servingNode3.listing node1Listed
  listed _ _ _ := node1Listed_clients _

theorem rollback_listed_state {s : NfsHost} (hplain : s.Plain)
    (h : activeClients exportPath s ≠ []) :
    activeClients exportPath (node3NfsRdmaRollback {} s).state ≠ [] := by
  obtain ⟨-, hsame | hsame⟩ := (rollback_listed hplain h).ends ⟨rfl, rfl⟩
  · rwa [hsame]
  · rwa [hsame]

theorem serving_setUp : SetUp diskNode3.nfsView servingNode3.nfs := by
  have hown : NfsOwn diskNode3.nfsView :=
    freshNode3_before.holds.nfs.congr rfl rfl (by decide) ⟨rfl, rfl, rfl, rfl, rfl⟩
  obtain ⟨t, ht, hset⟩ := setup_own hown (by decide +kernel)
  obtain rfl : servingNode3.nfs = t := ht.2
  exact hset

/-- A rollback has been tried while node1 has the export mounted. -/
def refusedPair : StoragePair where
  mount := mountedPair.mount
  stale := false
  node3 := { mountedPair.node3 with
    nfs := (node3NfsRdmaRollback {} mountedPair.node3.nfs).state }
  listed _ _ _ :=
    rollback_listed_state (written_plain serving_setUp.stateFile) (node1Listed_clients _)

theorem serving_offering : Offering servingNode3.nfs := by
  exact serving_setUp.serving.offering serving_setUp.exported

theorem nfsOptions_mounts : Mounts allSucceed nfsOptions := by
  obtain ⟨hrdma, hnfsv3, hoption⟩ := nfsOptions_accepted
  exact ⟨⟨rfl, rfl, rfl⟩, ⟨rfl, rfl, rfl⟩, ⟨hoption, hrdma⟩, hnfsv3⟩

theorem fresh_change (h : Node3Change killed n t) :
    PairStep killed (.fresh n) (.fresh t) := .change h rfl rfl

theorem setup_change (n : Node3) : Node3Change killed n { n with
    nfs := (node3NfsRdmaSetup {} n.nfsView).state } := .setup _ ⟨rfl, rfl⟩

theorem rollback_change (n : Node3) : Node3Change killed n { n with
    nfs := (node3NfsRdmaRollback {} n.nfs).state } := by
  have hends : Ends (node3NfsRdmaRollback {}) n.nfs (node3NfsRdmaRollback {} n.nfs).result
      (node3NfsRdmaRollback {} n.nfs).state := ⟨rfl, rfl⟩
  obtain ⟨done, hstops⟩ := hends.stops
  exact .rollback done hstops

theorem serving_reaches : PairReaches killed (.fresh freshNode3) (.fresh servingNode3) := by
  have hinstall : Node3Change killed freshNode3 (installFiles freshNode3) := .units _ _ _ _ _ _
  obtain ⟨done, hstart⟩ := start_activates.stops
  have hdisk : Node3Change killed (installFiles freshNode3) diskNode3 := .startRam done hstart
  have hserve : Node3Change killed diskNode3 servingNode3 := setup_change diskNode3
  exact ((Relation.ReflTransGen.single (fresh_change hinstall)).tail (fresh_change hdisk)).tail
    (fresh_change hserve)

theorem serving_mount :
    Ends (node1NfsRdmaMount {} allSucceed) ⟨none, servingNode3.ram.markerAt exportPath, false⟩
      (.ok ()) ⟨mountedPair.mount, servingNode3.ram.markerAt exportPath, false⟩ := by
  have hmarker : servingNode3.ram.markerAt exportPath = true := by decide +kernel
  have h := nfsOptions_mounts
  refine node1NfsRdmaMount_ok.mpr (Or.inr ⟨nfsOptions, ?_, rfl⟩)
  exact ⟨rfl, rfl, h.commands, h.rdma.2, h.nfsv3, hmarker, h.reports⟩

theorem mountedPair_reaches : PairReaches killed (.fresh freshNode3) mountedPair := by
  obtain ⟨done, hmount⟩ := serving_mount.stops
  refine serving_reaches.tail ?_
  exact .mount done allSucceed false node1Listed hmount (fun _ => serving_offering) rfl rfl rfl

theorem refused_keepsMounted : KeepsMounted killed mountedPair refusedPair :=
  .single ⟨.change (rollback_change mountedPair.node3) rfl rfl, ⟨rfl, rfl⟩⟩

/-- Whatever the scripts of both nodes are started for and wherever they are cut off: as long
as node1 has the export mounted and node3 its power, the RAM disk stays as it is and the
export up. Only where a boot starts the server by itself need the export not be the disk. -/
theorem disk_kept_while_mounted {before : Node3} (hbefore : BeforePhase2 before)
    (hreach : PairReaches killed (.fresh before) p) (hp : p.Holding)
    (hdisk : before.serverEnabled = true → p.node3.ram.markerAt exportPath = true)
    (hrun : KeepsMounted killed p q) :
    Offering q.node3.nfs ∧ q.node3.ram.markerAt exportPath = true ∧
      SameDisk p.node3.ram q.node3.ram := by
  have hmarker : p.node3.ram.markerAt exportPath = true := by
    obtain ⟨hnode3, hoffered⟩ := pair_holds hbefore hreach
    cases henabled : before.serverEnabled with
    | true => exact hdisk henabled
    | false =>
      have hstill := node3Reaches_serverEnabled hbefore (PairReaches.node3 hreach)
      exact hnode3.exported (hstill.trans henabled) (hoffered hp).exported
  obtain ⟨hholding, hsame⟩ := keepsMounted_sameDisk hbefore hreach hp hmarker hrun
  obtain ⟨-, hoffered⟩ := pair_holds hbefore (hreach.trans (keepsMounted_reaches hrun))
  exact ⟨hoffered hholding, (hsame.markerAt exportPath).trans hmarker, hsame⟩

theorem disk_kept_while_refused :
    Offering refusedPair.node3.nfs ∧ refusedPair.node3.ram.markerAt exportPath = true ∧
      SameDisk mountedPair.node3.ram refusedPair.node3.ram :=
  disk_kept_while_mounted freshNode3_before
    (show PairReaches True _ _ from mountedPair_reaches) ⟨rfl, rfl⟩
    (fun _ => by decide +kernel) refused_keepsMounted

/-- After both nodes have lost their power in any state, node3's boot offers the export again
and the mount script of node1's boot delivers. -/
theorem pair_boot_heals {before : Node3} (hbefore : BeforePhase2 before)
    (hreach : PairReaches killed (.fresh before) p) (hinst : Node3Installed p.node3)
    (hmem : EnoughMemory p.node3.ram) {rules : List Text} (hrules : tosRuleAbsent rules = true)
    {out : MountOutcomes} {options : Text} (hout : Mounts out options) (users : Bool) :
    let n := boot node3Units (p.node3.powerLoss rules)
    Offering n.nfs ∧ ∃ t, Ends (node1NfsRdmaMount {} out)
      ⟨none, n.ram.markerAt exportPath, users⟩ (.ok ()) t ∧ Delivered t := by
  intro n
  have hactive : Phase2Active n := boots_active (pair_holds hbefore hreach).1 hinst hmem hrules
  have hmarker : n.ram.markerAt exportPath = true := hactive.disk.markerAt
  refine ⟨hactive.serving.offering hactive.exported, _,
    node1NfsRdmaMount_ok.mpr (Or.inr ⟨options, ?_, rfl⟩), ?_⟩
  · exact ⟨rfl, rfl, hout.commands, hout.rdma.2, hout.nfsv3, hmarker, hout.reports⟩
  · exact ⟨⟨_, rfl, rfl, hout.nfsv3, hout.rdma.1⟩, hmarker⟩

theorem refused_installed : Node3Installed refusedPair.node3 := by
  have hinst := installFiles_installed freshNode3
  exact ⟨hinst.starts, hinst.stops, hinst.removes⟩

theorem pair_boot_heals_mounted :
    let n := boot node3Units (refusedPair.node3.powerLoss [])
    Offering n.nfs ∧ ∃ t, Ends (node1NfsRdmaMount {} allSucceed)
      ⟨none, n.ram.markerAt exportPath, false⟩ (.ok ()) t ∧ Delivered t :=
  pair_boot_heals freshNode3_before
    (show PairReaches True _ _ from mountedPair_reaches.trans
      (keepsMounted_reaches refused_keepsMounted))
    refused_installed ⟨by decide +kernel, by decide +kernel⟩ rfl
    nfsOptions_mounts false

end Steps

end PdDisaggregation
