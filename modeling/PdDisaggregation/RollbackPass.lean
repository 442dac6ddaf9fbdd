import PdDisaggregation.StopConditions

/-! What the `PASS` of the rollback says about node3, and from which states it
says the truth. -/

namespace PdDisaggregation

open Script

structure ExportGone (s : NfsHost) : Prop where
  exportFile : s.exportFile = none
  notExported : exportLine ∉ s.activeExports
  nfsConfigFile : s.nfsConfigFile = none

structure TornDown (n : Node3) : Prop where
  server : ExportGone n.nfs
  ram : n.ram.sourcesAt exportPath = []
  tos : n.trafficClass.all tosRuleAbsent = true

/-- A `PASS` means that node3 is torn down, and every script that refused is
still there for another try. -/
structure PassSound (r : Node3Run) : Prop where
  tornDown : r.result = .ok () → TornDown r.node3
  retry : ∀ script ∈ r.refused, script ∈ r.node3.scripts

instance (active : Bool) (installed : List String) (script : String) :
    Decidable (StopRuns active installed script) := inferInstanceAs (Decidable (_ ∧ _))

structure ServerReady (n : Node3) : Prop where
  stops : StopRuns n.serverUnit n.scripts serverStop →
    ServerWilling n.nfs ∧ (filesAfterStop n.nfs).exportFile = none ∧
      exportLine ∉ exportsAfterStop n.nfs ∧ (filesAfterStop n.nfs).nfsConfigFile = none
  gone : ¬ StopRuns n.serverUnit n.scripts serverStop → ExportGone n.nfs

structure RamReady (n : Node3) (s : RamHost) : Prop where
  stops : StopRuns n.ramUnit n.scripts ramStop →
    RamWilling s ∧ (s.sourcesAt exportPath = [] ∨ (sourced {} s).mountPoint = exportPath)
  gone : ¬ StopRuns n.ramUnit n.scripts ramStop → s.sourcesAt exportPath = []

structure TosReady (n : Node3) : Prop where
  stops : StopRuns n.tosUnit n.scripts tosStop → TosWilling n
  gone : ¬ StopRuns n.tosUnit n.scripts tosStop → n.trafficClass.all tosRuleAbsent = true

/-- The RAM host as its stop sees it, the server having been stopped before. -/
def ramAtStop (n : Node3) : RamHost :=
  let exports := if StopRuns n.serverUnit n.scripts serverStop then exportsAfterStop n.nfs
    else n.nfs.activeExports
  { n.ram with
    exported := n.nfs.packageInstalled && exports.any (Text.contains exportPath.toList) }

/-- Each teardown has nothing to refuse, or nothing to do. -/
structure TeardownReady (n : Node3) : Prop where
  server : ServerReady n
  ram : RamReady n (ramAtStop n)
  tos : TosReady n

/-- `remove-persistence.sh` goes through on node3. -/
def Removable (n : Node3) : Prop := removeScript ∈ n.scripts ∧ n.nfs.hasServerIp = true

section Pass

variable {n t : Node3}

theorem server_clean : (stopServerUnit n).refused = [] ∧ ExportGone (stopServerUnit n).node3.nfs ↔
    ServerReady n := by
  by_cases hrun : StopRuns n.serverUnit n.scripts serverStop
  · constructor
    · rintro ⟨hrefused, hfile, hexports, hconfig⟩
      have hend := (execStop_clean hrun).mp hrefused
      obtain ⟨hfiles, hafter⟩ := rollback_gone hend
      refine ⟨fun _ => ⟨rollback_willing.mp ⟨_, hend⟩, ?_, ?_, ?_⟩, fun hno => absurd hrun hno⟩
      · exact hfiles.exportFile.symm.trans hfile
      · rwa [← hafter]
      · exact hfiles.nfsConfigFile.symm.trans hconfig
    · intro h
      obtain ⟨hwilling, hfile, hexports, hconfig⟩ := h.stops hrun
      obtain ⟨t, ht⟩ := rollback_willing.mpr hwilling
      have hstate : execStop n.serverUnit n.scripts serverStop (node3NfsRdmaRollback {}) n.nfs =
          (t, []) := by rw [execStop_runs hrun, ht.1, ht.2]
      obtain ⟨hfiles, hafter⟩ := rollback_gone ht
      rw [stopServerUnit, hstate]
      refine ⟨rfl, hfiles.exportFile.trans hfile, ?_, hfiles.nfsConfigFile.trans hconfig⟩
      rwa [hafter]
  · rw [stopServerUnit, execStop_idle hrun]
    exact ⟨fun h => ⟨fun hh => absurd hh hrun, fun _ => h.2⟩, fun h => ⟨rfl, h.gone hrun⟩⟩

theorem server_keeps : (stopServerUnit n).node3.nfs.hasServerIp = n.nfs.hasServerIp ∧
    (stopServerUnit n).node3.nfs.packageInstalled = n.nfs.packageInstalled := by
  by_cases hrun : StopRuns n.serverUnit n.scripts serverStop
  · have hkeeps := rollback_keeps n.nfs.hasServerIp n.nfs.packageInstalled [] n.nfs ⟨rfl, rfl⟩
    obtain ⟨-, hstate⟩ := hkeeps.ends ⟨rfl, rfl⟩
    rw [stopServerUnit, execStop_runs hrun]
    cases (node3NfsRdmaRollback {} n.nfs).result with
    | ok a => exact hstate
    | error e => exact hstate
  · rw [stopServerUnit, execStop_idle hrun]
    exact ⟨rfl, rfl⟩

/-- Once the server has stopped cleanly, the RAM stop sees what the state
before says it will. -/
theorem server_exports (h : ServerReady n) :
    { (stopServerUnit n).node3.ram with exported := (stopServerUnit n).node3.exported } =
      ramAtStop n := by
  have hexports : (stopServerUnit n).node3.nfs.activeExports =
      if StopRuns n.serverUnit n.scripts serverStop then exportsAfterStop n.nfs
      else n.nfs.activeExports := by
    by_cases hrun : StopRuns n.serverUnit n.scripts serverStop
    · rw [if_pos hrun]
      have hrefused := (server_clean.mpr h).1
      have hend := (execStop_clean hrun).mp hrefused
      exact (rollback_gone hend).2
    · rw [if_neg hrun, stopServerUnit, execStop_idle hrun]
  rw [ramAtStop, Node3.exported, hexports, server_keeps.2]
  rfl

theorem ram_clean : (stopRamUnit n).refused = [] ∧
    (stopRamUnit n).node3.ram.sourcesAt exportPath = [] ↔
      RamReady n { n.ram with exported := n.exported } := by
  by_cases hrun : StopRuns n.ramUnit n.scripts ramStop
  · have hsources {t : RamHost} (ht : Ends (stopRamStorage {}) { n.ram with exported := n.exported }
        (.ok ()) t) : t.sourcesAt exportPath = [] ↔
          RamHost.sourcesAt { n.ram with exported := n.exported } exportPath = [] ∨
            (sourced {} { n.ram with exported := n.exported }).mountPoint = exportPath := by
      rw [← sourcesAt_unmounted, RamHost.sourcesAt, stop_mounts ht]
      rfl
    constructor
    · rintro ⟨hrefused, hgone⟩
      have hend := (execStop_clean hrun).mp hrefused
      have hcovers := (hsources hend).mp hgone
      exact ⟨fun _ => ⟨stop_willing.mp ⟨_, hend⟩, hcovers⟩, fun hno => absurd hrun hno⟩
    · intro h
      obtain ⟨hwilling, hcovers⟩ := h.stops hrun
      obtain ⟨t, ht⟩ := stop_willing.mpr hwilling
      rw [stopRamUnit, execStop_runs hrun, ht.1, ht.2]
      exact ⟨rfl, (hsources ht).mpr hcovers⟩
  · rw [stopRamUnit, execStop_idle hrun]
    exact ⟨fun h => ⟨fun hh => absurd hh hrun, fun _ => h.2⟩, fun h => ⟨rfl, h.gone hrun⟩⟩

theorem tos_clean : (stopTosUnit n).refused = [] ∧
    (stopTosUnit n).node3.trafficClass.all tosRuleAbsent = true ↔ TosReady n := by
  by_cases hrun : StopRuns n.tosUnit n.scripts tosStop
  · constructor
    · rintro ⟨hrefused, -⟩
      have hend := (execStop_clean hrun).mp hrefused
      exact ⟨fun _ => tos_willing.mp ⟨_, hend⟩, fun hno => absurd hrun hno⟩
    · intro h
      obtain ⟨t, ht⟩ := tos_willing.mpr (h.stops hrun)
      obtain ⟨-, -, habsent, hafter⟩ := tos_ok.mp ht
      rw [stopTosUnit, execStop_runs hrun, ht.1, ht.2, hafter]
      exact ⟨rfl, habsent⟩
  · rw [stopTosUnit, execStop_idle hrun]
    exact ⟨fun h => ⟨fun hh => absurd hh hrun, fun _ => h.2⟩, fun h => ⟨rfl, h.gone hrun⟩⟩

theorem tos_frame : (stopTosUnit n).node3.nfs = n.nfs ∧ (stopTosUnit n).node3.ram = n.ram ∧
    (stopTosUnit n).node3.scripts = n.scripts := by
  by_cases hrun : StopRuns n.tosUnit n.scripts tosStop
  · obtain ⟨-, hstate⟩ := (tos_keeps n.nfs n.ram n.scripts [] n ⟨rfl, rfl, rfl⟩).ends ⟨rfl, rfl⟩
    rw [stopTosUnit, execStop_runs hrun]
    cases (rdmaCmTos106Remove n).result with
    | ok a => exact hstate
    | error e => exact hstate
  · rw [stopTosUnit, execStop_idle hrun]
    exact ⟨rfl, rfl, rfl⟩

def stopped (n : Node3) : Node3 :=
  (stopTosUnit (stopRamUnit (stopServerUnit n).node3).node3).node3

def refusals (n : Node3) : List String :=
  (stopServerUnit n).refused ++ (stopRamUnit (stopServerUnit n).node3).refused ++
    (stopTosUnit (stopRamUnit (stopServerUnit n).node3).node3).refused

theorem stopped_scripts (n : Node3) : (stopped n).scripts = n.scripts := tos_frame.2.2

theorem stopped_nfs (n : Node3) : (stopped n).nfs = (stopServerUnit n).node3.nfs := tos_frame.1

theorem stopped_ram (n : Node3) :
    (stopped n).ram = (stopRamUnit (stopServerUnit n).node3).node3.ram := tos_frame.2.1

theorem refusals_installed : ∀ script ∈ refusals n, script ∈ n.scripts := by
  intro script hscript
  rcases List.mem_append.mp hscript with hfirst | htos
  · rcases List.mem_append.mp hfirst with hserver | hram
    · obtain ⟨rfl, hmem⟩ := execStop_refused _ hserver
      exact hmem
    · obtain ⟨rfl, hmem⟩ := execStop_refused _ hram
      exact hmem
  · obtain ⟨rfl, hmem⟩ := execStop_refused _ htos
    exact hmem

theorem stopped_clean : refusals n = [] ∧ TornDown (stopped n) ↔ TeardownReady n := by
  have hrefusals : refusals n = [] ↔ (stopServerUnit n).refused = [] ∧
      (stopRamUnit (stopServerUnit n).node3).refused = [] ∧
        (stopTosUnit (stopRamUnit (stopServerUnit n).node3).node3).refused = [] := by
    rw [refusals, List.append_eq_nil_iff, List.append_eq_nil_iff, and_assoc]
  -- the rule file, the address and the scripts are not touched before the third stop
  have htos : TosReady (stopRamUnit (stopServerUnit n).node3).node3 ↔ TosReady n := by
    have haddress := (server_keeps (n := n)).1
    constructor
    · rintro ⟨hstops, hgone⟩
      refine ⟨fun hrun => ?_, hgone⟩
      obtain ⟨hcontrol, hip, hrules⟩ := hstops hrun
      exact ⟨hcontrol, haddress.symm.trans hip, hrules⟩
    · rintro ⟨hstops, hgone⟩
      refine ⟨fun hrun => ?_, hgone⟩
      obtain ⟨hcontrol, hip, hrules⟩ := hstops hrun
      exact ⟨hcontrol, haddress.trans hip, hrules⟩
  have hram (hserver : ServerReady n) :
      RamReady (stopServerUnit n).node3
        { (stopServerUnit n).node3.ram with exported := (stopServerUnit n).node3.exported } ↔
        RamReady n (ramAtStop n) := by
    rw [server_exports hserver]
    exact ⟨fun ⟨hstops, hgone⟩ => ⟨hstops, hgone⟩, fun ⟨hstops, hgone⟩ => ⟨hstops, hgone⟩⟩
  rw [hrefusals]
  constructor
  · rintro ⟨⟨hs, hr, ht⟩, hexport, hmount, hrule⟩
    have hserver := server_clean.mp ⟨hs, by rwa [stopped_nfs] at hexport⟩
    have hmounted := ram_clean.mp ⟨hr, by rwa [stopped_ram] at hmount⟩
    exact ⟨hserver, (hram hserver).mp hmounted, htos.mp (tos_clean.mp ⟨ht, hrule⟩)⟩
  · rintro ⟨hserver, hmounted, hrule⟩
    obtain ⟨hs, hexport⟩ := server_clean.mpr hserver
    obtain ⟨hr, hmount⟩ := ram_clean.mpr ((hram hserver).mpr hmounted)
    obtain ⟨ht, habsent⟩ := tos_clean.mpr (htos.mpr hrule)
    refine ⟨⟨hs, hr, ht⟩, ?_, ?_, habsent⟩
    · rwa [stopped_nfs]
    · rwa [stopped_ram]

theorem removePersistence_ok (h : removePersistence n = .ok t) :
    Removable n ∧ t.scripts = [] ∧ (TornDown t ↔ TornDown n) := by
  unfold removePersistence at h
  by_cases hs : n.scripts.contains removeScript = true
  · by_cases ha : n.nfs.hasServerIp = true
    · rw [if_pos hs, if_pos ha, Except.ok.injEq] at h
      subst h
      refine ⟨⟨List.contains_iff_mem.mp hs, ha⟩, rfl, ?_⟩
      exact ⟨fun ⟨hn, hr, ht⟩ => ⟨hn, hr, ht⟩, fun ⟨hn, hr, ht⟩ => ⟨hn, hr, ht⟩⟩
    · rw [if_pos hs, if_neg ha] at h
      contradiction
  · rw [if_neg hs] at h
    contradiction

theorem removePersistence_of_removable (h : Removable n) : ∃ t, removePersistence n = .ok t := by
  have hs : n.scripts.contains removeScript = true := List.contains_iff_mem.mpr h.1
  rw [removePersistence, if_pos hs, if_pos h.2]
  exact ⟨_, rfl⟩

theorem removable_stopped : Removable (stopped n) ↔ Removable n := by
  rw [Removable, Removable, stopped_scripts, stopped_nfs, server_keeps.1]

/-- The part of the rollback that runs on node3, seen from its outcome. -/
theorem teardown_cases (n : Node3) :
    (Removable n ∧ (teardown n).result = .ok () ∧ (teardown n).node3.scripts = [] ∧
      (TornDown (teardown n).node3 ↔ TornDown (stopped n)) ∧ (teardown n).refused = refusals n) ∨
    (¬ Removable n ∧ (∃ e, (teardown n).result = .error e) ∧ PassSound (teardown n)) := by
  by_cases h : Removable n
  · obtain ⟨t, ht⟩ := removePersistence_of_removable (removable_stopped.mpr h)
    obtain ⟨-, hscripts, htorn⟩ := removePersistence_ok ht
    have hteardown : teardown n = { node3 := t, refused := refusals n } := by
      rw [teardown]
      simp only [← stopped.eq_def, ht]
      rfl
    rw [hteardown]
    exact Or.inl ⟨h, rfl, hscripts, htorn, rfl⟩
  · cases hr : removePersistence (stopped n) with
    | ok t => exact absurd (removable_stopped.mp (removePersistence_ok hr).1) h
    | error e =>
      have hteardown : teardown n =
          { node3 := stopped n, refused := refusals n, result := .error e } := by
        rw [teardown]
        simp only [← stopped.eq_def, hr]
        rfl
      rw [hteardown]
      refine Or.inr ⟨h, ⟨e, rfl⟩, fun hok => ?_, ?_⟩
      · contradiction
      · show ∀ script ∈ refusals n, script ∈ (stopped n).scripts
        rw [stopped_scripts]
        exact refusals_installed

/-- Whatever happens to the other steps, a `PASS` is the truth exactly when
`remove-persistence.sh` cannot go through or no teardown has a reason to
refuse and none is skipped. -/
theorem rollback_pass_iff (n : Node3) :
    (∀ succeeds, PassSound (rollbackPhase2 succeeds n)) ↔ (Removable n → TeardownReady n) := by
  constructor
  · intro h hremovable
    have hall : PassSound (teardown n) := by
      have hh := h fun _ => true
      rcases teardown_cases n with ⟨-, hok, -⟩ | ⟨hno, -⟩
      · have hbefore : runSteps (fun _ => true) beforeNode3 = .ok () := rfl
        have hafter : runSteps (fun _ => true) afterNode3 = .ok () := rfl
        have hrun : rollbackPhase2 (fun _ => true) n = teardown n := by
          unfold rollbackPhase2
          simp only [hbefore, hafter, hok]
          rw [← hok]
        rwa [hrun] at hh
      · contradiction
    rcases teardown_cases n with ⟨-, hok, hscripts, htorn, hrefused⟩ | ⟨hno, -⟩
    · have hnone : refusals n = [] := by
        rw [List.eq_nil_iff_forall_not_mem]
        intro script hscript
        have hmem := hall.retry script (by rwa [hrefused])
        rw [hscripts] at hmem
        contradiction
      exact stopped_clean.mp ⟨hnone, htorn.mp (hall.tornDown hok)⟩
    · contradiction
  · intro h succeeds
    unfold rollbackPhase2
    cases hb : runSteps succeeds beforeNode3 with
    | error e =>
      refine ⟨fun hok => ?_, fun script hscript => ?_⟩
      · contradiction
      · contradiction
    | ok a =>
      rcases teardown_cases n with ⟨hremovable, hok, -, htorn, hrefused⟩ | ⟨-, ⟨e, he⟩, hsound⟩
      · obtain ⟨hnone, hstopped⟩ := stopped_clean.mpr (h hremovable)
        simp only [hok]
        refine ⟨fun _ => htorn.mpr hstopped, ?_⟩
        show ∀ script ∈ (teardown n).refused, _
        rw [hrefused, hnone]
        intro script hscript
        contradiction
      · simp only [he]
        exact hsound

end Pass

/-- A client still has the export mounted. -/
def attachedNode3 : Node3 where
  nfs := attachedHost
  ram := {
    memTotalKib := 268435456
    memAvailableKib := 201326592
    brd := some ⟨.start, [⟨"/dev/ram0", 8589934592, some ⟨true⟩⟩]⟩
    mounts := [⟨"/dev/ram0", "/srv/dynamo-g4"⟩]
    exported := true
    openUsers := false
    stateFile := some ⟨some "/dev/ram0", some "/srv/dynamo-g4", some "8", some "1"⟩ }
  trafficClass := some [tosRule]
  serverUnit := true
  ramUnit := true
  tosUnit := true
  scripts := ["start-ram-storage.sh", ramStop, "node3-nfs-rdma-setup.sh", serverStop, tosStop,
    removeScript]
  unitFiles := ["dynamo-phase2-nfs-rdma-server.service", "dynamo-phase2-ram-storage.service",
    "dynamo-phase2-rdma-tos.service"]
  serverEnabled := false

theorem attached_rollback_passes : ¬ ∀ n succeeds, PassSound (rollbackPhase2 succeeds n) := by
  intro h
  have htorn := (h attachedNode3 fun _ => true).tornDown
  have hpass : (rollbackPhase2 (fun _ => true) attachedNode3).result = .ok () := by rfl
  have hmounted : (rollbackPhase2 (fun _ => true) attachedNode3).node3.ram.sourcesAt exportPath =
      ["/dev/ram0"] := by decide
  have hram := (htorn hpass).ram
  rw [hmounted] at hram
  contradiction

/-- Without the client, nothing is refused. -/
example : TeardownReady { attachedNode3 with nfs := { attachedHost with showmount := some [] } } where
  server := ⟨fun _ => ⟨⟨by decide +kernel, by decide +kernel, by decide +kernel, fun _ => rfl,
      fun _ => by decide, by decide +kernel⟩, by decide +kernel, by decide +kernel, by decide +kernel⟩,
    fun h => absurd ⟨rfl, by decide⟩ h⟩
  ram := ⟨fun _ => ⟨⟨Or.inr ⟨by decide, by decide, by decide, rfl⟩, fun _ _ => by decide⟩, Or.inr rfl⟩,
    fun h => absurd ⟨rfl, by decide⟩ h⟩
  tos := ⟨fun _ => ⟨rfl, rfl, fun lines hl line hline _ => by
      cases hl
      rw [List.mem_singleton.mp hline]
      decide⟩,
    fun h => absurd ⟨rfl, by decide⟩ h⟩

end PdDisaggregation
