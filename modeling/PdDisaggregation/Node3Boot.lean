import PdDisaggregation.Node3Holds
import PdDisaggregation.RamRestart
import PdDisaggregation.RamWedge
import PdDisaggregation.RollbackPass

/-! A power loss and a boot after anything that can have happened to node3, and the rollback
after that. -/

namespace PdDisaggregation

open Script

/-- node3 before Phase 2. -/
def freshNode3 : Node3 where
  nfs := freshHost .inactive
  ram := cleanHost
  trafficClass := some []
  serverUnit := false
  ramUnit := false
  tosUnit := false
  scripts := []
  unitFiles := []
  serverEnabled := false

/-- The disk is up and a setup has started the server. -/
def midwayNode3 : Node3 :=
  { installFiles freshNode3 with nfs := startedHost .inactive, ram := activeHost }

section Units

variable {killed : Prop} {n : Node3}

theorem execStart_ends {κ σ : Type} {active possible : Bool} {start : Script κ String σ Unit}
    {s : σ} : (execStart active possible start s).1 = s ∨
      ∃ r, Ends start s r (execStart active possible start s).1 := by
  rw [execStart]
  split
  · exact Or.inl rfl
  · split
    · right
      refine ⟨(start s).result, rfl, ?_⟩
      cases (start s).result with
      | ok a => rfl
      | error e => rfl
    · exact Or.inl rfl

theorem execStop_ends {κ σ : Type} {active : Bool} {installed : List String} {script : String}
    {stop : Script κ String σ Unit} {s : σ} : (execStop active installed script stop s).1 = s ∨
      ∃ r, Ends stop s r (execStop active installed script stop s).1 := by
  rw [execStop]
  split
  · right
    refine ⟨(stop s).result, rfl, ?_⟩
    cases (stop s).result with
    | ok a => rfl
    | error e => rfl
  · exact Or.inl rfl

/-- A step of a script, then what systemd makes of it. -/
theorem reaches_units {t : Node3} (h : Node3Reaches killed n t) (server ram tos : Bool)
    (scripts unitFiles : List String) :
    Node3Reaches killed n { t with
      serverUnit := server, ramUnit := ram, tosUnit := tos, scripts := scripts
      unitFiles := unitFiles } :=
  h.tail (.change (.units _ server ram tos scripts unitFiles))

theorem looksUp (nfs ram : Bool) : Node3Reaches killed n { n with
    nfs := { n.nfs with ramMarker := if nfs then n.ram.markerAt exportPath else n.nfs.ramMarker }
    ram := { n.ram with exported := if ram then n.exported else n.ram.exported } } :=
  .single (.change (.others n n.nfs.showmount n.ram.openUsers _ _ n.ram.memTotalKib
    n.ram.memAvailableKib))

theorem startTosUnit_reaches : Node3Reaches killed n (startTosUnit n) := by
  have hrun : Node3Reaches killed n
      (execStart n.tosUnit (n.canStart .tos) rdmaCmTos106Apply n).1 := by
    rcases execStart_ends with hidle | ⟨r, hr⟩
    · rw [hidle]
    · obtain ⟨done, hstops⟩ := hr.stops
      exact .single (.change (.applyTos done hstops))
  exact reaches_units hrun _ _ _ _ _

theorem startRamUnit_reaches : Node3Reaches killed n (startRamUnit n) := by
  have hrun : Node3Reaches killed n { n with
      ram := (execStart n.ramUnit (n.canStart .ram) (startRamStorage {}) n.ramView).1 } := by
    rcases execStart_ends with hidle | ⟨r, hr⟩
    · rw [hidle]
      exact looksUp false true
    · obtain ⟨done, hstops⟩ := hr.stops
      exact .single (.change (.startRam done hstops))
  exact reaches_units hrun _ _ _ _ _

theorem startServerUnit_reaches : Node3Reaches killed n (startServerUnit n) := by
  rw [startServerUnit]
  dsimp only
  split
  · let m := startRamUnit n
    have hrun : Node3Reaches killed m { m with
        nfs := (execStart m.serverUnit (m.canStart .server) (node3NfsRdmaSetup {}) m.nfsView).1 } := by
      rcases execStart_ends with hidle | ⟨r, hr⟩
      · rw [hidle]
        exact looksUp true false
      · exact .single (.change (.setup r hr))
    exact startRamUnit_reaches.trans (reaches_units hrun _ _ _ _ _)
  · exact startRamUnit_reaches

theorem startUnit_reaches (u : Node3Unit) : Node3Reaches killed n (startUnit n u) := by
  cases u with
  | tos => exact startTosUnit_reaches
  | ram => exact startRamUnit_reaches
  | server => exact startServerUnit_reaches

theorem stopServerUnit_reaches : Node3Reaches killed n (stopServerUnit n).node3 := by
  have hrun : Node3Reaches killed n { n with
      nfs := (execStop n.serverUnit n.scripts serverStop (node3NfsRdmaRollback {}) n.nfs).1 } := by
    rcases execStop_ends with hidle | ⟨r, hr⟩
    · rw [hidle]
    · obtain ⟨done, hstops⟩ := hr.stops
      exact .single (.change (.rollback done hstops))
  exact reaches_units hrun _ _ _ _ _

theorem stopRamUnit_reaches : Node3Reaches killed n (stopRamUnit n).node3 := by
  have hrun : Node3Reaches killed n { n with
      ram := (execStop n.ramUnit n.scripts ramStop (stopRamStorage {}) n.ramView).1 } := by
    rcases execStop_ends with hidle | ⟨r, hr⟩
    · rw [hidle]
      exact looksUp false true
    · obtain ⟨done, hstops⟩ := hr.stops
      exact .single (.change (.stopRam done hstops))
  exact reaches_units hrun _ _ _ _ _

theorem stopTosUnit_reaches : Node3Reaches killed n (stopTosUnit n).node3 := by
  have hrun : Node3Reaches killed n
      (execStop n.tosUnit n.scripts tosStop rdmaCmTos106Remove n).1 := by
    rcases execStop_ends with hidle | ⟨r, hr⟩
    · rw [hidle]
    · obtain ⟨done, hstops⟩ := hr.stops
      exact .single (.change (.removeTos done hstops))
  exact reaches_units hrun _ _ _ _ _

theorem stopUnit_reaches (u : Node3Unit) : Node3Reaches killed n (stopUnit n u) := by
  cases u with
  | tos => exact stopTosUnit_reaches
  | ram => exact stopServerUnit_reaches.trans stopRamUnit_reaches
  | server => exact stopServerUnit_reaches

theorem boot_reaches (enabled : List Node3Unit) : Node3Reaches killed n (boot enabled n) := by
  have hfold (units : List Node3Unit) : Node3Reaches killed n (units.foldl startUnit n) := by
    induction units generalizing n with
    | nil => exact .refl
    | cons u units ih => exact (startUnit_reaches u).trans ih
  exact hfold _

theorem startUnits_reaches (units : List Node3Unit) :
    Node3Reaches killed n (startUnits n units).1 := by
  induction units generalizing n with
  | nil => exact .refl
  | cons u units ih =>
    rw [startUnits]
    split
    · exact (startUnit_reaches u).trans ih
    · exact startUnit_reaches u

theorem installPersistence_reaches : Node3Reaches killed n (installPersistence n).1 := by
  rw [installPersistence]
  split
  · have hfiles : Node3Reaches killed n (installFiles n) := reaches_units .refl _ _ _ _ _
    exact hfiles.trans (startUnits_reaches _)
  · exact reaches_units .refl _ _ _ _ _

/-- What the rollback does on node3. -/
theorem teardown_reaches : Node3Reaches killed n (teardown n).node3 := by
  have hstopped : Node3Reaches killed n (stopped n) :=
    (stopServerUnit_reaches.trans stopRamUnit_reaches).trans stopTosUnit_reaches
  rw [teardown]
  simp only [← stopped.eq_def]
  split
  next t ht =>
    rw [removePersistence] at ht
    split at ht
    · split at ht
      · rw [← Except.ok.inj ht]
        exact reaches_units hstopped _ _ _ _ _
      · contradiction
    · contradiction
  next => exact hstopped

end Units

/-- All that Phase 2 wants of node3. -/
structure Phase2Active (n : Node3) : Prop where
  units : ∀ u, n.active u = true
  disk : DiskActive {} n.ram
  serving : Serving n.nfs
  exported : exportLine ∈ n.nfs.activeExports
  rule : ∃ lines, n.trafficClass = some lines ∧ tosRule ∈ lines

section Boot

variable {killed : Prop} {n : Node3} {rules : List Text}

theorem execStart_done {κ σ : Type} {start : Script κ String σ Unit} {s t : σ}
    (h : Ends start s (.ok ()) t) : execStart false true start s = (t, true) := by
  rw [execStart, if_neg Bool.false_ne_true, if_pos rfl]
  rw [h.1, h.2]

theorem apply_ok {lines : List Text} (hlines : n.trafficClass = some lines)
    (haddress : n.nfs.hasServerIp = true) (habsent : tosRuleAbsent lines = true) :
    Ends rdmaCmTos106Apply n (.ok ()) n.setTosRule := by
  have hnone : n.trafficClass.any (·.contains tosRule) = false := by
    have hkey : Text.contains tosKey tosRule = true := by decide +kernel
    rw [hlines, Option.any_some, Bool.eq_false_iff, Ne, List.contains_iff_mem]
    exact fun hin => tosRuleAbsent_iff.mp habsent tosRule hin hkey
  have hset : n.setTosRule.trafficClass.any (·.contains tosRule) = true := by
    rw [Node3.setTosRule, hlines, Option.map_some, Option.any_some, List.contains_iff_mem]
    exact List.mem_append_right _ (List.mem_singleton.mpr rfl)
  rw [rdmaCmTos106Apply, ends_read_ok, ends_check_ok, ends_read_ok, ends_check_ok, ends_read_ok]
  refine ⟨by rw [hlines]; rfl, haddress, ?_⟩
  rw [hnone, if_pos (by rfl), ends_exec_ok, ends_read_ok, ends_dieUnless_ok]
  exact ⟨hset, rfl⟩

theorem markerAt_eq (s : RamHost) (mountPoint : String) :
    s.markerAt mountPoint = (s.sourcesAt mountPoint).head?.any s.hasMarker := by
  rw [RamHost.markerAt, RamHost.sourcesAt, List.head?_map, List.head?_filter]
  cases s.mounts.find? (·.target == mountPoint) with
  | none => rfl
  | some m => rfl

theorem DiskActive.markerAt {s : RamHost} (h : DiskActive {} s) : s.markerAt exportPath = true := by
  have hmounted : s.sourcesAt exportPath = ["/dev/ram0"] := h.mounted
  rw [markerAt_eq, hmounted]
  exact h.marked

/-- Everything a boot needs of Phase 2 is installed. -/
structure Node3Installed (n : Node3) : Prop where
  starts : ∀ u, n.canStart u = true
  stops : serverStop ∈ n.scripts ∧ ramStop ∈ n.scripts ∧ tosStop ∈ n.scripts
  removes : removeScript ∈ n.scripts

theorem startTosUnit_done {t : Node3} (hoff : n.tosUnit = false) (hcan : n.canStart .tos = true)
    (h : Ends rdmaCmTos106Apply n (.ok ()) t) : startTosUnit n = { t with tosUnit := true } := by
  rw [startTosUnit, hoff, hcan, execStart_done h]

theorem startRamUnit_done {t : RamHost} (hoff : n.ramUnit = false) (hcan : n.canStart .ram = true)
    (h : Ends (startRamStorage {}) n.ramView (.ok ()) t) :
    startRamUnit n = { n with ram := t, ramUnit := true } := by
  rw [startRamUnit, hoff, hcan, execStart_done h]

theorem startRamUnit_on (hon : n.ramUnit = true) : startRamUnit n = { n with ram := n.ramView } := by
  rw [startRamUnit, hon, execStart, if_pos rfl]

theorem startServerUnit_done {t : NfsHost} (hram : n.ramUnit = true) (hoff : n.serverUnit = false)
    (hcan : n.canStart .server = true) (h : Ends (node3NfsRdmaSetup {}) n.nfsView (.ok ()) t) :
    startServerUnit n = { n with ram := n.ramView, nfs := t, serverUnit := true } := by
  let m : Node3 := { n with ram := n.ramView }
  have hstart : execStart m.serverUnit (m.canStart .server) (node3NfsRdmaSetup {}) m.nfsView =
      (t, true) := by
    have hoff' : m.serverUnit = false := hoff
    have hcan' : m.canStart .server = true := hcan
    rw [hoff', hcan']
    exact execStart_done h
  rw [startServerUnit, startRamUnit_on hram]
  refine (if_pos hram).trans ?_
  show { m with
    nfs := (execStart m.serverUnit (m.canStart .server) (node3NfsRdmaSetup {}) m.nfsView).1
    serverUnit :=
      (execStart m.serverUnit (m.canStart .server) (node3NfsRdmaSetup {}) m.nfsView).2 } = _
  rw [hstart]

/-- The disk as a boot makes it, on a host that has lost its memory. -/
def bootedRam (n : Node3) (rules : List Text) : RamHost := started {} (n.powerLoss rules).ramView

theorem bootedRam_active (rules : List Text) (hmem : EnoughMemory n.ram) :
    Ends (startRamStorage {}) (n.powerLoss rules).ramView (.ok ()) (bootedRam n rules) ∧
      DiskActive {} (bootedRam n rules) := by
  have hun : (n.powerLoss rules).ramView.sourcesAt ({} : RamEnv).mountPoint = [] := rfl
  have hloaded : withBrd {} (n.powerLoss rules).ramView =
      (n.powerLoss rules).ramView.loadBrd (RamEnv.sizeKib {}) := if_pos rfl
  have hblank : DeviceBlank {} (withBrd {} (n.powerLoss rules).ramView) := by
    rw [hloaded]
    refine ⟨?_, rfl, ?_⟩
    · simp [RamHost.device, RamHost.loadBrd, RamEnv.sizeBytes]
    · simp [RamHost.hasSignature, RamHost.device, RamHost.loadBrd]
  exact ⟨(start_fresh_ok hun).mpr ⟨envAccepted_default, ⟨hmem.share, hmem.reserve⟩, hblank, rfl⟩,
    started_active hun hblank⟩

/-- The three units started one after the other once the power is back. -/
theorem startUnits_eq (h : Node3Holds n) (hinst : Node3Installed n) (hmem : EnoughMemory n.ram)
    (hrules : tosRuleAbsent rules = true) :
    ∃ s, SetUp { (n.powerLoss rules).nfs with ramMarker := true } s ∧
      startUnits (n.powerLoss rules) node3Units = ({ n with
        nfs := s, ram := bootedRam n rules
        trafficClass := some (rules.filter (!ofTosPair ·) ++ [tosRule])
        serverUnit := true, ramUnit := true, tosUnit := true }, .ok ()) := by
  have hoff := h.powerLoss hrules
  obtain ⟨lines, hlines⟩ := Option.isSome_iff_exists.mp h.rules.control
  have hloss : (n.powerLoss rules).trafficClass = some rules := by
    rw [Node3.powerLoss, hlines]
    rfl
  have hset : (n.powerLoss rules).setTosRule.trafficClass =
      some (rules.filter (!ofTosPair ·) ++ [tosRule]) := by
    rw [Node3.setTosRule, hloss]
    rfl
  let a : Node3 := { (n.powerLoss rules).setTosRule with tosUnit := true }
  have htos : startUnit (n.powerLoss rules) .tos = a :=
    startTosUnit_done rfl (hinst.starts .tos) (apply_ok hloss hoff.nfs.address hrules)
  obtain ⟨hram, hactive⟩ := bootedRam_active rules hmem
  let b : Node3 := { a with ram := bootedRam n rules, ramUnit := true }
  have hdisk : startUnit a .ram = b := startRamUnit_done rfl (hinst.starts .ram) hram
  have hmarker : b.nfsView = { (n.powerLoss rules).nfs with ramMarker := true } := by
    have hmarked : b.ram.markerAt exportPath = true := hactive.markerAt
    rw [Node3.nfsView, hmarked]
    rfl
  have hown : NfsOwn { (n.powerLoss rules).nfs with ramMarker := true } :=
    hoff.nfs.congr rfl rfl hoff.nfs.unit ⟨rfl, rfl, rfl, rfl, rfl⟩
  obtain ⟨s, hs, hsetup⟩ := setup_own hown rfl
  let c : Node3 := { b with ram := b.ramView, nfs := s, serverUnit := true }
  have hserver : startServerUnit b = c :=
    startServerUnit_done rfl rfl (hinst.starts .server) (hmarker ▸ hs)
  have hview : b.ramView = bootedRam n rules := rfl
  refine ⟨s, hsetup, ?_⟩
  have hall : startUnits (n.powerLoss rules) node3Units = (c, .ok ()) := by
    rw [node3Units, startUnits, htos, if_pos (by rfl), startUnits, hdisk, if_pos (by rfl),
      startUnits, startUnit, hserver, if_pos (by rfl), startUnits]
  rw [hall, ← hset]
  simp only [c, hview]
  rfl

/-- Units that all start are what a boot starts. -/
theorem foldl_startUnit_of_ok {m t : Node3} {units : List Node3Unit}
    (h : startUnits m units = (t, .ok ())) : units.foldl startUnit m = t := by
  induction units generalizing m with
  | nil => exact congrArg Prod.fst h
  | cons u units ih =>
    rw [startUnits] at h
    split at h
    · exact ih h
    · exact absurd (congrArg Prod.snd h) (by simp)

/-- The boot that follows a power loss. -/
theorem boot_eq (h : Node3Holds n) (hinst : Node3Installed n) (hmem : EnoughMemory n.ram)
    (hrules : tosRuleAbsent rules = true) :
    ∃ s, SetUp { (n.powerLoss rules).nfs with ramMarker := true } s ∧
      boot node3Units (n.powerLoss rules) = { n with
        nfs := s, ram := bootedRam n rules
        trafficClass := some (rules.filter (!ofTosPair ·) ++ [tosRule])
        serverUnit := true, ramUnit := true, tosUnit := true } := by
  obtain ⟨s, hs, hstart⟩ := startUnits_eq h hinst hmem hrules
  exact ⟨s, hs, foldl_startUnit_of_ok hstart⟩

theorem boots_active (h : Node3Holds n) (hinst : Node3Installed n) (hmem : EnoughMemory n.ram)
    (hrules : tosRuleAbsent rules = true) :
    Phase2Active (boot node3Units (n.powerLoss rules)) := by
  obtain ⟨s, hs, hboot⟩ := boot_eq h hinst hmem hrules
  have hactive := (bootedRam_active rules hmem).2
  rw [hboot]
  refine ⟨?_, ⟨hactive.mounted, hactive.marked, hactive.size⟩, hs.serving, hs.exported, ?_⟩
  · intro u
    cases u with
    | _ => rfl
  · exact ⟨_, rfl, List.mem_append_right _ (List.mem_singleton.mpr rfl)⟩

theorem installFiles_installed (n : Node3) : Node3Installed (installFiles n) := by
  refine ⟨?_, ?_, ?_⟩
  · intro u
    rw [Node3.canStart, Bool.and_eq_true, List.contains_iff_mem, List.contains_iff_mem]
    refine ⟨List.mem_union_iff.mpr (Or.inr ?_), List.mem_union_iff.mpr (Or.inr ?_)⟩
    · cases u with
      | _ => decide
    · cases u with
      | _ => decide
  · refine ⟨?_, ?_, ?_⟩
    iterate 3 exact List.mem_union_iff.mpr (Or.inr (by decide))
  · exact List.mem_union_iff.mpr (Or.inr (by decide))

theorem installed_stop {script : String} {installed : List String} (h : script ∈ installed) :
    StopRuns true installed script := ⟨rfl, h⟩

theorem execStop_done {κ σ : Type} {installed : List String} {script : String}
    {stop : Script κ String σ Unit} {s t : σ} (hin : script ∈ installed)
    (h : Ends stop s (.ok ()) t) : execStop true installed script stop s = (t, []) := by
  rw [execStop_runs (installed_stop hin)]
  rw [h.1, h.2]

/-- The disk of a boot, when nobody uses it and it is no longer exported. -/
theorem bootedRam_stops (hmem : EnoughMemory n.ram) {r : RamHost}
    (hsame : SameDisk (bootedRam n rules) r) (hexported : r.exported = false)
    (husers : r.openUsers = false) :
    ∃ t, Ends (stopRamStorage {}) r (.ok ()) t ∧ t.brd = none ∧ t.mounts = [] ∧
      t.stateFile = none := by
  have hactive := (bootedRam_active rules hmem).2
  have hvars : sourced {} r = {} := by
    unfold sourced
    rw [hsame.stateFile]
    rfl
  have hsource : r.sourcesAt exportPath = ["/dev/ram0"] := by
    rw [RamHost.sourcesAt, hsame.mounts]
    exact hactive.mounted
  have hmarked : r.hasMarker "/dev/ram0" = true := by
    rw [RamHost.hasMarker, device_congr hsame.brd]
    exact hactive.marked
  have hmounts : r.mounts = [⟨"/dev/ram0", exportPath⟩] := by
    rw [hsame.mounts]
    exact congrArg (List.cons _) mounts_withBrd
  have hleft : (unmounted {} r).mounts = [] := by
    rw [unmounted, hmounts]
    rfl
  have hwilling : RamWilling r := by
    refine ⟨Or.inr ?_, fun _ _ => ?_⟩
    · rw [hvars]
      exact ⟨hsource, hmarked, hexported, husers⟩
    · rw [hvars, RamHost.ramMounted]
      cases (unmounted {} r).brd with
      | none => rfl
      | some m => simp [RamHost.deviceMounted, hleft]
  obtain ⟨t, ht⟩ := stop_willing.mpr hwilling
  have hun : (n.powerLoss rules).ramView.sourcesAt ({} : RamEnv).mountPoint = [] := rfl
  obtain ⟨htmounts, htbrd⟩ := stop_after_start hun hsame ht
  obtain ⟨-, u, v, -, -, hfinal⟩ := stop_ok.mp ht
  refine ⟨t, ht, ?_, htmounts, ?_⟩
  · rw [htbrd]
    exact if_pos rfl
  · rw [hfinal]

theorem rule_removed (hrules : tosRuleAbsent rules = true)
    (hlines : n.trafficClass = some (rules.filter (!ofTosPair ·) ++ [tosRule]))
    (haddress : n.nfs.hasServerIp = true) :
    ∃ t, Ends rdmaCmTos106Remove n (.ok ()) t ∧ t.trafficClass.all tosRuleAbsent = true ∧
      t.nfs = n.nfs ∧ t.ram = n.ram ∧ t.scripts = n.scripts := by
  have hwilling : TosWilling n := by
    refine ⟨by rw [hlines]; rfl, haddress, ?_⟩
    intro lines' hlines' line hline hkey
    rw [hlines, Option.some.injEq] at hlines'
    subst hlines'
    rcases List.mem_append.mp hline with hold | hnew
    · exact absurd hkey (tosRuleAbsent_iff.mp hrules line (List.mem_filter.mp hold).1)
    · rw [List.mem_singleton.mp hnew]
      exact ⟨by decide +kernel, List.mem_append_right _ (List.mem_singleton.mpr rfl)⟩
  obtain ⟨t, ht⟩ := tos_willing.mpr hwilling
  obtain ⟨-, -, habsent, hafter⟩ := tos_ok.mp ht
  obtain ⟨-, hnfs, hram, hscripts⟩ := (tos_keeps n.nfs n.ram n.scripts [] n ⟨rfl, rfl, rfl⟩).ends ht
  exact ⟨t, ht, hafter ▸ habsent, hnfs, hram, hscripts⟩

/-- What is left of Phase 2 on node3: nothing that was not there before. -/
structure Node3Restored (before n : Node3) : Prop where
  server : Restored before.nfs n.nfs
  exports : n.nfs.activeExports = []
  disk : n.ram.brd = none ∧ n.ram.mounts = [] ∧ n.ram.stateFile = none
  rules : n.trafficClass.all tosRuleAbsent = true
  units : ∀ u, n.active u = false
  files : n.scripts = [] ∧ ∀ u : Node3Unit, u.file ∉ n.unitFiles

/-- Its clients and the users of the disk are gone. -/
def Node3.deserted (n : Node3) (showmount : Option (List Text)) : Node3 :=
  { n with nfs := { n.nfs with showmount := showmount }, ram := { n.ram with openUsers := false } }

theorem setUp_rolled_back {w s : NfsHost} (h : SetUp w s) (hzero : (capturedState {} w).2 = "0")
    {showmount : Option (List Text)}
    (hnone : activeClients exportPath { s with showmount := showmount } = [])
    (haddress : s.hasServerIp = true) :
    ∃ u, Ends (node3NfsRdmaRollback {}) { s with showmount := showmount } (.ok ()) u ∧
      NoPhase2Files u ∧ u.serverActive = false ∧ u.threads = 0 ∧ rdmaListener ∉ u.portlist ∧
      u.activeExports = [] ∧ u.hasServerIp = true := by
  have hserving : Serving { s with showmount := showmount } :=
    ⟨h.serving.1, h.serving.2, h.serving.3, h.serving.4⟩
  have hactivity : recordedActivity { s with showmount := showmount } = "0" := by
    simp [recordedActivity, h.stateFile, writtenState, hzero, Text.orDefault]
  have hplain : NfsHost.Plain { s with showmount := showmount } := written_plain h.stateFile
  obtain ⟨u, hu, hfiles, hserver⟩ :=
    rollback_serving hserving hplain h.exportFile h.nfsConfigFile hnone
  rw [if_pos hactivity] at hserver
  obtain ⟨hactive, hthreads, hlistener⟩ := hserver
  have hexports : u.activeExports = [] := by
    have hrunning : s.nfsServer = .active := by
      simpa [NfsHost.serverActive] using h.serving.serverActive
    rw [(rollback_gone hu).2, exportsAfterStop, if_pos ⟨hactivity, hrunning⟩]
  have hkeeps := rollback_keeps true s.packageInstalled [] { s with showmount := showmount }
    ⟨haddress, rfl⟩
  obtain ⟨-, hip, -⟩ := hkeeps.ends hu
  exact ⟨u, hu, hfiles, hactive, hthreads, hlistener, hexports, hip⟩

section Stops

variable {u : NfsHost} {v : RamHost} {t : Node3}

theorem stopServerUnit_done (hon : n.serverUnit = true) (hin : serverStop ∈ n.scripts)
    (h : Ends (node3NfsRdmaRollback {}) n.nfs (.ok ()) u) :
    stopServerUnit n = { node3 := { n with nfs := u, serverUnit := false } } := by
  rw [stopServerUnit, hon, execStop_done hin h]

theorem stopRamUnit_done (hon : n.ramUnit = true) (hin : ramStop ∈ n.scripts)
    (h : Ends (stopRamStorage {}) n.ramView (.ok ()) v) :
    stopRamUnit n = { node3 := { n with ram := v, ramUnit := false } } := by
  have hrun : execStop true n.scripts ramStop (stopRamStorage {})
      { n.ram with exported := n.exported } = (v, []) := execStop_done hin h
  rw [stopRamUnit, hon, hrun]

theorem stopTosUnit_done (hon : n.tosUnit = true) (hin : tosStop ∈ n.scripts)
    (h : Ends rdmaCmTos106Remove n (.ok ()) t) :
    stopTosUnit n = { node3 := { t with tosUnit := false } } := by
  rw [stopTosUnit, hon, execStop_done hin h]

theorem removePersistence_done (hin : removeScript ∈ n.scripts) (haddress : n.nfs.hasServerIp = true) :
    ∃ t, removePersistence n = .ok t ∧ t.nfs = n.nfs ∧ t.ram = n.ram ∧
      t.trafficClass = n.trafficClass ∧ (∀ u, t.active u = false) ∧ t.scripts = [] ∧
      ∀ u : Node3Unit, u.file ∉ t.unitFiles := by
  rw [removePersistence, if_pos (List.contains_iff_mem.mpr hin), if_pos haddress]
  refine ⟨_, rfl, rfl, rfl, rfl, ?_, rfl, ?_⟩
  · intro u
    cases u with
    | _ => rfl
  · intro u hin
    have hkept := (List.mem_filter.mp hin).2
    cases u with
    | _ => exact absurd hkept (by decide +kernel)

/-- Three stops that go through, one after the other, then the removal of the scripts. -/
theorem teardown_done {a b c d : Node3} (hserver : stopServerUnit n = { node3 := a })
    (hram : stopRamUnit a = { node3 := b }) (htos : stopTosUnit b = { node3 := c })
    (hremoved : removePersistence c = .ok d) :
    teardown n = { node3 := d } := by
  rw [teardown]
  simp only [hserver, hram, htos, hremoved]
  rfl

end Stops

theorem BeforePhase2.restored {before : Node3} (h : BeforePhase2 before) {u : NfsHost}
    (hfiles : NoPhase2Files u) (hactive : u.serverActive = false) (hthreads : u.threads = 0)
    (hlistener : rdmaListener ∉ u.portlist) : Restored before.nfs u := by
  have hinactive : before.nfs.serverActive = false := by
    rw [NfsHost.serverActive, h.server]
    rfl
  rw [restored_iff h.files hfiles, hactive, hinactive, hthreads, h.threads]
  exact ⟨rfl, iff_of_false hlistener h.portlist, rfl⟩

/-- The rollback of a node3 that has been booted. -/
theorem teardown_booted {before : Node3} (hbefore : BeforePhase2 before) (hinst : Node3Installed n)
    (hmem : EnoughMemory n.ram) (hrules : tosRuleAbsent rules = true) {w s : NfsHost}
    (hs : SetUp w s) (hzero : (capturedState {} w).2 = "0") (haddress : s.hasServerIp = true)
    {showmount : Option (List Text)}
    (hnone : activeClients exportPath { s with showmount := showmount } = []) :
    let m : Node3 := { n with
      nfs := s, ram := bootedRam n rules
      trafficClass := some (rules.filter (!ofTosPair ·) ++ [tosRule])
      serverUnit := true, ramUnit := true, tosUnit := true }
    (teardown (m.deserted showmount)).result = .ok () ∧
      (teardown (m.deserted showmount)).refused = [] ∧
      Node3Restored before (teardown (m.deserted showmount)).node3 := by
  intro m
  obtain ⟨u, hu, hfiles, hactive, hthreads, hlistener, hexports, hip⟩ :=
    setUp_rolled_back hs hzero hnone haddress
  let a : Node3 := { m.deserted showmount with nfs := u, serverUnit := false }
  have hserver : stopServerUnit (m.deserted showmount) = { node3 := a } :=
    stopServerUnit_done rfl hinst.stops.1 hu
  have hexported : a.exported = false := by
    show (u.packageInstalled && u.activeExports.any _) = false
    rw [hexports, List.any_nil, Bool.and_false]
  obtain ⟨v, hv, hbrd, hmounts, hstate⟩ := bootedRam_stops (r := a.ramView) hmem
    ⟨rfl, rfl, rfl⟩ hexported rfl
  let b : Node3 := { a with ram := v, ramUnit := false }
  have hram : stopRamUnit a = { node3 := b } := stopRamUnit_done rfl hinst.stops.2.1 hv
  obtain ⟨c, hc, habsent, hcnfs, hcram, hcscripts⟩ := rule_removed (n := b) hrules rfl hip
  let d : Node3 := { c with tosUnit := false }
  have htos : stopTosUnit b = { node3 := d } := stopTosUnit_done rfl hinst.stops.2.2 hc
  obtain ⟨e, he, henfs, heram, herules, hunits, hescripts, hefiles⟩ :=
    removePersistence_done (n := d) (hcscripts ▸ hinst.removes) (hcnfs ▸ hip)
  have henfs' : e.nfs = u := henfs.trans hcnfs
  rw [teardown_done hserver hram htos he]
  refine ⟨rfl, rfl, ?_, ?_, ?_, herules ▸ habsent, hunits, hescripts, hefiles⟩
  · exact henfs' ▸ hbefore.restored hfiles hactive hthreads hlistener
  · exact henfs' ▸ hexports
  · rw [heram.trans hcram]
    exact ⟨hbrd, hmounts, hstate⟩

theorem freshNode3_before : BeforePhase2 freshNode3 where
  address := rfl
  package := rfl
  server := rfl
  threads := rfl
  portlist := List.not_mem_nil
  files := ⟨rfl, rfl, rfl⟩
  exports := ⟨List.not_mem_nil, List.not_mem_nil⟩
  ramFile := rfl
  rules := ⟨[], rfl, rfl⟩

theorem diskUp_reaches :
    Node3Reaches killed freshNode3 { installFiles freshNode3 with ram := activeHost } := by
  have hfiles : Node3Reaches killed freshNode3 (installFiles freshNode3) :=
    reaches_units .refl _ _ _ _ _
  obtain ⟨done, hstops⟩ := start_activates.stops
  exact hfiles.tail (.change (.startRam done hstops))

theorem setup_midway : Stops (node3NfsRdmaSetup {})
    (Node3.nfsView { installFiles freshNode3 with ram := activeHost }) untilStarted
    (startedHost .inactive) := by decide +kernel

theorem midway_reaches : Node3Reaches True freshNode3 midwayNode3 :=
  diskUp_reaches.tail (.change (.setupKilled untilStarted trivial setup_midway))

theorem interrupted_reaches : Node3Reaches killed freshNode3 (midwayNode3.powerLoss []) :=
  diskUp_reaches.tail (.outage (.setup untilStarted [] setup_midway rfl))

theorem interrupted_installed : Node3Installed (midwayNode3.powerLoss []) := by
  refine ⟨?_, by decide +kernel, by decide +kernel⟩
  intro u
  cases u with
  | _ => decide +kernel

theorem interrupted_memory : EnoughMemory (midwayNode3.powerLoss []).ram :=
  ⟨by decide +kernel, by decide +kernel⟩

/-- Whatever runs of the scripts were cut off where, and whenever the power was lost: where
nothing but the scripts starts the server, the export of Phase 2 is the RAM disk, never the
directory below it. -/
theorem export_is_ram_disk {before : Node3} (hbefore : BeforePhase2 before)
    (hdisabled : before.serverEnabled = false) (hreach : Node3Reaches killed before n)
    (hexported : exportLine ∈ n.nfs.activeExports) : n.ram.markerAt exportPath = true :=
  (node3Holds hbefore hreach).exported
    ((node3Reaches_serverEnabled hbefore hreach).trans hdisabled) hexported

theorem export_is_ram_disk_midway : midwayNode3.ram.markerAt exportPath = true :=
  export_is_ram_disk freshNode3_before rfl midway_reaches (by decide +kernel)

/-- A power loss and a boot bring all of Phase 2 up again, out of any state its scripts can
have left behind. -/
theorem boot_heals {before : Node3} (hbefore : BeforePhase2 before)
    (hreach : Node3Reaches killed before n) (hinst : Node3Installed n) (hmem : EnoughMemory n.ram)
    (hrules : tosRuleAbsent rules = true) :
    Phase2Active (boot node3Units (n.powerLoss rules)) :=
  boots_active (node3Holds hbefore hreach) hinst hmem hrules

theorem boot_heals_interrupted :
    Phase2Active (boot node3Units ((midwayNode3.powerLoss []).powerLoss [])) :=
  boot_heals freshNode3_before (show Node3Reaches True _ _ from interrupted_reaches)
    interrupted_installed interrupted_memory rfl

/-- So does the installation, which puts what is missing in place first. -/
theorem install_heals {before : Node3} (hbefore : BeforePhase2 before)
    (hreach : Node3Reaches killed before n) (hmem : EnoughMemory n.ram)
    (hrules : tosRuleAbsent rules = true) :
    (installPersistence (n.powerLoss rules)).2 = .ok () ∧
      Phase2Active (installPersistence (n.powerLoss rules)).1 := by
  have hfiles : Node3Reaches killed before (installFiles n) := reaches_units hreach _ _ _ _ _
  have hholds := node3Holds hbefore hfiles
  obtain ⟨s, -, hstart⟩ := startUnits_eq hholds (installFiles_installed n) hmem hrules
  have hactive : Phase2Active (boot node3Units ((installFiles n).powerLoss rules)) :=
    boots_active hholds (installFiles_installed n) hmem hrules
  have haddress : (n.powerLoss rules).nfs.hasServerIp = true :=
    (hholds.powerLoss hrules).nfs.address
  rw [installPersistence, if_pos haddress]
  show (startUnits ((installFiles n).powerLoss rules) node3Units).2 = .ok () ∧ _
  rw [← foldl_startUnit_of_ok hstart] at hstart
  exact ⟨congrArg Prod.snd hstart, congrArg Prod.fst hstart ▸ hactive⟩

theorem install_heals_interrupted :
    (installPersistence ((midwayNode3.powerLoss []).powerLoss [])).2 = .ok () ∧
      Phase2Active (installPersistence ((midwayNode3.powerLoss []).powerLoss [])).1 :=
  install_heals freshNode3_before (show Node3Reaches True _ _ from interrupted_reaches)
    interrupted_memory rfl

/-- As long as no setup is killed without a power loss and no boot starts the server by
itself, the rollback after the next boot gives node3 back as it was. -/
theorem rollback_restores_node3 {before : Node3} (hbefore : BeforePhase2 before)
    (hdisabled : before.serverEnabled = false) (hreach : Node3Reaches False before n)
    (hinst : Node3Installed n) (hmem : EnoughMemory n.ram)
    (hrules : tosRuleAbsent rules = true) {showmount : Option (List Text)}
    (hnone : activeClients exportPath { n.nfs with showmount := showmount } = []) :
    let m := (boot node3Units (n.powerLoss rules)).deserted showmount
    (teardown m).result = .ok () ∧ (teardown m).refused = [] ∧
      Node3Restored before (teardown m).node3 := by
  have hholds := node3Holds hbefore hreach
  have hoff := hholds.powerLoss hrules
  have hremembers : NfsRemembers (n.powerLoss rules).nfs :=
    node3Remembers hbefore hdisabled (hreach.tail (.outage (.idle n rules hrules)))
  obtain ⟨s, hs, hboot⟩ := boot_eq hholds hinst hmem hrules
  have hown : NfsOwn { (n.powerLoss rules).nfs with ramMarker := true } :=
    hoff.nfs.congr rfl rfl hoff.nfs.unit ⟨rfl, rfl, rfl, rfl, rfl⟩
  have hzero : (capturedState {} { (n.powerLoss rules).nfs with ramMarker := true }).2 = "0" := by
    rw [(hremembers.view true).captured hown]
  rw [hboot]
  exact teardown_booted hbefore hinst hmem hrules hs hzero hs.own.address hnone

theorem rollback_restores_interrupted :
    let m := (boot node3Units ((midwayNode3.powerLoss []).powerLoss [])).deserted none
    (teardown m).result = .ok () ∧ (teardown m).refused = [] ∧
      Node3Restored freshNode3 (teardown m).node3 :=
  rollback_restores_node3 freshNode3_before rfl interrupted_reaches interrupted_installed
    interrupted_memory rfl rfl

end Boot

end PdDisaggregation
