import PdDisaggregation.RamRuns

/-! Which states that cut starts and stops leave behind lead back to an active
disk. The disk is followed through its four phases. -/

namespace PdDisaggregation

open Script

/-- A size that some start can ask for. -/
def Requested (sizeBytes : Nat) : Prop :=
  ∃ env : RamEnv, EnvAccepted env ∧ env.ramDevice = "/dev/ram0" ∧ env.sizeBytes = sizeBytes

inductive Disk where
  | absent
  | blank (sizeBytes : Nat)
  | formatted (sizeBytes : Nat) (marker : Bool)
  | mounted (sizeBytes : Nat) (marker : Bool)

namespace Disk

def ramModule (sizeBytes : Nat) (fs : Option FileSystem) : Option BrdModule :=
  some ⟨.start, [⟨"/dev/ram0", sizeBytes, fs⟩]⟩

def brd : Disk → Option BrdModule
  | absent => none
  | blank n => ramModule n none
  | formatted n marker => ramModule n (some ⟨marker⟩)
  | mounted n marker => ramModule n (some ⟨marker⟩)

def mounts : Disk → List MountEntry
  | mounted _ _ => [⟨"/dev/ram0", "/srv/dynamo-g4"⟩]
  | _ => []

def SizeRequested : Disk → Prop
  | absent => True
  | blank n => Requested n
  | formatted n _ => Requested n
  | mounted n _ => Requested n

/-- With this record a run can still lead back to an active disk. -/
def Recovers (record : String) : Disk → Prop
  | absent => True
  | blank _ => True
  | formatted _ _ => record = "1"
  | mounted _ marker => marker = true

end Disk

/-- The variables in `STATE_FILE`, as far as written, are those of the disk. -/
def OwnFile (file : Option RamState) : Prop :=
  ∀ f, file = some f → f.ramDevice.getD "/dev/ram0" = "/dev/ram0" ∧
    f.mountPoint.getD "/srv/dynamo-g4" = "/srv/dynamo-g4"

structure Holds (s : RamHost) (d : Disk) : Prop where
  brd : s.brd = d.brd
  mounts : s.mounts = d.mounts
  size : d.SizeRequested
  notExported : s.exported = false
  noUsers : s.openUsers = false
  file : OwnFile s.stateFile

structure Recoverable (s : RamHost) : Prop where
  mounted : s.mounts ≠ [] → s.hasMarker "/dev/ram0" = true
  unmounted : s.mounts = [] →
    s.brd = none ∨ s.hasSignature "/dev/ram0" = false ∨ recordedModule s = "1"

variable {env : RamEnv} {s t : RamHost} {d : Disk} {n : Nat} {marker : Bool}

theorem Holds.device (h : Holds s d) (n : Nat) (fs : Option FileSystem)
    (hb : d.brd = Disk.ramModule n fs) (name : String) :
    s.device name = if "/dev/ram0" = name then some ⟨"/dev/ram0", n, fs⟩ else none := by
  unfold RamHost.device
  rw [h.brd, hb]
  by_cases hn : "/dev/ram0" = name
  · rw [if_pos hn]
    simp [Disk.ramModule, hn]
  · rw [if_neg hn]
    simp [Disk.ramModule, hn]

theorem Holds.recoverable_iff (h : Holds s d) :
    Recoverable s ↔ d.Recovers (recordedModule s) := by
  have hm := h.mounts
  cases d with
  | absent =>
    exact ⟨fun _ => trivial, fun _ => ⟨fun hne => absurd hm hne, fun _ => Or.inl h.brd⟩⟩
  | blank n =>
    have hd := h.device n none rfl "/dev/ram0"
    refine ⟨fun _ => trivial, fun _ => ⟨fun hne => absurd hm hne, fun _ => Or.inr (Or.inl ?_)⟩⟩
    simp [RamHost.hasSignature, hd]
  | formatted n marker =>
    have hd := h.device n (some ⟨marker⟩) rfl "/dev/ram0"
    constructor
    · intro hr
      rcases hr.unmounted hm with hb | hsig | hrec
      · rw [h.brd] at hb
        contradiction
      · simp [RamHost.hasSignature, hd] at hsig
      · exact hrec
    · intro hrec
      exact ⟨fun hne => absurd hm hne, fun _ => Or.inr (Or.inr hrec)⟩
  | mounted n marker =>
    have hd := h.device n (some ⟨marker⟩) rfl "/dev/ram0"
    have hmark : s.hasMarker "/dev/ram0" = marker := by simp [RamHost.hasMarker, hd]
    have hne : s.mounts ≠ [] := by
      rw [hm]
      exact List.cons_ne_nil _ _
    constructor
    · intro hr
      exact hmark ▸ hr.mounted hne
    · intro hr
      exact ⟨fun _ => hmark.trans hr, fun hnil => absurd hnil hne⟩

theorem Holds.congr (h : Holds s d) (hb : t.brd = s.brd) (hm : t.mounts = s.mounts)
    (he : t.exported = s.exported) (hu : t.openUsers = s.openUsers)
    (hf : OwnFile t.stateFile) : Holds t d :=
  ⟨hb.trans h.brd, hm.trans h.mounts, h.size, he.trans h.notExported, hu.trans h.noUsers, hf⟩

theorem Holds.sourcesAt (h : Holds s d) : s.sourcesAt "/srv/dynamo-g4" =
    match d with
    | .mounted _ _ => ["/dev/ram0"]
    | _ => [] := by
  unfold RamHost.sourcesAt
  rw [h.mounts]
  cases d <;> rfl

theorem requested_sizeBytes (henv : EnvAccepted env) : Requested env.sizeBytes := by
  have hdev : isRamDevice "/dev/ram0" = true := by decide
  exact ⟨{ env with ramDevice := "/dev/ram0" }, ⟨henv.size, hdev, henv.mountPoint⟩, rfl, rfl⟩

theorem Holds.load (h : Holds s .absent) (henv : EnvAccepted env) :
    Holds (s.loadBrd env.sizeKib) (.blank env.sizeBytes) :=
  ⟨rfl, h.mounts, requested_sizeBytes henv, h.notExported, h.noUsers, h.file⟩

theorem Holds.not_gate (h : Holds s d) (n : Nat) (fs : FileSystem)
    (hb : d.brd = Disk.ramModule n (some fs)) : ¬ DeviceBlank env s := by
  intro hgate
  have hsize := hgate.size
  have hblank := hgate.blank
  unfold RamHost.hasSignature at hblank
  rw [h.device n (some fs) hb] at hblank hsize
  by_cases hn : "/dev/ram0" = env.ramDevice
  · rw [if_pos hn] at hblank
    contradiction
  · rw [if_neg hn] at hsize
    contradiction

theorem Holds.gate (h : Holds s d) (hgate : DeviceBlank env s) :
    env.ramDevice = "/dev/ram0" ∧ d = .blank env.sizeBytes := by
  have hsize := hgate.size
  cases d with
  | absent =>
    have hdev : s.device env.ramDevice = none := by
      unfold RamHost.device
      rw [h.brd]
      rfl
    rw [hdev] at hsize
    contradiction
  | blank n =>
    rw [h.device n none rfl] at hsize
    by_cases hn : "/dev/ram0" = env.ramDevice
    · rw [if_pos hn] at hsize
      have hsame : n = env.sizeBytes := by simpa using hsize
      exact ⟨hn.symm, by rw [hsame]⟩
    · rw [if_neg hn] at hsize
      contradiction
  | formatted n marker => exact absurd hgate (h.not_gate n ⟨marker⟩ rfl)
  | mounted n marker => exact absurd hgate (h.not_gate n ⟨marker⟩ rfl)

theorem Holds.mkfs (h : Holds s (.blank n)) :
    Holds (s.setFileSystem "/dev/ram0" ⟨false⟩) (.formatted n false) := by
  refine ⟨?_, h.mounts, h.size, h.notExported, h.noUsers, h.file⟩
  unfold RamHost.setFileSystem
  rw [h.brd]
  rfl

theorem Holds.mount (h : Holds s (.formatted n marker)) :
    Holds { s with mounts := ⟨"/dev/ram0", "/srv/dynamo-g4"⟩ :: s.mounts } (.mounted n marker) := by
  refine ⟨h.brd, ?_, h.size, h.notExported, h.noUsers, h.file⟩
  have hm := h.mounts
  show _ :: s.mounts = _
  rw [hm]
  rfl

theorem Holds.mark (h : Holds s (.mounted n marker)) :
    Holds (s.setFileSystem "/dev/ram0" ⟨true⟩) (.mounted n true) := by
  refine ⟨?_, h.mounts, h.size, h.notExported, h.noUsers, h.file⟩
  unfold RamHost.setFileSystem
  rw [h.brd]
  rfl

theorem Holds.truncate (h : Holds s d) : Holds { s with stateFile := some {} } d := by
  refine h.congr rfl rfl rfl rfl ?_
  rintro f hf
  cases hf
  exact ⟨rfl, rfl⟩

theorem Holds.print (h : Holds s d) {f : RamState → RamState}
    (hdev : ∀ r, (f r).ramDevice = r.ramDevice ∨ (f r).ramDevice = some "/dev/ram0")
    (hmp : ∀ r, (f r).mountPoint = r.mountPoint ∨ (f r).mountPoint = some "/srv/dynamo-g4") :
    Holds (printState f s) d := by
  refine h.congr rfl rfl rfl rfl ?_
  rintro r hr
  obtain ⟨r', hr', rfl⟩ := Option.map_eq_some_iff.mp hr
  obtain ⟨hrd, hrm⟩ := h.file r' hr'
  constructor
  · rcases hdev r' with hh | hh
    · rw [hh]
      exact hrd
    · rw [hh]
      rfl
  · rcases hmp r' with hh | hh
    · rw [hh]
      exact hrm
    · rw [hh]
      rfl

/-- A start that was not cut where it leaves a file system without its marker. -/
structure CutSafely (done : List StartCommand) (record : String) : Prop where
  marked : .mount ∈ done → .installMarker ∈ done
  mounted : .mkfsExt4 ∈ done → .mount ∉ done → record = "1"

/-- Where a start may have stopped: in a phase of the disk, and in one that
recovers if it began in such a one and was cut safely. -/
def StartCut (recovers : Prop) (done : List StartCommand) (t : RamHost) : Prop :=
  ∃ d, Holds t d ∧
    (recovers → CutSafely done (recordedModule t) → d.Recovers (recordedModule t))

variable {recovers : Prop} {done : List StartCommand}

theorem StartCut.here (h : Holds s d) (hr : recovers → d.Recovers (recordedModule s)) :
    StartCut recovers done s := ⟨d, h, fun hrec _ => hr hrec⟩

theorem StartCut.lost (h : Holds s d) (hno : ¬ CutSafely done (recordedModule s)) :
    StartCut recovers done s := ⟨d, h, fun _ hsafe => absurd hsafe hno⟩

theorem writeRamState_cuts (h : Holds s (.mounted n true)) (hdev : env.ramDevice = "/dev/ram0")
    (hmp : env.mountPoint = "/srv/dynamo-g4") (c : String) :
    Cuts (StartCut recovers) done (writeRamState env c) s := by
  have hJ : Keeps (fun _ t => Holds t (.mounted n true)) (writeRamState env c) := by
    apply keeps_writes
    · intro s hs
      exact hs.truncate
    · intro f s hf hs
      apply hs.print
      · rw [← hdev]
        exact hf.ramDevice
      · rw [← hmp]
        exact hf.mountPoint
  refine (hJ done s h).mono (fun _ _ t ht => ?_) fun _ _ t ht => ?_
  · exact StartCut.here ht fun _ => rfl
  · exact StartCut.here ht fun _ => rfl

/-- From a blank device on, the cuts that lose the disk are those between `mkfs`
and the marker. -/
theorem formatAndMount_cuts (h : Holds s (.blank n)) (hdev : env.ramDevice = "/dev/ram0")
    (hmp : env.mountPoint = "/srv/dynamo-g4") (c : String)
    (hmount : .mount ∉ done) (hmark : .installMarker ∉ done) :
    Cuts (StartCut recovers) done (formatAndMount env >>= fun _ => writeRamState env c) s := by
  have hformatted := h.mkfs
  have hmounted := hformatted.mount
  have hmarked := hmounted.mark
  have hunmarked : ¬ CutSafely (.mount :: .mkfsExt4 :: done)
      (recordedModule { s.setFileSystem "/dev/ram0" ⟨false⟩ with
        mounts := ⟨"/dev/ram0", "/srv/dynamo-g4"⟩ :: s.mounts }) := by
    intro hsafe
    have hin := hsafe.marked List.mem_cons_self
    simp [hmark] at hin
  simp only [formatAndMount, meets_bind, meets_exec, hdev, hmp]
  refine ⟨StartCut.here h fun _ => trivial, ⟨_, hformatted, fun _ hsafe => ?_⟩,
    StartCut.lost hmounted hunmarked, ?_⟩
  · exact hsafe.mounted List.mem_cons_self (by simp [hmount])
  · exact writeRamState_cuts hmarked hdev hmp c

section

variable {P : List StartCommand → RamHost → Prop}

theorem ensureModule_cuts {k : String → Start Unit} (hhere : P done s)
    (hload : s.brd = none → Cuts P (.modprobeBrd :: done) (k "1") (s.loadBrd env.sizeKib))
    (hkeep : s.brd ≠ none → Cuts P done (k "0") s) : Cuts P done (ensureModule env >>= k) s := by
  simp only [Cuts, ensureModule, meets_bind, meets_read, meets_ite, meets_exec, meets_pure]
  refine ⟨fun hnone => ⟨hhere, hload (Option.isNone_iff_eq_none.mp hnone)⟩, fun hsome => ?_⟩
  exact hkeep fun hn => hsome (Option.isNone_iff_eq_none.mpr hn)

def gated (env : RamEnv) (c : String) : Start Unit :=
  deviceGate env >>= fun _ => formatAndMount env >>= fun _ => writeRamState env c

/-- Before its device gate a start executes nothing but the loading of `brd`. -/
theorem startRamStorage_cuts (hhere : P [] s)
    (hload : EnvAccepted env → s.brd = none →
      Cuts P [.modprobeBrd] (gated env "1") (s.loadBrd env.sizeKib))
    (hkeep : EnvAccepted env → s.brd ≠ none → Cuts P [] (gated env "0") s) :
    Cuts P [] (startRamStorage env) s := by
  unfold startRamStorage
  refine (passive_dieUnless _ _).meets_bind hhere fun _ hsize => ?_
  refine (passive_dieUnless _ _).meets_bind hhere fun _ hdevice => ?_
  refine (passive_dieUnless _ _).meets_bind hhere fun _ hmp => ?_
  have henv : EnvAccepted env :=
    ⟨(ends_dieUnless_ok.mp hsize).1, (ends_dieUnless_ok.mp hdevice).1,
      beq_iff_eq.mp (ends_dieUnless_ok.mp hmp).1⟩
  refine (passive_read _).meets_bind hhere fun sources _ => ?_
  rw [Cuts, meets_ite]
  refine ⟨fun _ => ?_, fun _ => passive_adoptActive.keeps [] s hhere⟩
  refine passive_memoryGate.meets_bind hhere fun _ _ => ?_
  exact ensureModule_cuts hhere (hload henv) (hkeep henv)

end

theorem Holds.absent (h : Holds s d) (hb : s.brd = none) : d = .absent := by
  have hbrd := h.brd
  rw [hb] at hbrd
  cases d with
  | absent => rfl
  | blank n => contradiction
  | formatted n marker => contradiction
  | mounted n marker => contradiction

theorem gated_cuts (h : Holds s d) (henv : EnvAccepted env) (c : String)
    (hr : recovers → d.Recovers (recordedModule s))
    (hmount : .mount ∉ done) (hmark : .installMarker ∉ done) :
    Cuts (StartCut recovers) done (gated env c) s := by
  refine passive_deviceGate.meets_bind (StartCut.here h hr) fun _ hgate => ?_
  obtain ⟨hdev, rfl⟩ := h.gate (deviceGate_ok.mp hgate).1
  exact formatAndMount_cuts h hdev henv.mountPoint c hmount hmark

theorem start_cuts (h : Holds s d) :
    Cuts (StartCut (d.Recovers (recordedModule s))) [] (startRamStorage env) s := by
  refine startRamStorage_cuts (StartCut.here h id) (fun henv hnone => ?_) fun henv _ => ?_
  · have habsent := h.absent hnone
    subst habsent
    exact gated_cuts (h.load henv) henv "1" (fun _ => trivial) (by simp) (by simp)
  · exact gated_cuts h henv "0" id List.not_mem_nil List.not_mem_nil

/-- Where a stop may have stopped: in a phase of the disk, and in one that
recovers if it began in such a one and unmounts only its own module's disk. -/
def StopCut (recovers owned : Prop) (done : List StopCommand) (t : RamHost) : Prop :=
  ∃ d, Holds t d ∧ (recovers → (.umount ∈ done → owned) → d.Recovers (recordedModule t))

section

variable {owned : Prop} {stopped : List StopCommand} {c : String}

section

variable {P : List StopCommand → RamHost → Prop} {k : Unit → Stop Unit}

theorem unmountRam_cuts (hhere : P stopped s)
    (hkeep : s.sourcesAt env.mountPoint = [] → Cuts P stopped (k ()) s)
    (hdown : UnmountAllowed env s → Cuts P (.umount :: stopped) (k ()) (unmounted env s)) :
    Cuts P stopped (unmountRam env >>= k) s := by
  simp only [Cuts, unmountRam, meets_bind, meets_read, meets_ite, meets_dieUnless, meets_exec,
    meets_pure]
  refine ⟨fun _ => ⟨fun hsource => ⟨fun hmarked => ⟨fun hexported => ⟨fun husers =>
    ⟨hhere, ?_⟩, fun _ => hhere⟩, fun _ => hhere⟩, fun _ => hhere⟩, fun _ => hhere⟩, fun hempty => ?_⟩
  · exact hdown ⟨beq_iff_eq.mp hsource, hmarked, by simpa using hexported, by simpa using husers⟩
  · exact hkeep (by simpa [List.isEmpty_iff] using hempty)

theorem unloadBrd_cuts (hhere : P stopped s)
    (hkeep : ¬ (c = "1" ∧ s.brd.isSome = true) → Cuts P stopped (k ()) s)
    (hunload : c = "1" → Cuts P (.modprobeRemove :: stopped) (k ()) { s with brd := none }) :
    Cuts P stopped (unloadBrd c >>= k) s := by
  simp only [Cuts, unloadBrd, meets_bind, meets_read, meets_ite, meets_dieUnless, meets_exec,
    meets_pure]
  refine ⟨fun hload => ⟨fun _ => ⟨hhere, ?_⟩, fun _ => hhere⟩, fun hno => ?_⟩
  · exact hunload (by simpa using (Bool.and_eq_true_iff.mp hload).1)
  · exact hkeep (by simpa using hno)

def finish (c : String) : Stop Unit :=
  unloadBrd c >>= fun _ => exec .removeStateFile fun s => { s with stateFile := none }

theorem stopRamStorage_cuts (hhere : P [] s)
    (hrun : env.mountPoint = "/srv/dynamo-g4" →
      Cuts P [] (unmountRam (sourced env s) >>= fun _ => finish (recordedModule s)) s) :
    Cuts P [] (stopRamStorage env) s := by
  unfold stopRamStorage
  refine (passive_dieUnless _ _).meets_bind hhere fun _ _ => ?_
  refine (passive_dieUnless _ _).meets_bind hhere fun _ hmp => ?_
  refine (passive_read _).meets_bind hhere fun c hc => ?_
  refine (passive_read _).meets_bind hhere fun vars hvars => ?_
  obtain rfl : c = recordedModule s := Except.ok.inj ((ends_read _).mp hc).1
  obtain rfl : vars = sourced env s := Except.ok.inj ((ends_read _).mp hvars).1
  exact hrun (beq_iff_eq.mp (ends_dieUnless_ok.mp hmp).1)

end

theorem Holds.unload (h : Holds s d) (hd : d.mounts = []) : Holds { s with brd := none } .absent :=
  ⟨rfl, h.mounts.trans hd, trivial, h.notExported, h.noUsers, h.file⟩

theorem Holds.forget (h : Holds s d) : Holds { s with stateFile := none } d := by
  refine h.congr rfl rfl rfl rfl ?_
  rintro f hf
  contradiction

theorem finish_cuts (h : Holds s d) (hd : d.mounts = [])
    (hr : recovers → (.umount ∈ stopped → owned) → d.Recovers (recordedModule s)) :
    Cuts (StopCut recovers owned) stopped (finish (recordedModule s)) s := by
  refine unloadBrd_cuts ⟨d, h, hr⟩ (fun hno => ?_) fun hone => ?_
  · rw [Cuts, meets_exec]
    refine ⟨⟨d, h, hr⟩, ⟨d, h.forget, fun hrec hdone => ?_⟩⟩
    have hrecovers := hr hrec fun hin => hdone (List.mem_cons_of_mem _ hin)
    cases d with
    | absent => trivial
    | blank n => trivial
    | formatted n marker =>
      have hsome : s.brd.isSome = true := by
        rw [h.brd]
        rfl
      exact absurd ⟨hrecovers, hsome⟩ hno
    | mounted n marker => contradiction
  · have hgone := h.unload hd
    rw [Cuts, meets_exec]
    exact ⟨⟨_, hgone, fun _ _ => trivial⟩, ⟨_, hgone.forget, fun _ _ => trivial⟩⟩

theorem Holds.sourced_mountPoint (h : Holds s d) (hmp : env.mountPoint = "/srv/dynamo-g4") :
    (sourced env s).mountPoint = "/srv/dynamo-g4" := by
  unfold sourced
  cases hf : s.stateFile with
  | none => exact hmp
  | some f =>
    have hown := (h.file f hf).2
    show f.mountPoint.getD env.mountPoint = _
    rwa [hmp]

theorem Holds.unmount (h : Holds s (.mounted n marker)) (hmp : env.mountPoint = "/srv/dynamo-g4") :
    Holds (unmounted env s) (.formatted n marker) := by
  refine ⟨h.brd, ?_, h.size, h.notExported, h.noUsers, h.file⟩
  unfold unmounted
  rw [h.mounts, hmp]
  rfl

theorem Holds.mounts_of_sourcesAt (h : Holds s d) (hs : s.sourcesAt "/srv/dynamo-g4" = []) :
    d.mounts = [] := by
  rw [h.sourcesAt] at hs
  cases d with
  | mounted n marker => contradiction
  | _ => rfl

theorem stop_cuts (h : Holds s d) :
    Cuts (StopCut (d.Recovers (recordedModule s)) (recordedModule s = "1")) []
      (stopRamStorage env) s := by
  have hhere : StopCut (d.Recovers (recordedModule s)) (recordedModule s = "1") [] s :=
    ⟨d, h, fun hr _ => hr⟩
  refine stopRamStorage_cuts hhere fun hmp => ?_
  have hpoint := h.sourced_mountPoint hmp
  refine unmountRam_cuts hhere (fun hempty => ?_) fun hallowed => ?_
  · rw [hpoint] at hempty
    exact finish_cuts h (h.mounts_of_sourcesAt hempty) fun hr _ => hr
  · have hsource := hallowed.source
    rw [hpoint, h.sourcesAt] at hsource
    cases d with
    | mounted n marker =>
      exact finish_cuts (h.unmount hpoint) rfl fun _ howned => howned List.mem_cons_self
    | absent => contradiction
    | blank n => contradiction
    | formatted n marker => contradiction

end

end PdDisaggregation
