import PdDisaggregation.Machine
import PdDisaggregation.Script
import PdDisaggregation.Split
import PdDisaggregation.Text

/-! `node1-nfs-rdma-mount.sh` and `node1-nfs-rdma-unmount.sh`. A run that finds a
mount checks it and leaves; another mounts first and checks what it mounted. -/

namespace PdDisaggregation

/-- A mount as `findmnt -rn` prints it. -/
structure Mount where
  source : Text
  options : Text
  deriving DecidableEq

/-- What is mounted at the mount point, whether its root holds
`.dynamo-phase2-ram-storage`, and whether `fuser -m` finds users. -/
structure MountHost where
  mount : Option Mount
  ramMarker : Bool
  users : Bool
  deriving DecidableEq

inductive MountCommand where
  | modprobe
  | install
  | mount
  | findmnt
  | nfsstat
  | ipRoute
  | umount
  | rmdir
  deriving DecidableEq

/-- Why a script ends: one of its own checks, or under `set -e` a command. -/
inductive MountFailure where
  | unexpected (what : String)
  | unexpectedSource (source : Text)
  | existingNotRdma
  | existingNotNfsv3
  | mountedNotRdma
  | mountedNotNfsv3
  | markerAbsent
  | openUsers (mountPoint : String)
  | failed (command : MountCommand)
  deriving DecidableEq

def MountFailure.message : MountFailure → Option String
  | .unexpected what => some ("refusing unexpected " ++ what)
  | .unexpectedSource source => some ("mount uses unexpected source " ++ String.ofList source)
  | .existingNotRdma => some "existing mount is not RDMA"
  | .existingNotNfsv3 => some "existing mount is not NFSv3"
  | .mountedNotRdma => some "mounted transport is not RDMA"
  | .mountedNotNfsv3 => some "mounted protocol is not NFSv3"
  | .markerAbsent => some "remote RAM storage marker is absent"
  | .openUsers mountPoint => some (mountPoint ++ " still has open users")
  | .failed _ => none

structure MountEnv where
  serverIp : String := "172.31.230.113"
  exportPath : String := "/srv/dynamo-g4"
  mountPoint : String := "/mnt/dynamo-g4"
  rdmaPort : String := "20049"
  deriving DecidableEq

/-- How the commands of one run end; `mount` with the options of the new mount. -/
structure MountOutcomes where
  modprobe : Bool
  install : Bool
  mount : Option Text
  findmnt : Bool
  nfsstat : Bool
  ipRoute : Bool

abbrev MountScript := Script MountCommand MountFailure MountHost

open Script

def MountEnv.source (env : MountEnv) : Text :=
  env.serverIp.toList ++ ':' :: env.exportPath.toList

/-- `\w` of the C locale. -/
def isWordChar (c : Char) : Bool := c.isAlphanum || c == '_'

/-- `grep -qw` of a fixed word on one line. -/
def grepWord (word line : Text) : Bool :=
  (List.range (line.length + 1)).any fun i =>
    word.isPrefixOf (line.drop i) && Split.opens (!isWordChar ·) (line.take i) &&
      Split.closes (!isWordChar ·) (line.drop (i + word.length))

/-- `grep -qw 'proto=rdma' <<<"${options//,/ }"`. -/
def rdmaWord (options : Text) : Bool :=
  (Text.lines (options.map fun c => if c == ',' then ' ' else c)).any
    (grepWord "proto=rdma".toList)

/-- `grep -Eq '(^|,){option}(,|$)' <<<"$options"`. -/
def isOption (option : String) (options : Text) : Bool :=
  (Text.lines options).any fun line => (line.splitOn ',').contains option.toList

def runs (ok : Bool) (c : MountCommand) : MountScript Unit :=
  attempt c fun s => if ok then .ok s else .error (.failed c)

def mountChecks (env : MountEnv) : MountScript Unit := do
  dieUnless (env.serverIp == "172.31.230.113") (.unexpected "server address")
  dieUnless (env.exportPath == "/srv/dynamo-g4") (.unexpected "export path")
  dieUnless (env.mountPoint == "/mnt/dynamo-g4") (.unexpected "mount point")
  dieUnless (env.rdmaPort == "20049") (.unexpected "RDMA port")

def fastPath (env : MountEnv) (m : Mount) : MountScript Unit := do
  dieUnless (m.source == env.source) (.unexpectedSource m.source)
  dieUnless (rdmaWord m.options) .existingNotRdma
  dieUnless (isOption "vers=3" m.options) .existingNotNfsv3

/-- `mount`, which leaves the options it printed. -/
def mountNfs (env : MountEnv) (out : MountOutcomes) : MountScript Unit :=
  attempt .mount fun s =>
    match out.mount with
    | some options => .ok { s with mount := some ⟨env.source, options⟩ }
    | none => .error (.failed .mount)

def mountedOptions (s : MountHost) : Text := (s.mount.map (·.options)).getD []

def mountedChecks : MountScript Unit := do
  let options ← read mountedOptions
  dieUnless (rdmaWord options) .mountedNotRdma
  dieUnless (isOption "vers=3" options) .mountedNotNfsv3
  dieUnless (← read (·.ramMarker)) .markerAbsent

def slowPath (env : MountEnv) (out : MountOutcomes) : MountScript Unit := do
  runs out.modprobe .modprobe
  runs out.install .install
  mountNfs env out
  mountedChecks
  runs out.findmnt .findmnt
  runs out.nfsstat .nfsstat
  runs out.ipRoute .ipRoute

def node1NfsRdmaMount (env : MountEnv) (out : MountOutcomes) : MountScript Unit := do
  mountChecks env
  match ← read (·.mount) with
  | some m => fastPath env m
  | none => slowPath env out

/-- `umount`, which a busy mount refuses. -/
def umount : MountScript Unit :=
  attempt .umount fun s =>
    if s.users then .error (.failed .umount) else .ok { s with mount := none }

def node1NfsRdmaUnmount (env : MountEnv) : MountScript Unit := do
  dieUnless (env.mountPoint == "/mnt/dynamo-g4") (.unexpected "mount point")
  match ← read (·.mount) with
  | some m =>
    dieUnless (m.source == env.source) (.unexpectedSource m.source)
    dieUnless (← read (·.ramMarker)) .markerAbsent
    dieUnless (!(← read (·.users))) (.openUsers env.mountPoint)
    umount
  | none => pure ()
  exec .rmdir id

/-- The refusals of a run that has mounted. -/
def IsMountCheck (e : MountFailure) : Prop :=
  e = .mountedNotRdma ∨ e = .mountedNotNfsv3 ∨ e = .markerAbsent

abbrev RunResult := Except MountFailure Unit

/-- `results` are those of the runs since the host last changed otherwise, the
latest first. -/
structure MountNode where
  host : MountHost
  results : List RunResult

inductive MountEvent where
  | run (env : MountEnv) (out : MountOutcomes)
  | change (host : MountHost)

def mountStep (s : MountNode) : MountEvent → Option MountNode
  | .run env out =>
    let run := node1NfsRdmaMount env out s.host
    some ⟨run.state, run.result :: s.results⟩
  | .change host => some ⟨host, []⟩

/-- What exit status 0 promises. -/
structure Delivered (s : MountHost) : Prop where
  mounted : ∃ m, s.mount = some m ∧ m.source = ({} : MountEnv).source ∧
    isOption "vers=3" m.options = true ∧ isOption "proto=rdma" m.options = true
  marker : s.ramMarker = true

/-- Without users, the unmount script removes the mount. -/
def Unmounts (s : MountHost) : Prop :=
  Ends (node1NfsRdmaUnmount {}) { s with users := false } (.ok ())
    { s with users := false, mount := none }

structure KeepsPromise (s : MountNode) : Prop where
  delivered : ∀ earlier, s.results = .ok () :: earlier → Delivered s.host ∧ Unmounts s.host
  noRecovery : ∀ later e earlier, s.results = later ++ .ok () :: .error e :: earlier →
    ¬ IsMountCheck e

/-- The run finds a mount and is content with it. -/
structure FastAccepts (env : MountEnv) (s : MountHost) (m : Mount) : Prop where
  env_eq : env = {}
  mount : s.mount = some m
  source : m.source = env.source
  rdma : rdmaWord m.options = true
  nfsv3 : isOption "vers=3" m.options = true

/-- The run mounts, with these options, and everything else it does succeeds. -/
structure SlowAccepts (env : MountEnv) (out : MountOutcomes) (s : MountHost) (options : Text) :
    Prop where
  env_eq : env = {}
  mount : s.mount = none
  commands : out.modprobe = true ∧ out.install = true ∧ out.mount = some options
  rdma : rdmaWord options = true
  nfsv3 : isOption "vers=3" options = true
  marker : s.ramMarker = true
  reports : out.findmnt = true ∧ out.nfsstat = true ∧ out.ipRoute = true

/-- A mount the fast path accepts has the marker, and on both paths the word
`proto=rdma` is an option. -/
structure Genuine (env : MountEnv) (out : MountOutcomes) (s : MountHost) : Prop where
  fast : ∀ m, FastAccepts env s m → s.ramMarker = true ∧ isOption "proto=rdma" m.options = true
  slow : ∀ options, SlowAccepts env out s options → isOption "proto=rdma" options = true

def GenuineEvent (s : MountNode) : MountEvent → Prop
  | .run env out => Genuine env out s.host
  | .change _ => True

variable {s t : MountHost} {e : MountFailure} {env : MountEnv} {out : MountOutcomes}

theorem mountChecks_ok : Ends (mountChecks env) s (.ok ()) t ↔ env = {} ∧ t = s := by
  rcases env with ⟨ip, path, point, port⟩
  simp only [mountChecks, ends_check_ok, ends_dieUnless_ok, beq_iff_eq, MountEnv.mk.injEq,
    and_assoc]

theorem mountChecks_error (h : Ends (mountChecks env) s (.error e) t) : ¬ IsMountCheck e := by
  simp only [mountChecks, ends_seq_error, ends_dieUnless_ok, ends_dieUnless_error] at h
  rcases h with ⟨-, rfl, -⟩ | ⟨_, -, ⟨-, rfl, -⟩ | ⟨_, -, ⟨-, rfl, -⟩ | ⟨_, -, -, rfl, -⟩⟩⟩
  all_goals simp [IsMountCheck]

@[simp] theorem runs_ok {ok : Bool} {c : MountCommand} :
    Ends (runs ok c) s (.ok ()) t ↔ ok = true ∧ t = s := by
  cases ok with
  | true => simp [runs, eq_comm]
  | false => simp [runs]

@[simp] theorem runs_error {ok : Bool} {c : MountCommand} :
    Ends (runs ok c) s (.error e) t ↔ ok = false ∧ e = .failed c ∧ t = s := by
  cases ok with
  | true => simp [runs]
  | false => simp [runs, eq_comm]

@[simp] theorem mountNfs_ok :
    Ends (mountNfs env out) s (.ok ()) t ↔
      ∃ options, out.mount = some options ∧ t = { s with mount := some ⟨env.source, options⟩ } := by
  cases h : out.mount with
  | none => simp [mountNfs, h]
  | some options => simp [mountNfs, h, eq_comm]

@[simp] theorem mountNfs_error :
    Ends (mountNfs env out) s (.error e) t ↔ out.mount = none ∧ e = .failed .mount ∧ t = s := by
  cases h : out.mount with
  | none => simp [mountNfs, h, eq_comm]
  | some options => simp [mountNfs, h]

theorem fastPath_ok {m : Mount} :
    Ends (fastPath env m) s (.ok ()) t ↔
      (m.source = env.source ∧ rdmaWord m.options = true ∧
        isOption "vers=3" m.options = true) ∧ t = s := by
  simp only [fastPath, ends_check_ok, ends_dieUnless_ok, beq_iff_eq, and_assoc]

theorem fastPath_error {m : Mount} (h : Ends (fastPath env m) s (.error e) t) :
    ¬ IsMountCheck e := by
  simp only [fastPath, ends_seq_error, ends_dieUnless_ok, ends_dieUnless_error] at h
  rcases h with ⟨-, rfl, -⟩ | ⟨_, -, ⟨-, rfl, -⟩ | ⟨_, -, -, rfl, -⟩⟩
  all_goals simp [IsMountCheck]

theorem mountedChecks_ok :
    Ends mountedChecks s (.ok ()) t ↔
      (rdmaWord (mountedOptions s) = true ∧ isOption "vers=3" (mountedOptions s) = true ∧
        s.ramMarker = true) ∧ t = s := by
  simp only [mountedChecks, ends_read_ok, ends_check_ok, ends_dieUnless_ok, and_assoc]

theorem mountedChecks_error (h : Ends mountedChecks s (.error e) t) :
    t = s ∧ ¬ (rdmaWord (mountedOptions s) = true ∧ isOption "vers=3" (mountedOptions s) = true ∧
      s.ramMarker = true) := by
  have hpassive : Passive mountedChecks := by
    apply passive_reading
    intro options
    iterate 2 apply passive_check
    exact passive_reading fun _ => passive_dieUnless _ _
  refine ⟨hpassive.ends h, fun hok => ?_⟩
  have hends := mountedChecks_ok.mpr ⟨hok, rfl⟩
  have hresult := hends.1.symm.trans h.1
  contradiction

theorem slowPath_ok :
    Ends (slowPath env out) s (.ok ()) t ↔
      ∃ options, (out.modprobe = true ∧ out.install = true ∧ out.mount = some options) ∧
        (rdmaWord options = true ∧ isOption "vers=3" options = true ∧ s.ramMarker = true) ∧
        (out.findmnt = true ∧ out.nfsstat = true ∧ out.ipRoute = true) ∧
        t = { s with mount := some ⟨env.source, options⟩ } := by
  simp only [slowPath, ends_seq_ok, runs_ok, mountNfs_ok, mountedChecks_ok]
  constructor
  · rintro ⟨_, ⟨hprobe, rfl⟩, _, ⟨hinstall, rfl⟩, _, ⟨options, hmount, rfl⟩, _, ⟨hchecks, rfl⟩,
      _, ⟨hfind, rfl⟩, _, ⟨hstat, rfl⟩, hroute, rfl⟩
    exact ⟨options, ⟨hprobe, hinstall, hmount⟩, hchecks, ⟨hfind, hstat, hroute⟩, rfl⟩
  · rintro ⟨options, ⟨hprobe, hinstall, hmount⟩, hchecks, ⟨hfind, hstat, hroute⟩, rfl⟩
    exact ⟨_, ⟨hprobe, rfl⟩, _, ⟨hinstall, rfl⟩, _, ⟨options, hmount, rfl⟩, _, ⟨hchecks, rfl⟩,
      _, ⟨hfind, rfl⟩, _, ⟨hstat, rfl⟩, hroute, rfl⟩

/-- A run that fails its checks of the new mount leaves that mount behind. -/
theorem slowPath_error (h : Ends (slowPath env out) s (.error e) t) (he : IsMountCheck e) :
    ∃ options, t.mount = some ⟨env.source, options⟩ ∧
      ¬ (rdmaWord options = true ∧ isOption "vers=3" options = true ∧ t.ramMarker = true) := by
  have hcommand (c : MountCommand) : e ≠ .failed c := by
    rintro rfl
    simp [IsMountCheck] at he
  simp only [slowPath, ends_seq_error, runs_ok, runs_error, mountNfs_ok, mountNfs_error,
    hcommand, false_and, and_false, false_or, or_false, exists_false] at h
  obtain ⟨_, -, _, -, _, ⟨options, -, rfl⟩, h⟩ := h
  obtain ⟨rfl, hfails⟩ := mountedChecks_error h
  exact ⟨options, rfl, hfails⟩

theorem node1NfsRdmaMount_ok :
    Ends (node1NfsRdmaMount env out) s (.ok ()) t ↔
      (∃ m, FastAccepts env s m) ∧ t = s ∨
        ∃ options, SlowAccepts env out s options ∧
          t = { s with mount := some ⟨env.source, options⟩ } := by
  rw [node1NfsRdmaMount, ends_seq_ok]
  simp only [mountChecks_ok, ends_read_ok]
  cases hm : s.mount with
  | none =>
    constructor
    · rintro ⟨_, ⟨henv, rfl⟩, h⟩
      rw [hm] at h
      obtain ⟨options, hcommands, ⟨hrdma, hnfsv3, hmarker⟩, hreports, rfl⟩ := slowPath_ok.mp h
      exact Or.inr ⟨options, ⟨henv, hm, hcommands, hrdma, hnfsv3, hmarker, hreports⟩, rfl⟩
    · rintro (⟨⟨m, hfast⟩, -⟩ | ⟨options, hslow, rfl⟩)
      · rw [hfast.mount] at hm
        cases hm
      · refine ⟨s, ⟨hslow.env_eq, rfl⟩, ?_⟩
        rw [hm]
        exact slowPath_ok.mpr ⟨options, hslow.commands,
          ⟨hslow.rdma, hslow.nfsv3, hslow.marker⟩, hslow.reports, rfl⟩
  | some m =>
    constructor
    · rintro ⟨_, ⟨henv, rfl⟩, h⟩
      rw [hm] at h
      obtain ⟨⟨hsource, hrdma, hnfsv3⟩, rfl⟩ := fastPath_ok.mp h
      exact Or.inl ⟨⟨m, henv, hm, hsource, hrdma, hnfsv3⟩, rfl⟩
    · rintro (⟨⟨m', hfast⟩, rfl⟩ | ⟨options, hslow, -⟩)
      · refine ⟨t, ⟨hfast.env_eq, rfl⟩, ?_⟩
        rw [hm]
        have hm' : m' = m := Option.some.inj (hfast.mount.symm.trans hm)
        subst hm'
        exact fastPath_ok.mpr ⟨⟨hfast.source, hfast.rdma, hfast.nfsv3⟩, rfl⟩
      · rw [hslow.mount] at hm
        cases hm

/-- The fixed source is mounted, and a check of the slow path fails on it. -/
def Unverified (s : MountHost) : Prop :=
  ∃ options, s.mount = some ⟨({} : MountEnv).source, options⟩ ∧
    ¬ (rdmaWord options = true ∧ isOption "vers=3" options = true ∧ s.ramMarker = true)

theorem node1NfsRdmaMount_error (h : Ends (node1NfsRdmaMount env out) s (.error e) t)
    (he : IsMountCheck e) : Unverified t := by
  rw [node1NfsRdmaMount, ends_seq_error] at h
  rcases h with h | ⟨_, h, hpath⟩
  · exact absurd he (mountChecks_error h)
  · obtain ⟨rfl, rfl⟩ := mountChecks_ok.mp h
    simp only [ends_bind_error, ends_read, Except.ok.injEq, reduceCtorEq, false_and,
      false_or] at hpath
    obtain ⟨found, _, ⟨rfl, rfl⟩, hpath⟩ := hpath
    split at hpath
    · exact absurd he (fastPath_error hpath)
    · exact slowPath_error hpath he

theorem unmounts_of_delivered (h : Delivered s) : Unmounts s := by
  obtain ⟨m, hm, hsource, -⟩ := h.mounted
  simp [Unmounts, node1NfsRdmaUnmount, hm, hsource, h.marker, umount]

/-- With the promise, what the run after a failed check finds. -/
structure MountInv (s : MountNode) : Prop where
  keeps : KeepsPromise s
  unverified : ∀ e earlier, s.results = .error e :: earlier → IsMountCheck e → Unverified s.host

variable {node node' : MountNode}

theorem mountStep_run (h : mountStep node (.run env out) = some node') :
    ∃ r, Ends (node1NfsRdmaMount env out) node.host r node'.host ∧
      node'.results = r :: node.results := by
  cases h
  exact ⟨_, ⟨rfl, rfl⟩, rfl⟩

theorem delivered_of_ok (hgenuine : Genuine env out s)
    (h : Ends (node1NfsRdmaMount env out) s (.ok ()) t) : Delivered t := by
  rcases node1NfsRdmaMount_ok.mp h with ⟨⟨m, hfast⟩, rfl⟩ | ⟨options, hslow, rfl⟩
  · obtain ⟨hmarker, hrdma⟩ := hgenuine.fast m hfast
    have hsource := hfast.source
    rw [hfast.env_eq] at hsource
    exact ⟨⟨m, hfast.mount, hsource, hfast.nfsv3, hrdma⟩, hmarker⟩
  · rw [hslow.env_eq]
    exact ⟨⟨_, rfl, rfl, hslow.nfsv3, hgenuine.slow options hslow⟩, hslow.marker⟩

theorem genuine_of_delivered
    (h : ∀ t, Ends (node1NfsRdmaMount env out) s (.ok ()) t → Delivered t) :
    Genuine env out s := by
  constructor
  · intro m hfast
    have hd := h s (node1NfsRdmaMount_ok.mpr (Or.inl ⟨⟨m, hfast⟩, rfl⟩))
    obtain ⟨m', hm, -, -, hrdma⟩ := hd.mounted
    obtain rfl := Option.some.inj (hfast.mount.symm.trans hm)
    exact ⟨hd.marker, hrdma⟩
  · intro options hslow
    have hd := h _ (node1NfsRdmaMount_ok.mpr (Or.inr ⟨options, hslow, rfl⟩))
    obtain ⟨m, hm, -, -, hrdma⟩ := hd.mounted
    obtain rfl := Option.some.inj hm
    exact hrdma

theorem not_ok_of_unverified (hu : Unverified s) (hgenuine : Genuine env out s) :
    ¬ Ends (node1NfsRdmaMount env out) s (.ok ()) t := by
  intro h
  obtain ⟨options, hm, hfails⟩ := hu
  rcases node1NfsRdmaMount_ok.mp h with ⟨⟨m, hfast⟩, -⟩ | ⟨_, hslow, -⟩
  · obtain rfl := Option.some.inj (hm.symm.trans hfast.mount)
    exact hfails ⟨hfast.rdma, hfast.nfsv3, (hgenuine.fast _ hfast).1⟩
  · rw [hslow.mount] at hm
    cases hm

theorem keepsPromise_run (hinv : MountInv node)
    (h : mountStep node (.run env out) = some node') :
    KeepsPromise node' ↔ Genuine env out node.host := by
  obtain ⟨r, hends, hresults⟩ := mountStep_run h
  constructor
  · intro hkeeps
    apply genuine_of_delivered
    intro t ht
    obtain rfl : node'.host = t := hends.2.symm.trans ht.2
    have hr : r = .ok () := hends.1.symm.trans ht.1
    rw [hr] at hresults
    exact (hkeeps.delivered _ hresults).1
  · intro hgenuine
    constructor
    · intro earlier hok
      obtain ⟨rfl, -⟩ := List.cons.inj (hresults.symm.trans hok)
      have hd := delivered_of_ok hgenuine hends
      exact ⟨hd, unmounts_of_delivered hd⟩
    · intro later e earlier hok
      rw [hresults] at hok
      cases later with
      | cons r' later =>
        obtain ⟨-, hrest⟩ := List.cons.inj hok
        exact hinv.keeps.noRecovery later e earlier hrest
      | nil =>
        obtain ⟨rfl, hrest⟩ := List.cons.inj hok
        intro he
        exact not_ok_of_unverified (hinv.unverified e earlier hrest he) hgenuine hends

theorem mountInv_step {event : MountEvent} (hinv : MountInv node)
    (hgenuine : GenuineEvent node event) (h : mountStep node event = some node') :
    MountInv node' := by
  cases event with
  | change host =>
    cases h
    exact ⟨⟨by simp, by simp⟩, by simp⟩
  | run env out =>
    refine ⟨(keepsPromise_run hinv h).mpr hgenuine, fun e earlier hfailed he => ?_⟩
    obtain ⟨r, hends, hresults⟩ := mountStep_run h
    obtain ⟨rfl, -⟩ := List.cons.inj (hresults.symm.trans hfailed)
    exact node1NfsRdmaMount_error hends he

/-- In a history whose runs were all genuine, success has kept its promise, and the
next run keeps it exactly if it is genuine too. -/
theorem mount_promise_iff (host : MountHost) (node : MountNode)
    (h : Machine.Reaches mountStep GenuineEvent ⟨host, []⟩ node) :
    KeepsPromise node ∧ ∀ env out node', mountStep node (.run env out) = some node' →
      (KeepsPromise node' ↔ Genuine env out node.host) := by
  have hinv : MountInv node := by
    apply h.invariant
    · intro s event t hs hgenuine ht
      exact mountInv_step hs hgenuine ht
    · exact ⟨⟨by simp, by simp⟩, by simp⟩
  exact ⟨hinv.keeps, fun env out node' hrun => keepsPromise_run hinv hrun⟩

def nfsOptions : Text := "rw,relatime,vers=3,proto=rdma,port=20049,hard,timeo=600".toList

def allSucceed : MountOutcomes := ⟨true, true, some nfsOptions, true, true, true⟩

def markedHost : MountHost := ⟨none, true, false⟩

theorem nfsOptions_accepted :
    rdmaWord nfsOptions = true ∧ isOption "vers=3" nfsOptions = true ∧
      isOption "proto=rdma" nfsOptions = true := by
  decide +kernel

theorem mount_promise_once :
    KeepsPromise
      ⟨{ markedHost with mount := some ⟨({} : MountEnv).source, nfsOptions⟩ }, [.ok ()]⟩ := by
  obtain ⟨hrdma, hnfsv3, hoption⟩ := nfsOptions_accepted
  have hgenuine : Genuine {} allSucceed markedHost := by
    constructor
    · intro m hfast
      cases hfast.mount
    · intro options hslow
      obtain rfl := Option.some.inj hslow.commands.2.2
      exact hoption
  have hends : Ends (node1NfsRdmaMount {} allSucceed) markedHost (.ok ())
      { markedHost with mount := some ⟨({} : MountEnv).source, nfsOptions⟩ } :=
    node1NfsRdmaMount_ok.mpr (Or.inr ⟨nfsOptions,
      ⟨rfl, rfl, ⟨rfl, rfl, rfl⟩, hrdma, hnfsv3, rfl, ⟨rfl, rfl, rfl⟩⟩, rfl⟩)
  refine (mount_promise_iff markedHost _ (.single ⟨.run {} allSucceed, hgenuine, ?_⟩)).1
  simp [mountStep, hends.1, hends.2]

/-- Without the marker the first run fails its last check; the second finds the mount. -/
theorem unmarked_mount_accepted :
    ¬ ∀ host node, Machine.Reachable mountStep ⟨host, []⟩ node → KeepsPromise node := by
  intro h
  obtain ⟨node, hnode⟩ : ∃ node, Machine.exec mountStep ⟨⟨none, false, false⟩, []⟩
      [.run {} allSucceed, .run {} allSucceed] = some node := ⟨_, rfl⟩
  have hresults : node.results = [] ++ .ok () :: .error .markerAbsent :: [] := by
    cases hnode
    decide +kernel
  exact (h _ node (Machine.reachable_of_exec _ hnode)).noRecovery _ _ _ hresults
    (Or.inr (Or.inr rfl))

end PdDisaggregation
