import PdDisaggregation.NfsSetup
import PdDisaggregation.NfsRollback

/-! What `STATE_FILE` says after a sequence of setup runs, each of which may
stop before any of its commands. -/

namespace PdDisaggregation

open Script

variable {env : SetupEnv} {s₀ s t u : NfsHost} {done : List SetupCommand} {c : SetupCommand}

def recordsState (c : SetupCommand) : Bool :=
  c == .openStateFile || c == .printfPackage || c == .printfService

/-- Where a run from `s` stands before it records anything. -/
structure BeforeRecord (s : NfsHost) (done : List SetupCommand) (t : NfsHost) : Prop where
  unrecorded : ∀ c ∈ done, recordsState c = false
  stateFile : t.stateFile = s.stateFile
  package : .aptGetInstall ∉ done → t.packageInstalled = s.packageInstalled
  service : .aptGetInstall ∉ done → .systemctlStart ∉ done ∨ s.nfsServer = .missing →
    t.nfsServer = s.nfsServer
  active : s.serverActive = true → t.serverActive = true

structure Effect (c : SetupCommand) (t u : NfsHost) : Prop where
  stateFile : u.stateFile = t.stateFile
  package : c ≠ .aptGetInstall → u.packageInstalled = t.packageInstalled
  service : c ≠ .aptGetInstall → c ≠ .systemctlStart ∨ t.nfsServer = .missing →
    u.nfsServer = t.nfsServer
  active : t.serverActive = true → u.serverActive = true

theorem BeforeRecord.refl (s : NfsHost) : BeforeRecord s [] s :=
  ⟨by simp, rfl, fun _ => rfl, fun _ _ => rfl, id⟩

theorem BeforeRecord.step (h : BeforeRecord s done t) (hc : recordsState c = false)
    (he : Effect c t u) : BeforeRecord s (c :: done) u where
  unrecorded := by simpa [hc] using h.unrecorded
  stateFile := he.stateFile.trans h.stateFile
  package hn := by
    simp only [List.mem_cons, not_or] at hn
    exact (he.package (Ne.symm hn.1)).trans (h.package hn.2)
  service hn hm := by
    simp only [List.mem_cons, not_or] at hn hm
    have hmt := h.service hn.2 (hm.imp_left And.right)
    have hcm := hm.imp (fun hm => Ne.symm hm.1) hmt.trans
    exact (he.service (Ne.symm hn.1) hcm).trans hmt
  active := fun hs => he.active (h.active hs)

theorem BeforeRecord.not_mem (h : BeforeRecord s done t) (hc : recordsState c = true) : c ∉ done := by
  intro hm
  simp [h.unrecorded c hm] at hc

theorem Effect.none (c : SetupCommand) (t : NfsHost) : Effect c t t :=
  ⟨rfl, fun _ => rfl, fun _ _ => rfl, id⟩

theorem keeps_command {f : NfsHost → NfsHost} (hc : recordsState c = false)
    (hf : ∀ t, Effect c t (f t)) :
    Keeps (BeforeRecord s) (exec c f : Setup Unit) :=
  keeps_exec fun _ t h => h.step hc (hf t)

theorem keeps_tried {f : NfsHost → Except String NfsHost} (hc : recordsState c = false)
    (hf : ∀ t u, f t = .ok u → Effect c t u) :
    Keeps (BeforeRecord s) (attempt c f : Setup Unit) :=
  keeps_attempt (fun _ t u h he => h.step hc (hf t u he)) fun _ t h => h.step hc (.none c t)

theorem effect_installServer (starts : Bool) (t : NfsHost) :
    Effect .aptGetInstall t (t.installServer starts) where
  stateFile := (installServer_files t starts).stateFile
  package hn := absurd rfl hn
  service hn := absurd rfl hn
  active := fun h => installServer_active h starts

theorem keeps_installPackage (p : String) : Keeps (BeforeRecord s) (installPackage env p) := by
  unfold installPackage
  refine keeps_reading fun installed => keeps_ite ?_ (keeps_pure ())
  iterate 2 apply keeps_check
  exact keeps_command rfl (effect_installServer env.aptStartsServer)

theorem keeps_writeExport : Keeps (BeforeRecord s) writeExport := by
  refine keeps_reading fun content => ?_
  cases content with
  | none => exact keeps_command rfl fun _ => ⟨rfl, fun _ => rfl, fun _ _ => rfl, id⟩
  | some content => exact keeps_dieUnless _ _

theorem keeps_writeConfig : Keeps (BeforeRecord s) writeConfig := by
  refine keeps_reading fun content => ?_
  cases content with
  | none => exact keeps_command rfl fun _ => ⟨rfl, fun _ => rfl, fun _ _ => rfl, id⟩
  | some content => exact keeps_dieUnless _ _

theorem effect_startServer (h : t.startServer = .ok u) : Effect .systemctlStart t u where
  stateFile := (startServer_ok h).1.stateFile
  package _ := (startServer_ok h).2.2
  service _ hn := by
    have hm := hn.resolve_left (absurd rfl)
    simp [NfsHost.startServer, hm] at h
  active _ := (startServer_ok h).2.1

theorem effect_withPackage {name : String} {f : NfsHost → NfsHost} (hf : ∀ t, Effect c t (f t))
    (h : t.withPackage name f = .ok u) : Effect c t u := by
  obtain ⟨-, rfl⟩ := withPackage_ok.mp h
  exact hf t

theorem keeps_startNfsd : Keeps (BeforeRecord s) startNfsd := by
  unfold startNfsd
  refine keeps_bind (keeps_command rfl fun _ => ⟨rfl, fun _ => rfl, fun _ _ => rfl, id⟩) fun _ => ?_
  refine keeps_bind (keeps_tried rfl fun _ _ => effect_startServer) fun _ => ?_
  refine keeps_bind (keeps_tried rfl fun _ _ => effect_withPackage fun _ => ?_) fun _ => ?_
  · exact ⟨rfl, fun _ => rfl, fun _ _ => rfl, id⟩
  refine keeps_bind (keeps_tried rfl fun _ _ => effect_withPackage fun _ => ?_) fun _ => ?_
  · exact ⟨rfl, fun _ => rfl, fun _ _ => rfl, id⟩
  refine keeps_reading fun listed => keeps_ite ?_ (keeps_pure ())
  exact keeps_command rfl fun _ => ⟨rfl, fun _ => rfl, fun _ _ => rfl, id⟩

/-- What the recording commands will write, or the host remembers already. -/
def Remembers (s₀ s : NfsHost) : Prop :=
  capturedState {} s = (flag s₀.packageInstalled, flag s₀.serverActive)

/-- The overrides of a run that finds no record, where they are set, say what
the host was. -/
def Truthful (s₀ s : NfsHost) (env : SetupEnv) : Prop :=
  s.stateFile = none →
    (∀ v, env.packageInstalledBeforeOverride = some v →
      Text.orDefault (some v) "1" = flag s₀.packageInstalled) ∧
    ∀ v, env.serviceWasActiveOverride = some v →
      Text.orDefault (some v) "0" = flag s₀.serverActive

/-- The places where a run from `s` may stop. Without a record it may not have
installed the package or started an inactive server, and it may not leave a
record whose missing lines would be read as something else. -/
def Harmless (s₀ s : NfsHost) (done : List SetupCommand) : Prop :=
  if .printfService ∈ done then True
  else if .printfPackage ∈ done then s₀.serverActive = false
  else if .openStateFile ∈ done then s₀.packageInstalled = true ∧ s₀.serverActive = false
  else s.stateFile = none → .aptGetInstall ∉ done ∧
    (.systemctlStart ∈ done → s₀.serverActive = true ∨ s.nfsServer = .missing)

def Attempt (s₀ s t : NfsHost) : Prop :=
  ∃ env done, Truthful s₀ s env ∧ Stops (node3NfsRdmaSetup env) s done t ∧ Harmless s₀ s done

theorem remembers_of_none (h : s.stateFile = none) :
    Remembers s₀ s ↔
      s.packageInstalled = s₀.packageInstalled ∧ s.serverActive = s₀.serverActive := by
  simp [Remembers, capturedState, h, flag_injective]

theorem remembers_of_some {f : NfsState} (h : s.stateFile = some f) :
    Remembers s₀ s ↔ Text.orDefault f.packageInstalledBefore "1" = flag s₀.packageInstalled ∧
      Text.orDefault f.serviceWasActive "0" = flag s₀.serverActive := by
  simp [Remembers, capturedState, h]

theorem captured_of_remembers (h : Remembers s₀ s) (ht : Truthful s₀ s env) :
    capturedState env s = (flag s₀.packageInstalled, flag s₀.serverActive) := by
  cases hs : s.stateFile with
  | some f =>
    obtain ⟨hp, ha⟩ := (remembers_of_some hs).mp h
    simp [capturedState, hs, hp, ha]
  | none =>
    obtain ⟨hp, ha⟩ := (remembers_of_none hs).mp h
    obtain ⟨h1, h2⟩ := ht hs
    cases hpo : env.packageInstalledBeforeOverride <;> cases hao : env.serviceWasActiveOverride <;>
      simp_all [capturedState]

theorem BeforeRecord.remembers (h : BeforeRecord s done t) (hr : Remembers s₀ s)
    (hh : Harmless s₀ s done) : Remembers s₀ t := by
  have h1 : SetupCommand.printfService ∉ done := h.not_mem rfl
  have h2 : SetupCommand.printfPackage ∉ done := h.not_mem rfl
  have h3 : SetupCommand.openStateFile ∉ done := h.not_mem rfl
  rw [Harmless, if_neg h1, if_neg h2, if_neg h3] at hh
  cases hs : s.stateFile with
  | some f =>
    exact (remembers_of_some (h.stateFile.trans hs)).mpr ((remembers_of_some hs).mp hr)
  | none =>
    obtain ⟨hp, ha⟩ := (remembers_of_none hs).mp hr
    obtain ⟨hn, hstart⟩ := hh hs
    refine (remembers_of_none (h.stateFile.trans hs)).mpr ⟨(h.package hn).trans hp, ?_⟩
    by_cases hm : .systemctlStart ∈ done ∧ s.nfsServer ≠ .missing
    · have hact : s₀.serverActive = true := (hstart hm.1).resolve_right hm.2
      rw [hact, h.active (ha.trans hact)]
    · have hserver : t.nfsServer = s.nfsServer := h.service hn (by tauto)
      rw [← ha, NfsHost.serverActive, hserver, NfsHost.serverActive]

theorem meets_writeState (h : BeforeRecord s done t) (hr : Remembers s₀ s) :
    Meets (fun done _ t => Harmless s₀ s done → Remembers s₀ t)
      (fun done r t => (Harmless s₀ s done → Remembers s₀ t) ∧
        (r = .ok () → .printfService ∈ done ∧ Remembers s₀ t)) done
      (writeState (flag s₀.packageInstalled) (flag s₀.serverActive)) t := by
  have h1 : SetupCommand.printfService ∉ done := h.not_mem rfl
  have h2 : SetupCommand.printfPackage ∉ done := h.not_mem rfl
  have hp := Text.orDefault_some (flag_ne_empty s₀.packageInstalled) "1"
  have ha := Text.orDefault_some (flag_ne_empty s₀.serverActive) "0"
  simp only [writeState, meets_bind, meets_exec]
  refine ⟨h.remembers hr, fun hh => ?_, fun hh => ?_, fun _ => ?_, fun _ => ⟨by simp, ?_⟩⟩
  · simp only [Harmless, List.mem_cons, reduceCtorEq, h1, h2, or_self, if_false, true_or,
      if_true] at hh
    exact (remembers_of_some rfl).mpr (by rw [hh.1, hh.2]; decide)
  · simp only [Harmless, List.mem_cons, reduceCtorEq, h1, or_self, if_false, true_or, if_true] at hh
    exact (remembers_of_some rfl).mpr ⟨hp, by rw [hh]; rfl⟩
  · exact (remembers_of_some rfl).mpr ⟨hp, ha⟩
  · exact (remembers_of_some rfl).mpr ⟨hp, ha⟩

theorem attempt_remembers (hr : Remembers s₀ s) (ht : Truthful s₀ s env)
    (hs : Stops (node3NfsRdmaSetup env) s done t) (hh : Harmless s₀ s done) : Remembers s₀ t := by
  let P (done : List SetupCommand) (t : NfsHost) : Prop := Harmless s₀ s done → Remembers s₀ t
  have hP (done : List SetupCommand) (t : NfsHost) (h : BeforeRecord s done t) : P done t :=
    h.remembers hr
  suffices hm : Meets (fun done _ t => P done t) (fun done _ t => P done t) []
      (node3NfsRdmaSetup env) s from hm.stops hs hh
  unfold node3NfsRdmaSetup
  refine Keeps.meets_bind (J := fun done t => done = [] ∧ t = s) passive_setupChecks.keeps
    ⟨rfl, rfl⟩ ?_ ?_
  · rintro _ _ ⟨rfl, rfl⟩
    exact fun _ => hr
  rintro _ _ _ ⟨rfl, rfl⟩
  rw [meets_bind, meets_read, captured_of_remembers hr ht]
  refine (keeps_installPackage _).meets_bind (.refl _) hP fun _ done t h => ?_
  refine keeps_writeExport.meets_bind h hP fun _ done t h => ?_
  refine keeps_writeConfig.meets_bind h hP fun _ done t h => ?_
  refine keeps_startNfsd.meets_bind h hP fun _ done t h => ?_
  rw [meets_bind]
  refine (meets_writeState h hr).mono (fun _ _ _ hh => hh) fun done r t hh => ?_
  cases r with
  | error e => exact hh.1
  | ok a =>
    have hr' : Remembers s₀ t := (hh.2 rfl).2
    simp [P, hr']

theorem attempts_remember (h0 : s₀.stateFile = none)
    (h : Relation.ReflTransGen (Attempt s₀) s₀ s) : Remembers s₀ s := by
  induction h with
  | refl => exact (remembers_of_none h0).mpr ⟨rfl, rfl⟩
  | tail _ hstep ih =>
    obtain ⟨env, done, ht, hs, hh⟩ := hstep
    exact attempt_remembers ih ht hs hh

/-- After harmless attempts a finished setup has recorded the original host,
and a rollback gives the server its original activity. -/
theorem setup_remembers (s₀ s t : NfsHost) (env : SetupEnv) (h0 : s₀.stateFile = none)
    (hruns : Relation.ReflTransGen (Attempt s₀) s₀ s) (ht : Truthful s₀ s env)
    (hok : Ends (node3NfsRdmaSetup env) s (.ok ()) t) :
    t.stateFile =
        some (writtenState (some (flag s₀.packageInstalled)) (some (flag s₀.serverActive))) ∧
      ∀ clients env' u, Ends (node3NfsRdmaRollback env') { t with showmount := clients } (.ok ()) u →
        u.serverActive = s₀.serverActive := by
  obtain ⟨hserve, hstate, -, -⟩ := setup_ok hok
  rw [captured_of_remembers (attempts_remember h0 hruns) ht] at hstate
  refine ⟨hstate, fun clients env' u hu => ?_⟩
  have hrec : recordedActivity { t with showmount := clients } = flag s₀.serverActive := by
    simp [recordedActivity, hstate, writtenState, Text.orDefault_some (flag_ne_empty _)]
  have hact := rollback_activity hu
  rw [hrec] at hact
  rw [hact]
  cases hs : s₀.serverActive with
  | false => rfl
  | true => exact hserve.serverActive

def freshHost (server : ServiceUnit) : NfsHost where
  hasServerIp := true
  ramMarker := true
  packageInstalled := true
  nfsServer := server
  rpcrdma := false
  configuredThreads := 8
  threads := if server = .active then 8 else 0
  portlist := if server = .active then [⟨"tcp", "2049"⟩] else []
  exportFile := none
  nfsConfigFile := none
  activeExports := []
  showmount := none
  stateFile := none

def startedHost (server : ServiceUnit) : NfsHost :=
  { freshHost .active with
    rpcrdma := true
    threads := if server = .active then 8 else 64
    exportFile := some (exportLine ++ ['\n'])
    nfsConfigFile := some (nfsConfig ++ ['\n'])
    activeExports := if server = .active then [] else [exportLine] }

def untilStarted : List SetupCommand :=
  [.systemctlStart, .modprobeRpcrdma, .writeConfigFile, .writeExportFile]

theorem setup_remembers_active :
    (node3NfsRdmaSetup {} (startedHost .active)).state.stateFile =
        some (writtenState (some "1") (some "1")) ∧
      ∀ clients env' u, Ends (node3NfsRdmaRollback env')
        { (node3NfsRdmaSetup {} (startedHost .active)).state with showmount := clients } (.ok ()) u →
          u.serverActive = true :=
  setup_remembers (freshHost .active) (startedHost .active) _ {} rfl
    (.single ⟨{}, untilStarted, by simp [Truthful], by decide +kernel,
      by simp [Harmless, untilStarted, freshHost, NfsHost.serverActive]⟩)
    (by simp [Truthful]) ⟨by decide +kernel, rfl⟩

theorem aborted_setup_forgets :
    Stops (node3NfsRdmaSetup {}) (freshHost .inactive) untilStarted (startedHost .inactive) ∧
      ∃ t u, Ends (node3NfsRdmaSetup {}) (startedHost .inactive) (.ok ()) t ∧
        Ends (node3NfsRdmaRollback {}) t (.ok ()) u ∧
        t.stateFile = some (writtenState (some "1") (some "1")) ∧
        (freshHost .inactive).serverActive = false ∧ u.serverActive = true :=
  ⟨by decide +kernel, _, _, ⟨by decide +kernel, rfl⟩, ⟨by decide +kernel, rfl⟩, by decide +kernel,
    rfl, by decide +kernel⟩

end PdDisaggregation
