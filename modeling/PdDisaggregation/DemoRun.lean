import PdDisaggregation.DemoSamplers

/-! No sampler outlives the demo, and every request is made after both its samplers have
written a row and before they are told to end. -/

namespace PdDisaggregation.Demo

open Script

def Command.isSsh : Command → Bool
  | .ssh _ => true
  | _ => false

/-- What has been executed since a sampler was last started. -/
def sinceStart (done : List Command) : List Command := done.takeWhile (!·.isSsh)

/-- What has been executed since the sampler of `file` was started. -/
def sinceSsh (file : RoceFile) (done : List Command) : List Command :=
  done.takeWhile (· ≠ .ssh file)

/-- What may be executed after `done`: a file is written by one sampler, and a process is
waited for once it has been told to end. As a pid can be one that an earlier sampler had,
it has to be told after the last start. -/
def Allowed (done : List Command) : Command → Prop
  | .ssh file => .ssh file ∉ done
  | .wait pid => .kill pid ∈ sinceStart done
  | _ => True

def Orderly : List Command → Prop
  | [] => True
  | c :: done => Allowed done c ∧ Orderly done

/-- The last thing was to start a sampler, whose pid is not kept yet. -/
def JustStarted (done : List Command) : Prop := ∃ file, done.head? = some (.ssh file)

/-- No sampler of one of these labels has been started. -/
def Unused (labels : List String) (done : List Command) : Prop :=
  ∀ file, .ssh file ∈ done → file.label ∉ labels

structure Tracked (done : List Command) (s : Host) : Prop where
  orderly : Orderly done
  listed : ¬ JustStarted done → ∀ p ∈ s.unwaited, p.pid ∈ s.roceSamplerPids
  unlisted : JustStarted done → ∃ p ∈ s.unwaited, p.pid ∉ s.roceSamplerPids

/-- Both samplers of `label` have been started, no other is to be waited for, both have been
seen to write a row, and neither has been told to end since. -/
structure Sampling (env : Env) (label : String) (done : List Command) (s : Host) : Prop where
  unwaited : ∃ p q, s.unwaited = [⟨⟨label, "node2"⟩, p⟩, ⟨⟨label, "node3"⟩, q⟩] ∧
    s.roceSamplerPids = [p, q]
  files : s.roceSamplerFiles = roceFiles label
  ready : ∃ attempt, allReady env (roceFiles label) attempt = true
  untold : ∀ p ∈ s.unwaited, .kill p.pid ∉ sinceSsh p.file done

def requestLabel (sample : Nat) : String := if sample = 0 then "cold" else warmLabel sample

/-- Whose request is made or waited for. -/
def Command.sample? : Command → Option Nat
  | .inpodRequest sample | .waitForCounterDelta _ sample => some sample
  | _ => none

structure Guard (env : Env) (done : List Command) (c : Command) (s : Host) :
    Prop where
  tracked : Tracked done s
  allowed : Allowed done c
  sampling : ∀ sample, c.sample? = some sample → Sampling env (requestLabel sample) done s

def Failed (done : List Command) (e : Failure) (s : Host) : Prop :=
  Tracked done s ∧ e ≠ .alreadyRunning

/-- Between two labels; those to come are in `labels`. -/
structure Idle (labels : List String) (done : List Command) (s : Host) : Prop where
  host : s.unwaited = [] ∧ s.roceSamplerPids = [] ∧ s.roceSamplerFiles = []
  orderly : Orderly done
  settled : ¬ JustStarted done
  unused : Unused labels done

structure Sampled (env : Env) (label : String) (labels : List String)
    (done : List Command) (s : Host) : Prop where
  sampling : Sampling env label done s
  orderly : Orderly done
  settled : ¬ JustStarted done
  unused : Unused labels done

/-- Neither starts a sampler nor ends one. -/
def Command.plain : Command → Bool
  | .ssh _ | .kill _ | .wait _ => false
  | _ => true

section Commands

variable {env : Env} {label : String} {labels : List String} {done : List Command}
  {s : Host} {c : Command}

theorem allowed_plain (hc : c.plain = true) : Allowed done c := by
  cases c with
  | ssh | kill | wait => contradiction
  | _ => trivial

theorem orderly_plain (hc : c.plain = true) (h : Orderly done) : Orderly (c :: done) :=
  ⟨allowed_plain hc, h⟩

theorem not_justStarted (hc : ∀ file, c ≠ .ssh file) : ¬ JustStarted (c :: done) := by
  intro ⟨file, hfile⟩
  exact hc file (Option.some.inj hfile)

theorem plain_ne_ssh (hc : c.plain = true) (file : RoceFile) : c ≠ .ssh file := by
  rintro rfl
  contradiction

theorem plain_ne_kill (hc : c.plain = true) (pid : Nat) : c ≠ .kill pid := by
  rintro rfl
  contradiction

theorem untold_cons {file : RoceFile} {pid : Nat} (hc : c ≠ .kill pid)
    (h : .kill pid ∉ sinceSsh file done) : .kill pid ∉ sinceSsh file (c :: done) := by
  by_cases hfile : c = .ssh file
  · simp [sinceSsh, hfile]
  · simpa [sinceSsh, hfile, Ne.symm hc] using h

theorem told_cons {pid : Nat} (hc : c.isSsh = false) (h : .kill pid ∈ sinceStart done) :
    .kill pid ∈ sinceStart (c :: done) := by
  simp only [sinceStart, List.takeWhile_cons, hc, Bool.not_false, if_true]
  exact List.mem_cons_of_mem _ h

theorem told_kill (pid : Nat) : .kill pid ∈ sinceStart (.kill pid :: done) := by
  simp [sinceStart, Command.isSsh]

theorem unused_cons (hc : ∀ file, c ≠ .ssh file) (h : Unused labels done) :
    Unused labels (c :: done) := by
  intro file hfile
  rcases List.mem_cons.mp hfile with hhead | hrest
  · exact absurd hhead.symm (hc file)
  · exact h file hrest

theorem Idle.tracked (h : Idle labels done s) : Tracked done s := by
  refine ⟨h.orderly, fun _ p hp => ?_, fun hj => absurd hj h.settled⟩
  rw [h.host.1] at hp
  contradiction

theorem Sampled.tracked (h : Sampled env label labels done s) : Tracked done s := by
  refine ⟨h.orderly, fun _ p hp => ?_, fun hj => absurd hj h.settled⟩
  obtain ⟨i, j, hunwaited, hpids⟩ := h.sampling.unwaited
  rw [hunwaited] at hp
  rw [hpids]
  rcases List.mem_pair.mp hp with rfl | rfl
  · exact List.mem_cons_self
  · exact List.mem_cons_of_mem _ List.mem_cons_self

theorem Idle.cons (h : Idle labels done s) (hc : c.plain = true) : Idle labels (c :: done) s :=
  ⟨h.host, orderly_plain hc h.orderly, not_justStarted (plain_ne_ssh hc),
    unused_cons (plain_ne_ssh hc) h.unused⟩

theorem Sampled.cons (h : Sampled env label labels done s) (hc : c.plain = true) :
    Sampled env label labels (c :: done) s :=
  ⟨{ h.sampling with
      untold := fun p hp => untold_cons (plain_ne_kill hc _) (h.sampling.untold p hp) },
    orderly_plain hc h.orderly, not_justStarted (plain_ne_ssh hc),
    unused_cons (plain_ne_ssh hc) h.unused⟩

theorem Tracked.guard (h : Tracked done s) (hc : c.plain = true) (hs : c.sample? = none) :
    Guard env done c s := by
  refine ⟨h, allowed_plain hc, fun sample hsample => ?_⟩
  rw [hs] at hsample
  contradiction

theorem Sampled.guard {sample : Nat} (h : Sampled env (requestLabel sample) labels done s)
    (hc : c.plain = true) (hs : c.sample? = some sample) : Guard env done c s := by
  refine ⟨h.tracked, allowed_plain hc, fun other hother => ?_⟩
  rw [Option.some.inj (hother.symm.trans hs)]
  exact h.sampling

end Commands

section Functions

variable {env : Env} {label : String} {labels : List String}

theorem demoStep_idle (step : Step) :
    Triple (Guard env) Failed (Idle labels) (demoStep env step) fun _ => Idle labels := by
  refine triple_attempt (fun done s h => h.tracked.guard rfl rfl) ?_ ?_
  · intro done s t h ht
    split at ht
    · exact Except.ok.inj ht ▸ h.cons rfl
    · contradiction
  · intro done s e h he
    split at he
    · contradiction
    · rw [← Except.error.inj he]
      exact ⟨(h.cons rfl).tracked, by simp⟩

theorem demoSteps_idle (steps : List Step) :
    Triple (Guard env) Failed (Idle labels) (each steps (demoStep env)) fun _ => Idle labels :=
  triple_each (I := fun _ => Idle labels) (fun step _ => demoStep_idle step) steps

theorem preconditions_idle :
    Triple (Guard env) Failed (Idle labels) (preconditions env) fun _ => Idle labels := by
  have hcheck (test : Bool) (message : String) : Triple (Guard env) Failed (Idle labels)
      (dieUnless test (.refused message) : DemoScript Unit) fun _ => Idle labels :=
    triple_dieUnless (fun _ _ h _ => h) fun _ _ h _ => ⟨h.tracked, by simp⟩
  iterate 3 refine triple_seq (hcheck _ _) ?_
  exact hcheck _ _

theorem waitForCounterDelta_sampled (metric : String) (sample : Nat) :
    Triple (Guard env) Failed (Sampled env (requestLabel sample) labels)
      (waitForCounterDelta env metric sample)
      fun _ => Sampled env (requestLabel sample) labels := by
  refine triple_attempt (fun done s h => h.guard rfl rfl) ?_ ?_
  · intro done s t h ht
    split at ht
    · exact Except.ok.inj ht ▸ h.cons rfl
    · contradiction
  · intro done s e h he
    split at he
    · contradiction
    · rw [← Except.error.inj he]
      exact ⟨(h.cons rfl).tracked, by simp⟩

theorem sendRequest_sampled (sample : Nat) :
    Triple (Guard env) Failed (Sampled env (requestLabel sample) labels) (sendRequest env sample)
      fun _ => Sampled env (requestLabel sample) labels := by
  refine triple_seq (R := Sampled env (requestLabel sample) labels)
    (triple_exec (fun done s h => h.guard rfl rfl) fun done s h => h.cons rfl) ?_
  refine triple_ite (fun _ => triple_pure fun _ _ h => h) fun _ => ?_
  refine triple_seq (R := Sampled env (requestLabel sample) labels)
    (triple_attempt (fun done s h => h.tracked.guard rfl rfl) ?_ ?_)
    (triple_die fun done s h => ⟨h.tracked, by simp⟩)
  · intro done s t h ht
    split at ht
    · exact Except.ok.inj ht ▸ h.cons rfl
    · contradiction
  · intro done s e h he
    split at he
    · contradiction
    · rw [← Except.error.inj he]
      exact ⟨(h.cons rfl).tracked, by simp⟩

/-- The first samplers of the pair have been started, those of `files` not yet. -/
structure Starting (label : String) (labels : List String) (files : List RoceFile)
    (done : List Command) (s : Host) : Prop where
  started : s.unwaited.map (·.file) ++ files = roceFiles label
  pids : s.roceSamplerPids = s.unwaited.map (·.pid)
  kept : s.roceSamplerFiles = s.unwaited.map (·.file)
  orderly : Orderly done
  settled : ¬ JustStarted done
  unused : Unused labels done
  unwritten : ∀ file ∈ files, .ssh file ∉ done
  untold : ∀ p ∈ s.unwaited, .kill p.pid ∉ sinceSsh p.file done

theorem Starting.tracked {files : List RoceFile} {done : List Command} {s : Host}
    (h : Starting label labels files done s) : Tracked done s := by
  refine ⟨h.orderly, fun _ p hp => ?_, fun hj => absurd hj h.settled⟩
  rw [h.pids]
  exact List.mem_map.mpr ⟨p, hp, rfl⟩

theorem Starting.cons {files : List RoceFile} {done : List Command} {s : Host}
    {c : Command} (h : Starting label labels files done s) (hc : c.plain = true) :
    Starting label labels files (c :: done) s := by
  refine ⟨h.started, h.pids, h.kept, orderly_plain hc h.orderly,
    not_justStarted (plain_ne_ssh hc), unused_cons (plain_ne_ssh hc) h.unused, ?_, ?_⟩
  · intro file hfile hin
    rcases List.mem_cons.mp hin with hhead | hrest
    · exact plain_ne_ssh hc file hhead.symm
    · exact h.unwritten file hfile hrest
  · exact fun p hp => untold_cons (plain_ne_kill hc _) (h.untold p hp)

theorem roceFiles_nodup (label : String) : (roceFiles label).Nodup := by
  simp [roceFiles]

theorem mem_roceFiles_label {file : RoceFile} (h : file ∈ roceFiles label) :
    file.label = label := by
  rcases List.mem_pair.mp h with rfl | rfl
  · rfl
  · rfl

/-- The sampler of `file` has been started, its pid and its file kept. -/
def spawned (env : Env) (file : RoceFile) (s : Host) : Host :=
  let pid := env.pid file (s.unwaited.map (·.pid))
  { unwaited := s.unwaited ++ [⟨file, pid⟩]
    lastPid := pid
    roceSamplerPids := s.roceSamplerPids ++ [pid]
    roceSamplerFiles := s.roceSamplerFiles ++ [file] }

theorem Starting.spawned (env : Env) {file : RoceFile} {files : List RoceFile}
    {done : List Command} {s : Host}
    (h : Starting label labels (file :: files) done s) (hlabel : label ∉ labels) :
    Starting label labels files (.addFile :: .addPid :: .ssh file :: done)
      (spawned env file s) := by
  have hmem : file ∈ roceFiles label := by
    rw [← h.started]
    exact List.mem_append_right _ List.mem_cons_self
  have hnodup : (file :: files).Nodup := by
    have hall := roceFiles_nodup label
    rw [← h.started] at hall
    exact (List.nodup_append.mp hall).2.1
  refine ⟨?_, ?_, ?_, ?_, not_justStarted (by simp), ?_, ?_, ?_⟩
  · rw [← h.started]
    simp [Demo.spawned]
  · simp [Demo.spawned, h.pids]
  · simp [Demo.spawned, h.kept]
  · exact ⟨trivial, trivial, h.unwritten file List.mem_cons_self, h.orderly⟩
  · refine unused_cons (by simp) (unused_cons (by simp) fun g hg => ?_)
    rcases List.mem_cons.mp hg with hhead | hrest
    · rw [Command.ssh.inj hhead, mem_roceFiles_label hmem]
      exact hlabel
    · exact h.unused g hrest
  · intro g hg hin
    have hne : g ≠ file := by
      rintro rfl
      exact (List.nodup_cons.mp hnodup).1 hg
    simp only [List.mem_cons, reduceCtorEq, false_or, Command.ssh.injEq, hne] at hin
    exact h.unwritten g (List.mem_cons_of_mem _ hg) hin
  · intro p hp
    rcases List.mem_append.mp hp with hearlier | hnew
    · iterate 3 refine untold_cons (by simp) ?_
      exact h.untold p hearlier
    · -- nothing but its bookkeeping since it was started
      rw [List.mem_singleton.mp hnew]
      simp [sinceSsh]

theorem startSampler_starting (hlabel : label ∉ labels) (file : RoceFile)
    (files : List RoceFile) :
    Triple (Guard env) Failed (Starting label labels (file :: files)) (startSampler env file)
      fun _ => Starting label labels files := by
  -- between `ssh` and the next command the new pid is nowhere in `roce_sampler_pids`
  let started (s : Host) : Host :=
    { s with
      unwaited := s.unwaited ++ [⟨file, env.pid file (s.unwaited.map (·.pid))⟩]
      lastPid := env.pid file (s.unwaited.map (·.pid)) }
  refine triple_seq (R := fun done t => ∃ done' s, Starting label labels (file :: files) done' s ∧
    done = .ssh file :: done' ∧ t = started s) ?_ (triple_seq (R := fun done t => ∃ done' s,
      Starting label labels (file :: files) done' s ∧ done = .addPid :: .ssh file :: done' ∧
        t = { spawned env file s with roceSamplerFiles := s.roceSamplerFiles }) ?_ ?_)
  · refine triple_exec (fun done s h => ?_) fun done s h => ⟨done, s, h, rfl, rfl⟩
    exact ⟨h.tracked, h.unwritten file List.mem_cons_self, fun _ hn => by contradiction⟩
  · refine triple_exec ?_ ?_
    · rintro done t ⟨done', s, h, rfl, rfl⟩
      have horderly : Orderly (.ssh file :: done') :=
        ⟨h.unwritten file List.mem_cons_self, h.orderly⟩
      refine Tracked.guard ⟨horderly, ?_, fun _ => ?_⟩ rfl rfl
      · intro hj
        exact absurd ⟨file, rfl⟩ hj
      · refine ⟨⟨file, env.pid file (s.unwaited.map (·.pid))⟩, ?_, ?_⟩
        · exact List.mem_append_right _ (List.mem_singleton.mpr rfl)
        · show env.pid file (s.unwaited.map (·.pid)) ∉ s.roceSamplerPids
          rw [h.pids]
          exact env.pid_unused file _
    · rintro done t ⟨done', s, h, rfl, rfl⟩
      exact ⟨done', s, h, rfl, rfl⟩
  · refine triple_exec ?_ ?_
    · rintro done t ⟨done', s, h, rfl, rfl⟩
      have hspawned := (h.spawned env hlabel).tracked
      refine Tracked.guard ⟨hspawned.orderly.2, fun _ => ?_, fun hj => ?_⟩ rfl rfl
      · exact hspawned.listed (not_justStarted (by simp))
      · exact absurd hj (not_justStarted (by simp))
    · rintro done t ⟨done', s, h, rfl, rfl⟩
      exact h.spawned env hlabel

theorem awaitReady_sampled (attempts : List Nat) :
    Triple (Guard env) Failed (Starting label labels []) (awaitReady env attempts)
      fun _ => Sampled env label labels := by
  induction attempts with
  | nil => exact triple_die fun done s h => ⟨h.tracked, by simp⟩
  | cons attempt attempts ih =>
    refine triple_reading fun files => triple_ite (fun hready => ?_) fun _ => ?_
    · refine triple_pure fun done s h => ?_
      obtain ⟨h, rfl⟩ := h
      have hfiles : s.unwaited.map (·.file) = roceFiles label := by
        rw [← h.started, List.append_nil]
      refine ⟨⟨?_, h.kept.trans hfiles, ⟨attempt, ?_⟩, h.untold⟩, h.orderly, h.settled,
        h.unused⟩
      · rw [h.pids]
        obtain ⟨a, as, hunwaited, ha, has⟩ := List.map_eq_cons_iff.mp hfiles
        obtain ⟨b, bs, rfl, hb, hbs⟩ := List.map_eq_cons_iff.mp has
        obtain rfl := List.map_eq_nil_iff.mp hbs
        refine ⟨a.pid, b.pid, ?_, ?_⟩
        · rw [hunwaited, ← ha, ← hb]
        · rw [hunwaited]
          rfl
      · rwa [h.kept, hfiles] at hready
    · refine triple_seq (triple_exec (fun done s h => ?_) fun done s h => h.1.cons rfl) ih
      exact h.1.tracked.guard rfl rfl

theorem startRoceSamplers_sampled (hlabel : label ∉ labels) :
    Triple (Guard env) Failed (Idle (label :: labels)) (startRoceSamplers env label)
      fun _ => Sampled env label labels := by
  have hstarting {done : List Command} {s : Host} (h : Idle (label :: labels) done s) :
      Starting label labels (roceFiles label) done s := by
    obtain ⟨hunwaited, hpids, hfiles⟩ := h.host
    refine ⟨?_, ?_, ?_, h.orderly, h.settled, ?_, ?_, ?_⟩
    · rw [hunwaited]
      rfl
    · rw [hunwaited, hpids]
      rfl
    · rw [hunwaited, hfiles]
      rfl
    · intro file hfile hin
      exact h.unused file hfile (List.mem_cons_of_mem _ hin)
    · intro file hfile hin
      refine h.unused file hin ?_
      rw [mem_roceFiles_label hfile]
      exact List.mem_cons_self
    · rw [hunwaited]
      exact List.forall_mem_nil _
  refine triple_reading fun pids => triple_seq (R := Starting label labels (roceFiles label)) ?_ ?_
  · refine triple_dieUnless (fun done s h _ => hstarting h.1) fun done s h htest => ?_
    obtain ⟨h, rfl⟩ := h
    rw [h.host.2.1] at htest
    contradiction
  · refine triple_seq (triple_each (I := Starting label labels) ?_ _) (awaitReady_sampled _)
    exact fun file files => startSampler_starting hlabel file files

/-- The samplers of `pids` are being stopped. -/
structure Stopping (labels : List String) (pids : List Nat) (done : List Command)
    (s : Host) : Prop where
  kept : s.roceSamplerPids = pids
  listed : ∀ p ∈ s.unwaited, p.pid ∈ pids
  orderly : Orderly done
  settled : ¬ JustStarted done
  unused : Unused labels done

theorem Stopping.tracked {pids : List Nat} {done : List Command} {s : Host}
    (h : Stopping labels pids done s) : Tracked done s := by
  refine ⟨h.orderly, fun _ p hp => ?_, fun hj => absurd hj h.settled⟩
  rw [h.kept]
  exact h.listed p hp

theorem Stopping.cons {pids : List Nat} {done : List Command} {s : Host}
    {c : Command} (h : Stopping labels pids done s) (hc : c.plain = true) :
    Stopping labels pids (c :: done) s :=
  ⟨h.kept, h.listed, orderly_plain hc h.orderly, not_justStarted (plain_ne_ssh hc),
    unused_cons (plain_ne_ssh hc) h.unused⟩

theorem Stopping.kill {pids : List Nat} {done : List Command} {s : Host}
    (h : Stopping labels pids done s) (pid : Nat) : Stopping labels pids (.kill pid :: done) s :=
  ⟨h.kept, h.listed, ⟨trivial, h.orderly⟩, not_justStarted (by simp),
    unused_cons (by simp) h.unused⟩

theorem Sampled.stopping {done : List Command} {s : Host}
    (h : Sampled env label labels done s) : Stopping labels s.roceSamplerPids done s :=
  ⟨rfl, h.tracked.listed h.settled, h.orderly, h.settled, h.unused⟩

theorem killAll_stopping (pids : List Nat) :
    Triple (Guard env) Failed (Stopping labels pids)
      (each pids fun pid => exec (.kill pid) id : DemoScript Unit)
      fun _ done s => Stopping labels pids done s ∧ ∀ pid ∈ pids, .kill pid ∈ sinceStart done := by
  let I (rest : List Nat) (done : List Command) (s : Host) : Prop :=
    Stopping labels pids done s ∧ ∀ pid ∈ pids, pid ∈ rest ∨ .kill pid ∈ sinceStart done
  refine (triple_each (I := I) (fun pid rest => ?_) pids).mono (fun done s h => ?_) ?_
  · refine triple_exec (fun done s h => ?_) fun done s h => ?_
    · exact ⟨h.1.tracked, trivial, fun _ hn => by contradiction⟩
    refine ⟨h.1.kill pid, fun other hother => ?_⟩
    rcases h.2 other hother with hrest | hkilled
    · rcases List.mem_cons.mp hrest with rfl | hrest
      · exact Or.inr (told_kill other)
      · exact Or.inl hrest
    · exact Or.inr (told_cons rfl hkilled)
  · exact ⟨h, fun pid hpid => Or.inl hpid⟩
  · intro _ done s h
    exact ⟨h.1, fun pid hpid => (h.2 pid hpid).resolve_left List.not_mem_nil⟩

theorem waitAll_stopped (pids : List Nat) :
    Triple (Guard env) Failed
      (fun done s => Stopping labels pids done s ∧ ∀ pid ∈ pids, .kill pid ∈ sinceStart done)
      (each pids fun pid => exec (.wait pid) fun s =>
        { s with unwaited := s.unwaited.filter (·.pid ≠ pid) } : DemoScript Unit)
      fun _ done s => Stopping labels pids done s ∧ s.unwaited = [] := by
  let I (rest : List Nat) (done : List Command) (s : Host) : Prop :=
    Stopping labels pids done s ∧ (∀ pid ∈ pids, .kill pid ∈ sinceStart done) ∧
      (∀ pid ∈ rest, pid ∈ pids) ∧ ∀ p ∈ s.unwaited, p.pid ∈ rest
  refine (triple_each (I := I) (fun pid rest => ?_) pids).mono (fun done s h => ?_) ?_
  · refine triple_exec (fun done s h => ?_) fun done s h => ?_
    · obtain ⟨hstopping, hkilled, hrest, -⟩ := h
      exact ⟨hstopping.tracked, hkilled pid (hrest pid List.mem_cons_self),
        fun _ hn => by contradiction⟩
    · obtain ⟨hstopping, hkilled, hrest, hunwaited⟩ := h
      have hallowed : Allowed done (.wait pid) := hkilled pid (hrest pid List.mem_cons_self)
      refine ⟨⟨hstopping.kept, ?_, ⟨hallowed, hstopping.orderly⟩, not_justStarted (by simp),
        unused_cons (by simp) hstopping.unused⟩, ?_, ?_, ?_⟩
      · intro p hp
        exact hstopping.listed p (List.mem_filter.mp hp).1
      · intro other hother
        exact told_cons rfl (hkilled other hother)
      · intro other hother
        exact hrest other (List.mem_cons_of_mem _ hother)
      · intro p hp
        obtain ⟨hp, hne⟩ := List.mem_filter.mp hp
        rcases List.mem_cons.mp (hunwaited p hp) with heq | hin
        · exact absurd heq (of_decide_eq_true hne)
        · exact hin
  · exact ⟨h.1, h.2, fun _ hpid => hpid, h.1.listed⟩
  · intro _ done s h
    refine ⟨h.1, List.eq_nil_iff_forall_not_mem.mpr fun p hp => ?_⟩
    exact absurd (h.2.2.2 p hp) List.not_mem_nil

theorem stopRoceSamplers_idle :
    Triple (Guard env) Failed (Sampled env label labels) stopRoceSamplers
      fun _ => Idle labels := by
  refine triple_reading fun pids => triple_ite (fun hempty => ?_) fun _ => ?_
  · refine triple_pure fun done s h => ?_
    obtain ⟨h, rfl⟩ := h
    obtain ⟨p, q, -, hpids⟩ := h.sampling.unwaited
    rw [hpids] at hempty
    contradiction
  refine triple_seq (R := Stopping labels pids) ?_ ?_
  · refine triple_exec (fun done s h => h.1.tracked.guard rfl rfl) fun done s h => ?_
    obtain ⟨h, rfl⟩ := h
    exact h.stopping.cons rfl
  refine triple_seq (killAll_stopping pids) (triple_seq (waitAll_stopped pids) ?_)
  refine triple_seq (R := fun done s => Stopping labels [] done s ∧ s.unwaited = []) ?_ ?_
  · refine triple_exec (fun done s h => h.1.tracked.guard rfl rfl) fun done s h => ?_
    obtain ⟨h, hunwaited⟩ := h
    have hcons := h.cons (c := .clearPids) rfl
    refine ⟨⟨rfl, fun p hp => ?_, hcons.orderly, hcons.settled, hcons.unused⟩, hunwaited⟩
    rw [show ({ s with roceSamplerPids := [] } : Host).unwaited = [] from hunwaited] at hp
    contradiction
  · refine triple_exec (fun done s h => h.1.tracked.guard rfl rfl) fun done s h => ?_
    obtain ⟨h, hunwaited⟩ := h
    have hcons := h.cons (c := .clearFiles) rfl
    exact ⟨⟨hunwaited, h.kept, rfl⟩, hcons.orderly, hcons.settled, hcons.unused⟩

theorem warmSample_idle (sample : Nat) (hsample : sample ≠ 0)
    (hlabel : warmLabel sample ∉ labels) :
    Triple (Guard env) Failed (Idle (warmLabel sample :: labels)) (warmSample env sample)
      fun _ => Idle labels := by
  have hname : warmLabel sample = requestLabel sample := (if_neg hsample).symm
  rw [warmSample, hname]
  refine triple_seq (startRoceSamplers_sampled (hname ▸ hlabel)) ?_
  refine triple_seq (sendRequest_sampled sample) ?_
  iterate 2 refine triple_seq (waitForCounterDelta_sampled _ sample) ?_
  exact triple_seq stopRoceSamplers_idle (triple_seq (demoStep_idle _) (demoStep_idle _))

/-- Of the whole demo. -/
theorem demo_triple (env : Env) :
    Triple (Guard env) Failed (Idle ["cold", "warm", "warm-2", "warm-3"])
      (demoKvOffloadReload env) fun _ => Idle [] := by
  have hwarm : Triple (Guard env) Failed (Idle ["warm", "warm-2", "warm-3"])
      (each [1, 2, 3] (warmSample env)) fun _ => Idle [] := by
    refine triple_seq (warmSample_idle 1 (by decide) (by decide)) ?_
    refine triple_seq (warmSample_idle 2 (by decide) (by decide)) ?_
    refine triple_seq (warmSample_idle 3 (by decide) (by decide)) ?_
    exact triple_pure fun _ _ h => h
  refine triple_seq preconditions_idle (triple_seq (demoSteps_idle _) ?_)
  refine triple_seq (startRoceSamplers_sampled (by decide)) ?_
  refine triple_seq (sendRequest_sampled 0) (triple_seq (waitForCounterDelta_sampled _ _) ?_)
  refine triple_seq stopRoceSamplers_idle (triple_seq (demoSteps_idle _) ?_)
  refine triple_seq hwarm (triple_seq (demoSteps_idle _) ?_)
  refine triple_seq (R := Idle []) ?_ ?_
  · exact triple_exec (fun done s h => h.tracked.guard rfl rfl) fun done s h => h.cons rfl
  iterate 2 refine triple_seq (demoStep_idle _) ?_
  refine triple_seq (R := Idle []) ?_ (demoStep_idle _)
  exact triple_dieUnless (fun _ _ h _ => h) fun _ _ h _ => ⟨h.tracked, by simp⟩

end Functions

section Trap

theorem killAll_ends (pids : List Nat) (s : Host) :
    Ends (each pids fun pid => exec (.kill pid) id : DemoScript Unit) s (.ok ()) s := by
  induction pids with
  | nil => exact ⟨rfl, rfl⟩
  | cons pid pids ih => exact ends_exec_ok.mpr ih

theorem waitAll_ends (pids : List Nat) (s : Host) :
    Ends (each pids fun pid => exec (.wait pid) fun s =>
        { s with unwaited := s.unwaited.filter (·.pid ≠ pid) } : DemoScript Unit) s (.ok ())
      { s with unwaited := s.unwaited.filter (·.pid ∉ pids) } := by
  induction pids generalizing s with
  | nil =>
    refine ⟨rfl, ?_⟩
    show s = _
    simp
  | cons pid pids ih =>
    refine ends_exec_ok.mpr ?_
    have hfilter : (s.unwaited.filter (·.pid ≠ pid)).filter (·.pid ∉ pids) =
        s.unwaited.filter (·.pid ∉ pid :: pids) := by
      rw [List.filter_filter]
      refine List.filter_congr fun p _ => ?_
      simp [Bool.and_comm]
    have hrest := ih { s with unwaited := s.unwaited.filter (·.pid ≠ pid) }
    rwa [hfilter] at hrest

/-- The `EXIT` trap ends what the script knows of, and cannot fail. -/
theorem stop_ends (s : Host) : ∃ t, Ends stopRoceSamplers s (.ok ()) t ∧
    t.unwaited = s.unwaited.filter (·.pid ∉ s.roceSamplerPids) := by
  cases hpids : s.roceSamplerPids with
  | nil =>
    refine ⟨s, ?_, by simp⟩
    rw [stopRoceSamplers, ends_read_ok, hpids]
    exact ends_pure.mpr ⟨rfl, rfl⟩
  | cons pid pids =>
    let u : Host := { s with unwaited := s.unwaited.filter (·.pid ∉ pid :: pids) }
    refine ⟨{ u with roceSamplerPids := [], roceSamplerFiles := [] }, ?_, rfl⟩
    rw [stopRoceSamplers, ends_read_ok, hpids, if_neg (by simp), ends_exec_ok, ends_seq_ok]
    refine ⟨s, killAll_ends _ s, ?_⟩
    rw [ends_seq_ok]
    exact ⟨u, waitAll_ends _ s, ends_exec_ok.mpr ((ends_exec _ _).mpr ⟨rfl, rfl⟩)⟩

end Trap

section Runs

variable {env : Env} {done : List Command} {t : Host}

theorem idle_start (labels : List String) : Idle labels [] idleHost :=
  ⟨⟨rfl, rfl, rfl⟩, trivial, fun ⟨_, h⟩ => by contradiction, fun _ h => by contradiction⟩

theorem demo_tracked (h : Stops (demoKvOffloadReload env) idleHost done t) : Tracked done t :=
  (demo_triple env).stops (idle_start _) (fun _ _ _ hc => hc.tracked) (fun _ _ _ hq => hq.tracked)
    (fun _ _ _ he => he.1) h

def unusedPid : List Nat → Nat
  | [] => 1
  | pid :: pids => max (pid + 1) (unusedPid pids)

theorem lt_unusedPid {pid : Nat} {pids : List Nat} (h : pid ∈ pids) : pid < unusedPid pids := by
  induction pids with
  | nil => contradiction
  | cons p pids ih =>
    rw [unusedPid]
    rcases List.mem_cons.mp h with rfl | hrest
    · omega
    · have := ih hrest
      omega

/-- Everything succeeds at once. -/
def smoothEnv : Env where
  compare := "compare-prefill-vs-gds.py"
  roceTool := "roce-throughput.py"
  outputDir := "run"
  compareExecutable := true
  roceToolPresent := true
  outputDirAbsent := true
  jqInstalled := true
  pid _ := unusedPid
  pid_unused _ _ h := Nat.lt_irrefl _ (lt_unusedPid h)
  lines _ _ := 2
  call _ := ⟨0, 0, 0, 0⟩
  waited _ _ := .ok ()
  summary := 0
  succeeds _ := true

/-- The first sampler has been started and its pid kept. -/
def firstStarted : List Command :=
  .addPid :: .ssh ⟨"cold", "node2"⟩ :: beforeColdSteps.reverse.map .step

def firstSampler : Host := ⟨[⟨⟨"cold", "node2"⟩, 1⟩], 1, [1], []⟩

theorem firstStarted_stops : Stops (demoKvOffloadReload smoothEnv) idleHost firstStarted
    firstSampler := by decide +kernel

/-- Wherever the demo ends or is cut off, its `EXIT` trap goes through, and has waited for every
sampler unless the cut was just after one had been started. -/
theorem no_sampler_survives (h : Stops (demoKvOffloadReload env) idleHost done t) :
    ∃ u, Ends stopRoceSamplers t (.ok ()) u ∧ (u.unwaited = [] ↔ ¬ JustStarted done) := by
  obtain ⟨u, hends, hunwaited⟩ := stop_ends t
  have htracked := demo_tracked h
  refine ⟨u, hends, ?_⟩
  rw [hunwaited, List.filter_eq_nil_iff]
  constructor
  · intro hall hj
    obtain ⟨p, hp, hunlisted⟩ := htracked.unlisted hj
    exact hall p hp (decide_eq_true hunlisted)
  · intro hj p hp hunlisted
    exact of_decide_eq_true hunlisted (htracked.listed hj p hp)

theorem no_sampler_survives_first : ∃ u, Ends stopRoceSamplers firstSampler (.ok ()) u ∧
    (u.unwaited = [] ↔ ¬ JustStarted firstStarted) :=
  no_sampler_survives firstStarted_stops

/-- Every request, and every wait for what it does to the counters, comes after both samplers
of its label were seen to write and before either is told to end, and no other sampler is left. -/
theorem requests_sampled {c : Command} {sample : Nat}
    (h : ExecutesAfter (demoKvOffloadReload env) idleHost done c t)
    (hc : c.sample? = some sample) : Sampling env (requestLabel sample) done t :=
  ((demo_triple env).executes (idle_start _) h).sampling sample hc

/-- A pair of samplers is started. -/
def pairStarted (label : String) : List Command :=
  [.addFile, .addPid, .ssh ⟨label, "node3"⟩, .addFile, .addPid, .ssh ⟨label, "node2"⟩]

/-- Processes 1 and 2 are stopped. -/
def pairStopped : List Command :=
  [.clearFiles, .clearPids, .wait 2, .wait 1, .kill 2, .kill 1, .sleep]

/-- The cold request is over, and the samplers of the first warm one have been started. -/
def warmStarted : List Command :=
  pairStarted "warm" ++ afterColdSteps.reverse.map .step ++ pairStopped ++
    .waitForCounterDelta "kvbm_offload_blocks_d2d" 0 :: .inpodRequest 0 ::
      (pairStarted "cold" ++ beforeColdSteps.reverse.map .step)

def warmSamplers : Host :=
  ⟨[⟨⟨"warm", "node2"⟩, 1⟩, ⟨⟨"warm", "node3"⟩, 2⟩], 2, [1, 2], roceFiles "warm"⟩

/-- The samplers of the cold request had the same pids, and were told to end. -/
theorem requests_sampled_second :
    Sampling smoothEnv (requestLabel 1) warmStarted warmSamplers := by
  have hrequest : ExecutesAfter (demoKvOffloadReload smoothEnv) idleHost warmStarted
      (.inpodRequest 1) warmSamplers := by decide +kernel
  exact requests_sampled hrequest rfl

theorem Orderly.allowed {later earlier : List Command} {c : Command}
    (h : Orderly (later ++ c :: earlier)) : Allowed earlier c := by
  induction later with
  | nil => exact h.1
  | cons c' later ih => exact ih h.2

/-- No file is written by two samplers, no process is waited for that was not told to end since
samplers were last started, and none are listed when others are to be started. -/
theorem samplers_orderly (h : Stops (demoKvOffloadReload env) idleHost done t) :
    (∀ later c earlier, done = later ++ c :: earlier → Allowed earlier c) ∧
      (demoKvOffloadReload env idleHost).result ≠ .error .alreadyRunning := by
  constructor
  · rintro later c earlier rfl
    exact (demo_tracked h).orderly.allowed
  · intro hunwaited
    obtain ⟨_, -, hne⟩ := (demo_triple env).ends_error (idle_start _) ⟨hunwaited, rfl⟩
    exact hne rfl

def warmStopped : List Command :=
  pairStopped ++ .waitForCounterDelta "kvbm_matched_tokens" 1 ::
    .waitForCounterDelta "kvbm_onboard_blocks_d2d" 1 :: .inpodRequest 1 :: warmStarted

theorem samplers_orderly_second :
    (∀ later c earlier, warmStopped = later ++ c :: earlier → Allowed earlier c) ∧
      (demoKvOffloadReload smoothEnv idleHost).result ≠ .error .alreadyRunning := by
  have hstops : Stops (demoKvOffloadReload smoothEnv) idleHost warmStopped ⟨[], 2, [], []⟩ := by
    decide +kernel
  exact samplers_orderly hstops

end Runs

end PdDisaggregation.Demo
