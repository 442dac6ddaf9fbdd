import PdDisaggregation.RamStorage

/-! Whose `brd` module a stop unloads. The flag it trusts is kept in
`STATE_FILE`, which survives the module. -/

namespace PdDisaggregation

open Script

variable {env : RamEnv} {s s₀ t : RamHost} {mayLoad : RamHost → Prop}

/-- What can happen to node3: runs of the two scripts cut anywhere, reboots,
another party's use of `brd`, and anything else that touches neither the module
nor `STATE_FILE`. `mayLoad` says when the other party loads `brd`. -/
inductive RamStep (mayLoad : RamHost → Prop) : RamHost → RamHost → Prop
  | start {s t : RamHost} (env : RamEnv) (done : List StartCommand)
      (h : Stops (startRamStorage env) s done t) : RamStep mayLoad s t
  | stop {s t : RamHost} (env : RamEnv) (done : List StopCommand)
      (h : Stops (stopRamStorage env) s done t) : RamStep mayLoad s t
  | reboot (s : RamHost) : RamStep mayLoad s s.reboot
  | foreignLoad (s : RamHost) (devices : List RamDevice) (hn : s.brd = none) (h : mayLoad s) :
      RamStep mayLoad s { s with brd := some ⟨.other, devices⟩ }
  | foreignUnload (s : RamHost) : RamStep mayLoad s { s with brd := none }
  | elsewhere (s t : RamHost) (hb : t.brd.map (·.loader) = s.brd.map (·.loader))
      (hf : t.stateFile = s.stateFile) : RamStep mayLoad s t

/-- Where `STATE_FILE` claims the module, the module is not somebody else's. -/
def OwnedRecord (s : RamHost) : Prop := recordedModule s = "1" → ¬ s.loadedBy .other

theorem ownedRecord_of_brd_none (h : s.brd = none) : OwnedRecord s := by
  rintro - ⟨m, hm, -⟩
  simp [h] at hm

theorem OwnedRecord.congr (h : OwnedRecord s) (hb : t.brd.map (·.loader) = s.brd.map (·.loader))
    (hf : t.stateFile = s.stateFile) : OwnedRecord t := by
  rintro hr ⟨m, hm, hl⟩
  have hs : s.brd.map (·.loader) = some .other := by rw [← hb, hm, Option.map_some, hl]
  obtain ⟨m', hm', hl'⟩ := Option.map_eq_some_iff.mp hs
  refine h ?_ ⟨m', hm', hl'⟩
  rw [← hr, recordedModule, recordedModule, hf]

theorem setFileSystem_loader (s : RamHost) (name : String) (fs : FileSystem) :
    (s.setFileSystem name fs).brd.map (·.loader) = s.brd.map (·.loader) := by
  cases h : s.brd <;> simp [RamHost.setFileSystem, h]

theorem loadedBy_iff (l : Loader) : s.loadedBy l ↔ s.brd.map (·.loader) = some l := by
  simp [RamHost.loadedBy]

def Claims (createdModule : String) (s : RamHost) : Prop :=
  OwnedRecord s ∧ (createdModule = "1" → ¬ s.loadedBy .other)

theorem Claims.congr {c : String} (h : Claims c s)
    (hb : t.brd.map (·.loader) = s.brd.map (·.loader)) (hf : t.stateFile = s.stateFile) :
    Claims c t := by
  refine ⟨h.1.congr hb hf, fun hc => ?_⟩
  rw [loadedBy_iff, hb, ← loadedBy_iff]
  exact h.2 hc

theorem Claims.printed {c : String} {f : RamState → RamState} (h : Claims c s)
    (hf : ∀ r, (f r).createdModule = r.createdModule ∨ (f r).createdModule = some c) :
    Claims c (printState f s) := by
  refine ⟨fun hr => ?_, h.2⟩
  cases hs : s.stateFile with
  | none =>
    have h0 : recordedModule (printState f s) = "0" := by
      simp [recordedModule, printState, hs]
    rw [h0] at hr
    exact absurd hr (by decide)
  | some r =>
    have hrec : recordedModule (printState f s) = Text.orDefault (f r).createdModule "0" := by
      simp [recordedModule, printState, hs]
    rcases hf r with hsame | hc
    · refine h.1 ?_
      rw [← hr, hrec, hsame, recordedModule, hs]
    · refine h.2 ?_
      rw [hrec, hc] at hr
      unfold Text.orDefault at hr
      split at hr
      · exact absurd hr (by decide)
      · exact absurd hr (by decide)
      · rename_i v _ hv
        rw [Option.some.inj hv, hr]

theorem keeps_formatAndMount (c : String) : Keeps (fun _ => Claims c) (formatAndMount env) := by
  refine keeps_bind (keeps_exec fun _ s h => h.congr (setFileSystem_loader _ _ _) rfl) fun _ => ?_
  refine keeps_bind (keeps_exec fun _ s h => h.congr rfl rfl) fun _ => ?_
  exact keeps_exec fun _ s h => h.congr (setFileSystem_loader _ _ _) rfl

/-- A print to `STATE_FILE` leaves a field as it was or sets it for this start. -/
structure Prints (env : RamEnv) (c : String) (f : RamState → RamState) : Prop where
  ramDevice : ∀ r, (f r).ramDevice = r.ramDevice ∨ (f r).ramDevice = some env.ramDevice
  mountPoint : ∀ r, (f r).mountPoint = r.mountPoint ∨ (f r).mountPoint = some env.mountPoint
  createdModule : ∀ r, (f r).createdModule = r.createdModule ∨ (f r).createdModule = some c

theorem keeps_writes {J : RamHost → Prop} {c : String}
    (htruncate : ∀ s, J s → J { s with stateFile := some {} })
    (hprint : ∀ f s, Prints env c f → J s → J (printState f s)) :
    Keeps (fun _ => J) (writeRamState env c) := by
  refine keeps_bind (keeps_exec fun _ s h => htruncate s h) fun _ => ?_
  refine keeps_bind (keeps_exec fun _ s h => hprint _ s ?_ h) fun _ => ?_
  · exact ⟨fun _ => .inr rfl, fun _ => .inl rfl, fun _ => .inl rfl⟩
  refine keeps_bind (keeps_exec fun _ s h => hprint _ s ?_ h) fun _ => ?_
  · exact ⟨fun _ => .inl rfl, fun _ => .inr rfl, fun _ => .inl rfl⟩
  refine keeps_bind (keeps_exec fun _ s h => hprint _ s ?_ h) fun _ => ?_
  · exact ⟨fun _ => .inl rfl, fun _ => .inl rfl, fun _ => .inl rfl⟩
  refine keeps_exec fun _ s h => hprint _ s ?_ h
  exact ⟨fun _ => .inl rfl, fun _ => .inl rfl, fun _ => .inr rfl⟩

theorem keeps_writeRamState (c : String) : Keeps (fun _ => Claims c) (writeRamState env c) := by
  apply keeps_writes
  · intro s h
    refine ⟨fun hr => ?_, h.2⟩
    simp [recordedModule, Text.orDefault] at hr
  · intro f s hf h
    exact h.printed hf.createdModule

theorem passive_deviceGate : Passive (deviceGate env) := by
  refine passive_reading fun device => passive_check ?_
  refine passive_reading fun mounted => passive_check ?_
  refine passive_reading fun device => passive_check ?_
  exact passive_reading fun signature => passive_dieUnless _ _

theorem passive_memoryGate : Passive (memoryGate env) :=
  passive_reading fun _ => passive_reading fun _ => passive_check (passive_dieUnless _ _)

theorem passive_adoptActive : Passive (adoptActive env) := by
  refine passive_reading fun _ => passive_check ?_
  refine passive_reading fun _ => passive_check ?_
  exact passive_reading fun _ => passive_dieUnless _ _

theorem meets_ensureModule (h : OwnedRecord s) {done : List StartCommand} :
    Meets (fun _ _ t => OwnedRecord t)
      (fun _ r t => OwnedRecord t ∧ ∀ c, r = .ok c → Claims c t) done (ensureModule env) s := by
  simp only [ensureModule, meets_bind, meets_read, meets_ite, meets_exec, meets_pure]
  have hload : ¬ (s.loadBrd env.sizeKib).loadedBy .other := by
    rintro ⟨m, hm, hl⟩
    simp only [RamHost.loadBrd, Option.some.injEq] at hm
    subst hm
    cases hl
  refine ⟨fun _ => ⟨h, fun _ => hload, ?_⟩, fun _ => ⟨h, ?_⟩⟩
  · rintro c -
    exact ⟨fun _ => hload, fun _ => hload⟩
  · rintro c hc
    rw [Except.ok.injEq] at hc
    subst hc
    exact ⟨h, fun h1 => absurd h1 (by decide)⟩

theorem keeps_startRamStorage : Keeps (fun _ => OwnedRecord) (startRamStorage env) := by
  iterate 3 apply keeps_check
  apply keeps_reading
  intro sources
  refine keeps_ite (keeps_bind passive_memoryGate.keeps fun _ => ?_) passive_adoptActive.keeps
  intro done s h
  refine (meets_bind _).mpr ((meets_ensureModule h).mono (fun _ _ _ hh => hh) ?_)
  rintro done r t ⟨ht, hc⟩
  cases r with
  | error e => exact ht
  | ok c =>
    have hrest : Keeps (fun _ => Claims c)
        (deviceGate env >>= fun _ => formatAndMount env >>= fun _ => writeRamState env c) :=
      keeps_bind passive_deviceGate.keeps fun _ =>
        keeps_bind (keeps_formatAndMount c) fun _ => keeps_writeRamState c
    exact (hrest done t (hc c rfl)).mono (fun _ _ _ hh => hh.1) fun _ _ _ hh => hh.1

theorem keeps_stopRamStorage : Keeps (fun _ => OwnedRecord) (stopRamStorage env) := by
  iterate 2 apply keeps_check
  refine keeps_reading fun created => keeps_reading fun vars => ?_
  refine keeps_bind ?_ fun _ => keeps_bind ?_ fun _ => ?_
  · refine keeps_reading fun sources => keeps_ite ?_ (keeps_pure ())
    refine keeps_check (keeps_reading fun marker => ?_)
    refine keeps_check (keeps_reading fun clients => ?_)
    refine keeps_check (keeps_reading fun users => ?_)
    exact keeps_check (keeps_exec fun _ s h => h.congr rfl rfl)
  · refine keeps_reading fun loaded => keeps_ite ?_ (keeps_pure ())
    refine keeps_reading fun mounted => keeps_check ?_
    exact keeps_exec fun _ s h => ownedRecord_of_brd_none rfl
  · refine keeps_exec fun _ s h hr => ?_
    simp [recordedModule] at hr

theorem ownedRecord_step (hm : ∀ s, mayLoad s → recordedModule s ≠ "1") (h : OwnedRecord s)
    (hs : RamStep mayLoad s t) : OwnedRecord t := by
  cases hs with
  | start env done hs => exact (keeps_startRamStorage [] s h).stops hs
  | stop env done hs => exact (keeps_stopRamStorage [] s h).stops hs
  | reboot => exact ownedRecord_of_brd_none rfl
  | foreignLoad devices hn hl => exact fun hr => absurd hr (hm s hl)
  | foreignUnload => exact ownedRecord_of_brd_none rfl
  | elsewhere _ hb hf => exact h.congr hb hf

theorem unmountRam_module (h : Ends (unmountRam env) s (.ok ()) t) : t.brd = s.brd := by
  rw [unmountRam, ends_read_ok] at h
  split at h
  · rw [ends_check_ok, ends_read_ok, ends_check_ok, ends_read_ok, ends_check_ok, ends_read_ok,
      ends_check_ok, ends_exec] at h
    obtain ⟨-, -, -, -, -, rfl⟩ := h
    rfl
  · obtain ⟨-, rfl⟩ := ends_pure.mp h
    rfl

theorem not_executes_unmountRam : ¬ Executes (unmountRam env) s .modprobeRemove t := by
  intro h
  rw [unmountRam, executes_read_bind] at h
  split at h
  · rw [executes_check, executes_read_bind, executes_check, executes_read_bind, executes_check,
      executes_read_bind, executes_check, executes_exec] at h
    exact absurd h.2.2.2.2.1 (by decide)
  · exact executes_pure h

theorem stop_executes_modprobeRemove (h : Executes (stopRamStorage env) s .modprobeRemove t) :
    recordedModule s = "1" ∧ t.brd = s.brd ∧ t.brd ≠ none := by
  rw [stopRamStorage, executes_check, executes_check, executes_read_bind, executes_read_bind,
    executes_seq] at h
  obtain h | ⟨u, hu, h⟩ := h.2.2
  · exact absurd h not_executes_unmountRam
  rw [executes_seq] at h
  obtain h | ⟨v, hv, h⟩ := h
  · rw [unloadBrd, executes_read_bind] at h
    split at h
    · rename_i hc
      rw [executes_read_bind, executes_check, executes_exec] at h
      obtain ⟨-, -, rfl⟩ := h
      simp only [Bool.and_eq_true, beq_iff_eq] at hc
      exact ⟨hc.1, unmountRam_module hu, Option.isSome_iff_ne_none.mp hc.2⟩
    · exact absurd h executes_pure
  · rw [executes_exec] at h
    exact absurd h.1 (by decide)

/-- As long as nobody else loads `brd` while `STATE_FILE` still claims it, a
stop only unloads the module a start has loaded. -/
theorem stop_unloads_own (s₀ s : RamHost) (h0 : s₀.stateFile = none)
    (h : Relation.ReflTransGen (RamStep fun s => recordedModule s ≠ "1") s₀ s) :
    ∀ env t, Executes (stopRamStorage env) s .modprobeRemove t → t.loadedBy .start := by
  have howned : OwnedRecord s := by
    induction h with
    | refl =>
      intro hr
      simp [recordedModule, h0] at hr
    | tail _ hstep ih => exact ownedRecord_step (fun _ => id) ih hstep
  intro env t ht
  obtain ⟨hr, hb, hn⟩ := stop_executes_modprobeRemove ht
  obtain ⟨m, hm⟩ := Option.ne_none_iff_exists'.mp hn
  refine ⟨m, hm, ?_⟩
  cases hl : m.loader with
  | start => rfl
  | other => exact absurd ⟨m, hb.symm.trans hm, hl⟩ (howned hr)

def cleanHost : RamHost where
  memTotalKib := 256 * 1024 * 1024
  memAvailableKib := 200 * 1024 * 1024
  brd := none
  mounts := []
  exported := false
  openUsers := false
  stateFile := none

def activeHost : RamHost :=
  { cleanHost with
    brd := some ⟨.start, [⟨"/dev/ram0", 8 * 1024 * 1024 * 1024, some ⟨true⟩⟩]⟩
    mounts := [⟨"/dev/ram0", "/srv/dynamo-g4"⟩]
    stateFile := some ⟨some "/dev/ram0", some "/srv/dynamo-g4", some "8", some "1"⟩ }

theorem start_activates : Ends (startRamStorage {}) cleanHost (.ok ()) activeHost :=
  ⟨by decide +kernel, by decide +kernel⟩

theorem ramStep_start (mayLoad : RamHost → Prop) (h : Ends (startRamStorage env) s (.ok ()) t) :
    RamStep mayLoad s t := by
  obtain ⟨done, hd⟩ := h.stops
  exact .start env done hd

theorem stop_unloads_own_active :
    Executes (stopRamStorage {}) activeHost .modprobeRemove { activeHost with mounts := [] } ∧
      RamHost.loadedBy { activeHost with mounts := [] } .start := by
  have hstop : Executes (stopRamStorage {}) activeHost .modprobeRemove
      { activeHost with mounts := [] } := by decide +kernel
  have hruns : Relation.ReflTransGen (RamStep fun s => recordedModule s ≠ "1") cleanHost activeHost :=
    .single (ramStep_start _ start_activates)
  exact ⟨hstop, stop_unloads_own cleanHost activeHost rfl hruns {} _ hstop⟩

def reloadedHost : RamHost := { activeHost.reboot with brd := some ⟨.other, []⟩ }

theorem stop_unloads_foreign :
    Relation.ReflTransGen (RamStep fun _ => True) cleanHost reloadedHost ∧
      Executes (stopRamStorage {}) reloadedHost .modprobeRemove reloadedHost ∧
      ¬ reloadedHost.loadedBy .start := by
  refine ⟨?_, by decide +kernel, ?_⟩
  · refine .tail (.tail (.single (ramStep_start _ start_activates)) (.reboot _)) ?_
    exact .foreignLoad _ [] rfl trivial
  · rintro ⟨m, hm, hl⟩
    cases hm
    cases hl

end PdDisaggregation
