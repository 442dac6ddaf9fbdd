import PdDisaggregation.NfsrdmaRuns

/-! From which states the module can be removed again, and that an installation that ends well
has loaded it. -/

namespace PdDisaggregation.Nfsrdma

open Script

section Reaches

variable {env : Env} {s s₀ t : Host} {done : List Command} {tree : Tree}
  {allowed : Env → List Command → Prop}

theorem bounded_stops {α : Type} {J : List Command → Host → Prop} {P Q : Host → Prop}
    {m : ModuleScript α} (h : Bounded J P m Q) (hQ : ∀ done s, Q s → J done s) (hs : P s)
    (hstops : Stops m s done t) : J done t :=
  Triple.stops h hs (fun _ _ _ hc => hc) (fun _ done t ht => hQ done t ht)
    (fun _ _ _ he => he) hstops

theorem bounded_refused {α : Type} {J : List Command → Host → Prop} {P Q : Host → Prop}
    {test : Bool} {message : String} {k : Unit → ModuleScript α} (hJ : ∀ done s, P s → J done s)
    (htest : test = false) : Bounded J P (check test message >>= k) Q := by
  refine triple_seq (R := fun _ _ => False) (triple_dieUnless (fun _ _ _ ht => ?_) ?_) ?_
  · rw [htest] at ht
    contradiction
  · exact fun done s hs _ => hJ done s hs
  · exact fun _ _ hs => hs.elim

theorem ofFiles_source (source : Option Tree) : OfFiles fun s => s.source = source :=
  fun _ _ hsource _ _ hs => hsource.trans hs

/-- Both scripts refuse an unmarked tree before they have changed it. -/
theorem bounded_unmarked_install (hmarked : Tree.marked tree = false) :
    Bounded (fun _ s => s.source = some tree) (fun s => s.source = some tree)
      (buildInstallMlnxNfsrdma env) fun s => s.source = some tree := by
  have hJ (_ : List Command) (s : Host) (h : s.source = some tree) : s.source = some tree := h
  refine triple_seq (R := fun _ s => s.source = some tree) (bounded_gates hJ)
    (triple_reading fun loaded => triple_ite (fun _ => triple_reading fun found => ?_)
      fun _ => triple_reading fun source => ?_)
  · refine Triple.mono (triple_seq (R := fun _ s => s.source = some tree) (bounded_check hJ _ _) ?_)
      (fun _ _ hs => hs.1.1) fun _ _ _ hs => hs
    exact triple_pure fun _ _ hs => hs
  by_cases htree : source = some tree
  · subst htree
    refine Triple.mono (triple_seq (R := fun _ _ => False) (bounded_refused hJ hmarked)
      fun _ _ hs => hs.elim) (fun _ _ hs => hs.1.1) fun _ _ _ hs => hs
  · exact fun _ _ hs => absurd (hs.2.symm.trans hs.1.1) htree

theorem bounded_unmarked_remove (hmarked : Tree.marked tree = false) :
    Bounded (fun _ s => s.source = some tree) (fun s => s.source = some tree)
      (removeMlnxNfsrdma env) fun s => s.source = some tree := by
  have hJ (_ : List Command) (s : Host) (h : s.source = some tree) : s.source = some tree := h
  have hP := (ofFiles_source (some tree)).undisturbed env
  refine triple_seq (R := fun _ s => s.source = some tree) (bounded_check hJ _ _) ?_
  refine triple_seq (R := fun _ s => s.source = some tree)
    (bounded_unloadModule (ofFiles_source _) hJ) ?_
  refine triple_seq (R := fun _ s => s.source = some tree) ?_ ?_
  · refine triple_reading fun added =>
      triple_ite (fun _ => ?_) fun _ => triple_pure fun _ _ hs => hs.1
    refine Triple.mono (triple_seq (R := fun _ s => s.source = some tree) ?_
      (triple_seq (R := fun _ s => s.source = some tree) ?_ ?_)) (fun _ _ hs => hs.1)
      fun _ _ _ hs => hs
    · refine bounded_command hP hJ fun s t hs ht => ?_
      by_cases hc : s.configured = true
      · rw [if_pos hc, Option.some.injEq] at ht
        exact ht ▸ hs
      · simp [hc] at ht
    · exact bounded_command hP hJ fun s t hs ht => Option.some.inj ht ▸ hs
    · exact bounded_command hP hJ fun s t hs ht => Option.some.inj ht ▸ hs
  refine triple_seq (R := fun _ _ => False) (triple_reading fun source => ?_) fun _ _ hs => hs.elim
  by_cases htree : source = some tree
  · subst htree
    exact Triple.mono (bounded_refused hJ hmarked) (fun _ _ hs => hs.1) fun _ _ _ hs => hs
  · exact fun _ _ hs => absurd (hs.2.symm.trans hs.1) htree

/-- What other programs and a loss of power leave as it is. -/
theorem ofFiles_step {P : Host → Prop} (hP : OfFiles P) (hs : P s) (h : ModuleStep allowed s t)
    (hinstall : ∀ env done, allowed env done → Stops (buildInstallMlnxNfsrdma env) s done t → P t)
    (hremove : ∀ env done, allowed env done → Stops (removeMlnxNfsrdma env) s done t → P t) :
    P t := by
  cases h with
  | install env done hallowed h => exact hinstall env done hallowed h
  | remove env done hallowed h => exact hremove env done hallowed h
  | other o h =>
    obtain ⟨hsource, hadded, hinstalled⟩ := apply_files (s := s) (o := o)
    exact h ▸ hP s _ hsource hadded hinstalled hs
  | outage h => exact h ▸ hP s _ rfl rfl rfl hs

theorem unmarked_step (hmarked : Tree.marked tree = false) (hs : s.source = some tree)
    (h : ModuleStep allowed s t) : t.source = some tree := by
  refine ofFiles_step (ofFiles_source (some tree)) hs h (fun env done _ hstops => ?_)
    fun env done _ hstops => ?_
  · exact bounded_stops (bounded_unmarked_install hmarked) (fun _ _ h => h) hs hstops
  · exact bounded_stops (bounded_unmarked_remove hmarked) (fun _ _ h => h) hs hstops

/-- A tree without the marker stays for good. -/
theorem unmarked_reaches (hmarked : Tree.marked tree = false) (hs : s.source = some tree)
    (h : ModuleReaches allowed s t) : t.source = some tree := by
  induction h with
  | refl => exact hs
  | tail _ hstep ih => exact unmarked_step hmarked ih hstep

theorem accounted_install (hs : Kept s) (h : Stops (buildInstallMlnxNfsrdma env) s done t) :
    Accounted done t :=
  bounded_stops bounded_buildInstall (fun done _ h => h.accounted done) hs h

theorem accounted_remove (hs : Kept s) (h : Stops (removeMlnxNfsrdma env) s done t) :
    Accounted done t :=
  bounded_stops bounded_removeMlnxNfsrdma (fun done _ h => h.accounted done) hs h

def KeptOrUnmarked (s : Host) : Prop := Unmarked s ∨ Kept s

theorem Accounted.keptOrUnmarked (h : Accounted done s) : KeptOrUnmarked s := by
  by_cases hu : Unmarked s
  · exact Or.inl hu
  · exact Or.inr ⟨h.1, hu⟩

theorem keptOrUnmarked_step (hs : KeptOrUnmarked s) (h : ModuleStep allowed s t) :
    KeptOrUnmarked t := by
  rcases hs with ⟨tree, htree, hmarked⟩ | hs
  · exact Or.inl ⟨tree, unmarked_step hmarked htree h, hmarked⟩
  cases h with
  | install env done _ h => exact (accounted_install hs h).keptOrUnmarked
  | remove env done _ h => exact (accounted_remove hs h).keptOrUnmarked
  | other o h =>
    obtain ⟨hsource, hadded, hinstalled⟩ := apply_files (s := s) (o := o)
    exact Or.inr (h ▸ ofFiles_kept s _ hsource hadded hinstalled hs)
  | outage h => exact Or.inr (h ▸ ofFiles_kept s _ rfl rfl rfl hs)

theorem keptOrUnmarked_reaches (hs : KeptOrUnmarked s₀) (h : ModuleReaches allowed s₀ s) :
    KeptOrUnmarked s := by
  induction h with
  | refl => exact hs
  | tail _ hstep ih => exact keptOrUnmarked_step ih hstep

/-- As long as no run is cut while it copies or deletes the tree, the tree is marked. -/
theorem kept_reaches (hs : Kept s₀) (h : ModuleReaches (fun _ done => ¬ Torn done) s₀ s) :
    Kept s := by
  induction h with
  | refl => exact hs
  | tail _ hstep ih =>
    refine ofFiles_step ofFiles_kept ih hstep (fun env done hwhole hstops => ?_)
      fun env done hwhole hstops => ?_
    · obtain ⟨hsound, htorn⟩ := accounted_install ih hstops
      exact ⟨hsound, fun hu => hwhole (htorn hu)⟩
    · obtain ⟨hsound, htorn⟩ := accounted_remove ih hstops
      exact ⟨hsound, fun hu => hwhole (htorn hu)⟩

theorem Untouched.kept (h : Untouched s) : Kept s := by
  have habsent : Absent s := ⟨h.1, h.2.1, h.2.2.1⟩
  exact habsent.kept

end Reaches

section Restore

variable {env : Env} {s t : Host} {c : Command} {f : Host → Option Host}

/-- A run that nothing interferes with. -/
structure Able (env : Env) : Prop where
  version : env.moduleVersion = "3.4"
  succeeds : ∀ c, env.succeeds c = true
  alone : ∀ c, env.meanwhile c = []

theorem ends_command (henv : Able env) (h : f s = some t) :
    Ends (command env c f) s (.ok ()) t := by
  refine (ends_attempt_ok c).mpr ?_
  simp [henv.succeeds c, henv.alone c, Host.after, h]

theorem ends_check {test : Bool} {message : String} (h : test = true) :
    Ends (check test message) s (.ok ()) s := ends_dieUnless_ok.mpr ⟨h, rfl⟩

theorem ends_then {α : Type} {m : ModuleScript Unit} {k : Unit → ModuleScript α} {a : α} {u : Host}
    (hm : Ends m s (.ok ()) u) (hk : Ends (k ()) u (.ok a) t) : Ends (m >>= k) s (.ok a) t :=
  ends_seq_ok.mpr ⟨u, hm, hk⟩

theorem ends_unlinks (henv : Able env) (files : Tree) {tree : Tree} (hs : s.source = some tree) :
    Ends (each files (unlink env)) s (.ok ())
      { s with source := some (tree.filter fun f => files.all (·.name ≠ f.name)) } := by
  induction files generalizing s tree with
  | nil =>
    refine ends_pure.mpr ⟨rfl, ?_⟩
    simp [← hs]
  | cons file files ih =>
    have hfirst : Ends (unlink env file) s (.ok ())
        { s with source := some (tree.filter (·.name ≠ file.name)) } :=
      ends_command henv (by simp [hs])
    have htree : (tree.filter (·.name ≠ file.name)).filter (fun f => files.all (·.name ≠ f.name)) =
        tree.filter fun f => (file :: files).all (·.name ≠ f.name) := by
      rw [List.filter_filter]
      refine List.filter_congr fun f _ => ?_
      rw [List.all_cons, Bool.and_comm]
      simp only [ne_comm]
    rw [← htree]
    exact ends_then hfirst (ih rfl)

theorem filter_all (tree : Tree) {files : Tree} (h : ∀ f ∈ tree, f ∈ files) :
    tree.filter (fun f => files.all (·.name ≠ f.name)) = [] := by
  rw [List.filter_eq_nil_iff]
  intro f hf hall
  simpa using List.all_eq_true.mp hall f (h f hf)

theorem ends_removeTree (henv : Able env) {tree : Tree} (hs : s.source = some tree) :
    Ends (removeTree env tree) s (.ok ()) { s with source := none } := by
  have hunlinks := ends_unlinks henv (env.order tree) hs
  rw [filter_all tree fun f hf => (env.order_perm tree).mem_iff.mpr hf] at hunlinks
  exact ends_then hunlinks (ends_command henv (by simp))

theorem ends_removeSource (henv : Able env) (hs : Kept s) :
    Ends (removeSource env) s (.ok ()) { s with source := none } := by
  refine ends_read_ok.mpr ?_
  cases hsource : s.source with
  | none => exact ends_pure.mpr ⟨rfl, by simp [← hsource]⟩
  | some tree =>
    exact ends_then (ends_check (hs.marked hsource)) (ends_removeTree henv hsource)

theorem ends_unloadModule (henv : Able env) (hidle : s.loaded = none ∨ s.useCount = 0) :
    Ends (unloadModule env) s (.ok ()) { s with loaded := none } := by
  refine ends_read_ok.mpr ?_
  by_cases hl : s.loaded = none
  · rw [hl]
    exact ends_pure.mpr ⟨rfl, by simp [← hl]⟩
  · have hcount := hidle.resolve_left hl
    have hsome : s.loaded.isSome = true := Option.isSome_iff_ne_none.mpr hl
    rw [if_pos hsome]
    refine ends_read_ok.mpr (ends_then (ends_check (by simp [hcount])) (ends_command henv ?_))
    simp [Host.unload, hcount]

/-- DKMS forgets the module, and the index is made again if there was something to forget. -/
theorem ends_dkmsRemove (henv : Able env) (hconfigured : s.added = true → s.configured = true)
    (hinstalled : s.installed = true → s.added = true) :
    ∃ t, Ends (dkmsRemove env) s (.ok ()) t ∧ t.loaded = s.loaded ∧ t.source = s.source ∧
      Unlisted t := by
  by_cases hadded : s.added = true
  · refine ⟨{ ({ s with installed := false } : Host).depmod with added := false },
      ends_read_ok.mpr ?_, rfl, rfl, rfl, rfl⟩
    rw [if_pos hadded]
    refine ends_then (ends_command henv (by rw [if_pos (hconfigured hadded)])) ?_
    exact ends_then (ends_command henv rfl) (ends_command henv rfl)
  · refine ⟨s, ends_read_ok.mpr ?_, rfl, rfl, by simpa using hadded, ?_⟩
    · rw [if_neg hadded]
      exact ends_pure.mpr ⟨rfl, rfl⟩
    · rw [← Bool.not_eq_true]
      exact fun h => hadded (hinstalled h)

theorem Sound.configured (h : Sound s) (hadded : s.added = true) : s.configured = true := by
  obtain ⟨tree, htree, _, hconf⟩ := h.added hadded
  simpa [Host.configured, htree] using hconf

theorem remove_restores (henv : Able env) (hs : Kept s)
    (hidle : s.loaded = none ∨ s.useCount = 0) :
    ∃ t, Ends (removeMlnxNfsrdma env) s (.ok ()) t ∧ Untouched t ∧ t.loaded = none := by
  have hunload := ends_unloadModule henv hidle
  have hkept : Kept { s with loaded := none } := ofFiles_kept s _ rfl rfl rfl hs
  obtain ⟨u, hu, hloaded, hsource, hunlisted⟩ :=
    ends_dkmsRemove henv hkept.1.configured hkept.1.installed
  have hkeptu : Kept u := hkept.of_files hsource hunlisted.sound
  refine ⟨({ u with source := none } : Host).depmod, ?_, ⟨rfl, hunlisted.1, hunlisted.2, ?_⟩,
    hloaded⟩
  · refine ends_then (ends_check (by simp [henv.version])) (ends_then hunload (ends_then hu ?_))
    exact ends_then (ends_removeSource henv hkeptu) (ends_command henv rfl)
  · simp [Host.depmod, hunlisted.2]

/-- The marker is looked for last: somebody else's tree is left alone, but their module is
unloaded and gone from DKMS by then. -/
theorem remove_strips (henv : Able env) {tree : Tree} (hs : s.source = some tree)
    (hmarked : Tree.marked tree = false) (hconf : Tree.has tree "dkms.conf" = true)
    (hinstalled : s.installed = true → s.added = true)
    (hidle : s.loaded = none ∨ s.useCount = 0) :
    ∃ t, Ends (removeMlnxNfsrdma env) s
        (.error (.refused (env.sourceDir ++ " lacks the Phase 2 marker"))) t ∧
      t.loaded = none ∧ t.source = some tree ∧ Unlisted t := by
  have hunload := ends_unloadModule henv hidle
  obtain ⟨t, ht, hloaded, hsource, hunlisted⟩ := ends_dkmsRemove (s := { s with loaded := none })
    henv (fun _ => by simpa [Host.configured, hs] using hconf) hinstalled
  have htree : t.source = some tree := hsource.trans hs
  have hrefused : Ends (removeSource env) t
      (.error (.refused (env.sourceDir ++ " lacks the Phase 2 marker"))) t := by
    refine ends_bind_error.mpr (Or.inr ⟨some tree, t, ends_read _ |>.mpr ⟨?_, rfl⟩, ?_⟩)
    · rw [htree]
    · exact ends_seq_error.mpr (Or.inl (ends_dieUnless_error.mpr ⟨hmarked, rfl, rfl⟩))
  refine ⟨t, ?_, hloaded, htree, hunlisted⟩
  refine ends_seq_error.mpr (Or.inr ⟨s, ends_check (by simp [henv.version]), ?_⟩)
  refine ends_seq_error.mpr (Or.inr ⟨_, hunload, ends_seq_error.mpr (Or.inr ⟨t, ht, ?_⟩)⟩)
  exact ends_seq_error.mpr (Or.inl hrefused)

end Restore

section Theorems

variable {env : Env} {s₀ s t : Host} {allowed : Env → List Command → Prop}

/-- Nothing fails and nothing interferes. -/
def plainEnv : Env where
  ofedVersion := "24.10.OFED.24.10.2.1.8.1"
  moduleVersion := "3.4"
  kernelVersion := "6.11.0-26-generic"
  kernelPath := "/lib/modules/6.11.0-26-generic/kernel/net/sunrpc/xprtrdma/rpcrdma.ko.zst"
  sourceRoot := true
  symvers := true
  kernelConfig := true
  gpuDirectStorage := true
  patchFile := true
  buildOnly := false
  upstream := [⟨"_makefile_", false⟩, ⟨"dkms.conf", false⟩, ⟨"mlnx-nfsrdma_spec_", false⟩,
    ⟨"svc_rdma.c", false⟩]
  produced := fun _ => true
  vermagic := fun _ => "6.11.0-26-generic SMP preempt mod_unload modversions "
  nvfsHooks := true
  sameFileSystem := false
  order := id
  order_perm := fun _ => List.Perm.refl _
  builds := fun _ => true
  succeeds := fun _ => true
  meanwhile := fun _ => []

theorem plainEnv_able : Able plainEnv := ⟨rfl, fun _ => rfl, fun _ => rfl⟩

def cleanHost : Host := ⟨true, none, 0, some .kernel, none, false, false⟩

theorem cleanHost_untouched : Untouched cleanHost := ⟨rfl, rfl, rfl, rfl⟩

def installedHost : Host := (buildInstallMlnxNfsrdma plainEnv cleanHost).state

/-- Cut after the first file of the tree has been copied. -/
def tornHost : Host := { cleanHost with source := some [⟨"_makefile_", false⟩] }

def tornCommands : List Command :=
  [.copyFile ⟨"_makefile_", false⟩, .mkdirSource, .stage .makeClean, .stage .nm, .stage .make,
    .stage .makeClean, .stage .installMarker, .stage .patch, .stage .cpSpec, .stage .cpMakefile,
    .stage .cpSource, .stage .mktemp]

/-- The module can be removed again exactly as long as the tree, if there is one, is marked. -/
theorem module_restorable_iff (hs₀ : Untouched s₀) (h : ModuleReaches (fun _ _ => True) s₀ s) :
    (∃ t, ModuleReaches (fun _ _ => True) s t ∧ Untouched t) ↔ ¬ Unmarked s := by
  constructor
  · rintro ⟨t, ht, huntouched⟩ ⟨tree, htree, hmarked⟩
    have hstays := unmarked_reaches hmarked htree ht
    rw [huntouched.1] at hstays
    contradiction
  · intro hu
    have hkept := (keptOrUnmarked_reaches (Or.inr hs₀.kept) h).resolve_left hu
    have houtage : Kept s.outage := ofFiles_kept s _ rfl rfl rfl hkept
    obtain ⟨t, hends, huntouched, _⟩ := remove_restores plainEnv_able houtage (Or.inl rfl)
    obtain ⟨done, hstops⟩ := hends.stops
    refine ⟨t, ?_, huntouched⟩
    exact (Relation.ReflTransGen.single (.outage rfl)).tail (.remove plainEnv done trivial hstops)

theorem tornHost_for_good :
    (∃ t, ModuleReaches (fun _ _ => True) tornHost t ∧ Untouched t) ↔ ¬ Unmarked tornHost := by
  have hstops : Stops (buildInstallMlnxNfsrdma plainEnv) cleanHost tornCommands tornHost := by
    decide +kernel
  exact module_restorable_iff cleanHost_untouched (.single (.install plainEnv _ trivial hstops))

/-- As long as no run is cut while it copies or deletes the tree, `remove-mlnx-nfsrdma.sh`
on an idle module gives everything back. -/
theorem intact_remove_restores (hs₀ : Untouched s₀)
    (h : ModuleReaches (fun _ done => ¬ Torn done) s₀ s) (henv : Able env)
    (hidle : s.loaded = none ∨ s.useCount = 0) :
    ∃ t, Ends (removeMlnxNfsrdma env) s (.ok ()) t ∧ Untouched t ∧ t.loaded = none :=
  remove_restores henv (kept_reaches hs₀.kept h) hidle

end Theorems

section Loading

variable {env : Env} {s s₀ t : Host} {P Q : Host → Prop} {f : Host → Option Host} {c : Command}

/-- Nobody else touches the module during a run. -/
def Alone (env : Env) : Prop := ∀ c, env.meanwhile c = []

/-- While the kernel's own module is loaded the index does not name the other one. -/
def Honest (s : Host) : Prop := s.loaded = some .kernel → s.found ≠ some .dkms

instance (s : Host) : Decidable (Honest s) :=
  inferInstanceAs (Decidable (s.loaded = some .kernel → s.found ≠ some .dkms))

def Unloaded (s : Host) : Prop := s.loaded = none

/-- What is loaded is what the index names. -/
def AsFound (s : Host) : Prop := s.loaded.isSome ∧ s.found = s.loaded

def DkmsLoaded (s : Host) : Prop := s.loaded = some .dkms ∧ s.found = some .dkms

theorem Unloaded.honest (h : Unloaded s) : Honest s := by
  intro hloaded
  rw [h] at hloaded
  contradiction

theorem AsFound.honest (h : AsFound s) : Honest s := by
  intro hloaded
  rw [h.2, hloaded]
  decide

theorem DkmsLoaded.honest (h : DkmsLoaded s) : Honest s := by
  intro hloaded
  rw [h.1] at hloaded
  contradiction

theorem Alone.undisturbed (henv : Alone env) (P : Host → Prop) : Undisturbed env P := by
  intro c s hs
  rwa [henv c]

theorem modprobe_asFound (hs : Unloaded s) (h : s.modprobe = some t) : AsFound t := by
  have hloaded : s.loaded = none := hs
  unfold Host.modprobe Host.probed at h
  rw [hloaded] at h
  cases hfound : s.found with
  | none => simp [hfound] at h
  | some file =>
    cases file with
    | kernel =>
      simp only [hfound, Option.some.injEq] at h
      subst h
      exact ⟨rfl, rfl⟩
    | dkms =>
      by_cases hi : s.installed = true
      · simp only [hfound, hi, if_true, Option.some.injEq] at h
        subst h
        exact ⟨rfl, rfl⟩
      · simp [hfound, hi] at h

theorem honest_apply (o : Other) (hs : Honest s) : Honest (o.apply s) := by
  cases o with
  | load =>
    cases hloaded : s.loaded with
    | none =>
      cases hm : s.modprobe with
      | none => simpa [Other.apply, hm] using hs
      | some t =>
        have ht := (modprobe_asFound hloaded hm).honest
        simpa [Other.apply, hm] using ht
    | some file =>
      have hm : s.modprobe = some s := by simp [Host.modprobe, hloaded]
      simpa [Other.apply, hm] using hs
  | unload =>
    by_cases hu : s.useCount = 0
    · have ht : Unloaded (Other.unload.apply s) := by simp [Unloaded, Other.apply, Host.unload, hu]
      exact ht.honest
    · simpa [Other.apply, Host.unload, hu] using hs
  | users count =>
    by_cases hl : s.loaded.isSome = true
    · simpa [Other.apply, hl, Honest] using hs
    · simpa [Other.apply, hl] using hs

theorem honest_outage (s : Host) : Honest s.outage := by
  have ht : Unloaded s.outage := rfl
  exact ht.honest

/-- A command that has no part in loading. -/
theorem unloaded_command (henv : Alone env) (hf : ∀ s t, f s = some t → t.loaded = s.loaded) :
    Bounded (fun _ => Honest) Unloaded (command env c f) Unloaded :=
  bounded_command (henv.undisturbed _) (fun _ _ hs => hs.honest)
    fun s t hs ht => (hf s t ht).trans hs

theorem unloaded_moveStage (henv : Alone env) :
    Bounded (fun _ => Honest) Unloaded (moveStage env) Unloaded := by
  have hJ (_ : List Command) (s : Host) (h : Unloaded s) : Honest s := h.honest
  refine triple_seq (R := fun _ s => Unloaded s)
    (bounded_stageStep (henv.undisturbed _) hJ _) (triple_ite (fun _ => ?_) fun _ => ?_)
  · exact unloaded_command henv fun s t ht => Option.some.inj ht ▸ rfl
  · refine triple_seq (R := fun _ s => Unloaded s) ?_ (bounded_each (fun file => ?_) _)
    · exact unloaded_command henv fun s t ht => Option.some.inj ht ▸ rfl
    · exact unloaded_command henv fun s t ht => Option.some.inj ht ▸ rfl

theorem loaded_of_guard {p : Prop} [Decidable p] {u : Host}
    (h : (if p then some u else none) = some t) (hu : u.loaded = s.loaded) :
    t.loaded = s.loaded := by
  by_cases hp : p
  · rw [if_pos hp, Option.some.injEq] at h
    exact h ▸ hu
  · simp [hp] at h

theorem loads_installModule (henv : Alone env) :
    Bounded (fun _ => Honest) Unloaded (installModule env) DkmsLoaded := by
  have hJ (_ : List Command) (s : Host) (h : Unloaded s) : Honest s := h.honest
  have hJ' (_ : List Command) (s : Host) (h : DkmsLoaded s) : Honest s := h.honest
  have hP := henv.undisturbed DkmsLoaded
  refine triple_seq (R := fun _ s => Unloaded s) ?_ ?_
  · refine triple_reading fun added =>
      triple_ite (fun _ => triple_pure fun _ _ hs => hs.1) fun _ => ?_
    exact Triple.mono (unloaded_command henv fun s t ht => loaded_of_guard ht rfl)
      (fun _ _ hs => hs.1) fun _ _ _ hs => hs
  refine triple_seq (R := fun _ s => Unloaded s) ?_ ?_
  · exact unloaded_command henv fun s t ht => loaded_of_guard ht rfl
  refine triple_seq (R := fun _ s => Unloaded s) ?_ ?_
  · exact unloaded_command henv fun s t ht => Option.some.inj ht ▸ rfl
  refine triple_seq (R := fun _ s => Unloaded s) ?_ ?_
  · exact unloaded_command henv fun s t ht => Option.some.inj ht ▸ rfl
  refine triple_seq (R := fun _ s => Unloaded s) ?_ ?_
  · exact unloaded_command henv fun s t ht => Option.some.inj ht ▸ rfl
  refine triple_seq (R := fun _ s => AsFound s) ?_ ?_
  · exact bounded_command (henv.undisturbed _) hJ fun s t hs ht => modprobe_asFound hs ht
  refine triple_seq (R := fun _ s => DkmsLoaded s) (triple_reading fun found => ?_) ?_
  · cases found with
    | none => exact triple_die fun _ s hs => hs.1.honest
    | some file =>
      cases file with
      | kernel => exact triple_die fun _ s hs => hs.1.honest
      | dkms => exact triple_pure fun _ s hs => ⟨hs.1.2.symm.trans hs.2, hs.2⟩
  refine triple_seq (R := fun _ s => DkmsLoaded s) (bounded_report hP hJ' _) ?_
  refine triple_seq (R := fun _ s => DkmsLoaded s) (bounded_report hP hJ' _) ?_
  refine triple_seq (R := fun _ s => DkmsLoaded s)
    (bounded_each (fun module => bounded_report hP hJ' _) _) (triple_pure fun _ _ hs => hs)

theorem honest_install (henv : Alone env) :
    Triple (fun _ _ s => Honest s) (fun _ _ s => Honest s) (fun _ s => Honest s)
      (buildInstallMlnxNfsrdma env)
      fun outcome _ s => Honest s ∧ (outcome ≠ .builtOnly → DkmsLoaded s) := by
  have hJ (_ : List Command) (s : Host) (h : Honest s) : Honest s := h
  have hJ' (_ : List Command) (s : Host) (h : Unloaded s) : Honest s := h.honest
  have hP := henv.undisturbed Unloaded
  have hinstall : Triple (fun _ _ s => Honest s) (fun _ _ s => Honest s) (fun _ s => Unloaded s)
      (installModule env)
      fun outcome _ s => Honest s ∧ (outcome ≠ Outcome.builtOnly → DkmsLoaded s) :=
    (loads_installModule henv).mono (fun _ _ hs => hs) fun _ _ _ hs => ⟨hs.honest, fun _ => hs⟩
  refine triple_seq (R := fun _ s => Honest s) (bounded_gates hJ) (triple_reading fun loaded => ?_)
  refine triple_ite (fun hloaded => triple_reading fun found => ?_) fun hloaded =>
    triple_reading fun source => ?_
  · -- the kernel's own module is not the one that the index names
    refine triple_seq (R := fun _ s => DkmsLoaded s)
      (triple_dieUnless (fun _ s hs hfound => ?_) ?_) ?_
    · obtain ⟨⟨hhonest, hread⟩, hname⟩ := hs
      have hdkms : s.found = some .dkms := hname.trans (by simpa using hfound)
      rw [← hread] at hloaded
      obtain ⟨file, hfile⟩ := Option.isSome_iff_exists.mp hloaded
      cases file with
      | kernel => exact absurd hdkms (hhonest hfile)
      | dkms => exact ⟨hfile, hdkms⟩
    · exact fun _ _ hs _ => hs.1.1
    · exact triple_pure fun _ _ hs => ⟨hs.honest, fun _ => hs⟩
  have hstart (done : List Command) (s : Host)
      (h : (Honest s ∧ s.loaded = loaded) ∧ s.source = source) : Unloaded s := by
    have hnone : loaded = none := by simpa using hloaded
    exact h.1.2.trans hnone
  cases source with
  | none =>
    refine Triple.mono (triple_seq (R := fun _ s => Unloaded s) (bounded_buildStage hP hJ')
      (triple_ite (fun _ => ?_) fun _ => ?_)) hstart fun _ _ _ hs => hs
    · refine triple_seq (R := fun _ s => Unloaded s) (bounded_each (fun module => ?_) _) ?_
      · exact triple_seq (R := fun _ s => Unloaded s) (bounded_report hP hJ' _)
          (bounded_report hP hJ' _)
      · exact triple_pure fun _ _ hs => ⟨hs.honest, fun ho => absurd rfl ho⟩
    · exact triple_seq (R := fun _ s => Unloaded s) (unloaded_moveStage henv) hinstall
  | some tree =>
    refine Triple.mono (triple_seq (R := fun _ s => Unloaded s) ?_ hinstall) hstart
      fun _ _ _ hs => hs
    exact triple_seq (R := fun _ s => Unloaded s) (bounded_check hJ' _ _) (bounded_check hJ' _ _)

theorem unloaded_unloadModule (henv : Alone env) :
    Bounded (fun _ => Honest) Honest (unloadModule env) Unloaded := by
  have hJ (_ : List Command) (s : Host) (h : Honest s) : Honest s := h
  refine triple_reading fun loaded => triple_ite (fun _ => triple_reading fun count => ?_)
    fun hloaded => triple_pure fun _ s hs => ?_
  · refine Triple.mono (triple_seq (R := fun _ s => Honest s) (bounded_check hJ _ _)
      (bounded_command (henv.undisturbed _) hJ fun s t hs ht => ?_)) (fun _ _ hs => hs.1.1)
      fun _ _ _ hs => hs
    by_cases hu : s.useCount = 0
    · rw [Host.unload, if_pos hu, Option.some.injEq] at ht
      subst ht
      exact rfl
    · simp [Host.unload, hu] at ht
  · have hnone : loaded = none := by simpa using hloaded
    exact hs.2.trans hnone

theorem honest_remove (henv : Alone env) :
    Bounded (fun _ => Honest) Honest (removeMlnxNfsrdma env) Honest := by
  have hJ (_ : List Command) (s : Host) (h : Honest s) : Honest s := h
  have hJ' (_ : List Command) (s : Host) (h : Unloaded s) : Honest s := h.honest
  refine triple_seq (R := fun _ s => Honest s) (bounded_check hJ _ _) ?_
  refine triple_seq (R := fun _ s => Unloaded s) (unloaded_unloadModule henv) ?_
  refine triple_seq (R := fun _ s => Unloaded s) ?_ (triple_seq (R := fun _ s => Unloaded s) ?_ ?_)
  · refine triple_reading fun added =>
      triple_ite (fun _ => ?_) fun _ => triple_pure fun _ _ hs => hs.1
    refine Triple.mono (triple_seq (R := fun _ s => Unloaded s) ?_
      (triple_seq (R := fun _ s => Unloaded s) ?_ ?_)) (fun _ _ hs => hs.1) fun _ _ _ hs => hs
    · exact unloaded_command henv fun s t ht => loaded_of_guard ht rfl
    · exact unloaded_command henv fun s t ht => Option.some.inj ht ▸ rfl
    · exact unloaded_command henv fun s t ht => Option.some.inj ht ▸ rfl
  · refine triple_reading fun source => ?_
    cases source with
    | none => exact triple_pure fun _ _ hs => hs.1
    | some tree =>
      refine Triple.mono (triple_seq (R := fun _ s => Unloaded s) (bounded_check hJ' _ _)
        (triple_seq (R := fun _ s => Unloaded s) (bounded_each (fun file => ?_) _) ?_))
        (fun _ _ hs => hs.1) fun _ _ _ hs => hs
      · exact unloaded_command henv fun s t ht => Option.some.inj ht ▸ rfl
      · exact unloaded_command henv fun s t ht => loaded_of_guard ht rfl
  · refine Triple.mono (unloaded_command henv fun s t ht => Option.some.inj ht ▸ rfl)
      (fun _ _ hs => hs) fun _ _ _ hs => hs.honest

theorem honest_reaches (hs : Honest s₀) (h : ModuleReaches (fun env _ => Alone env) s₀ s) :
    Honest s := by
  induction h with
  | refl => exact hs
  | tail _ hstep ih =>
    cases hstep with
    | install env done henv hstops =>
      exact Triple.stops (honest_install henv) ih (fun _ _ _ hc => hc) (fun _ _ _ hq => hq.1)
        (fun _ _ _ he => he) hstops
    | remove env done henv hstops =>
      exact bounded_stops (honest_remove henv) (fun _ _ h => h) ih hstops
    | other o h => exact h ▸ honest_apply o ih
    | outage h => exact h ▸ honest_outage _

/-- An installation that ends well has loaded the module it built, or found it loaded. -/
theorem install_means_loaded (hs₀ : Honest s₀) (h : ModuleReaches (fun env _ => Alone env) s₀ s)
    (henv : Alone env) {outcome : Outcome}
    (hends : Ends (buildInstallMlnxNfsrdma env) s (.ok outcome) t) (hbuilt : outcome ≠ .builtOnly) :
    t.loaded = some .dkms ∧ t.found = some .dkms := by
  obtain ⟨_, _, ht⟩ := Triple.ends_ok (honest_install henv) (honest_reaches hs₀ h) hends
  exact ht hbuilt

theorem installedHost_loaded :
    installedHost.loaded = some .dkms ∧ installedHost.found = some .dkms := by
  have hclean : Honest cleanHost := by decide
  have hends : Ends (buildInstallMlnxNfsrdma plainEnv) cleanHost (.ok .installed) installedHost :=
    ⟨by decide +kernel, rfl⟩
  exact install_means_loaded hclean .refl (fun _ => rfl) hends (by decide)

/-- `modinfo` names the file that would be loaded. When another program loads the kernel's own
module during the run, the script takes the one for the other. -/
example :
    let env := { plainEnv with meanwhile := fun c => if c = .dkmsInstall then [.load] else [] }
    (buildInstallMlnxNfsrdma env cleanHost).result = .ok .installed ∧
      (buildInstallMlnxNfsrdma env cleanHost).state.loaded = some .kernel := by
  decide +kernel

end Loading

end PdDisaggregation.Nfsrdma
