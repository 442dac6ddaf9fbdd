import PdDisaggregation.NfsrdmaModule

/-! What runs of the two scripts can make of the module's source tree, and when an installation
that reports success has loaded the module. -/

namespace PdDisaggregation.Nfsrdma

open Script

/-- A tree that neither script will touch. -/
def Unmarked (s : Host) : Prop := ∃ tree, s.source = some tree ∧ Tree.marked tree = false

/-- DKMS lists only a marked tree that it can read, and only what it lists is installed. -/
structure Sound (s : Host) : Prop where
  added : s.added = true → ∃ tree, s.source = some tree ∧ Tree.marked tree = true ∧
    Tree.has tree "dkms.conf" = true
  installed : s.installed = true → s.added = true

def Kept (s : Host) : Prop := Sound s ∧ ¬ Unmarked s

/-- The commands between which the tree is only partly there. -/
def Command.tears : Command → Bool
  | .mkdirSource | .copyFile _ | .unlink _ | .rmdirSource => true
  | _ => false

/-- The last command was one of these. -/
def Torn (done : List Command) : Prop := done.head?.map Command.tears = some true

instance (done : List Command) : Decidable (Torn done) :=
  inferInstanceAs (Decidable (done.head?.map Command.tears = some true))

def Accounted (done : List Command) (s : Host) : Prop := Sound s ∧ (Unmarked s → Torn done)

/-- As it was before either script had run. -/
def Untouched (s : Host) : Prop :=
  s.source = none ∧ s.added = false ∧ s.installed = false ∧
    s.found = if s.kernelModule then some .kernel else none

section Others

variable {s : Host} {o : Other}

theorem modprobe_files : (s.modprobe.getD s).source = s.source ∧
    (s.modprobe.getD s).added = s.added ∧ (s.modprobe.getD s).installed = s.installed := by
  unfold Host.modprobe
  cases s.loaded with
  | some file => exact ⟨rfl, rfl, rfl⟩
  | none =>
    cases s.probed with
    | some file => exact ⟨rfl, rfl, rfl⟩
    | none => exact ⟨rfl, rfl, rfl⟩

/-- Other programs leave the tree and DKMS alone. -/
theorem apply_files : (o.apply s).source = s.source ∧ (o.apply s).added = s.added ∧
    (o.apply s).installed = s.installed := by
  cases o with
  | load => exact modprobe_files
  | unload =>
    by_cases hu : s.useCount = 0
    · simp [Other.apply, Host.unload, hu]
    · simp [Other.apply, Host.unload, hu]
  | users count =>
    by_cases hl : s.loaded.isSome = true
    · simp [Other.apply, hl]
    · simp [Other.apply, hl]

theorem after_files (others : List Other) : (s.after others).source = s.source ∧
    (s.after others).added = s.added ∧ (s.after others).installed = s.installed := by
  induction others generalizing s with
  | nil => exact ⟨rfl, rfl, rfl⟩
  | cons o others ih =>
    have hh : (s.after (o :: others)) = (o.apply s).after others := rfl
    have ho := apply_files (s := s) (o := o)
    rw [hh, ih.1, ih.2.1, ih.2.2]
    exact ho

/-- A property of the tree and of DKMS. -/
def OfFiles (P : Host → Prop) : Prop :=
  ∀ s t : Host, t.source = s.source → t.added = s.added → t.installed = s.installed → P s → P t

theorem ofFiles_sound : OfFiles Sound := by
  intro s t hsource hadded hinstalled h
  constructor
  · rw [hadded, hsource]
    exact h.added
  · rw [hinstalled, hadded]
    exact h.installed

theorem ofFiles_unmarked : OfFiles Unmarked := by
  intro s t hsource _ _ ⟨tree, htree, hmarked⟩
  exact ⟨tree, hsource.trans htree, hmarked⟩

theorem ofFiles_kept : OfFiles Kept := by
  intro s t hsource hadded hinstalled h
  refine ⟨ofFiles_sound s t hsource hadded hinstalled h.1, fun hu => h.2 ?_⟩
  exact ofFiles_unmarked t s hsource.symm hadded.symm hinstalled.symm hu

theorem OfFiles.after {P : Host → Prop} (hP : OfFiles P) {others : List Other} (h : P s) :
    P (s.after others) := by
  obtain ⟨hsource, hadded, hinstalled⟩ := after_files (s := s) others
  exact hP s _ hsource hadded hinstalled h

end Others

/-- `P` survives what other programs do during the run. -/
def Undisturbed (env : Env) (P : Host → Prop) : Prop :=
  ∀ c s, P s → P (s.after (env.meanwhile c))

theorem OfFiles.undisturbed {P : Host → Prop} (hP : OfFiles P) (env : Env) : Undisturbed env P :=
  fun _ _ hs => hP.after hs

/-- From `P` the script ends in `Q`, and `J` holds wherever it can be cut. -/
abbrev Bounded {α : Type} (J : List Command → Host → Prop) (P : Host → Prop) (m : ModuleScript α)
    (Q : Host → Prop) : Prop :=
  Triple (fun done _ s => J done s) (fun done _ s => J done s) (fun _ s => P s) m fun _ _ s => Q s

section Steps

variable {env : Env} {J : List Command → Host → Prop} {P Q : Host → Prop}
  {f : Host → Option Host} {c : Command}

theorem triple_command {C : List Command → Command → Host → Prop}
    {E : List Command → Failure → Host → Prop} {P Q : List Command → Host → Prop}
    (hC : ∀ done s, P done s → C done c s)
    (hQ : ∀ done s t, P done s → f (s.after (env.meanwhile c)) = some t → Q (c :: done) t)
    (hE : ∀ done s, P done s → E (c :: done) (.failed c) s) :
    Triple C E P (command env c f) fun _ => Q := by
  refine triple_attempt hC (fun done s t hs ht => ?_) fun done s e hs he => ?_
  · by_cases henv : env.succeeds c = true
    · simp only [henv, if_true] at ht
      cases hf : f (s.after (env.meanwhile c)) with
      | none => simp [hf] at ht
      | some u =>
        rw [hf, Except.ok.injEq] at ht
        exact hQ done s t hs (ht ▸ hf)
    · simp [henv] at ht
  · cases hf : (if env.succeeds c = true then f (s.after (env.meanwhile c)) else none) with
    | none =>
      simp only [hf, Except.error.injEq] at he
      exact he ▸ hE done s hs
    | some u => simp [hf] at he

theorem bounded_command (hP : Undisturbed env P) (hJ : ∀ done s, P s → J done s)
    (hf : ∀ s t, P s → f s = some t → Q t) : Bounded J P (command env c f) Q :=
  triple_command (fun done s hs => hJ done s hs) (fun _ s t hs ht => hf _ t (hP c s hs) ht)
    fun done s hs => hJ (c :: done) s hs

theorem bounded_check (hJ : ∀ done s, P s → J done s) (test : Bool) (message : String) :
    Bounded J P (check test message) P :=
  triple_dieUnless (fun _ _ hs _ => hs) fun done s hs _ => hJ done s hs

theorem bounded_stageStep (hP : Undisturbed env P) (hJ : ∀ done s, P s → J done s)
    (step : StageStep) : Bounded J P (stageStep env step) P := by
  refine bounded_command hP hJ fun s t hs ht => ?_
  cases hn : step.needs with
  | none =>
    simp only [hn, Option.some.injEq] at ht
    exact ht ▸ hs
  | some file =>
    by_cases hfile : Tree.has env.upstream file = true
    · simp only [hn, hfile, if_true, Option.some.injEq] at ht
      exact ht ▸ hs
    · simp [hn, hfile] at ht

theorem bounded_report (hP : Undisturbed env P) (hJ : ∀ done s, P s → J done s) (r : Report) :
    Bounded J P (report env r) P :=
  bounded_command hP hJ fun _ _ hs ht => Option.some.inj ht ▸ hs

theorem bounded_each {α : Type} {m : α → ModuleScript Unit} (h : ∀ x, Bounded J P (m x) P)
    (xs : List α) : Bounded J P (each xs m) P :=
  triple_each (I := fun _ _ s => P s) (fun x _ => h x) xs

theorem bounded_gates (hJ : ∀ done s, P s → J done s) : Bounded J P (gates env) P := by
  refine triple_seq (bounded_check hJ _ _) (triple_seq (bounded_check hJ _ _) ?_)
  refine triple_seq (bounded_check hJ _ _) (triple_seq (bounded_check hJ _ _) ?_)
  refine triple_seq (bounded_check hJ _ _) (triple_seq (bounded_check hJ _ _) ?_)
  exact triple_seq (bounded_check hJ _ _) (bounded_check hJ _ _)

theorem bounded_buildStage (hP : Undisturbed env P) (hJ : ∀ done s, P s → J done s) :
    Bounded J P (buildStage env) P := by
  refine triple_seq (bounded_each (fun step => bounded_stageStep hP hJ step) _) ?_
  refine triple_seq (bounded_each (fun module => ?_) _) ?_
  · exact triple_seq (bounded_check hJ _ _) (bounded_check hJ _ _)
  · exact triple_seq (bounded_stageStep hP hJ _) (bounded_check hJ _ _)

end Steps

section Kept

variable {env : Env} {s t : Host} {done : List Command}

/-- Nothing of the module is there but perhaps the tree. -/
def Unlisted (s : Host) : Prop := s.added = false ∧ s.installed = false

def Absent (s : Host) : Prop := s.source = none ∧ Unlisted s

def Listed (s : Host) : Prop := Kept s ∧ s.added = true

def Uninstalled (s : Host) : Prop := Kept s ∧ s.installed = false

def Removed (s : Host) : Prop := Kept s ∧ Unlisted s

theorem Kept.accounted (done : List Command) (h : Kept s) : Accounted done s :=
  ⟨h.1, fun hu => absurd hu h.2⟩

theorem Unlisted.sound (h : Unlisted s) : Sound s := by
  constructor
  · intro hadded
    rw [h.1] at hadded
    contradiction
  · intro hinstalled
    rw [h.2] at hinstalled
    contradiction

theorem unmarked_none (h : s.source = none) : ¬ Unmarked s := by
  intro ⟨tree, htree, _⟩
  rw [h] at htree
  contradiction

theorem Absent.kept (h : Absent s) : Kept s := ⟨h.2.sound, unmarked_none h.1⟩

theorem Kept.absent (h : Kept s) (hsource : s.source = none) : Absent s := by
  have hadded : s.added = false := by
    rw [← Bool.not_eq_true]
    intro hadded
    obtain ⟨tree, htree, _⟩ := h.1.added hadded
    rw [hsource] at htree
    contradiction
  refine ⟨hsource, hadded, ?_⟩
  rw [← Bool.not_eq_true]
  intro hinstalled
  rw [h.1.installed hinstalled] at hadded
  contradiction

theorem Kept.marked (h : Kept s) {tree : Tree} (hsource : s.source = some tree) :
    Tree.marked tree = true := by
  by_cases hm : Tree.marked tree = true
  · exact hm
  · exact absurd ⟨tree, hsource, by simpa using hm⟩ h.2

theorem Kept.of_files (h : Kept s) (hsource : t.source = s.source) (hsound : Sound t) : Kept t := by
  refine ⟨hsound, fun ⟨tree, htree, hmarked⟩ => h.2 ⟨tree, ?_, hmarked⟩⟩
  exact hsource.symm.trans htree

theorem ofFiles_unlisted : OfFiles Unlisted := by
  intro s t _ hadded hinstalled h
  exact ⟨hadded.trans h.1, hinstalled.trans h.2⟩

theorem ofFiles_absent : OfFiles Absent := by
  intro s t hsource hadded hinstalled h
  exact ⟨hsource.trans h.1, ofFiles_unlisted s t hsource hadded hinstalled h.2⟩

theorem ofFiles_listed : OfFiles Listed := by
  intro s t hsource hadded hinstalled h
  exact ⟨ofFiles_kept s t hsource hadded hinstalled h.1, hadded.trans h.2⟩

theorem ofFiles_uninstalled : OfFiles Uninstalled := by
  intro s t hsource hadded hinstalled h
  exact ⟨ofFiles_kept s t hsource hadded hinstalled h.1, hinstalled.trans h.2⟩

theorem depmod_listed (h : Listed s) : Listed s.depmod := ofFiles_listed s _ rfl rfl rfl h

theorem modprobe_listed (h : Listed s) (ht : s.modprobe = some t) : Listed t := by
  obtain ⟨hsource, hadded, hinstalled⟩ := modprobe_files (s := s)
  rw [ht, Option.getD_some] at hsource hadded hinstalled
  exact ofFiles_listed s t hsource hadded hinstalled h

theorem staged_marked (env : Env) : Tree.marked env.staged = true := by
  simp [Tree.marked, Tree.has, Env.staged]

theorem ordered_marked (env : Env) : Tree.marked (env.order env.staged) = true := by
  have hmarked := staged_marked env
  rw [Tree.marked, Tree.has, List.any_eq_true] at hmarked ⊢
  obtain ⟨f, hf, hname⟩ := hmarked
  exact ⟨f, (env.order_perm _).mem_iff.mpr hf, hname⟩

/-- What is copied and what is still to come make up the tree. -/
def Copying (env : Env) (files : Tree) (done : List Command) (s : Host) : Prop :=
  Unlisted s ∧ Torn done ∧ ∃ copied, s.source = some copied ∧ copied ++ files = env.order env.staged

theorem Copying.accounted {files : Tree} (h : Copying env files done s) : Accounted done s :=
  ⟨h.1.sound, fun _ => h.2.1⟩

theorem triple_copyFile (env : Env) (file : SourceFile) (files : Tree) :
    Triple (fun done _ s => Accounted done s) (fun done _ s => Accounted done s)
      (Copying env (file :: files)) (copyFile env file) fun _ => Copying env files := by
  refine triple_command (fun done s hs => hs.accounted) (fun done s t hs ht => ?_)
    fun done s hs => ⟨hs.1.sound, fun _ => rfl⟩
  obtain ⟨hunlisted, _, copied, hsource, htree⟩ := hs
  have hafter := after_files (s := s) (env.meanwhile (.copyFile file))
  obtain rfl := Option.some.inj ht
  refine ⟨ofFiles_unlisted.after hunlisted, rfl, copied ++ [file], ?_, ?_⟩
  · simp [hafter.1, hsource]
  · simpa using htree

theorem bounded_copyStage : Bounded Accounted Absent (copyStage env) Kept := by
  refine triple_seq (R := Copying env (env.order env.staged)) ?_ ?_
  · refine triple_command (fun done s hs => hs.kept.accounted done) (fun done s t hs ht => ?_)
      fun done s hs => hs.kept.accounted _
    have hafter : Absent (s.after (env.meanwhile .mkdirSource)) := ofFiles_absent.after hs
    obtain rfl := Option.some.inj ht
    exact ⟨hafter.2, rfl, [], rfl, rfl⟩
  · refine (triple_each (triple_copyFile env) _).mono (fun _ _ hs => hs) fun _ done s hs => ?_
    obtain ⟨hunlisted, _, copied, hsource, htree⟩ := hs
    refine ⟨hunlisted.sound, fun ⟨tree, hother, hmarked⟩ => ?_⟩
    obtain rfl := Option.some.inj (hsource.symm.trans hother)
    rw [← List.append_nil copied, htree, ordered_marked] at hmarked
    contradiction

theorem bounded_moveStage : Bounded Accounted Absent (moveStage env) Kept := by
  have hJ (done : List Command) (s : Host) (h : Absent s) : Accounted done s :=
    h.kept.accounted done
  have hP := ofFiles_absent.undisturbed env
  refine triple_seq (bounded_stageStep hP hJ _) (triple_ite (fun _ => ?_) fun _ => ?_)
  · refine bounded_command hP hJ fun s t hs ht => ?_
    obtain rfl := Option.some.inj ht
    have hunlisted : Unlisted { s with source := some env.staged } := hs.2
    refine ⟨hunlisted.sound, fun ⟨tree, htree, hmarked⟩ => ?_⟩
    obtain rfl := Option.some.inj htree
    rw [staged_marked] at hmarked
    contradiction
  · exact bounded_copyStage

theorem bounded_dkmsAdd : Bounded Accounted Kept (dkmsAdd env) Listed := by
  refine triple_reading fun added => triple_ite (fun hadded => ?_) fun _ => ?_
  · exact triple_pure fun _ _ hs => ⟨hs.1, hs.2.trans hadded⟩
  · have hP := ofFiles_kept.undisturbed env
    refine Triple.mono (bounded_command hP (fun done s h => h.accounted done)
      (fun s t hs ht => ?_)) (fun _ _ hs => hs.1) fun _ _ _ hs => hs
    by_cases hc : s.configured = true
    · rw [if_pos hc, Option.some.injEq] at ht
      subst ht
      refine ⟨hs.of_files rfl ⟨fun _ => ?_, fun _ => rfl⟩, rfl⟩
      cases hsource : s.source with
      | none => simp [Host.configured, hsource] at hc
      | some tree =>
        refine ⟨tree, rfl, hs.marked hsource, ?_⟩
        simpa [Host.configured, hsource] using hc
    · simp [hc] at ht

theorem bounded_checkPath {J : List Command → Host → Prop} {P : Host → Prop}
    (hJ : ∀ done s, P s → J done s) : Bounded J P (checkPath env) P := by
  refine triple_reading fun found => ?_
  cases found with
  | none => exact triple_die fun done s hs => hJ done s hs.1
  | some file =>
    cases file with
    | dkms => exact triple_pure fun _ _ hs => hs.1
    | kernel => exact triple_die fun done s hs => hJ done s hs.1

theorem bounded_installModule : Bounded Accounted Kept (installModule env) Kept := by
  have hJ (done : List Command) (s : Host) (h : Listed s) : Accounted done s :=
    h.1.accounted done
  have hP := ofFiles_listed.undisturbed env
  refine triple_seq bounded_dkmsAdd (triple_seq (R := fun _ s => Listed s) ?_ ?_)
  · refine bounded_command hP hJ fun s t hs ht => ?_
    by_cases hb : (s.configured && (s.source.map env.builds == some true)) = true
    · rw [if_pos hb, Option.some.injEq] at ht
      exact ht ▸ hs
    · simp only [hb] at ht
      contradiction
  refine triple_seq (R := fun _ s => Listed s) ?_ ?_
  · refine bounded_command hP hJ fun s t hs ht => ?_
    obtain rfl := Option.some.inj ht
    exact ⟨hs.1.of_files rfl ⟨hs.1.1.added, fun _ => hs.2⟩, hs.2⟩
  refine triple_seq (R := fun _ s => Listed s) ?_ ?_
  · exact bounded_command hP hJ fun s t hs ht => Option.some.inj ht ▸ depmod_listed hs
  refine triple_seq (R := fun _ s => Listed s) ?_ ?_
  · exact bounded_command hP hJ fun s t hs ht => Option.some.inj ht ▸ depmod_listed hs
  refine triple_seq (R := fun _ s => Listed s) ?_ ?_
  · exact bounded_command hP hJ fun s t hs ht => modprobe_listed hs ht
  refine triple_seq (R := fun _ s => Listed s) (bounded_checkPath hJ) ?_
  refine triple_seq (R := fun _ s => Listed s) (bounded_report hP hJ _) ?_
  refine triple_seq (R := fun _ s => Listed s) (bounded_report hP hJ _) ?_
  refine triple_seq (R := fun _ s => Listed s)
    (bounded_each (fun module => bounded_report hP hJ _) _) ?_
  exact triple_pure fun _ _ hs => hs.1

theorem bounded_buildInstall : Bounded Accounted Kept (buildInstallMlnxNfsrdma env) Kept := by
  have hJ (done : List Command) (s : Host) (h : Kept s) : Accounted done s := h.accounted done
  have hJ' (done : List Command) (s : Host) (h : Absent s) : Accounted done s := hJ done s h.kept
  have hP := ofFiles_absent.undisturbed env
  refine triple_seq (R := fun _ s => Kept s) (bounded_gates hJ) (triple_reading fun loaded => ?_)
  refine triple_ite (fun _ => triple_reading fun found => ?_) fun _ =>
    triple_reading fun source => ?_
  · refine Triple.mono (triple_seq (R := fun _ s => Kept s) (bounded_check hJ _ _) ?_)
      (fun _ _ hs => hs.1.1) fun _ _ _ hs => hs
    exact triple_pure fun _ _ hs => hs
  cases source with
  | none =>
    refine Triple.mono (triple_seq (R := fun _ s => Absent s) (bounded_buildStage hP hJ')
      (triple_ite (fun _ => ?_) fun _ => ?_)) (fun _ _ hs => hs.1.1.absent hs.2) fun _ _ _ hs => hs
    · refine triple_seq (R := fun _ s => Absent s) (bounded_each (fun module => ?_) _) ?_
      · exact triple_seq (R := fun _ s => Absent s) (bounded_report hP hJ' _)
          (bounded_report hP hJ' _)
      · exact triple_pure fun _ _ hs => hs.kept
    · exact triple_seq (R := fun _ s => Kept s) bounded_moveStage bounded_installModule
  | some tree =>
    refine Triple.mono (triple_seq (R := fun _ s => Kept s) ?_ bounded_installModule)
      (fun _ _ hs => hs.1.1) fun _ _ _ hs => hs
    exact triple_seq (R := fun _ s => Kept s) (bounded_check hJ _ _) (bounded_check hJ _ _)

theorem unload_files (h : s.unload = some t) : t.source = s.source ∧ t.added = s.added ∧
    t.installed = s.installed := by
  by_cases hu : s.useCount = 0
  · rw [Host.unload, if_pos hu, Option.some.injEq] at h
    subst h
    exact ⟨rfl, rfl, rfl⟩
  · simp [Host.unload, hu] at h

theorem bounded_unloadModule {J : List Command → Host → Prop} {P : Host → Prop} (hP : OfFiles P)
    (hJ : ∀ done s, P s → J done s) : Bounded J P (unloadModule env) P := by
  refine triple_reading fun loaded =>
    triple_ite (fun _ => triple_reading fun count => ?_) fun _ => ?_
  · refine Triple.mono (triple_seq (R := fun _ s => P s) (bounded_check hJ _ _)
      (bounded_command (hP.undisturbed env) hJ fun s t hs ht => ?_)) (fun _ _ hs => hs.1.1)
      fun _ _ _ hs => hs
    obtain ⟨hsource, hadded, hinstalled⟩ := unload_files ht
    exact hP s t hsource hadded hinstalled hs
  · exact triple_pure fun _ _ hs => hs.1

theorem bounded_dkmsRemove : Bounded Accounted Kept (dkmsRemove env) Removed := by
  have hJ (done : List Command) (s : Host) (h : Kept s) : Accounted done s := h.accounted done
  have hJ' (done : List Command) (s : Host) (h : Uninstalled s) : Accounted done s := hJ done s h.1
  refine triple_reading fun added => triple_ite (fun _ => ?_) fun hadded => ?_
  · refine Triple.mono (triple_seq (R := fun _ s => Uninstalled s)
      (bounded_command (ofFiles_kept.undisturbed env) hJ fun s t hs ht => ?_)
      (triple_seq (R := fun _ s => Uninstalled s) ?_ ?_)) (fun _ _ hs => hs.1) fun _ _ _ hs => hs
    · by_cases hc : s.configured = true
      · rw [if_pos hc, Option.some.injEq] at ht
        subst ht
        exact ⟨hs.of_files rfl ⟨hs.1.added, fun hi => by contradiction⟩, rfl⟩
      · simp [hc] at ht
    · refine bounded_command (ofFiles_uninstalled.undisturbed env) hJ' fun s t hs ht => ?_
      obtain rfl := Option.some.inj ht
      exact ofFiles_uninstalled s _ rfl rfl rfl hs
    · refine bounded_command (ofFiles_uninstalled.undisturbed env) hJ' fun s t hs ht => ?_
      obtain rfl := Option.some.inj ht
      have hunlisted : Unlisted { s with added := false } := ⟨rfl, hs.2⟩
      exact ⟨hs.1.of_files rfl hunlisted.sound, hunlisted⟩
  · refine triple_pure fun _ s ⟨hs, hread⟩ => ⟨hs, ?_, ?_⟩
    · rw [hread]
      simpa using hadded
    · rw [← Bool.not_eq_true]
      intro hinstalled
      rw [hs.1.installed hinstalled] at hread
      exact hadded hread.symm

/-- While the tree is deleted nothing else of the module is there. -/
def Deleting (done : List Command) (s : Host) : Prop := Unlisted s ∧ (Unmarked s → Torn done)

theorem Deleting.accounted (h : Deleting done s) : Accounted done s := ⟨h.1.sound, h.2⟩

theorem triple_unlink (env : Env) (file : SourceFile) :
    Triple (fun done _ s => Accounted done s) (fun done _ s => Accounted done s)
      Deleting (unlink env file) fun _ => Deleting := by
  refine triple_command (fun done s hs => hs.accounted) (fun done s t hs ht => ?_)
    fun done s hs => ⟨hs.1.sound, fun _ => rfl⟩
  obtain rfl := Option.some.inj ht
  exact ⟨ofFiles_unlisted.after hs.1, fun _ => rfl⟩

theorem bounded_removeSource : Bounded Accounted Removed (removeSource env) Kept := by
  refine triple_reading fun source => ?_
  cases source with
  | none => exact triple_pure fun _ _ hs => hs.1.1
  | some tree =>
    have hJ (done : List Command) (s : Host) (h : Removed s) : Accounted done s :=
      h.1.accounted done
    refine Triple.mono (triple_seq (R := fun _ s => Removed s) (bounded_check hJ _ _)
      (triple_seq (R := Deleting) ?_ ?_)) (fun _ _ hs => hs.1) fun _ _ _ hs => hs
    · refine (triple_each (I := fun _ => Deleting) (fun file _ => triple_unlink env file) _).mono
        (fun _ _ hs => ⟨hs.2, fun hu => absurd hu hs.1.2⟩) fun _ _ _ hs => hs
    · refine triple_command (fun _ _ hs => hs.accounted) (fun done s t hs ht => ?_)
        fun _ _ hs => ⟨hs.1.sound, fun _ => rfl⟩
      have hafter : Unlisted (s.after (env.meanwhile .rmdirSource)) := ofFiles_unlisted.after hs.1
      by_cases he : (s.after (env.meanwhile .rmdirSource)).source = some []
      · rw [if_pos he, Option.some.injEq] at ht
        subst ht
        have habsent : Absent { s.after (env.meanwhile .rmdirSource) with source := none } :=
          ⟨rfl, hafter⟩
        exact habsent.kept
      · simp [he] at ht

theorem bounded_removeMlnxNfsrdma : Bounded Accounted Kept (removeMlnxNfsrdma env) Kept := by
  have hJ (done : List Command) (s : Host) (h : Kept s) : Accounted done s := h.accounted done
  refine triple_seq (R := fun _ s => Kept s) (bounded_check hJ _ _) ?_
  refine triple_seq (R := fun _ s => Kept s) (bounded_unloadModule ofFiles_kept hJ) ?_
  refine triple_seq (R := fun _ s => Removed s) bounded_dkmsRemove ?_
  refine triple_seq (R := fun _ s => Kept s) bounded_removeSource ?_
  refine bounded_command (ofFiles_kept.undisturbed env) hJ fun s t hs ht => ?_
  obtain rfl := Option.some.inj ht
  exact ofFiles_kept s _ rfl rfl rfl hs

end Kept

end PdDisaggregation.Nfsrdma
