import Mathlib.Algebra.BigOperators.Group.List.Basic
import PdDisaggregation.DiskStorage

/-! What holds of a cache directory in every run of the processes that use it: a storage
touches its own file only, and no process gives space back before it ends. -/

namespace PdDisaggregation.Disk

/-- Two files are never in the directory under one name. -/
def NamesDiffer (f g : TempFile) : Prop := f.linked = true → g.linked = true → f.name ≠ g.name

/-- A process has two of them open under two descriptors. -/
def FdsDiffer (f g : TempFile) : Prop :=
  f.opened = true → g.opened = true → f.process = g.process → f.fd ≠ g.fd

structure NodeHolds (files : List TempFile) : Prop where
  each : ∀ f ∈ files, FileHolds f
  names : files.Pairwise NamesDiffer
  fds : files.Pairwise FdsDiffer

variable {files pre post t : List TempFile} {e : Event} {f f' : TempFile} {a : Action}
  {removed : Option String}

theorem step_cases (h : step files e = some t) :
    (∃ process strategy disableODirect zerofill size name fd,
      e = .create process strategy disableODirect zerofill size name fd ∧
        t = files ++ [.fresh process name fd (openTempFile strategy disableODirect zerofill size)]) ∨
    (∃ pre f post a f' removed, e = .act pre.length a ∧ files = pre ++ f :: post ∧
      f.act a = some (f', removed) ∧ t = unlinkNamed removed (pre ++ f' :: post)) ∨
    ∃ process, e = .exit process ∧ t = files.map (TempFile.closedBy process) := by
  cases e with
  | create process strategy disableODirect zerofill size name fd =>
    exact Or.inl ⟨_, _, _, _, _, _, _, rfl, (Option.some.inj h).symm⟩
  | exit process => exact Or.inr (Or.inr ⟨process, rfl, (Option.some.inj h).symm⟩)
  | act i a =>
    obtain ⟨f, hf, h⟩ := Option.bind_eq_some_iff.mp h
    obtain ⟨⟨f', removed⟩, hact, h⟩ := Option.bind_eq_some_iff.mp h
    obtain ⟨hlt, hget⟩ := List.getElem?_eq_some_iff.mp hf
    have hlength : (files.take i).length = i := List.length_take_of_le hlt.le
    have hfiles : files = files.take i ++ f :: files.drop (i + 1) := by
      rw [← hget, ← List.drop_eq_getElem_cons hlt, List.take_append_drop]
    have hset : files.set i f' = files.take i ++ f' :: files.drop (i + 1) :=
      List.set_eq_take_append_cons_drop.trans (if_pos hlt)
    refine Or.inr (Or.inl ⟨files.take i, f, files.drop (i + 1), a, f', removed, ?_, hfiles, hact, ?_⟩)
    · rw [hlength]
    · rw [← hset]
      exact (Option.some.inj h).symm

theorem unlinkName_other {name : String} (h : ∀ g ∈ files, g.name = name → g.linked = false) :
    unlinkName name files = files := by
  have hid : ∀ g ∈ files, (if g.name = name then { g with linked := false } else g) = g := by
    intro g hg
    split
    next hname =>
      have hlinked := h g hg hname
      obtain ⟨process, name, fd, file, linked, opened, owner, calls⟩ := g
      exact congrArg (fun linked => TempFile.mk process name fd file linked opened owner calls)
        hlinked.symm
    · rfl
  rw [unlinkName, List.map_congr_left hid, List.map_id']

/-- Removing the name of a file that is in the directory removes that file and no other. -/
theorem unlinkNamed_own (hact : Acts f f' removed)
    (hother : ∀ g ∈ pre ++ post, f.linked = true → g.linked = true → f.name ≠ g.name) :
    unlinkNamed removed (pre ++ f' :: post) = pre ++ f'.after removed :: post := by
  cases removed with
  | none => rfl
  | some name =>
    obtain ⟨rfl, hlinked⟩ := hact.own name rfl
    have hnone : ∀ g ∈ pre ++ post, g.name = f.name → g.linked = false := by
      intro g hg hname
      by_contra hg'
      exact hother g hg hlinked (Bool.not_eq_false _ ▸ hg') hname.symm
    rw [unlinkNamed, unlinkName, List.map_append, List.map_cons, if_pos hact.name]
    congr 1
    · exact unlinkName_other fun g hg => hnone g (List.mem_append_left _ hg)
    · congr 1
      exact unlinkName_other fun g hg => hnone g (List.mem_append_right _ hg)

theorem NodeHolds.others (h : NodeHolds (pre ++ f :: post)) :
    ∀ g ∈ pre ++ post, f.linked = true → g.linked = true → f.name ≠ g.name := by
  intro g hg hf hlinked
  obtain ⟨-, hpost, hcross⟩ := List.pairwise_append.mp h.names
  rcases List.mem_append.mp hg with hpre | hpost'
  · exact (hcross g hpre f List.mem_cons_self hlinked hf).symm
  · exact (List.pairwise_cons.mp hpost).1 g hpost' hf hlinked

/-- A list whose elements are replaced by ones that clash with no more. -/
theorem pairwise_replace {R : TempFile → TempFile → Prop} (h : (pre ++ f :: post).Pairwise R)
    (hl : ∀ g, R f g → R f' g) (hr : ∀ g, R g f → R g f') : (pre ++ f' :: post).Pairwise R := by
  obtain ⟨hpre, hpost, hcross⟩ := List.pairwise_append.mp h
  obtain ⟨hf, hpost⟩ := List.pairwise_cons.mp hpost
  refine List.pairwise_append.mpr ⟨hpre, List.pairwise_cons.mpr ⟨?_, hpost⟩, ?_⟩
  · exact fun g hg => hl g (hf g hg)
  · intro g hg g' hg'
    rcases List.mem_cons.mp hg' with rfl | hin
    · exact hr g (hcross g hg f List.mem_cons_self)
    · exact hcross g hg g' (List.mem_cons_of_mem _ hin)

theorem after_linked (h : (f'.after removed).linked = true) : f'.linked = true := by
  cases removed with
  | none => exact h
  | some name => contradiction

theorem after_name (f : TempFile) (removed : Option String) : (f.after removed).name = f.name := by
  cases removed <;> rfl

theorem after_fd (f : TempFile) (removed : Option String) : (f.after removed).fd = f.fd := by
  cases removed <;> rfl

theorem after_process (f : TempFile) (removed : Option String) :
    (f.after removed).process = f.process := by
  cases removed <;> rfl

theorem after_opened (f : TempFile) (removed : Option String) :
    (f.after removed).opened = f.opened := by
  cases removed <;> rfl

theorem NodeHolds.act (h : NodeHolds (pre ++ f :: post)) (hact : Acts f f' removed) :
    NodeHolds (pre ++ f'.after removed :: post) where
  each g hg := by
    rcases List.mem_append.mp hg with hpre | hpost
    · exact h.each g (List.mem_append_left _ hpre)
    · rcases List.mem_cons.mp hpost with rfl | hin
      · exact hact.holds
      · exact h.each g (List.mem_append_right _ (List.mem_cons_of_mem _ hin))
  names := by
    have hlinked : (f'.after removed).linked = true → f.linked = true := by
      intro hafter
      rw [← hact.linked]
      exact after_linked hafter
    have hname : (f'.after removed).name = f.name := (after_name f' removed).trans hact.name
    refine pairwise_replace h.names (fun g hr hf hg => ?_) (fun g hr hg hf => ?_)
    · rw [hname]
      exact hr (hlinked hf) hg
    · rw [hname]
      exact hr hg (hlinked hf)
  fds := by
    have hopened : (f'.after removed).opened = true → f.opened = true := by
      rw [after_opened]
      exact hact.opened
    have hfd : (f'.after removed).fd = f.fd := (after_fd f' removed).trans hact.fd
    have hprocess : (f'.after removed).process = f.process :=
      (after_process f' removed).trans hact.process
    refine pairwise_replace h.fds (fun g hr hf hg hp => ?_) (fun g hr hg hf hp => ?_)
    · rw [hfd]
      exact hr (hopened hf) hg (hprocess ▸ hp)
    · rw [hfd]
      exact hr hg (hopened hf) (hprocess ▸ hp)

theorem OwnerHolds.history (h : OwnerHolds f f.owner) : ∃ stage, History f.calls stage := by
  cases howner : f.owner with
  | settingFlags size zerofill =>
    rw [howner] at h
    exact ⟨_, h.2.2⟩
  | cleaning =>
    rw [howner] at h
    exact ⟨_, h.2⟩
  | allocating size zerofill =>
    rw [howner] at h
    exact ⟨_, h.2.2⟩
  | storage d =>
    rw [howner] at h
    exact ⟨_, h.2⟩
  | registered d =>
    rw [howner] at h
    exact ⟨_, h.2.2⟩
  | dropping d =>
    rw [howner] at h
    exact ⟨_, h.2⟩
  | nobody =>
    rw [howner] at h
    exact h

theorem fileHolds_fresh (process : Nat) (name : String) (fd : Nat)
    (strategy : DiskOpenStrategy) (disableODirect zerofill : Bool) (size : Nat) :
    FileHolds (.fresh process name fd (openTempFile strategy disableODirect zerofill size)) where
  owner := by
    show OwnerHolds _ (openTempFile strategy disableODirect zerofill size)
    rw [openTempFile]
    split
    · exact ⟨rfl, rfl, .start⟩
    · exact ⟨rfl, rfl, .start⟩
  linked := by simp [TempFile.fresh]

theorem fileHolds_closedBy (process : Nat) (hf : FileHolds f) :
    FileHolds (f.closedBy process) := by
  rw [TempFile.closedBy]
  split
  · exact ⟨hf.owner.history, hf.linked⟩
  · exact hf

theorem closedBy_linked (process : Nat) (f : TempFile) :
    (f.closedBy process).linked = f.linked ∧ (f.closedBy process).name = f.name := by
  rw [TempFile.closedBy]
  split
  · exact ⟨rfl, rfl⟩
  · exact ⟨rfl, rfl⟩

theorem closedBy_opened (process : Nat) (f : TempFile) :
    ((f.closedBy process).opened = true → f.opened = true) ∧
      (f.closedBy process).process = f.process ∧ (f.closedBy process).fd = f.fd := by
  rw [TempFile.closedBy]
  split
  · exact ⟨fun hc => by contradiction, rfl, rfl⟩
  · exact ⟨id, rfl, rfl⟩

theorem NodeHolds.exit (h : NodeHolds files) (process : Nat) :
    NodeHolds (files.map (TempFile.closedBy process)) where
  each g hg := by
    obtain ⟨f, hf, rfl⟩ := List.mem_map.mp hg
    exact fileHolds_closedBy process (h.each f hf)
  names := by
    refine List.pairwise_map.mpr (h.names.imp fun {f g} hr hf hg => ?_)
    obtain ⟨hfl, hfn⟩ := closedBy_linked process f
    obtain ⟨hgl, hgn⟩ := closedBy_linked process g
    rw [hfn, hgn]
    exact hr (hfl ▸ hf) (hgl ▸ hg)
  fds := by
    refine List.pairwise_map.mpr (h.fds.imp fun {f g} hr hf hg hp => ?_)
    obtain ⟨hfo, hfp, hfd⟩ := closedBy_opened process f
    obtain ⟨hgo, hgp, hgd⟩ := closedBy_opened process g
    rw [hfp, hgp] at hp
    rw [hfd, hgd]
    exact hr (hfo hf) (hgo hg) hp

theorem NodeHolds.create (h : NodeHolds files) {process : Nat} {strategy : DiskOpenStrategy}
    {disableODirect zerofill : Bool} {size : Nat} {name : String} {fd : Nat}
    (hallowed : Allowed files
      (.create process strategy disableODirect zerofill size name fd)) :
    NodeHolds (files ++
      [.fresh process name fd (openTempFile strategy disableODirect zerofill size)]) where
  each g hg := by
    rcases List.mem_append.mp hg with hold | hnew
    · exact h.each g hold
    · rw [List.mem_singleton.mp hnew]
      exact fileHolds_fresh _ _ _ _ _ _ _
  names := by
    refine List.pairwise_append.mpr ⟨h.names, List.pairwise_singleton _ _, ?_⟩
    intro f hf g hg hlinked _
    rw [List.mem_singleton.mp hg]
    exact (hallowed f hf).1 hlinked
  fds := by
    refine List.pairwise_append.mpr ⟨h.fds, List.pairwise_singleton _ _, ?_⟩
    intro f hf g hg hopened _ hprocess
    rw [List.mem_singleton.mp hg] at hprocess ⊢
    exact (hallowed f hf).2 hopened hprocess

theorem NodeHolds.step (h : NodeHolds files) (hallowed : Allowed files e)
    (hstep : Disk.step files e = some t) : NodeHolds t := by
  rcases step_cases hstep with ⟨process, strategy, disableODirect, zerofill, size, name, fd, rfl,
      rfl⟩ | ⟨pre, f, post, a, f', removed, rfl, rfl, hact, ht⟩ | ⟨process, rfl, rfl⟩
  · exact h.create hallowed
  · have hacts := act_spec (h.each f (by simp)) hact
    rw [ht, unlinkNamed_own hacts h.others]
    exact h.act hacts
  · exact h.exit process

theorem nodeHolds (h : Reaches [] files) : NodeHolds files := by
  refine Machine.Reaches.invariant (fun _ _ _ hs hg hh => hs.step hg hh) h ⟨?_, ?_, ?_⟩
  · intro f hf
    contradiction
  · exact List.Pairwise.nil
  · exact List.Pairwise.nil

instance (files : List TempFile) : ∀ e, Decidable (Allowed files e)
  | .create process _ _ _ _ name fd => inferInstanceAs (Decidable (∀ f ∈ files,
      (f.linked = true → f.name ≠ name) ∧ (f.opened = true → f.process = process → f.fd ≠ fd)))
  | .act _ _ => inferInstanceAs (Decidable True)
  | .exit _ => inferInstanceAs (Decidable True)

/-- The first storage is refused by NIXL and then registered; the second file, which cannot
have its flags set, is removed, and its name is free for a third. -/
def sampleRun : List Event :=
  [.create 1 .mkostempDirectIo false false 2 "a" 3,
    .act 0 (.allocate ⟨.done, true, fun _ n => .wrote n, true⟩), .act 0 (.register false),
    .create 1 .defaultDirectIo false false 2 "b" 4, .act 1 (.setFlags true false),
    .act 0 (.register true), .act 1 (.unlink true), .act 0 (.unlink true),
    .create 1 .defaultDirectIo true false 2 "b" 4]

def sampleFiles : List TempFile :=
  [⟨1, "a", 3, .zeros 2 2, false, true, .storage ⟨3, "a", 2, true⟩,
      [.register true false, .register true true, .unlink true]⟩,
    ⟨1, "b", 4, .empty, false, false, .nobody, [.unlink true]⟩,
    ⟨1, "b", 4, .empty, true, true, .allocating 2 false, []⟩]

def droppedFiles : List TempFile :=
  sampleFiles.modify 0 fun f => { f with owner := .dropping ⟨3, "a", 2, true⟩ }

theorem sampleRun_reaches : Reaches [] sampleFiles :=
  Machine.reaches_of_exec sampleRun (by decide +kernel)

/-- The third file is in use too, under the name that the second had. -/
def sharedRun : List Event :=
  sampleRun ++
    [.act 2 (.allocate ⟨.done, true, fun _ n => .wrote n, true⟩), .act 2 (.register true)]

def sharedFiles : List TempFile :=
  sampleFiles.modify 2 fun f =>
    { f with
      file := .zeros 2 2
      owner := .registered ⟨4, "b", 2, false⟩
      calls := [.register true true] }

theorem sharedRun_reaches : Reaches [] sharedFiles :=
  Machine.reaches_of_exec sharedRun (by decide +kernel)

variable {i : Nat}

/-- The names are enough: a call about one file, `unlink` among them, changes no other. -/
theorem disk_own_file (h : Reaches [] files) (hstep : step files (.act i a) = some t) :
    t.length = files.length ∧ ∀ j, j ≠ i → t[j]? = files[j]? := by
  rcases step_cases hstep with ⟨_, _, _, _, _, _, _, he, -⟩ | ⟨pre, f, post, a', f', removed, he,
      rfl, hact, rfl⟩ | ⟨_, he, -⟩
  · contradiction
  · obtain ⟨rfl, rfl⟩ := Event.act.inj he
    have hnode := nodeHolds h
    rw [unlinkNamed_own (act_spec (hnode.each f (by simp)) hact) hnode.others]
    refine ⟨by simp, fun j hj => ?_⟩
    rcases Nat.lt_or_gt_of_ne hj with hlt | hgt
    · rw [List.getElem?_append_left hlt, List.getElem?_append_left hlt]
    · rw [List.getElem?_append_right hgt.le, List.getElem?_append_right hgt.le]
      obtain ⟨k, hk⟩ := Nat.exists_eq_add_of_lt hgt
      have hsub : j - pre.length = k + 1 := by omega
      rw [hsub, List.getElem?_cons_succ, List.getElem?_cons_succ]
  · contradiction

def unlinkedFiles : List TempFile :=
  sharedFiles.modify 2 fun f =>
    { f with
      linked := false
      owner := .storage ⟨4, "b", 2, true⟩
      calls := [.register true true, .unlink true] }

theorem disk_own_file_shared :
    unlinkedFiles.length = 3 ∧ ∀ j, j ≠ 2 → unlinkedFiles[j]? = sharedFiles[j]? :=
  disk_own_file (i := 2) (a := .unlink true) sharedRun_reaches (by decide +kernel)

/-- What NIXL and the directory see of a file: registrations only while it is there, one
that succeeds at most, and then one `unlink`, on which alone its being there depends. -/
theorem disk_calls (h : Reaches [] files) (hf : f ∈ files) :
    (∀ linked ok, .register linked ok ∈ f.calls → linked = true) ∧
      (∀ pre post ok, f.calls = pre ++ .unlink ok :: post → post = []) ∧
      (∀ pre c post linked, f.calls = pre ++ .register linked true :: c :: post →
        ∃ ok, c = .unlink ok) ∧
      (f.linked = true ↔ .unlink true ∉ f.calls) := by
  have hholds := (nodeHolds h).each f hf
  obtain ⟨stage, hhistory⟩ := hholds.owner.history
  exact ⟨hhistory.calls.1, hhistory.calls.2, hhistory.after_registered, hholds.linked⟩

theorem disk_calls_sample :
    (∀ linked ok, .register linked ok ∈ sampleFiles[0].calls → linked = true) ∧
      (∀ pre post ok, sampleFiles[0].calls = pre ++ .unlink ok :: post → post = []) ∧
      (∀ pre c post linked, sampleFiles[0].calls = pre ++ .register linked true :: c :: post →
        ∃ ok, c = .unlink ok) ∧
      (sampleFiles[0].linked = true ↔ .unlink true ∉ sampleFiles[0].calls) :=
  disk_calls sampleRun_reaches (List.getElem_mem _)

/-- The storages of a process, which NIXL knows by their descriptors, have different ones, and
their files have the size they say. -/
theorem disk_devices (h : Reaches [] files) :
    (∀ f ∈ files, ∀ d, f.owner = .storage d → f.file.data.length = d.size) ∧
      files.Pairwise fun f g => f.process = g.process → ∀ d d', f.owner = .storage d →
        g.owner = .storage d' → d.fd ≠ d'.fd := by
  have hnode := nodeHolds h
  have hheld : ∀ f ∈ files, ∀ d, f.owner = .storage d → Held f d := by
    intro f hf d hd
    have howner := (hnode.each f hf).owner
    rw [hd] at howner
    exact howner.1
  constructor
  · intro f hf d hd
    rw [(hheld f hf d hd).zeros, List.length_replicate]
  · refine hnode.fds.imp_of_mem fun {f g} hf hg hr hp d d' hd hd' => ?_
    have hf' := hheld f hf d hd
    have hg' := hheld g hg d' hd'
    rw [hf'.fd, hg'.fd]
    exact hr hf'.opened hg'.opened hp

/-- The space a file takes on the disk: the kernel keeps it while the file is in the
directory or open. -/
def TempFile.space (f : TempFile) : Nat := if f.linked || f.opened then f.file.backed else 0

def space (files : List TempFile) : Nat := (files.map TempFile.space).sum

theorem Acts.space (hact : Acts f f' removed) : f.space ≤ (f'.after removed).space := by
  rcases hact.contents with hempty | ⟨-, hopened, hfile⟩
  · have hzero : f.space = 0 := by
      rw [TempFile.space, hempty]
      split
      · rfl
      · rfl
    omega
  · have hopened' : (f'.after removed).opened = true := by
      rw [after_opened]
      exact hopened
    have hfile' : (f'.after removed).file = f.file := by
      rw [← hfile]
      cases removed <;> rfl
    rw [TempFile.space, TempFile.space, hopened', hfile', Bool.or_true, if_pos rfl]
    split
    · exact Nat.le_refl _
    · exact Nat.zero_le _

def NoExit (files : List TempFile) (e : Event) : Prop :=
  Allowed files e ∧ ∀ process, e ≠ .exit process

theorem space_step (hs : NodeHolds files) (hg : NoExit files e) (hstep : step files e = some t) :
    space files ≤ space t := by
  rcases step_cases hstep with ⟨process, strategy, disableODirect, zerofill, size, name, fd, rfl,
      rfl⟩ | ⟨pre, f, post, a, f', removed, rfl, rfl, hact, rfl⟩ | ⟨process, rfl, rfl⟩
  · rw [space, space, List.map_append, List.sum_append]
    exact Nat.le_add_right _ _
  · have hacts := act_spec (hs.each f (by simp)) hact
    have hle := hacts.space
    rw [unlinkNamed_own hacts hs.others]
    simp only [space, List.map_append, List.map_cons, List.sum_append, List.sum_cons]
    omega
  · exact absurd rfl (hg.2 process)

/-- While no process ends the space taken only grows, whatever is dropped or unlinked. -/
theorem disk_space_grows (hs : Reaches [] files)
    (h : Machine.Reaches step NoExit files t) : space files ≤ space t :=
  Machine.Reaches.monotone (I := NodeHolds) (f := space) (fun _ _ _ hi hg hh => hi.step hg.1 hh)
    (fun _ _ _ hi hg hh => space_step hi hg hh) h (nodeHolds hs)

theorem disk_space_grows_sample : space sampleFiles ≤ space droppedFiles :=
  disk_space_grows sampleRun_reaches
    (.single ⟨.act 0 .drop, ⟨trivial, fun _ h => by contradiction⟩, rfl⟩)

/-- When a process ends, exactly the files whose `unlink` was not called or failed stay. -/
theorem disk_space_after_exit (h : Reaches [] files) {process : Nat}
    (hstep : step files (.exit process) = some t) {g : TempFile} (hg : g ∈ t)
    (hprocess : g.process = process) :
    g.space = if .unlink true ∈ g.calls then 0 else g.file.backed := by
  have hlinked := ((nodeHolds h).step (e := .exit process) trivial hstep).each g hg |>.linked
  rw [← Option.some.inj hstep] at hg
  obtain ⟨f, hf, rfl⟩ := List.mem_map.mp hg
  have hclosed : (f.closedBy process).opened = false := by
    rw [(closedBy_opened process f).2.1] at hprocess
    rw [TempFile.closedBy, if_pos hprocess]
  rw [TempFile.space, hclosed, Bool.or_false]
  by_cases hunlink : .unlink true ∈ (f.closedBy process).calls
  · rw [if_pos hunlink, if_neg fun hl => hlinked.mp hl hunlink]
  · rw [if_neg hunlink, if_pos (hlinked.mpr hunlink)]

theorem disk_space_after_exit_shared :
    (sharedFiles[2].closedBy 1).space =
      if .unlink true ∈ (sharedFiles[2].closedBy 1).calls then 0
      else (sharedFiles[2].closedBy 1).file.backed :=
  disk_space_after_exit sharedRun_reaches (show step sharedFiles (.exit 1) = _ from rfl)
    (List.mem_map_of_mem (List.getElem_mem _)) rfl

end PdDisaggregation.Disk
