import PdDisaggregation.DiskFile
import PdDisaggregation.Machine

/-! The temporary files of KVBM disk storages (`runtime-kvbm-disk.rs` and the NIXL
registration of `runtime-kvbm-storage-nixl.rs`), for all the processes that share a cache
directory. A storage knows its file by its name only. -/

namespace PdDisaggregation.Disk

inductive DiskOpenStrategy where
  | defaultDirectIo
  | mkostempDirectIo
  deriving DecidableEq

/-- `DYN_KVBM_DISK_ALLOCATOR_TYPE`, when it is set. -/
def diskOpenStrategyFromEnv : Option String → Option DiskOpenStrategy
  | none => some .defaultDirectIo
  | some value =>
    if value = "default" then some .defaultDirectIo
    else if value = "open-direct" then some .mkostempDirectIo
    else none

structure DiskStorage where
  fd : Nat
  fileName : String
  size : Nat
  unlinked : Bool
  deriving DecidableEq

/-- The function that has the file in hand, at the call it makes next. -/
inductive Owner where
  | settingFlags (size : Nat) (zerofill : Bool)
  | cleaning
  | allocating (size : Nat) (zerofill : Bool)
  | storage (d : DiskStorage)
  | registered (d : DiskStorage)
  | dropping (d : DiskStorage)
  | nobody
  deriving DecidableEq

/-- The calls made about a file: a registration with NIXL, `linked` saying whether the file
was in the directory, and an `unlink`. -/
inductive Call where
  | register (linked ok : Bool)
  | unlink (ok : Bool)
  deriving DecidableEq

/-- A file that `mkostemp` made. -/
structure TempFile where
  process : Nat
  name : String
  fd : Nat
  file : File
  linked : Bool
  opened : Bool
  owner : Owner
  calls : List Call
  deriving DecidableEq

def TempFile.fresh (process : Nat) (name : String) (fd : Nat) (owner : Owner) : TempFile :=
  ⟨process, name, fd, .empty, true, true, owner, []⟩

/-- What `mkostemp` leads to. Only the default strategy sets the flag afterwards. -/
def openTempFile (strategy : DiskOpenStrategy) (disableODirect zerofill : Bool) (size : Nat) :
    Owner :=
  if strategy = .defaultDirectIo ∧ disableODirect = false then .settingFlags size zerofill
  else .allocating size zerofill

/-- The storage afterwards, and the name that is given to `unlink`. -/
def DiskStorage.unlink (d : DiskStorage) : DiskStorage × Option String :=
  if d.unlinked then (d, none) else ({ d with unlinked := true }, some d.fileName)

inductive Action where
  | setFlags (getfl setfl : Bool)
  | allocate (answers : AllocateAnswers)
  | register (ok : Bool)
  | drop
  | unlink (ok : Bool)

/-- The rest of a call of `unlink`; `after` is who has the file then. -/
def TempFile.unlink (f : TempFile) (d : DiskStorage) (after : DiskStorage → Owner) (ok : Bool) :
    TempFile × Option String :=
  match d.unlink with
  | (d, none) => ({ f with owner := after d }, none)
  | (d, some name) =>
    ({ f with owner := after d, calls := f.calls ++ [.unlink ok] }, if ok then some name else none)

/-- One call about a file; the name is one to be removed from the directory. -/
def TempFile.act (f : TempFile) : Action → Option (TempFile × Option String)
  | .setFlags getfl setfl =>
    match f.owner with
    | .settingFlags size zerofill =>
      if getfl && setfl then some ({ f with owner := .allocating size zerofill }, none)
      else some ({ f with opened := false, owner := .cleaning }, none)
    | _ => none
  | .allocate answers =>
    match f.owner with
    | .allocating size zerofill =>
      match allocateFile answers zerofill size f.file with
      | (file, .ok ()) =>
        some ({ f with file, owner := .storage ⟨f.fd, f.name, size, false⟩ }, none)
      -- neither closed nor removed
      | (file, .error _) => some ({ f with file, owner := .nobody }, none)
    | _ => none
  | .register ok =>
    match f.owner with
    | .storage d =>
      if d.unlinked then some (f, none)
      else
        some ({ f with
          owner := if ok then .registered d else .storage d
          calls := f.calls ++ [.register f.linked ok] }, none)
    | _ => none
  | .drop =>
    match f.owner with
    | .storage d => some ({ f with owner := .dropping d }, none)
    | _ => none
  | .unlink ok =>
    match f.owner with
    | .cleaning =>
      some ({ f with owner := .nobody, calls := f.calls ++ [.unlink ok] },
        if ok then some f.name else none)
    | .storage d => some (f.unlink d .storage ok)
    | .registered d => some (f.unlink d .storage ok)
    | .dropping d => some (f.unlink d (fun _ => .nobody) ok)
    | _ => none

/-- `unlink(2)`. -/
def unlinkName (name : String) (files : List TempFile) : List TempFile :=
  files.map fun f => if f.name = name then { f with linked := false } else f

def unlinkNamed : Option String → List TempFile → List TempFile
  | none, files => files
  | some name, files => unlinkName name files

/-- The kernel closes the files of a process that ends. -/
def TempFile.closedBy (process : Nat) (f : TempFile) : TempFile :=
  if f.process = process then { f with opened := false, owner := .nobody } else f

inductive Event where
  | create (process : Nat) (strategy : DiskOpenStrategy) (disableODirect zerofill : Bool)
    (size : Nat) (name : String) (fd : Nat)
  | act (i : Nat) (action : Action)
  | exit (process : Nat)

def step (files : List TempFile) : Event → Option (List TempFile)
  | .create process strategy disableODirect zerofill size name fd =>
    some (files ++
      [.fresh process name fd (openTempFile strategy disableODirect zerofill size)])
  | .act i action => do
    let f ← files[i]?
    let (f', removed) ← f.act action
    return unlinkNamed removed (files.set i f')
  | .exit process => some (files.map (TempFile.closedBy process))

/-- `mkostemp` takes a name that is not in the directory, and a descriptor the process has
not got. -/
def Allowed (files : List TempFile) : Event → Prop
  | .create process _ _ _ _ name fd =>
    ∀ f ∈ files, (f.linked = true → f.name ≠ name) ∧
      (f.opened = true → f.process = process → f.fd ≠ fd)
  | .act _ _ => True
  | .exit _ => True

abbrev Reaches := Machine.Reaches step Allowed

/-! What a storage does with its file: it may be refused by NIXL several times and then
registered once, and the last call removes the file's name. -/

inductive Stage where
  | registering
  | registered
  | unlinked

inductive History : List Call → Stage → Prop where
  | start : History [] .registering
  | refused {calls : List Call} (h : History calls .registering) :
      History (calls ++ [.register true false]) .registering
  | registered {calls : List Call} (h : History calls .registering) :
      History (calls ++ [.register true true]) .registered
  | unlink {calls : List Call} {stage : Stage} (h : History calls stage)
      (hstage : stage ≠ .unlinked) (ok : Bool) : History (calls ++ [.unlink ok]) .unlinked

theorem History.no_unlink {calls : List Call} {stage : Stage} (h : History calls stage)
    (hstage : stage ≠ .unlinked) (ok : Bool) : .unlink ok ∉ calls := by
  induction h with
  | start => exact List.not_mem_nil
  | refused h ih => simpa using ih (by simp)
  | registered h ih => simpa using ih (by simp)
  | unlink h hother ok' ih => contradiction

theorem unlink_last {calls pre post : List Call} {c : Call} {ok : Bool}
    (hnone : ∀ ok, .unlink ok ∉ calls) (heq : calls ++ [c] = pre ++ .unlink ok :: post) :
    post = [] := by
  rcases List.eq_nil_or_concat post with hnil | ⟨front, last, rfl⟩
  · exact hnil
  · rw [List.concat_eq_append, ← List.cons_append, ← List.append_assoc] at heq
    have hcalls := (List.append_inj' heq rfl).1
    have hin : Call.unlink ok ∈ calls := by simp [hcalls]
    exact absurd hin (hnone ok)

/-- NIXL is given only files that are in the directory, and nothing comes after an `unlink`. -/
theorem History.calls {calls : List Call} {stage : Stage} (h : History calls stage) :
    (∀ linked ok, .register linked ok ∈ calls → linked = true) ∧
      ∀ pre post ok, calls = pre ++ .unlink ok :: post → post = [] := by
  induction h with
  | start =>
    refine ⟨fun linked ok hin => absurd hin List.not_mem_nil, fun pre post ok heq => ?_⟩
    simp at heq
  | refused h ih =>
    refine ⟨fun linked ok hin => ?_, fun pre post ok heq => ?_⟩
    · rcases List.mem_append.mp hin with hold | hnew
      · exact ih.1 linked ok hold
      · exact (Call.register.inj (List.mem_singleton.mp hnew)).1
    · exact unlink_last (h.no_unlink (by simp)) heq
  | registered h ih =>
    refine ⟨fun linked ok hin => ?_, fun pre post ok heq => ?_⟩
    · rcases List.mem_append.mp hin with hold | hnew
      · exact ih.1 linked ok hold
      · exact (Call.register.inj (List.mem_singleton.mp hnew)).1
    · exact unlink_last (h.no_unlink (by simp)) heq
  | unlink h hstage ok' ih =>
    refine ⟨fun linked ok hin => ?_, fun pre post ok heq => ?_⟩
    · rcases List.mem_append.mp hin with hold | hnew
      · exact ih.1 linked ok hold
      · simp at hnew
    · exact unlink_last (h.no_unlink hstage) heq

theorem History.not_registered {calls : List Call} (h : History calls .registering)
    (linked : Bool) : .register linked true ∉ calls := by
  generalize hstage : Stage.registering = stage at h
  induction h with
  | start => exact List.not_mem_nil
  | refused h ih => simpa using ih rfl
  | registered h ih => contradiction
  | unlink h hother ok ih => contradiction

/-- What follows two calls when there is one more. -/
theorem snoc_cases {calls pre post : List Call} {b c d : Call}
    (heq : calls ++ [b] = pre ++ c :: d :: post) :
    calls = pre ++ [c] ∧ b = d ∨ ∃ front, calls = pre ++ c :: d :: front := by
  rcases List.eq_nil_or_concat post with rfl | ⟨front, last, rfl⟩
  · have hsplit : calls ++ [b] = (pre ++ [c]) ++ [d] := by simp [heq]
    obtain ⟨hcalls, hlast⟩ := List.append_inj' hsplit rfl
    exact Or.inl ⟨hcalls, List.singleton_inj.mp hlast⟩
  · have hsplit : calls ++ [b] = (pre ++ c :: d :: front) ++ [last] := by simp [heq]
    exact Or.inr ⟨front, (List.append_inj' hsplit rfl).1⟩

/-- A registration that succeeded is followed by an `unlink`, if by anything. -/
theorem History.after_registered {calls : List Call} {stage : Stage} (h : History calls stage) :
    ∀ pre c post linked, calls = pre ++ .register linked true :: c :: post →
      ∃ ok, c = .unlink ok := by
  induction h with
  | start =>
    intro pre c post linked heq
    simp at heq
  | refused h ih =>
    intro pre c post linked heq
    rcases snoc_cases heq with ⟨hcalls, -⟩ | ⟨front, hcalls⟩
    · exact absurd (by simp [hcalls]) (h.not_registered linked)
    · exact ih pre c front linked hcalls
  | registered h ih =>
    intro pre c post linked heq
    rcases snoc_cases heq with ⟨hcalls, -⟩ | ⟨front, hcalls⟩
    · exact absurd (by simp [hcalls]) (h.not_registered linked)
    · exact ih pre c front linked hcalls
  | unlink h hstage ok ih =>
    intro pre c post linked heq
    rcases snoc_cases heq with ⟨-, rfl⟩ | ⟨front, hcalls⟩
    · exact ⟨ok, rfl⟩
    · exact ih pre c front linked hcalls

/-- The stage a storage is at, when no function is at work on it. -/
def DiskStorage.stage (d : DiskStorage) : Stage := if d.unlinked then .unlinked else .registering

structure Held (f : TempFile) (d : DiskStorage) : Prop where
  fd : d.fd = f.fd
  fileName : d.fileName = f.name
  opened : f.opened = true
  zeros : f.file.data = List.replicate d.size 0

def OwnerHolds (f : TempFile) : Owner → Prop
  | .settingFlags _ _ => f.opened = true ∧ f.file = .empty ∧ History f.calls .registering
  | .cleaning => f.file = .empty ∧ History f.calls .registering
  | .allocating _ _ => f.opened = true ∧ f.file = .empty ∧ History f.calls .registering
  | .storage d => Held f d ∧ History f.calls d.stage
  | .registered d => Held f d ∧ d.unlinked = false ∧ History f.calls .registered
  | .dropping d => Held f d ∧ History f.calls d.stage
  | .nobody => ∃ stage, History f.calls stage

structure FileHolds (f : TempFile) : Prop where
  owner : OwnerHolds f f.owner
  linked : f.linked = true ↔ .unlink true ∉ f.calls

theorem History.linked {f : TempFile} (hf : FileHolds f) {stage : Stage}
    (h : History f.calls stage) (hstage : stage ≠ .unlinked) : f.linked = true :=
  hf.linked.mpr (h.no_unlink hstage true)

variable {f f' : TempFile} {a : Action} {removed : Option String} {d : DiskStorage}

/-- The file once the name that its own call has removed is gone. -/
def TempFile.after (f : TempFile) (removed : Option String) : TempFile :=
  if removed.isSome then { f with linked := false } else f

/-- What a call does: the name it removes is the file's own. -/
structure Acts (f f' : TempFile) (removed : Option String) : Prop where
  process : f'.process = f.process
  name : f'.name = f.name
  fd : f'.fd = f.fd
  linked : f'.linked = f.linked
  opened : f'.opened = true → f.opened = true
  own : ∀ name, removed = some name → name = f.name ∧ f.linked = true
  contents : f.file = .empty ∨ f.opened = true ∧ f'.opened = true ∧ f'.file = f.file
  holds : FileHolds (f'.after removed)

theorem acts_of_owner {owner : Owner} (hf : FileHolds f)
    (hcontents : f.file = .empty ∨ f.opened = true)
    (howner : OwnerHolds { f with owner } owner) : Acts f { f with owner } none where
  process := rfl
  name := rfl
  fd := rfl
  linked := rfl
  opened := id
  own _ h := by contradiction
  contents := hcontents.imp_right fun hopened => ⟨hopened, hopened, rfl⟩
  holds := ⟨howner, hf.linked⟩

theorem unlink_linked {calls : List Call} {ok : Bool} (hlinked : .unlink true ∉ calls) :
    (!ok) = true ↔ Call.unlink true ∉ calls ++ [.unlink ok] := by
  cases ok with
  | true => simp
  | false => simpa using hlinked

/-- An `unlink` that is called; the storage's state after it is `owner`. -/
theorem acts_unlink {owner : Owner} {stage : Stage} {ok : Bool} (hf : FileHolds f)
    (hh : History f.calls stage) (hstage : stage ≠ .unlinked)
    (hcontents : f.file = .empty ∨ f.opened = true)
    (howner : ∀ linked, OwnerHolds
      { f with linked, owner, calls := f.calls ++ [.unlink ok] } owner) :
    Acts f { f with owner, calls := f.calls ++ [.unlink ok] }
      (if ok then some f.name else none) := by
  have hlinked : f.linked = true := hh.linked hf hstage
  have hcalls : (!ok) = true ↔ Call.unlink true ∉ f.calls ++ [.unlink ok] :=
    unlink_linked (hh.no_unlink hstage true)
  refine ⟨rfl, rfl, rfl, rfl, id, ?_,
    hcontents.imp_right fun hopened => ⟨hopened, hopened, rfl⟩, ?_⟩
  · intro name hname
    cases ok with
    | true => exact ⟨(Option.some.inj hname).symm, hlinked⟩
    | false => contradiction
  · cases ok with
    | true => exact ⟨howner false, hcalls⟩
    | false =>
      refine ⟨howner f.linked, ?_⟩
      show f.linked = true ↔ _
      rw [hlinked]
      exact hcalls

theorem stage_of_linked (hd : d.unlinked = false) : d.stage = .registering := by
  rw [DiskStorage.stage, hd]
  rfl

theorem stage_of_unlinked (hd : d.unlinked = true) : d.stage = .unlinked := by
  rw [DiskStorage.stage, hd]
  rfl

/-- `unlink` on a storage that has not called it. -/
theorem acts_unlink_call {after : DiskStorage → Owner} {stage : Stage} {ok : Bool}
    (hf : FileHolds f) (hheld : Held f d) (hd : d.unlinked = false) (hh : History f.calls stage)
    (hstage : stage ≠ .unlinked)
    (hafter : ∀ (g : TempFile) (d : DiskStorage), d.unlinked = true → Held g d →
      History g.calls .unlinked → OwnerHolds g (after d)) :
    Acts f (f.unlink d after ok).1 (f.unlink d after ok).2 := by
  have hcall : f.unlink d after ok =
      ({ f with owner := after { d with unlinked := true }, calls := f.calls ++ [.unlink ok] },
        if ok then some f.name else none) := by
    rw [TempFile.unlink, DiskStorage.unlink, hd, hheld.fileName]
    rfl
  rw [hcall]
  refine acts_unlink hf hh hstage (Or.inr hheld.opened) fun linked => ?_
  exact hafter _ _ rfl ⟨hheld.fd, hheld.fileName, hheld.opened, hheld.zeros⟩
    (hh.unlink hstage ok)

/-- `unlink` on a storage that has called it. -/
theorem acts_unlink_again {after : DiskStorage → Owner} {ok : Bool} (hf : FileHolds f)
    (hheld : Held f d) (hd : d.unlinked = true)
    (howner : OwnerHolds { f with owner := after d } (after d)) :
    Acts f (f.unlink d after ok).1 (f.unlink d after ok).2 := by
  have hcall : f.unlink d after ok = ({ f with owner := after d }, none) := by
    rw [TempFile.unlink, DiskStorage.unlink, hd]
    rfl
  rw [hcall]
  exact acts_of_owner hf (Or.inr hheld.opened) howner

theorem storage_unlinked (hd : d.unlinked = true) (hheld : Held f d)
    (hh : History f.calls .unlinked) : OwnerHolds f (.storage d) := by
  rw [OwnerHolds, stage_of_unlinked hd]
  exact ⟨hheld, hh⟩

theorem acts_setFlags {getfl setfl : Bool} (hf : FileHolds f)
    (h : f.act (.setFlags getfl setfl) = some (f', removed)) : Acts f f' removed := by
  have howner := hf.owner
  rw [TempFile.act] at h
  split at h
  next size zerofill hcase =>
    rw [hcase] at howner
    split at h
    · obtain ⟨rfl, rfl⟩ := Prod.mk.inj (Option.some.inj h)
      exact acts_of_owner hf (Or.inl howner.2.1) howner
    · obtain ⟨rfl, rfl⟩ := Prod.mk.inj (Option.some.inj h)
      exact ⟨rfl, rfl, rfl, rfl, fun hc => by contradiction, fun _ hc => by contradiction,
        Or.inl howner.2.1, ⟨⟨howner.2.1, howner.2.2⟩, hf.linked⟩⟩
  · contradiction

theorem acts_allocate {answers : AllocateAnswers} (hf : FileHolds f)
    (h : f.act (.allocate answers) = some (f', removed)) : Acts f f' removed := by
  have howner := hf.owner
  rw [TempFile.act] at h
  split at h
  next size zerofill hcase =>
    rw [hcase] at howner
    obtain ⟨hopened, hempty, hh⟩ := howner
    split at h
    next file hok =>
      rw [hempty] at hok
      obtain ⟨rfl, rfl⟩ := Prod.mk.inj (Option.some.inj h)
      have hfile := (allocateFile_iff.mp hok).2
      refine ⟨rfl, rfl, rfl, rfl, id, fun _ hc => by contradiction, Or.inl hempty,
        ⟨⟨?_, hh⟩, hf.linked⟩⟩
      refine ⟨rfl, rfl, hopened, ?_⟩
      show file.data = _
      rw [hfile]
      rfl
    next file e herror =>
      obtain ⟨rfl, rfl⟩ := Prod.mk.inj (Option.some.inj h)
      exact ⟨rfl, rfl, rfl, rfl, id, fun _ hc => by contradiction, Or.inl hempty,
        ⟨⟨_, hh⟩, hf.linked⟩⟩
  · contradiction

/-- Only a file that still has its name is registered. -/
theorem acts_register {ok : Bool} (hf : FileHolds f)
    (h : f.act (.register ok) = some (f', removed)) : Acts f f' removed := by
  have howner := hf.owner
  rw [TempFile.act] at h
  split at h
  next d hcase =>
    rw [hcase] at howner
    obtain ⟨hheld, hh⟩ := howner
    split at h
    · obtain ⟨rfl, rfl⟩ := Prod.mk.inj (Option.some.inj h)
      exact ⟨rfl, rfl, rfl, rfl, id, fun _ hc => by contradiction,
        Or.inr ⟨hheld.opened, hheld.opened, rfl⟩, hf⟩
    next hd =>
      have hd : d.unlinked = false := Bool.eq_false_iff.mpr hd
      rw [stage_of_linked hd] at hh
      have hlinked : f.linked = true := hh.linked hf (by simp)
      obtain ⟨rfl, rfl⟩ := Prod.mk.inj (Option.some.inj h)
      refine ⟨rfl, rfl, rfl, rfl, id, fun _ hc => by contradiction,
        Or.inr ⟨hheld.opened, hheld.opened, rfl⟩, ⟨?_, ?_⟩⟩
      · cases ok with
        | true =>
          refine ⟨⟨hheld.fd, hheld.fileName, hheld.opened, hheld.zeros⟩, hd, ?_⟩
          show History (f.calls ++ [.register f.linked true]) .registered
          rw [hlinked]
          exact hh.registered
        | false =>
          refine ⟨⟨hheld.fd, hheld.fileName, hheld.opened, hheld.zeros⟩, ?_⟩
          show History (f.calls ++ [.register f.linked false]) d.stage
          rw [hlinked, stage_of_linked hd]
          exact hh.refused
      · show f.linked = true ↔ Call.unlink true ∉ f.calls ++ [.register f.linked ok]
        rw [hf.linked]
        simp
  · contradiction

theorem acts_drop (hf : FileHolds f) (h : f.act .drop = some (f', removed)) :
    Acts f f' removed := by
  have howner := hf.owner
  rw [TempFile.act] at h
  split at h
  next d hcase =>
    rw [hcase] at howner
    obtain ⟨rfl, rfl⟩ := Prod.mk.inj (Option.some.inj h)
    exact acts_of_owner hf (Or.inr howner.1.opened)
      ⟨⟨howner.1.fd, howner.1.fileName, howner.1.opened, howner.1.zeros⟩, howner.2⟩
  · contradiction

/-- Whoever holds the file may call it, and the name goes with the first call. -/
theorem acts_of_unlink {ok : Bool} (hf : FileHolds f)
    (h : f.act (.unlink ok) = some (f', removed)) : Acts f f' removed := by
  have howner := hf.owner
  rw [TempFile.act] at h
  split at h
  next hcase =>
    rw [hcase] at howner
    obtain ⟨rfl, rfl⟩ := Prod.mk.inj (Option.some.inj h)
    exact acts_unlink hf howner.2 (by simp) (Or.inl howner.1) fun linked =>
      ⟨_, howner.2.unlink (by simp) ok⟩
  next d hcase =>
    rw [hcase] at howner
    obtain ⟨rfl, rfl⟩ := Prod.mk.inj (Option.some.inj h)
    by_cases hd : d.unlinked = true
    · exact acts_unlink_again hf howner.1 hd
        ⟨⟨howner.1.fd, howner.1.fileName, howner.1.opened, howner.1.zeros⟩, howner.2⟩
    · have hd : d.unlinked = false := Bool.eq_false_iff.mpr hd
      rw [OwnerHolds, stage_of_linked hd] at howner
      exact acts_unlink_call hf howner.1 hd howner.2 (by simp) fun _ _ => storage_unlinked
  next d hcase =>
    rw [hcase] at howner
    obtain ⟨rfl, rfl⟩ := Prod.mk.inj (Option.some.inj h)
    exact acts_unlink_call hf howner.1 howner.2.1 howner.2.2 (by simp) fun _ _ =>
      storage_unlinked
  next d hcase =>
    rw [hcase] at howner
    obtain ⟨rfl, rfl⟩ := Prod.mk.inj (Option.some.inj h)
    by_cases hd : d.unlinked = true
    · exact acts_unlink_again hf howner.1 hd ⟨_, howner.2⟩
    · have hd : d.unlinked = false := Bool.eq_false_iff.mpr hd
      rw [OwnerHolds, stage_of_linked hd] at howner
      exact acts_unlink_call hf howner.1 hd howner.2 (by simp) fun _ _ _ _ hh => ⟨_, hh⟩
  · contradiction

/-- What a call does to the file it is about. -/
theorem act_spec (hf : FileHolds f) (h : f.act a = some (f', removed)) : Acts f f' removed := by
  cases a with
  | setFlags getfl setfl => exact acts_setFlags hf h
  | allocate answers => exact acts_allocate hf h
  | register ok => exact acts_register hf h
  | drop => exact acts_drop hf h
  | unlink ok => exact acts_of_unlink hf h

end PdDisaggregation.Disk
