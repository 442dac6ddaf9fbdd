import Mathlib.Algebra.Order.Ring.Nat

/-! Allocating the file of a KVBM disk cache (`runtime-kvbm-disk.rs`): `fallocate`, or
where the filesystem has none, writing zeros or only setting the length. -/

namespace PdDisaggregation.Disk

/-- A file's bytes, of which the first `backed` have space on the disk. -/
structure File where
  data : List UInt8
  backed : Nat
  deriving DecidableEq

namespace File

def empty : File := ⟨[], 0⟩

def zeros (size backed : Nat) : File := ⟨List.replicate size 0, backed⟩

def extend (f : File) (size : Nat) : List UInt8 :=
  f.data ++ List.replicate (size - f.data.length) 0

def fallocate (f : File) (size : Nat) : File := ⟨f.extend size, max f.backed size⟩

def ftruncate (f : File) (size : Nat) : File := ⟨(f.extend size).take size, min f.backed size⟩

/-- A write of zeros at the end. -/
def writeZeros (f : File) (n : Nat) : File := ⟨f.data ++ List.replicate n 0, f.backed + n⟩

end File

inductive FallocateAnswer where
  | done
  | notSupported
  | failed (errno : Nat)
  deriving DecidableEq

inductive WriteAnswer where
  | wrote (n : Nat)
  | failed (errno : Option Nat)
  deriving DecidableEq

/-- What the system answers. A write is known by its number and by what it asks for. -/
structure AllocateAnswers where
  fallocate : FallocateAnswer
  dup : Bool
  writes : Nat → Nat → WriteAnswer
  ftruncate : Bool

inductive AllocateError where
  | fallocate (errno : Nat)
  | dup
  | partialWrite (expected wrote total size : Nat)
  | write (errno : Option Nat)
  | truncate
  deriving DecidableEq

def zeroBufSize : Nat := 16 * 1024 * 1024

def pageSize : Nat := 4096

/-- `div_ceil(PAGE_SIZE) * PAGE_SIZE`. -/
def pageAligned (n : Nat) : Nat := (n + (pageSize - 1)) / pageSize * pageSize

/-- The length of `create_aligned_buffer(ZERO_BUF_SIZE)`. -/
def bufLen : Nat := pageAligned zeroBufSize

def toWrite (size written : Nat) : Nat :=
  if bufLen ≤ size - written then bufLen else min (pageAligned (size - written)) bufLen

theorem pageAligned_eq (n : Nat) : pageAligned n = (n + 4095) / 4096 * 4096 := rfl

theorem bufLen_eq : bufLen = 16777216 := rfl

theorem toWrite_pos {size written : Nat} (h : written < size) : 0 < toWrite size written := by
  rw [toWrite, bufLen_eq, pageAligned_eq]
  split
  · omega
  · omega

/-- The loop that writes zeros, after `k` writes; its result is what was written. -/
def zeroFill (writes : Nat → Nat → WriteAnswer) (size k written : Nat) (f : File) :
    File × Except AllocateError Nat :=
  if _h : written < size then
    match writes k (toWrite size written) with
    | .wrote n =>
      if _hn : n ≠ toWrite size written then
        (f.writeZeros n, .error (.partialWrite (toWrite size written) n (written + n) size))
      else zeroFill writes size (k + 1) (written + n) (f.writeZeros n)
    | .failed errno => (f, .error (.write errno))
  else (f, .ok written)
termination_by size - written
decreasing_by
  have hpos := toWrite_pos _h
  omega

/-- The kernel refuses a length that is not positive as an `i64`. -/
def fallocateCall (answer : FallocateAnswer) (size : Nat) : FallocateAnswer :=
  if size = 0 ∨ 2 ^ 63 ≤ size then .failed 22 else answer

/-- After the writes the file is cut to its size, if they went beyond it. -/
def zeroFillFile (answers : AllocateAnswers) (size : Nat) (f : File) :
    File × Except AllocateError Unit :=
  if answers.dup then
    match zeroFill answers.writes size 0 0 f with
    | (f, .ok written) =>
      if size < written then
        if answers.ftruncate then (f.ftruncate size, .ok ()) else (f, .error .truncate)
      else (f, .ok ())
    | (f, .error e) => (f, .error e)
  else (f, .error .dup)

/-- `zerofill` says whether the fallback is chosen in the environment. -/
def allocateFile (answers : AllocateAnswers) (zerofill : Bool) (size : Nat) (f : File) :
    File × Except AllocateError Unit :=
  match fallocateCall answers.fallocate size with
  | .done => (f.fallocate size, .ok ())
  | .failed errno => (f, .error (.fallocate errno))
  | .notSupported =>
    if zerofill then zeroFillFile answers size f
    else if answers.ftruncate then (f.ftruncate size, .ok ())
    else (f, .error .truncate)

variable {answers : AllocateAnswers} {writes : Nat → Nat → WriteAnswer} {zerofill : Bool}
  {size k n total : Nat} {f g : File}

/-- A write asks for whole pages. -/
theorem toWrite_aligned (size written : Nat) : pageSize ∣ toWrite size written := by
  have hpage (n : Nat) : pageSize ∣ pageAligned n := Nat.dvd_mul_left _ _
  rw [toWrite]
  split
  · exact hpage _
  · rw [min_def]
    split
    · exact hpage _
    · exact hpage _

/-- How many writes there are. -/
def chunks (size : Nat) : Nat := (size + (bufLen - 1)) / bufLen

theorem chunks_eq (size : Nat) : chunks size = (size + 16777215) / 16777216 := rfl

theorem lt_chunks : k < chunks size ↔ k * bufLen < size := by
  rw [chunks_eq, bufLen_eq]
  omega

/-- The write that follows `k` full ones; it is the last unless it is full too. -/
theorem toWrite_full (h : (k + 1) * bufLen ≤ size) : toWrite size (k * bufLen) = bufLen := by
  rw [toWrite, if_pos]
  rw [bufLen_eq] at h ⊢
  omega

theorem toWrite_last (h : k * bufLen < size) (hlast : size < (k + 1) * bufLen) :
    k * bufLen + toWrite size (k * bufLen) = pageAligned size := by
  rw [bufLen_eq] at h hlast
  rw [toWrite, bufLen_eq, if_neg (by omega), pageAligned_eq, pageAligned_eq]
  omega

theorem pageAligned_of_full (h : size = k * bufLen) : pageAligned size = k * bufLen := by
  rw [pageAligned_eq, h, bufLen_eq]
  omega

theorem zeroFill_done (h : size ≤ n) : zeroFill writes size k n f = (f, .ok n) := by
  rw [zeroFill, dif_neg (by omega)]

theorem zeroFill_step {written : Nat} (h : written < size)
    (hwrote : writes k (toWrite size written) = .wrote (toWrite size written)) :
    zeroFill writes size k written f =
      zeroFill writes size (k + 1) (written + toWrite size written)
        (f.writeZeros (toWrite size written)) := by
  rw [zeroFill, dif_pos h, hwrote]
  exact dif_neg (fun hne => hne rfl)

theorem zeroFill_stop {written : Nat} (h : written < size)
    (hstop : writes k (toWrite size written) ≠ .wrote (toWrite size written)) :
    zeroFill writes size k written f ≠ (g, .ok total) := by
  rw [zeroFill, dif_pos h]
  split
  next n hn =>
    have hne : n ≠ toWrite size written := by
      rintro rfl
      exact hstop hn
    rw [dif_pos hne]
    simp
  · simp

theorem le_pageAligned (size : Nat) : size ≤ pageAligned size := by
  rw [pageAligned_eq]
  omega

theorem writeZeros_add (f : File) (m n : Nat) :
    (f.writeZeros m).writeZeros n = f.writeZeros (m + n) := by
  simp only [File.writeZeros, List.append_assoc, List.replicate_append_replicate, Nat.add_assoc]

theorem writeZeros_zero (f : File) : f.writeZeros 0 = f := by simp [File.writeZeros]

/-- The `k`-th write does all it is asked to. -/
def WroteAll (writes : Nat → Nat → WriteAnswer) (size k : Nat) : Prop :=
  writes k (toWrite size (k * bufLen)) = .wrote (toWrite size (k * bufLen))

def WroteEvery (writes : Nat → Nat → WriteAnswer) (size : Nat) : Prop :=
  ∀ k < chunks size, WroteAll writes size k

theorem wroteAll_from (h : k < chunks size) :
    (∀ i, k ≤ i → i < chunks size → WroteAll writes size i) ↔
      WroteAll writes size k ∧ ∀ i, k + 1 ≤ i → i < chunks size → WroteAll writes size i := by
  constructor
  · intro hall
    exact ⟨hall k (Nat.le_refl k) h, fun i hi => hall i (by omega)⟩
  · rintro ⟨hk, hall⟩ i hi hlt
    rcases Nat.eq_or_lt_of_le hi with rfl | hgt
    · exact hk
    · exact hall i hgt hlt

/-- The writes from the `k`-th on are all full, and `total` and `g` are what they lead to. -/
def FilledFrom (writes : Nat → Nat → WriteAnswer) (size k : Nat) (f g : File) (total : Nat) :
    Prop :=
  (∀ i, k ≤ i → i < chunks size → WroteAll writes size i) ∧
    total = pageAligned size ∧ g = f.writeZeros (pageAligned size - k * bufLen)

theorem filledFrom_end (heq : size = k * bufLen) :
    FilledFrom writes size k f g total ↔ total = k * bufLen ∧ g = f := by
  have hnone : ∀ i, k ≤ i → ¬ i < chunks size := by
    intro i hi hlt
    have hmul : k * bufLen ≤ i * bufLen := Nat.mul_le_mul_right _ hi
    have hsize := lt_chunks.mp hlt
    omega
  rw [FilledFrom, pageAligned_of_full heq, Nat.sub_self, writeZeros_zero]
  constructor
  · exact fun hall => hall.2
  · exact fun hdone => ⟨fun i hi hlt => absurd hlt (hnone i hi), hdone⟩

theorem filledFrom_full (hfull : (k + 1) * bufLen ≤ size) (hwrote : WroteAll writes size k) :
    FilledFrom writes size k f g total ↔
      FilledFrom writes size (k + 1) (f.writeZeros bufLen) g total := by
  have hlt : k < chunks size := by
    rw [lt_chunks]
    rw [bufLen_eq] at hfull ⊢
    omega
  have hle := le_pageAligned size
  have hsum : bufLen + (pageAligned size - (k + 1) * bufLen) = pageAligned size - k * bufLen := by
    rw [bufLen_eq] at hfull ⊢
    omega
  rw [FilledFrom, FilledFrom, wroteAll_from hlt, writeZeros_add, hsum]
  constructor
  · rintro ⟨⟨-, hall⟩, hrest⟩
    exact ⟨hall, hrest⟩
  · rintro ⟨hall, hrest⟩
    exact ⟨⟨hwrote, hall⟩, hrest⟩

theorem filledFrom_last (hlt : k * bufLen < size) (hlast : size < (k + 1) * bufLen)
    (hwrote : WroteAll writes size k) :
    FilledFrom writes size k f g total ↔
      total = pageAligned size ∧ g = f.writeZeros (toWrite size (k * bufLen)) := by
  have hwritten := toWrite_last hlt hlast
  have hsub : pageAligned size - k * bufLen = toWrite size (k * bufLen) := by omega
  have hnone : ∀ i, k + 1 ≤ i → ¬ i < chunks size := by
    intro i hi hlt
    have hmul : (k + 1) * bufLen ≤ i * bufLen := Nat.mul_le_mul_right _ hi
    have hsize := lt_chunks.mp hlt
    omega
  rw [FilledFrom, wroteAll_from (lt_chunks.mpr hlt), hsub]
  constructor
  · exact fun hall => hall.2
  · exact fun hdone => ⟨⟨hwrote, fun i hi hlt => absurd hlt (hnone i hi)⟩, hdone⟩

/-- The loop ends without an error when every write does all it is asked to. -/
theorem zeroFill_from (h : size ≤ k * bufLen + n * bufLen) (hk : k * bufLen ≤ size) :
    zeroFill writes size k (k * bufLen) f = (g, .ok total) ↔
      FilledFrom writes size k f g total := by
  induction n generalizing k f with
  | zero =>
    have heq : size = k * bufLen := by omega
    rw [filledFrom_end heq, zeroFill_done (by omega), Prod.mk.injEq, Except.ok.injEq, eq_comm,
      and_comm, eq_comm]
  | succ n ih =>
    rcases Nat.eq_or_lt_of_le hk with heq | hlt
    · exact ih (by omega) hk
    by_cases hwrote : WroteAll writes size k
    · rw [zeroFill_step hlt hwrote]
      by_cases hfull : (k + 1) * bufLen ≤ size
      · have hnext : k * bufLen + bufLen = (k + 1) * bufLen := (Nat.succ_mul k bufLen).symm
        rw [filledFrom_full hfull hwrote, toWrite_full hfull, hnext]
        refine ih ?_ hfull
        simp only [Nat.add_mul] at h ⊢
        omega
      · rw [filledFrom_last hlt (by omega) hwrote, toWrite_last hlt (by omega),
          zeroFill_done (le_pageAligned size), Prod.mk.injEq, Except.ok.injEq, eq_comm, and_comm,
          eq_comm]
    · constructor
      · exact fun hok => absurd hok (zeroFill_stop hlt hwrote)
      · exact fun hall => absurd (hall.1 k (Nat.le_refl k) (lt_chunks.mpr hlt)) hwrote

/-- What the allocation of a file of that size needs. -/
def CanAllocate (answers : AllocateAnswers) (zerofill : Bool) (size : Nat) : Prop :=
  0 < size ∧ size < 2 ^ 63 ∧
    (answers.fallocate = .done ∨
      answers.fallocate = .notSupported ∧
        if zerofill then
          answers.dup = true ∧ WroteEvery answers.writes size ∧
            (size < pageAligned size → answers.ftruncate = true)
        else answers.ftruncate = true)

/-- The file that comes of it: without `fallocate` and zeros no space is set aside. -/
def allocated (answers : AllocateAnswers) (zerofill : Bool) (size : Nat) : File :=
  .zeros size (if answers.fallocate = .done ∨ zerofill then size else 0)

theorem fallocateCall_done {answer : FallocateAnswer} :
    fallocateCall answer size = .done ↔ (0 < size ∧ size < 2 ^ 63) ∧ answer = .done := by
  rw [fallocateCall]
  split
  · simp
    omega
  · have hsize : 0 < size ∧ size < 2 ^ 63 := by omega
    exact (and_iff_right hsize).symm

theorem fallocateCall_notSupported {answer : FallocateAnswer} :
    fallocateCall answer size = .notSupported ↔
      (0 < size ∧ size < 2 ^ 63) ∧ answer = .notSupported := by
  rw [fallocateCall]
  split
  · simp
    omega
  · have hsize : 0 < size ∧ size < 2 ^ 63 := by omega
    exact (and_iff_right hsize).symm

theorem empty_fallocate (size : Nat) : File.empty.fallocate size = .zeros size size := by
  simp [File.fallocate, File.extend, File.empty, File.zeros]

theorem empty_ftruncate (size : Nat) : File.empty.ftruncate size = .zeros size 0 := by
  simp [File.ftruncate, File.extend, File.empty, File.zeros]

theorem filled_ftruncate {written : Nat} (h : size ≤ written) :
    (File.empty.writeZeros written).ftruncate size = .zeros size size := by
  simp [File.ftruncate, File.extend, File.empty, File.zeros, File.writeZeros, h]

theorem empty_writeZeros (size : Nat) : File.empty.writeZeros size = .zeros size size := by
  simp [File.writeZeros, File.empty, File.zeros]

theorem zeroFill_all :
    zeroFill writes size 0 0 .empty = (g, .ok total) ↔
      WroteEvery writes size ∧ total = pageAligned size ∧
        g = File.empty.writeZeros (pageAligned size) := by
  have hsize : size ≤ 0 * bufLen + size * bufLen := by
    rw [bufLen_eq]
    omega
  have hfrom : zeroFill writes size 0 (0 * bufLen) .empty = (g, .ok total) ↔
      FilledFrom writes size 0 .empty g total := zeroFill_from hsize (by omega)
  rw [Nat.zero_mul] at hfrom
  simp only [hfrom, FilledFrom, WroteEvery, Nat.zero_le, forall_const, Nat.zero_mul, Nat.sub_zero]

theorem zeroFillFile_ok :
    zeroFillFile answers size .empty = (g, .ok ()) ↔
      (answers.dup = true ∧ WroteEvery answers.writes size ∧
        (size < pageAligned size → answers.ftruncate = true)) ∧ g = .zeros size size := by
  rw [zeroFillFile]
  by_cases hdup : answers.dup = true
  · rw [if_pos hdup]
    have hfill (f : File) (written : Nat) :
        zeroFill answers.writes size 0 0 .empty = (f, .ok written) ↔
          WroteEvery answers.writes size ∧ written = pageAligned size ∧
            f = File.empty.writeZeros (pageAligned size) := zeroFill_all
    split
    next f written hok =>
      obtain ⟨hall, rfl, rfl⟩ := (hfill f written).mp hok
      split
      next hlt =>
        split
        next htruncate => simp [hdup, hall, htruncate, filled_ftruncate hlt.le, eq_comm]
        next htruncate => simp [hlt, htruncate]
      next hge =>
        have hsize : pageAligned size = size := by
          have hle := le_pageAligned size
          omega
        simp only [hsize, empty_writeZeros, hdup, hall, lt_irrefl, false_imp_iff, Prod.mk.injEq,
          and_true, true_and]
        exact eq_comm
    next f e herror =>
      have hnot : ¬ WroteEvery answers.writes size := by
        intro hall
        have hok := (hfill _ _).mpr ⟨hall, rfl, rfl⟩
        rw [herror] at hok
        simp at hok
      simp [hnot]
  · rw [if_neg hdup]
    simp [hdup]

theorem allocateFile_iff :
    allocateFile answers zerofill size .empty = (g, .ok ()) ↔
      CanAllocate answers zerofill size ∧ g = allocated answers zerofill size := by
  have hdone : fallocateCall answers.fallocate size = .done ↔
      (0 < size ∧ size < 2 ^ 63) ∧ answers.fallocate = .done := fallocateCall_done
  have hnot : fallocateCall answers.fallocate size = .notSupported ↔
      (0 < size ∧ size < 2 ^ 63) ∧ answers.fallocate = .notSupported := fallocateCall_notSupported
  rw [allocateFile, CanAllocate, allocated]
  cases hcall : fallocateCall answers.fallocate size with
  | done =>
    obtain ⟨hsize, hfallocate⟩ := hdone.mp hcall
    simp only [empty_fallocate, hfallocate, hsize, true_or, true_and, if_true, Prod.mk.injEq,
      and_true]
    exact eq_comm
  | failed errno =>
    have hnone : ¬ ((0 < size ∧ size < 2 ^ 63) ∧
        (answers.fallocate = .done ∨ answers.fallocate = .notSupported)) := by
      rintro ⟨hsize, hfallocate | hfallocate⟩
      · rw [hdone.mpr ⟨hsize, hfallocate⟩] at hcall
        contradiction
      · rw [hnot.mpr ⟨hsize, hfallocate⟩] at hcall
        contradiction
    constructor
    · intro h
      simp at h
    · rintro ⟨⟨hpos, hlt, hfallocate | ⟨hfallocate, -⟩⟩, -⟩
      · exact absurd ⟨⟨hpos, hlt⟩, Or.inl hfallocate⟩ hnone
      · exact absurd ⟨⟨hpos, hlt⟩, Or.inr hfallocate⟩ hnone
  | notSupported =>
    obtain ⟨⟨hpos, hlt⟩, hfallocate⟩ := hnot.mp hcall
    cases zerofill with
    | true =>
      simp only [if_true, zeroFillFile_ok, hfallocate, hpos, hlt, reduceCtorEq, false_or, true_and,
        or_true]
    | false =>
      by_cases htruncate : answers.ftruncate = true
      · simp only [hfallocate, hpos, hlt, htruncate, empty_ftruncate, Bool.false_eq_true, if_false,
          if_true, reduceCtorEq, or_self, false_or, Prod.mk.injEq, and_true, and_self, true_and]
        exact eq_comm
      · simp [hfallocate, htruncate]

/-- A writer that takes whole pages only. -/
def strictWriter (_ n : Nat) : WriteAnswer := if n % pageSize = 0 then .wrote n else .failed (some 22)

theorem wroteEvery_strict (size : Nat) : WroteEvery strictWriter size :=
  fun _ _ => if_pos (Nat.mod_eq_zero_of_dvd (toWrite_aligned _ _))

/-- An allocation succeeds exactly when the system does its part, and leaves `size` zeros. To
write them it needs no more than whole pages, of any size. -/
theorem allocateFile_ok :
    (allocateFile answers zerofill size .empty = (g, .ok ()) ↔
      CanAllocate answers zerofill size ∧ g = allocated answers zerofill size) ∧
    (0 < size → size < 2 ^ 63 →
      allocateFile ⟨.notSupported, true, strictWriter, true⟩ true size .empty =
        (.zeros size size, .ok ())) := by
  refine ⟨allocateFile_iff, fun hpos hlt => ?_⟩
  rw [allocateFile_iff]
  refine ⟨⟨hpos, hlt, Or.inr ⟨rfl, ?_⟩⟩, ?_⟩
  · exact ⟨rfl, wroteEvery_strict size, fun _ => rfl⟩
  · simp [allocated]

theorem allocateFile_ok_page :
    allocateFile ⟨.notSupported, true, strictWriter, true⟩ true 5000 .empty =
      (.zeros 5000 5000, .ok ()) := by
  have hboth (g : File) :
      (allocateFile ⟨.done, true, strictWriter, true⟩ true 5000 .empty = (g, .ok ()) ↔ _) ∧ _ :=
    allocateFile_ok
  exact (hboth .empty).2 (by decide) (by decide)

end PdDisaggregation.Disk
