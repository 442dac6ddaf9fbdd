import PdDisaggregation.Machine
import Mathlib.Logic.Function.Basic
import Mathlib.Data.List.Basic

/-! The blob download of the resumable registry pull, command by command, and
the containerd snapshot that writes the same partial files. -/

namespace PdDisaggregation

abbrev Bytes := List UInt8

/-- The files of the work directory by the hex part of their digest: the
installed blobs, the partials and the copies taken out of containerd. -/
structure WorkDir where
  blobs : String → Option Bytes
  partials : String → Option Bytes
  candidates : String → Option Bytes

structure BlobRequest where
  hex : String
  expectedSize : Nat

/-- The commands of `download_blob`. Those from `stat` on form its retry loop.
`compare` holds the `current_size` just read, `transfer` the offset a running
`curl` asked to resume from, whether its output is open, and how much it has
written since. -/
inductive PullPoint where
  | checkFinal
  | contentGet
  | checkCandidate
  | installCandidate
  | removeCandidate
  | seedIngest
  | discardOversized
  | touchPartial
  | stat
  | compare (currentSize : Nat)
  | install
  | removePartial
  | retouch
  | connect
  | transfer (resumeAt : Nat) (opened : Bool) (written : Nat)
  | returned
  deriving DecidableEq

structure PullState where
  dir : WorkDir
  point : PullPoint
  attempt : Nat

/-- What happens next: the script's own command, or an answer from outside.
`content` is the outcome of `ctr content get`, `ingest` the data file found in
containerd's ingest directory, `receive` bytes that `curl` writes, and `retry` a
transfer that `curl` starts again by itself. -/
inductive PullAction where
  | next
  | content (ok : Bool) (output : Bytes)
  | ingest (data : Option Bytes)
  | receive (bytes : Bytes)
  | retry
  | curlExit

def fileSize (file : Option Bytes) : Nat := (file.map List.length).getD 0

def WorkDir.setBlob (d : WorkDir) (hex : String) (file : Option Bytes) : WorkDir :=
  { d with blobs := Function.update d.blobs hex file }

def WorkDir.setPartial (d : WorkDir) (hex : String) (file : Option Bytes) : WorkDir :=
  { d with partials := Function.update d.partials hex file }

def WorkDir.setCandidate (d : WorkDir) (hex : String) (file : Option Bytes) : WorkDir :=
  { d with candidates := Function.update d.candidates hex file }

def overwriteAt (file : Bytes) (position : Nat) (bytes : Bytes) : Bytes :=
  file.take position ++ bytes ++ file.drop (position + bytes.length)

/-- What a write of `curl` makes of its output file. Output that resumes is open
for appending from the start. Without an offset it is opened, and emptied, when
the first bytes come, and written from its first byte on. -/
def curlWrite (resumeAt : Nat) (opened : Bool) (written : Nat) (file bytes : Bytes) : Bytes :=
  if resumeAt ≠ 0 then file ++ bytes
  else if opened then overwriteAt file written bytes
  else bytes

def PullState.goto (s : PullState) (p : PullPoint) : PullState := { s with point := p }

section

variable (sha256sum : Bytes → String) (req : BlobRequest)

def verified (file : Option Bytes) : Bool :=
  match file with
  | some bytes => bytes.length == req.expectedSize && sha256sum bytes == req.hex
  | none => false

/-- The body of `snapshot-containerd-ingest.sh` for one ingest entry. The
download makes the same comparison before its retry loop. -/
def saveIngest (d : WorkDir) (hex : String) (data : Bytes) : WorkDir :=
  if fileSize (d.partials hex) < data.length then d.setPartial hex (some data) else d

/-- The script's own commands. A file operation on a missing file fails, and
`set -e` then ends the script. -/
def pullNext (s : PullState) : Option PullState :=
  match s.point with
  | .checkFinal =>
    some (s.goto (if verified sha256sum req (s.dir.blobs req.hex) then .returned else .contentGet))
  | .checkCandidate =>
    some (s.goto (if verified sha256sum req (s.dir.candidates req.hex)
      then .installCandidate else .removeCandidate))
  | .installCandidate =>
    (s.dir.candidates req.hex).map fun bytes =>
      { s with
        dir := (s.dir.setBlob req.hex (some bytes)).setCandidate req.hex none
        point := .returned }
  | .removeCandidate =>
    some { s with dir := s.dir.setCandidate req.hex none, point := .seedIngest }
  | .discardOversized =>
    some { s with
      dir := if req.expectedSize < fileSize (s.dir.partials req.hex)
        then s.dir.setPartial req.hex none else s.dir
      point := .touchPartial }
  | .touchPartial =>
    some { s with
      dir := s.dir.setPartial req.hex (some ((s.dir.partials req.hex).getD []))
      point := .stat }
  | .stat =>
    (s.dir.partials req.hex).map fun bytes => s.goto (.compare bytes.length)
  | .compare currentSize =>
    if currentSize = req.expectedSize then
      (s.dir.partials req.hex).map fun bytes =>
        s.goto (if sha256sum bytes == req.hex then .install else .removePartial)
    else some (s.goto .connect)
  | .install =>
    (s.dir.partials req.hex).map fun bytes =>
      { s with
        dir := (s.dir.setBlob req.hex (some bytes)).setPartial req.hex none
        point := .returned }
  | .removePartial =>
    some { s with dir := s.dir.setPartial req.hex none, point := .retouch }
  | .retouch =>
    some { s with
      dir := s.dir.setPartial req.hex (some ((s.dir.partials req.hex).getD []))
      point := .connect }
  | .connect =>
    -- `--continue-at -`: curl itself reads the size it resumes from
    let resumeAt := fileSize (s.dir.partials req.hex)
    some { s with point := .transfer resumeAt (resumeAt != 0) 0, attempt := s.attempt + 1 }
  | _ => none

def pullStep (s : PullState) : PullAction → Option PullState
  | .next => pullNext sha256sum req s
  | .content ok output =>
    match s.point with
    | .contentGet =>
      some { s with
        dir := s.dir.setCandidate req.hex (some output)
        point := if ok then .checkCandidate else .removeCandidate }
    | _ => none
  | .ingest data =>
    match s.point with
    | .seedIngest =>
      some { s with
        dir := match data with
          | some bytes => saveIngest s.dir req.hex bytes
          | none => s.dir
        point := .discardOversized }
    | _ => none
  | .receive bytes =>
    match s.point with
    | .transfer resumeAt opened written =>
      some { s with
        dir := s.dir.setPartial req.hex
          (some (curlWrite resumeAt opened written ((s.dir.partials req.hex).getD []) bytes))
        point := .transfer resumeAt true (written + bytes.length) }
    | _ => none
  | .retry =>
    match s.point with
    | .transfer resumeAt opened written =>
      -- it throws away what it has written, back to the offset it resumed from
      some { s with
        dir := if written = 0 then s.dir else
          s.dir.setPartial req.hex (some (((s.dir.partials req.hex).getD []).take resumeAt))
        point := .transfer resumeAt opened 0 }
    | _ => none
  | .curlExit =>
    match s.point with
    | .transfer _ _ _ => some (s.goto .stat)
    | _ => none

def downloadBlob (d : WorkDir) : PullState := ⟨d, .checkFinal, 0⟩

def PullPoint.inLoop : PullPoint → Bool
  | .touchPartial | .stat | .compare _ | .install | .removePartial | .retouch | .connect
  | .transfer _ _ _ => true
  | _ => false

inductive WriterAction where
  | pull (a : PullAction)
  | snapshot (hex : String) (data : Bytes)

def writersStep (s : PullState) : WriterAction → Option PullState
  | .pull a => pullStep sha256sum req s a
  | .snapshot hex data => some { s with dir := saveIngest s.dir hex data }

def Installed (d : WorkDir) : Prop := verified sha256sum req (d.blobs req.hex) = true

inductive PullTrans : PullState → PullAction → PullState → Prop where
  | alreadyComplete (d n) (h : Installed sha256sum req d) :
      PullTrans ⟨d, .checkFinal, n⟩ .next ⟨d, .returned, n⟩
  | notComplete (d n) (h : ¬ Installed sha256sum req d) :
      PullTrans ⟨d, .checkFinal, n⟩ .next ⟨d, .contentGet, n⟩
  | contentFound (d n output) : PullTrans ⟨d, .contentGet, n⟩ (.content true output)
      ⟨d.setCandidate req.hex (some output), .checkCandidate, n⟩
  | contentFails (d n output) : PullTrans ⟨d, .contentGet, n⟩ (.content false output)
      ⟨d.setCandidate req.hex (some output), .removeCandidate, n⟩
  | candidateAgrees (d n) (h : verified sha256sum req (d.candidates req.hex) = true) :
      PullTrans ⟨d, .checkCandidate, n⟩ .next ⟨d, .installCandidate, n⟩
  | candidateDiffers (d n) (h : verified sha256sum req (d.candidates req.hex) ≠ true) :
      PullTrans ⟨d, .checkCandidate, n⟩ .next ⟨d, .removeCandidate, n⟩
  | installCandidate (d n bytes) (h : d.candidates req.hex = some bytes) :
      PullTrans ⟨d, .installCandidate, n⟩ .next
        ⟨(d.setBlob req.hex (some bytes)).setCandidate req.hex none, .returned, n⟩
  | removeCandidate (d n) : PullTrans ⟨d, .removeCandidate, n⟩ .next
      ⟨d.setCandidate req.hex none, .seedIngest, n⟩
  | noIngest (d n) : PullTrans ⟨d, .seedIngest, n⟩ (.ingest none) ⟨d, .discardOversized, n⟩
  | seedIngest (d n data) : PullTrans ⟨d, .seedIngest, n⟩ (.ingest (some data))
      ⟨saveIngest d req.hex data, .discardOversized, n⟩
  | discardOversized (d n) (h : req.expectedSize < fileSize (d.partials req.hex)) :
      PullTrans ⟨d, .discardOversized, n⟩ .next ⟨d.setPartial req.hex none, .touchPartial, n⟩
  | keepPartial (d n) (h : ¬ req.expectedSize < fileSize (d.partials req.hex)) :
      PullTrans ⟨d, .discardOversized, n⟩ .next ⟨d, .touchPartial, n⟩
  | touchPartial (d n) : PullTrans ⟨d, .touchPartial, n⟩ .next
      ⟨d.setPartial req.hex (some ((d.partials req.hex).getD [])), .stat, n⟩
  | stat (d n bytes) (h : d.partials req.hex = some bytes) :
      PullTrans ⟨d, .stat, n⟩ .next ⟨d, .compare bytes.length, n⟩
  | sizeDiffers (d n currentSize) (h : currentSize ≠ req.expectedSize) :
      PullTrans ⟨d, .compare currentSize, n⟩ .next ⟨d, .connect, n⟩
  | checksumAgrees (d n bytes) (h : d.partials req.hex = some bytes)
      (hsum : sha256sum bytes = req.hex) :
      PullTrans ⟨d, .compare req.expectedSize, n⟩ .next ⟨d, .install, n⟩
  | checksumDiffers (d n bytes) (h : d.partials req.hex = some bytes)
      (hsum : sha256sum bytes ≠ req.hex) :
      PullTrans ⟨d, .compare req.expectedSize, n⟩ .next ⟨d, .removePartial, n⟩
  | install (d n bytes) (h : d.partials req.hex = some bytes) :
      PullTrans ⟨d, .install, n⟩ .next
        ⟨(d.setBlob req.hex (some bytes)).setPartial req.hex none, .returned, n⟩
  | removePartial (d n) : PullTrans ⟨d, .removePartial, n⟩ .next
      ⟨d.setPartial req.hex none, .retouch, n⟩
  | retouch (d n) : PullTrans ⟨d, .retouch, n⟩ .next
      ⟨d.setPartial req.hex (some ((d.partials req.hex).getD [])), .connect, n⟩
  | connect (d n) : PullTrans ⟨d, .connect, n⟩ .next
      ⟨d, .transfer (fileSize (d.partials req.hex)) (fileSize (d.partials req.hex) != 0) 0, n + 1⟩
  | receive (d n k o m bytes) : PullTrans ⟨d, .transfer k o m, n⟩ (.receive bytes)
      ⟨d.setPartial req.hex (some (curlWrite k o m ((d.partials req.hex).getD []) bytes)),
        .transfer k true (m + bytes.length), n⟩
  | retryAgain (d n k o) : PullTrans ⟨d, .transfer k o 0, n⟩ .retry ⟨d, .transfer k o 0, n⟩
  | retryCut (d n k o m) (h : m ≠ 0) : PullTrans ⟨d, .transfer k o m, n⟩ .retry
      ⟨d.setPartial req.hex (some (((d.partials req.hex).getD []).take k)), .transfer k o 0, n⟩
  | curlExit (d n k o m) : PullTrans ⟨d, .transfer k o m, n⟩ .curlExit ⟨d, .stat, n⟩

end

variable {d : WorkDir} {hex hex' : String} {file : Option Bytes} {s : PullState} {p : PullPoint}

@[simp] theorem setBlob_partials : (d.setBlob hex file).partials = d.partials := rfl
@[simp] theorem setBlob_candidates : (d.setBlob hex file).candidates = d.candidates := rfl
@[simp] theorem setPartial_blobs : (d.setPartial hex file).blobs = d.blobs := rfl
@[simp] theorem setPartial_candidates : (d.setPartial hex file).candidates = d.candidates := rfl
@[simp] theorem setCandidate_blobs : (d.setCandidate hex file).blobs = d.blobs := rfl
@[simp] theorem setCandidate_partials : (d.setCandidate hex file).partials = d.partials := rfl
@[simp] theorem setBlob_blobs_same : (d.setBlob hex file).blobs hex = file := by simp [WorkDir.setBlob]
@[simp] theorem setPartial_same : (d.setPartial hex file).partials hex = file := by
  simp [WorkDir.setPartial]
@[simp] theorem goto_dir : (s.goto p).dir = s.dir := rfl
@[simp] theorem goto_point : (s.goto p).point = p := rfl
@[simp] theorem fileSize_some (bytes : Bytes) : fileSize (some bytes) = bytes.length := rfl
@[simp] theorem fileSize_none : fileSize none = 0 := rfl

theorem fileSize_eq_getD (file : Option Bytes) : fileSize file = (file.getD []).length := by
  cases file <;> rfl

theorem le_length_overwriteAt (content bytes : Bytes) (position : Nat) :
    content.length ≤ (overwriteAt content position bytes).length := by
  simp only [overwriteAt, List.length_append, List.length_take, List.length_drop]
  omega

theorem length_overwriteAt_le (content bytes : Bytes) (position : Nat) :
    (overwriteAt content position bytes).length ≤
      max content.length (position + bytes.length) := by
  simp only [overwriteAt, List.length_append, List.length_take, List.length_drop]
  omega

theorem length_curlWrite_le (resumeAt : Nat) (opened : Bool) (written : Nat)
    (content bytes : Bytes) :
    (curlWrite resumeAt opened written content bytes).length ≤ max content.length
      ((if resumeAt = 0 then written else content.length) + bytes.length) := by
  by_cases hk : resumeAt = 0
  · cases opened with
    | true => simpa [curlWrite, hk] using length_overwriteAt_le content bytes written
    | false =>
      subst hk
      have hnew : bytes.length ≤ written + bytes.length := Nat.le_add_left _ _
      exact Nat.le_trans hnew (Nat.le_max_right _ _)
  · simp [curlWrite, hk]

/-- With nobody else writing, `curl` appends. -/
theorem curlWrite_connect (content bytes : Bytes) :
    curlWrite content.length (content.length != 0) 0 content bytes = content ++ bytes := by
  cases content with
  | nil => rfl
  | cons b content => rfl

theorem setBlob_blobs_other (h : hex' ≠ hex) : (d.setBlob hex file).blobs hex' = d.blobs hex' := by
  simp [WorkDir.setBlob, h]

theorem setPartial_other (h : hex' ≠ hex) :
    (d.setPartial hex file).partials hex' = d.partials hex' := by
  simp [WorkDir.setPartial, h]

@[simp] theorem saveIngest_blobs (data : Bytes) : (saveIngest d hex data).blobs = d.blobs := by
  by_cases h : fileSize (d.partials hex) < data.length <;> simp [saveIngest, h]

@[simp] theorem saveIngest_candidates (data : Bytes) :
    (saveIngest d hex data).candidates = d.candidates := by
  by_cases h : fileSize (d.partials hex) < data.length <;> simp [saveIngest, h]

theorem saveIngest_partials_same (data : Bytes) :
    (saveIngest d hex data).partials hex =
      if fileSize (d.partials hex) < data.length then some data else d.partials hex := by
  by_cases h : fileSize (d.partials hex) < data.length <;> simp [saveIngest, h]

theorem saveIngest_partials_other (data : Bytes) (h : hex' ≠ hex) :
    (saveIngest d hex data).partials hex' = d.partials hex' := by
  by_cases hlt : fileSize (d.partials hex) < data.length
  · simpa [saveIngest, hlt] using setPartial_other h
  · simp [saveIngest, hlt]

theorem fileSize_saveIngest (data : Bytes) :
    fileSize ((saveIngest d hex data).partials hex) =
      max (fileSize (d.partials hex)) data.length := by
  rw [saveIngest_partials_same]
  by_cases h : fileSize (d.partials hex) < data.length
  · rw [if_pos h, fileSize_some]
    omega
  · rw [if_neg h]
    omega

theorem fileSize_le_saveIngest (data : Bytes) :
    fileSize (d.partials hex) ≤ fileSize ((saveIngest d hex' data).partials hex) := by
  by_cases hh : hex = hex'
  · subst hh
    have hmax : fileSize ((saveIngest d hex data).partials hex) =
        max (fileSize (d.partials hex)) data.length := fileSize_saveIngest data
    omega
  · have hsame := saveIngest_partials_other (d := d) data hh
    exact Nat.le_of_eq (congrArg fileSize hsame.symm)

theorem saveIngest_isSome {data : Bytes} (h : (d.partials hex').isSome) :
    ((saveIngest d hex data).partials hex').isSome := by
  by_cases hh : hex' = hex
  · subst hh
    by_cases hlt : fileSize (d.partials hex') < data.length <;>
      simp [saveIngest_partials_same, hlt, h]
  · rwa [saveIngest_partials_other data hh]

theorem pullNext_trans {sha256sum : Bytes → String} {req : BlobRequest} {s t : PullState}
    (h : pullNext sha256sum req s = some t) : PullTrans sha256sum req s .next t := by
  obtain ⟨dir, point, attempt⟩ := s
  cases point with
  | installCandidate =>
    obtain ⟨bytes, hb, rfl⟩ := Option.map_eq_some_iff.mp h
    exact .installCandidate _ _ _ hb
  | install =>
    obtain ⟨bytes, hb, rfl⟩ := Option.map_eq_some_iff.mp h
    exact .install _ _ _ hb
  | stat =>
    obtain ⟨bytes, hb, rfl⟩ := Option.map_eq_some_iff.mp h
    exact .stat _ _ _ hb
  | discardOversized =>
    cases Option.some.inj h
    by_cases hsize : req.expectedSize < fileSize (dir.partials req.hex)
    · simpa [hsize] using PullTrans.discardOversized dir attempt hsize
    · simpa [hsize] using PullTrans.keepPartial dir attempt hsize
  | compare currentSize =>
    by_cases hsize : currentSize = req.expectedSize
    · subst hsize
      simp only [pullNext, if_true] at h
      obtain ⟨bytes, hb, rfl⟩ := Option.map_eq_some_iff.mp h
      by_cases hsum : sha256sum bytes = req.hex
      · simp only [beq_iff_eq.mpr hsum, if_true]
        exact .checksumAgrees _ _ _ hb hsum
      · simp only [beq_eq_false_iff_ne.mpr hsum, Bool.false_eq_true, if_false]
        exact .checksumDiffers _ _ _ hb hsum
    · simp only [pullNext, hsize, if_false] at h
      cases Option.some.inj h
      exact .sizeDiffers _ _ _ hsize
  | contentGet | seedIngest | transfer | returned => simp [pullNext] at h
  | checkFinal =>
    cases Option.some.inj h
    by_cases hv : verified sha256sum req (dir.blobs req.hex) = true
    · simpa [hv, PullState.goto] using PullTrans.alreadyComplete dir attempt hv
    · simpa [hv, PullState.goto] using PullTrans.notComplete dir attempt hv
  | checkCandidate =>
    cases Option.some.inj h
    by_cases hv : verified sha256sum req (dir.candidates req.hex) = true
    · simpa [hv, PullState.goto] using PullTrans.candidateAgrees dir attempt hv
    · simpa [hv, PullState.goto] using PullTrans.candidateDiffers dir attempt hv
  | removeCandidate => cases Option.some.inj h; exact .removeCandidate _ _
  | touchPartial => cases Option.some.inj h; exact .touchPartial _ _
  | removePartial => cases Option.some.inj h; exact .removePartial _ _
  | retouch => cases Option.some.inj h; exact .retouch _ _
  | connect => cases Option.some.inj h; exact .connect _ _

theorem pullStep_trans {sha256sum : Bytes → String} {req : BlobRequest} {s t : PullState}
    {a : PullAction} (h : pullStep sha256sum req s a = some t) : PullTrans sha256sum req s a t := by
  cases a with
  | next => exact pullNext_trans h
  | content ok output =>
    obtain ⟨dir, point, attempt⟩ := s
    cases point <;> simp [pullStep] at h
    subst h
    cases ok with
    | true => exact .contentFound _ _ _
    | false => exact .contentFails _ _ _
  | ingest data =>
    obtain ⟨dir, point, attempt⟩ := s
    cases point <;> simp [pullStep] at h
    subst h
    cases data with
    | none => exact .noIngest _ _
    | some data => exact .seedIngest _ _ _
  | receive bytes =>
    obtain ⟨dir, point, attempt⟩ := s
    cases point <;> simp [pullStep] at h
    subst h
    exact .receive _ _ _ _ _ _
  | retry =>
    obtain ⟨dir, point, attempt⟩ := s
    cases point <;> simp [pullStep] at h
    subst h
    rename_i resumeAt opened written
    by_cases hwritten : written = 0
    · subst hwritten
      exact .retryAgain _ _ _ _
    · simpa [hwritten] using PullTrans.retryCut dir attempt resumeAt opened written hwritten
  | curlExit =>
    obtain ⟨dir, point, attempt⟩ := s
    cases point <;> simp [pullStep] at h
    subst h
    exact .curlExit _ _ _ _ _

theorem verified_iff {sha256sum : Bytes → String} {req : BlobRequest} :
    verified sha256sum req file = true ↔
      ∃ bytes, file = some bytes ∧ bytes.length = req.expectedSize ∧ sha256sum bytes = req.hex := by
  cases file <;> simp [verified]

end PdDisaggregation
