import Mathlib.Algebra.BigOperators.Group.List.Basic
import Mathlib.Algebra.Ring.Nat
import Mathlib.Tactic.Ring
import PdDisaggregation.KvbmReadiness

/-! How a KVBM worker finds the size of its blocks (`KvbmWorker::new`). The tensors of the
KV cache are known by their shapes; unless the caller gives the dimensions of a block they
are read off the first shape. Sizes wrap as in a release build. -/

namespace PdDisaggregation.Kvbm

inductive LayoutType where
  | fullyContiguous
  | layerSeparate (outerContiguous : Bool)
  deriving DecidableEq

/-- The fields of the builder that the layout depends on, and those that the worker keeps. -/
structure WorkerParams where
  numDeviceBlocks : Nat
  pageSize : Nat := 32
  tensors : List (List Nat) := []
  deviceId : Nat := 0
  dtypeWidthBytes : Nat := 2
  deviceLayoutType : LayoutType := .fullyContiguous
  outerDim : Option Nat := none
  innerDim : Option Nat := none
  rank : Option Int := none
  deriving DecidableEq

inductive FieldError where
  | pageSizeNotPowerOfTwo
  | pageSizeRange
  | outerDimRange
  | innerDimRange
  deriving DecidableEq

/-- `noTensors` is the panic of `shape.unwrap()`. -/
inductive WorkerError where
  | fields (errors : List FieldError)
  | uncoupled (outerDim innerDim : Option Nat)
  | noDeviceBlocks
  | deviceAllocator
  | shapesDiffer (shape other : List Nat)
  | newFromTorch
  | noTensors
  | unsupportedShape (shape : List Nat)
  | createLayout
  deriving DecidableEq

structure LayoutConfig where
  numBlocks : Nat
  numLayers : Nat
  outerDim : Nat
  pageSize : Nat
  innerDim : Nat
  dtypeWidthBytes : Nat
  deriving DecidableEq

/-- What the calls outside answer; a tensor is known by its place. -/
structure LayoutCalls where
  deviceAllocator : Bool
  newFromTorch : Nat → Bool
  createLayout : LayoutConfig → LayoutType → Bool

/-- Every error of every field is reported. -/
def fieldErrors (p : WorkerParams) : List FieldError :=
  (if p.pageSize.isPowerOfTwo then [] else [.pageSizeNotPowerOfTwo]) ++
    (if p.pageSize ≤ 1024 then [] else [.pageSizeRange]) ++
    (if ∀ d ∈ p.outerDim, 1 ≤ d ∧ d ≤ 2 then [] else [.outerDimRange]) ++
    (if ∀ d ∈ p.innerDim, 1 ≤ d then [] else [.innerDimRange])

def validate (p : WorkerParams) : Except WorkerError Unit := do
  Check.require (fieldErrors p == []) (.fields (fieldErrors p))
  Check.require (p.outerDim.isSome == p.innerDim.isSome) (.uncoupled p.outerDim p.innerDim)

/-- The loop over the tensors, after `k` of them. -/
def loadTensors (calls : LayoutCalls) : List (List Nat) → Nat → Option (List Nat) →
    Except WorkerError (Option (List Nat))
  | [], _, shape => .ok shape
  | tensor :: tensors, k, shape => do
    let first := shape.getD tensor
    Check.require (first == tensor) (.shapesDiffer first tensor)
    Check.require (calls.newFromTorch k) .newFromTorch
    loadTensors calls tensors (k + 1) (some first)

def loadAndValidateTensors (calls : LayoutCalls) (tensors : List (List Nat)) :
    Except WorkerError (List Nat) := do
  Check.require calls.deviceAllocator .deviceAllocator
  let shape ← loadTensors calls tensors 0 none
  Check.orElse shape .noTensors

def usize (n : Nat) : Nat := n % 2 ^ 64

/-- `iter().product::<usize>()`. -/
def product (dims : List Nat) : Nat := dims.foldl (fun n d => usize (n * d)) 1

/-- The outer and the inner dimension read off a layer's shape. -/
def inferredDims (outerContiguous : Bool) (pageSize : Nat) (shape : List Nat) : Nat × Nat :=
  let candidate := if outerContiguous then shape.getD 0 0 else shape.getD 1 0
  if candidate ≤ 2 then (candidate, product (shape.drop 2) / pageSize)
  else
    let dimsStart := if outerContiguous then 2 else 1
    (1, product (shape.drop dimsStart) / pageSize)

def layoutConfig (p : WorkerParams) (shape : List Nat) : LayoutConfig :=
  let layout (numLayers outerDim innerDim : Nat) : LayoutConfig :=
    ⟨p.numDeviceBlocks, numLayers, outerDim, p.pageSize, innerDim, p.dtypeWidthBytes⟩
  match p.deviceLayoutType with
  | .fullyContiguous =>
    layout (shape.getD 1 0) (p.outerDim.getD (shape.getD 2 0))
      (p.innerDim.getD (product (shape.drop 3) / p.pageSize))
  | .layerSeparate outerContiguous =>
    match p.outerDim, p.innerDim with
    | some outerDim, some innerDim => layout p.tensors.length outerDim innerDim
    | _, _ =>
      let dims := inferredDims outerContiguous p.pageSize shape
      layout p.tensors.length dims.1 dims.2

def bytesPerBlock (layout : LayoutConfig) : Nat :=
  usize (usize (usize (usize (layout.numLayers * layout.outerDim) * layout.pageSize) *
    layout.innerDim) * layout.dtypeWidthBytes)

/-- The layout of the device blocks, and the worker's configuration. -/
def newWorker (calls : LayoutCalls) (p : WorkerParams) :
    Except WorkerError (LayoutConfig × KvbmWorkerConfig) := do
  validate p
  Check.require (p.numDeviceBlocks != 0) .noDeviceBlocks
  let shape ← loadAndValidateTensors calls p.tensors
  Check.require (decide (3 ≤ shape.length)) (.unsupportedShape shape)
  let layout := layoutConfig p shape
  Check.require (calls.createLayout layout p.deviceLayoutType) .createLayout
  return (layout, ⟨p.deviceId, p.numDeviceBlocks, bytesPerBlock layout, p.rank⟩)

namespace WorkerParams

def shape (p : WorkerParams) : List Nat := p.tensors.headD []

def tensorBytes (p : WorkerParams) : Nat :=
  (p.tensors.map fun t => t.prod * p.dtypeWidthBytes).sum

/-- How many blocks the shape has. -/
def blockCount (p : WorkerParams) : Nat :=
  match p.deviceLayoutType with
  | .layerSeparate true => p.shape.getD 1 0
  | _ => p.shape.getD 0 0

/-- Whether the dimensions that are read off the shape account for all of it: the part of a
block that is cut into pages is made of whole ones, and no other part is left out. -/
def Exact (p : WorkerParams) : Prop :=
  match p.deviceLayoutType with
  | .fullyContiguous => p.tensors.length = 1 ∧ p.pageSize ∣ (p.shape.drop 3).prod
  | .layerSeparate true => p.shape.getD 0 0 ≤ 2 ∧ p.pageSize ∣ (p.shape.drop 2).prod
  | .layerSeparate false =>
    p.pageSize ∣ (p.shape.drop (if p.shape.getD 1 0 ≤ 2 then 2 else 1)).prod

end WorkerParams

variable {calls : LayoutCalls} {p : WorkerParams} {layout : LayoutConfig}
  {config : KvbmWorkerConfig} {shape first : List Nat} {tensors : List (List Nat)}

theorem usize_mul (a b : Nat) : usize (usize a * b) = usize (a * b) := by
  simp [usize, Nat.mul_mod]

theorem usize_eq {n : Nat} (h : n < 2 ^ 64) : usize n = n := Nat.mod_eq_of_lt h

theorem foldl_usize (dims : List Nat) (n : Nat) :
    dims.foldl (fun n d => usize (n * d)) (usize n) = usize (n * dims.prod) := by
  induction dims generalizing n with
  | nil => simp
  | cons d dims ih => rw [List.foldl_cons, usize_mul, ih, List.prod_cons, Nat.mul_assoc]

theorem product_eq (dims : List Nat) : product dims = usize dims.prod := by
  have hfold := foldl_usize dims 1
  rwa [Nat.one_mul] at hfold

theorem bytesPerBlock_eq : bytesPerBlock layout = usize (layout.numLayers * layout.outerDim *
    layout.pageSize * layout.innerDim * layout.dtypeWidthBytes) := by
  simp only [bytesPerBlock, usize_mul]

/-- What `validate` lets through. -/
structure Valid (p : WorkerParams) : Prop where
  powerOfTwo : p.pageSize.isPowerOfTwo
  pageSize : p.pageSize ≤ 1024
  outerDim : ∀ d ∈ p.outerDim, 1 ≤ d ∧ d ≤ 2
  innerDim : ∀ d ∈ p.innerDim, 1 ≤ d
  coupled : p.outerDim.isSome = p.innerDim.isSome

theorem fieldErrors_nil : fieldErrors p = [] ↔ p.pageSize.isPowerOfTwo ∧ p.pageSize ≤ 1024 ∧
    (∀ d ∈ p.outerDim, 1 ≤ d ∧ d ≤ 2) ∧ ∀ d ∈ p.innerDim, 1 ≤ d := by
  have hif {c : Prop} [Decidable c] (e : FieldError) :
      (if c then ([] : List FieldError) else [e]) = [] ↔ c := by
    by_cases hc : c <;> simp [hc]
  simp only [fieldErrors, List.append_eq_nil_iff, hif, and_assoc]

theorem validate_ok : validate p = .ok () ↔ Valid p := by
  simp only [validate, Check.seq_ok, Check.require_ok, beq_iff_eq, fieldErrors_nil]
  constructor
  · rintro ⟨⟨hpower, hpage, houter, hinner⟩, hcoupled⟩
    exact ⟨hpower, hpage, houter, hinner, hcoupled⟩
  · intro h
    exact ⟨⟨h.powerOfTwo, h.pageSize, h.outerDim, h.innerDim⟩, h.coupled⟩

/-- The defaults pass. -/
theorem validate_default (n : Nat) : validate { numDeviceBlocks := n } = .ok () := by
  rw [validate_ok]
  exact ⟨⟨5, rfl⟩, by simp, by simp, by simp, rfl⟩

theorem loadTensors_ok {k : Nat} {loaded : Option (List Nat)} :
    loadTensors calls tensors k (some first) = .ok loaded ↔
      (∀ t ∈ tensors, first = t) ∧ (∀ i < tensors.length, calls.newFromTorch (k + i) = true) ∧
        loaded = some first := by
  induction tensors generalizing k with
  | nil =>
    rw [loadTensors]
    simp [eq_comm (a := loaded)]
  | cons t tensors ih =>
    have hplace (i : Nat) : k + 1 + i = k + (i + 1) := by omega
    rw [loadTensors]
    simp only [Option.getD_some, Check.seq_ok, Check.require_ok, beq_iff_eq, ih,
      List.forall_mem_cons, List.length_cons, Nat.forall_lt_succ_left, Nat.add_zero, hplace]
    tauto

structure Loaded (calls : LayoutCalls) (tensors : List (List Nat)) (shape : List Nat) : Prop where
  deviceAllocator : calls.deviceAllocator = true
  nonempty : tensors ≠ []
  same : ∀ t ∈ tensors, t = shape
  newFromTorch : ∀ i < tensors.length, calls.newFromTorch i = true

theorem loadAndValidateTensors_ok :
    loadAndValidateTensors calls tensors = .ok shape ↔ Loaded calls tensors shape := by
  rw [loadAndValidateTensors, Check.seq_ok, Check.require_ok, Check.bind_ok]
  cases tensors with
  | nil =>
    constructor
    · rintro ⟨-, loaded, hloaded, hshape⟩
      simp [← Except.ok.inj hloaded] at hshape
    · intro h
      exact absurd rfl h.nonempty
  | cons t tensors =>
    rw [loadTensors]
    simp only [Option.getD_none, Check.seq_ok, Check.orElse_ok, Check.require_ok,
      beq_self_eq_true, true_and, loadTensors_ok]
    constructor
    · rintro ⟨hallocator, loaded, ⟨htorch, hsame, hrest, rfl⟩, hshape⟩
      obtain rfl := Option.some.inj hshape
      refine ⟨hallocator, by simp, ?_, fun i hi => ?_⟩
      · simpa using fun u hu => (hsame u hu).symm
      · cases i with
        | zero => exact htorch
        | succ i => simpa [Nat.add_comm] using hrest i (by simpa using hi)
    · intro h
      have hfirst : t = shape := h.same t (by simp)
      subst hfirst
      refine ⟨h.deviceAllocator, some t, ⟨h.newFromTorch 0 (by simp), ?_, ?_, rfl⟩, rfl⟩
      · exact fun u hu => (h.same u (List.mem_cons_of_mem t hu)).symm
      · intro i hi
        simpa [Nat.add_comm] using h.newFromTorch (i + 1) (by simpa using hi)

/-- When a worker is made, and with what. -/
theorem newWorker_ok : newWorker calls p = .ok (layout, config) ↔
    Valid p ∧ p.numDeviceBlocks ≠ 0 ∧ ∃ shape, Loaded calls p.tensors shape ∧
      3 ≤ shape.length ∧ layout = layoutConfig p shape ∧
      calls.createLayout layout p.deviceLayoutType = true ∧
      config = ⟨p.deviceId, p.numDeviceBlocks, bytesPerBlock layout, p.rank⟩ := by
  rw [newWorker, Check.seq_ok, Check.seq_ok, Check.bind_ok]
  simp only [Check.seq_ok, Check.require_ok, validate_ok, loadAndValidateTensors_ok, bne_iff_ne,
    decide_eq_true_eq]
  constructor
  · rintro ⟨hvalid, hblocks, shape, hloaded, hlength, hcreate, hresult⟩
    cases hresult
    exact ⟨hvalid, hblocks, shape, hloaded, hlength, rfl, hcreate, rfl⟩
  · rintro ⟨hvalid, hblocks, shape, hloaded, hlength, rfl, hcreate, rfl⟩
    exact ⟨hvalid, hblocks, shape, hloaded, hlength, hcreate, rfl⟩

/-- Without tensors, which is what the builder leaves, the worker panics. -/
theorem newWorker_noTensors (hvalid : Valid p) (hblocks : p.numDeviceBlocks ≠ 0)
    (hallocator : calls.deviceAllocator = true) (hempty : p.tensors = []) :
    newWorker calls p = .error .noTensors := by
  have hload : loadAndValidateTensors calls [] = .error .noTensors := by
    rw [loadAndValidateTensors, hallocator]
    rfl
  have hcount : (p.numDeviceBlocks != 0) = true := bne_iff_ne.mpr hblocks
  rw [newWorker, validate_ok.mpr hvalid, hcount, hempty, hload]
  rfl

theorem Loaded.shape_eq (h : Loaded calls p.tensors shape) : p.shape = shape := by
  obtain ⟨t, tensors, heq⟩ := List.exists_cons_of_ne_nil h.nonempty
  have hsame := h.same t (by simp [heq])
  rw [WorkerParams.shape, heq, List.headD_cons, hsame]

theorem Loaded.tensorBytes_eq (h : Loaded calls p.tensors shape) :
    p.tensorBytes = p.tensors.length * (shape.prod * p.dtypeWidthBytes) := by
  have hmap : p.tensors.map (fun t => t.prod * p.dtypeWidthBytes) =
      List.replicate p.tensors.length (shape.prod * p.dtypeWidthBytes) := by
    refine List.eq_replicate_iff.mpr ⟨List.length_map _, fun n hn => ?_⟩
    obtain ⟨t, ht, rfl⟩ := List.mem_map.mp hn
    rw [h.same t ht]
  rw [WorkerParams.tensorBytes, hmap, List.sum_replicate_nat]

/-- What whole pages of `k` leave of `n` times as much. -/
theorem whole_pages {m n k x : Nat} (hpos : 0 < n * (m * x)) :
    m * (k * (x / k)) ≤ n * (m * x) ∧
      (m * (k * (x / k)) = n * (m * x) ↔ n = 1 ∧ k ∣ x) := by
  have hn : 0 < n := Nat.pos_of_mul_pos_right hpos
  have hmx : 0 < m * x := Nat.pos_of_mul_pos_left hpos
  have hm : 0 < m := Nat.pos_of_mul_pos_right hmx
  have hpage : m * (k * (x / k)) ≤ m * x := Nat.mul_le_mul_left m (Nat.mul_div_le x k)
  have hmany : m * x ≤ n * (m * x) := Nat.le_mul_of_pos_left _ hn
  refine ⟨hpage.trans hmany, fun heq => ?_, ?_⟩
  · have hone : n * (m * x) = 1 * (m * x) := by omega
    have hwhole : k * (x / k) = x := Nat.eq_of_mul_eq_mul_left hm (by omega)
    exact ⟨Nat.eq_of_mul_eq_mul_right hmx hone, Dvd.intro _ hwhole⟩
  · rintro ⟨rfl, hdvd⟩
    rw [Nat.mul_div_cancel' hdvd, Nat.one_mul]

/-- The size of `count` blocks whose inner dimension is read off `dims`, where `n` times as
much as they account for is there. -/
theorem sized {layers outer page dtype count n total : Nat} (dims : List Nat)
    (htotal : total = n * (count * layers * outer * dtype * dims.prod)) (hpos : 0 < total)
    (hlt : total < 2 ^ 64) :
    usize (layers * outer * page * (product dims / page) * dtype) * count ≤ total ∧
      (usize (layers * outer * page * (product dims / page) * dtype) * count = total ↔
        n = 1 ∧ page ∣ dims.prod) := by
  rw [htotal] at hpos
  have hn : 0 < n := Nat.pos_of_mul_pos_right hpos
  have hm : 0 < count * layers * outer * dtype :=
    Nat.pos_of_mul_pos_right (Nat.pos_of_mul_pos_left hpos)
  have hcount : 0 < count :=
    Nat.pos_of_mul_pos_right (Nat.pos_of_mul_pos_right (Nat.pos_of_mul_pos_right hm))
  have hwhole := whole_pages (k := page) hpos
  rw [← htotal] at hwhole
  have hprod : dims.prod < 2 ^ 64 :=
    calc dims.prod ≤ count * layers * outer * dtype * dims.prod := Nat.le_mul_of_pos_left _ hm
      _ ≤ n * (count * layers * outer * dtype * dims.prod) := Nat.le_mul_of_pos_left _ hn
      _ < 2 ^ 64 := by rwa [← htotal]
  have hsize : layers * outer * page * (dims.prod / page) * dtype * count =
      count * layers * outer * dtype * (page * (dims.prod / page)) := by ring
  have hblock : layers * outer * page * (dims.prod / page) * dtype < 2 ^ 64 := by
    have hle := Nat.le_mul_of_pos_right (layers * outer * page * (dims.prod / page) * dtype) hcount
    omega
  rw [product_eq, usize_eq hprod, usize_eq hblock, hsize]
  exact hwhole

/-- The dimensions that are read off the shape never account for more than the tensors hold,
and for exactly as much as they hold under the condition. -/
theorem inferred_fits (hnew : newWorker calls p = .ok (layout, config))
    (hinferred : p.outerDim = none) (hpos : 0 < p.tensorBytes) (hlt : p.tensorBytes < 2 ^ 64) :
    config.bytesPerBlock * p.blockCount ≤ p.tensorBytes ∧
      (config.bytesPerBlock * p.blockCount = p.tensorBytes ↔ p.Exact) := by
  obtain ⟨hvalid, -, shape, hloaded, hlength, rfl, -, rfl⟩ := newWorker_ok.mp hnew
  have hinner : p.innerDim = none := by
    have hcoupled := hvalid.coupled
    rw [hinferred] at hcoupled
    exact Option.isNone_iff_eq_none.mp (by simpa using hcoupled.symm)
  have hshape := hloaded.shape_eq
  have htotal := hloaded.tensorBytes_eq
  obtain ⟨a, b, c, rest, rfl⟩ : ∃ a b c rest, shape = a :: b :: c :: rest := by
    rcases shape with - | ⟨a, - | ⟨b, - | ⟨c, rest⟩⟩⟩
    · simp at hlength
    · simp at hlength
    · simp at hlength
    · exact ⟨a, b, c, rest, rfl⟩
  simp only [List.prod_cons] at htotal
  rw [bytesPerBlock_eq]
  cases htype : p.deviceLayoutType with
  | fullyContiguous =>
    have hparts : p.tensorBytes =
        p.tensors.length * (a * b * c * p.dtypeWidthBytes * rest.prod) := by
      rw [htotal]
      ring
    simpa [layoutConfig, WorkerParams.blockCount, WorkerParams.Exact, htype, hinferred, hinner,
      hshape] using sized rest hparts hpos hlt
  | layerSeparate outerContiguous =>
    cases outerContiguous with
    | true =>
      by_cases hle : a ≤ 2
      · have hparts : p.tensorBytes =
            1 * (b * p.tensors.length * a * p.dtypeWidthBytes * (c :: rest).prod) := by
          rw [htotal, List.prod_cons]
          ring
        simpa [layoutConfig, inferredDims, WorkerParams.blockCount, WorkerParams.Exact, htype,
          hinferred, hinner, hshape, hle] using sized (c :: rest) hparts hpos hlt
      · have hparts : p.tensorBytes =
            a * (b * p.tensors.length * 1 * p.dtypeWidthBytes * (c :: rest).prod) := by
          rw [htotal, List.prod_cons]
          ring
        have hone : a ≠ 1 := by omega
        simpa [layoutConfig, inferredDims, WorkerParams.blockCount, WorkerParams.Exact, htype,
          hinferred, hinner, hshape, hle, hone] using sized (c :: rest) hparts hpos hlt
    | false =>
      by_cases hle : b ≤ 2
      · have hparts : p.tensorBytes =
            1 * (a * p.tensors.length * b * p.dtypeWidthBytes * (c :: rest).prod) := by
          rw [htotal, List.prod_cons]
          ring
        simpa [layoutConfig, inferredDims, WorkerParams.blockCount, WorkerParams.Exact, htype,
          hinferred, hinner, hshape, hle] using sized (c :: rest) hparts hpos hlt
      · have hparts : p.tensorBytes =
            1 * (a * p.tensors.length * 1 * p.dtypeWidthBytes * (b :: c :: rest).prod) := by
          rw [htotal, List.prod_cons, List.prod_cons]
          ring
        simpa [layoutConfig, inferredDims, WorkerParams.blockCount, WorkerParams.Exact, htype,
          hinferred, hinner, hshape, hle] using sized (b :: c :: rest) hparts hpos hlt

/-! The shapes that the source names. -/

section
variable {n outer inner page latent : Nat}

theorem inferredDims_standard (hpage : 0 < page) (houter : outer ≤ 2)
    (hlt : page * inner < 2 ^ 64) :
    inferredDims false page [n, outer, page, inner] = (outer, inner) ∧
      inferredDims true page [outer, n, page, inner] = (outer, inner) := by
  have hinner : product [page, inner] / page = inner := by
    rw [product_eq, List.prod_pair, usize_eq hlt, Nat.mul_div_cancel_left inner hpage]
  simp [inferredDims, houter, hinner]

/-- Pages of two tokens are taken for an outer dimension. -/
theorem inferredDims_mla (hpage : 0 < page) (hlt : page * latent < 2 ^ 64) :
    inferredDims false page [n, page, latent] = (1, latent) ↔ page ≠ 2 := by
  by_cases hle : page ≤ 2
  · have hlatent : usize latent = latent :=
      usize_eq (lt_of_le_of_lt (Nat.le_mul_of_pos_left latent hpage) hlt)
    have hdims : inferredDims false page [n, page, latent] = (page, latent / page) := by
      simp [inferredDims, hle, product_eq, hlatent]
    rw [hdims]
    constructor
    · intro heq
      have hone : page = 1 := congrArg Prod.fst heq
      omega
    · intro hne
      have hone : page = 1 := by omega
      rw [hone, Nat.div_one]
  · have hinner : product [page, latent] / page = latent := by
      rw [product_eq, List.prod_pair, usize_eq hlt, Nat.mul_div_cancel_left latent hpage]
    have hne : page ≠ 2 := by omega
    simp [inferredDims, hle, hinner, hne]

end

variable {ρ : Type} {decode : List UInt8 → Option LeaderMetadata} {w : Worker ρ} {answer : Answer}
  {s : Tasks.System (Worker ρ) (WorkerTask ρ)}

/-- The sizes in the replies are those of the configuration. -/
def Announces (config : KvbmWorkerConfig) (replies : List (Reply ρ)) : Prop :=
  ∀ n b, .metadata n b ∈ replies → n = config.numDeviceBlocks ∧ b = config.bytesPerBlock

theorem Announces.reply (h : Announces config w.replies) {r : Reply ρ}
    (hr : ∀ n b, r ≠ .metadata n b) : Announces config (w.reply r).replies := by
  intro n b hin
  rcases List.mem_append.mp hin with hold | hnew
  · exact h n b hold
  · exact absurd (List.mem_singleton.mp hnew).symm (hr n b)

theorem advance_announces {task : WorkerTask ρ} (h : Announces config w.replies) :
    Announces config (advance config decode w task answer).1.replies := by
  cases task with
  | workerMetadata =>
    rw [advance]
    split
    · intro n b hin
      rcases List.mem_append.mp hin with hold | hnew
      · exact h n b hold
      · simpa using hnew
    · exact h
  | leaderMetadata _ | pingAck =>
    rw [advance]
    split
    · exact h.reply (by simp)
    · exact h
  | ping | transferBlocks _ =>
    rw [advance]
    split
    · exact h
    · exact h.reply (by simp)
  | transfer handler request => exact h.reply (by simp)
  | allocate layout leaderMeta =>
    rw [advance]
    dsimp only
    split
    · exact h
    · exact h
  | leaderPayload _ | compareExchange _ | takeLayout _ | sendHandler _ | reportLayout =>
    rw [advance]
    split
    · exact h
    · exact h
  | install handler => exact h
  | markReady => exact h

theorem worker_announces (h : WorkerReaches config decode s) :
    Announces config s.shared.replies := by
  induction h with
  | refl => exact fun n b hin => absurd hin List.not_mem_nil
  | tail ht hstep ih =>
    obtain ⟨e, -, he⟩ := hstep
    rcases Tasks.step_cases he with ⟨task, rfl, rfl⟩ | ⟨pre, task, post, answer, -, rfl⟩
    · exact ih
    · exact advance_announces ih

/-- What a worker announces to the leader, if the dimensions of its blocks are read off the
tensors' shape, is never more than the tensors hold; it is all that they hold when the shape
has no other blocks and the condition is met. -/
theorem announced_fits (hnew : newWorker calls p = .ok (layout, config))
    (hinferred : p.outerDim = none) (hpos : 0 < p.tensorBytes) (hlt : p.tensorBytes < 2 ^ 64)
    (hcount : p.numDeviceBlocks ≤ p.blockCount) (hreach : WorkerReaches config decode s)
    {n b : Nat} (hin : .metadata n b ∈ s.shared.replies) :
    n * b ≤ p.tensorBytes ∧
      (p.numDeviceBlocks = p.blockCount → (n * b = p.tensorBytes ↔ p.Exact)) := by
  obtain ⟨hn, hb⟩ := worker_announces hreach n b hin
  obtain ⟨-, -, shape, -, -, -, -, hconfig⟩ := newWorker_ok.mp hnew
  have hblocks : config.numDeviceBlocks = p.numDeviceBlocks := by rw [hconfig]
  have hfits := inferred_fits hnew hinferred hpos hlt
  rw [hn, hb, hblocks]
  refine ⟨(Nat.mul_le_mul_right _ hcount).trans ?_, fun heq => ?_⟩
  · rw [Nat.mul_comm]
    exact hfits.1
  · rw [heq, Nat.mul_comm]
    exact hfits.2

/-- Two layers of four blocks of keys and values. -/
def pairParams : WorkerParams where
  numDeviceBlocks := 4
  pageSize := 16
  tensors := [[4, 2, 16, 8], [4, 2, 16, 8]]
  deviceLayoutType := .layerSeparate false

def layoutServed : LayoutCalls := ⟨true, fun _ => true, fun _ _ => true⟩

def pairConfig : KvbmWorkerConfig := ⟨0, 4, 1024, none⟩

def announcedWorker : Worker Unit :=
  { (Worker.new pairConfig : Worker Unit) with replies := [.metadata 4 1024] }

theorem announcedWorker_reaches :
    WorkerReaches pairConfig (fun _ => none) ⟨announcedWorker, []⟩ := by
  refine Tasks.reaches_of_exec [.arrive .workerMetadata, .run 0 allWell] ?_ rfl
  intro task hin
  obtain rfl : task = .workerMetadata := by simpa using hin
  exact ⟨.workerMetadata, rfl⟩

theorem pair_new : newWorker layoutServed pairParams = .ok (⟨4, 2, 2, 16, 8, 2⟩, pairConfig) := by
  decide

theorem announced_fits_pair : 4 * 1024 ≤ pairParams.tensorBytes ∧
    (pairParams.numDeviceBlocks = pairParams.blockCount →
      (4 * 1024 = pairParams.tensorBytes ↔ pairParams.Exact)) :=
  announced_fits pair_new rfl (by decide) (by decide) (by decide) announcedWorker_reaches
    (List.mem_singleton.mpr rfl)

end PdDisaggregation.Kvbm
