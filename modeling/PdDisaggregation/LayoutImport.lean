import PdDisaggregation.BlobIntegrity
import PdDisaggregation.JqPrograms

/-! `resumable-nvcr-pull.sh` from the registry index to the import: the manifest is
selected and checked, jq lists its blobs into the `while read` loop, and what the loop
left is imported. The loop sees the lines of jq, not how jq ended. -/

namespace PdDisaggregation

structure PullConfig where
  image : Text
  tag : Text
  platformArch : Text

inductive PullFailure where
  | noManifest
  | digestMismatch (expected got : Text)
  /-- Under `set -e`. -/
  | commandFailed

def PullFailure.message (cfg : PullConfig) : PullFailure → Option Text
  | .noManifest =>
    some ("No linux/".toList ++ cfg.platformArch ++ " manifest was returned for ".toList ++ cfg.image)
  | .digestMismatch expected got =>
    some ("Manifest digest mismatch: expected ".toList ++ expected ++ " got ".toList ++ got)
  | .commandFailed => none

/-- `${digest#sha256:}` -/
def hexOf (digest : Text) : String :=
  String.ofList (if "sha256:".toList.isPrefixOf digest then digest.drop 7 else digest)

def isTab (c : Char) : Bool := c == '\t'

/-- `IFS=$'\t' read -r digest size`: a tab is whitespace to `IFS`, and NUL bytes are
dropped. -/
def readFields (line : Text) : Text × Text :=
  let fields := ((line.filter (· != '\x00')).dropWhile isTab).rdropWhile isTab
  (fields.takeWhile (!isTab ·), (fields.dropWhile (!isTab ·)).dropWhile isTab)

/-- `index.json` of the layout. -/
structure ImageIndex where
  mediaType : Text
  digest : Text
  size : Nat
  refName : Text

section

-- `arith` is the file size a text is `-eq` to, if any.
variable (sha256sum : Bytes → String) (jq : Jq) (arith : Text → Option Nat) (cfg : PullConfig)

def digestOf (bytes : Bytes) : Text := "sha256:".toList ++ (sha256sum bytes).toList

/-- The document and its media type, if jq can read both. -/
def loadManifest (bytes : Bytes) : Option (Json × Text) := do
  let doc ← jq.parse bytes
  let media ← jq.manifestMedia doc
  some (doc, media)

/-- A manifest that has passed the checks. -/
structure Manifest where
  digest : Text
  bytes : Bytes
  doc : Json
  media : Text
  digest_eq : digestOf sha256sum bytes = digest
  loaded : loadManifest jq bytes = some (doc, media)

/-- The process substitution; `killed` is after how many lines jq was, if it was. -/
structure Listing where
  manifest : Manifest sha256sum jq
  killed : Option Nat

/-- The arguments of `download_blob` for one line. -/
def blobRequest (line : Text) : Option BlobRequest :=
  (arith (readFields line).2).map fun size => ⟨hexOf (readFields line).1, size⟩

/-- `endless` is a `download_blob` whose size no file has: it never returns. -/
inductive PullPhase where
  | fetchIndex
  | fetchManifest (digest : Text)
  | listBlobs (m : Manifest sha256sum jq)
  | nextBlob (l : Listing sha256sum jq) (rest : List Text)
  | blob (l : Listing sha256sum jq) (rest : List Text) (req : BlobRequest) (point : PullPoint)
      (attempt : Nat)
  | endless
  | importing (l : Listing sha256sum jq) (index : ImageIndex)
  | died (failure : PullFailure)

/-- `returned` are the calls of `download_blob` that did. -/
structure PullRun where
  dir : WorkDir
  returned : List BlobRequest
  phase : PullPhase sha256sum jq

inductive PullEvent where
  | indexFetched (bytes : Bytes)
  | manifestFetched (bytes : Bytes)
  | list (killed : Option Nat)
  | read
  | pull (a : PullAction)
  | commandFails

variable {sha256sum jq}

def Listing.lines (l : Listing sha256sum jq) : List Text :=
  match l.killed with
  | some k => (jq.listBlobs l.manifest.doc).1.take k
  | none => (jq.listBlobs l.manifest.doc).1

/-- Exit status 0. -/
def Listing.succeeded (l : Listing sha256sum jq) : Bool :=
  l.killed.isNone && (jq.listBlobs l.manifest.doc).2

def PullRun.die (s : PullRun sha256sum jq) (failure : PullFailure) : PullRun sha256sum jq :=
  { s with phase := .died failure }

def checkManifest (s : PullRun sha256sum jq) (digest : Text) (bytes : Bytes) :
    PullRun sha256sum jq :=
  if digest.isEmpty || bytes.isEmpty then s.die .noManifest
  else if hd : digestOf sha256sum bytes = digest then
    match hm : loadManifest jq bytes with
    | some (doc, media) =>
      { s with
        dir := s.dir.setBlob (hexOf digest) (some bytes)
        phase := .listBlobs ⟨digest, bytes, doc, media, hd, hm⟩ }
    | none => s.die .commandFailed
  else s.die (.digestMismatch digest (digestOf sha256sum bytes))

/-- An index is searched for the platform, anything else is the manifest itself. -/
def selectManifest (s : PullRun sha256sum jq) (bytes : Bytes) : PullRun sha256sum jq :=
  match (jq.parse bytes).bind manifestsArray with
  | some manifests =>
    match jq.selectDigest cfg.platformArch manifests with
    | some digest => { s with phase := .fetchManifest digest }
    | none => s.die .commandFailed
  | none => checkManifest s (digestOf sha256sum bytes) bytes

def imageIndex (m : Manifest sha256sum jq) : ImageIndex where
  mediaType := m.media
  digest := m.digest
  size := m.bytes.length
  refName := cfg.tag

def layoutStep (s : PullRun sha256sum jq) (e : PullEvent) : Option (PullRun sha256sum jq) :=
  match e, s.phase with
  | .indexFetched bytes, .fetchIndex => some (selectManifest cfg s bytes)
  | .manifestFetched bytes, .fetchManifest digest => some (checkManifest s digest bytes)
  | .list killed, .listBlobs m =>
    some { s with phase := .nextBlob ⟨m, killed⟩ (Listing.lines ⟨m, killed⟩) }
  | .read, .nextBlob l (line :: rest) =>
    some { s with
      phase := match blobRequest arith line with
        | some req => .blob l rest req .checkFinal 0
        | none => .endless }
  | .read, .nextBlob l [] =>
    some { s with phase := .importing l (imageIndex cfg l.manifest) }
  | .pull a, .blob l rest req point attempt =>
    (pullStep sha256sum req ⟨s.dir, point, attempt⟩ a).map fun t =>
      if t.point = .returned then ⟨t.dir, req :: s.returned, .nextBlob l rest⟩
      else ⟨t.dir, s.returned, .blob l rest req t.point t.attempt⟩
  | .commandFails, .died _ => none
  | .commandFails, .importing _ _ => none
  | .commandFails, _ => some (s.die .commandFailed)
  | _, _ => none

def layoutStart (d : WorkDir) : PullRun sha256sum jq := ⟨d, [], .fetchIndex⟩

/-- jq is not killed, and the manifest is one it can list. -/
def Listing.Completes (l : Listing sha256sum jq) : Prop :=
  l.killed = none ∧ Listable l.manifest.doc

/-- A call for the same digest left the blob as it was asked for. -/
def Kept (s : PullRun sha256sum jq) : Prop :=
  ∀ req ∈ s.returned, ∃ req' ∈ s.returned, req'.hex = req.hex ∧ Installed sha256sum req' s.dir

/-- The listing command succeeded, and for every entry of the list `download_blob` has
returned and its blob is in the layout. -/
structure CompleteLayout (l : Listing sha256sum jq) (s : PullRun sha256sum jq) : Prop where
  listed : l.succeeded = true
  verified : ∃ entries, blobEntries l.manifest.doc = some entries ∧
    ∀ entry ∈ entries, ∃ line req, jq.tsvLine entry = some line ∧
      blobRequest arith line = some req ∧ req ∈ s.returned ∧
        ∃ req' ∈ s.returned, req'.hex = req.hex ∧ Installed sha256sum req' s.dir

/-- The lines in front of `rest` have been read and their calls have returned. -/
def ReadUpTo (l : Listing sha256sum jq) (rest : List Text) (s : PullRun sha256sum jq) : Prop :=
  ∃ done, l.lines = done ++ rest ∧
    ∀ line ∈ done, ∃ req, blobRequest arith line = some req ∧ req ∈ s.returned

def LayoutInv (s : PullRun sha256sum jq) : Prop :=
  match s.phase with
  | .fetchIndex | .fetchManifest _ | .listBlobs _ => s.returned = []
  | .nextBlob l rest => Kept s ∧ ReadUpTo arith l rest s
  | .blob l rest req point attempt =>
    Kept s ∧ Sound sha256sum req ⟨s.dir, point, attempt⟩ ∧
      ∃ line, blobRequest arith line = some req ∧ ReadUpTo arith l (line :: rest) s
  | .importing l _ => Kept s ∧ ReadUpTo arith l [] s
  | .endless | .died _ => True

end

variable {sha256sum : Bytes → String} {jq : Jq} {arith : Text → Option Nat} {cfg : PullConfig}
  {s t : PullRun sha256sum jq} {l : Listing sha256sum jq} {rest : List Text}
  {req : BlobRequest} {u v : PullState}

theorem checkManifest_cases (s : PullRun sha256sum jq) (digest : Text) (bytes : Bytes) :
    (∃ failure, checkManifest s digest bytes = s.die failure) ∨
      ∃ dir m, checkManifest s digest bytes = ⟨dir, s.returned, .listBlobs m⟩ := by
  unfold checkManifest
  split
  · exact Or.inl ⟨_, rfl⟩
  · split
    · split
      · exact Or.inr ⟨_, _, rfl⟩
      · exact Or.inl ⟨_, rfl⟩
    · exact Or.inl ⟨_, rfl⟩

theorem selectManifest_cases (cfg : PullConfig) (s : PullRun sha256sum jq) (bytes : Bytes) :
    (∃ failure, selectManifest cfg s bytes = s.die failure) ∨
      (∃ digest, selectManifest cfg s bytes = ⟨s.dir, s.returned, .fetchManifest digest⟩) ∨
      ∃ dir m, selectManifest cfg s bytes = ⟨dir, s.returned, .listBlobs m⟩ := by
  unfold selectManifest
  split
  · split
    · exact Or.inr (Or.inl ⟨_, rfl⟩)
    · exact Or.inl ⟨_, rfl⟩
  · exact (checkManifest_cases s _ bytes).imp_right Or.inr

/-- The loop is reached with every manifest that is no index and jq can load. -/
theorem listing_reached (arith : Text → Option Nat) (cfg : PullConfig)
    (m : Manifest sha256sum jq) (killed : Option Nat) (d : WorkDir) (hbytes : m.bytes ≠ [])
    (hindex : (jq.parse m.bytes).bind manifestsArray = none) :
    Machine.Reachable (layoutStep arith cfg) (layoutStart d)
      ⟨d.setBlob (hexOf m.digest) (some m.bytes), [],
        .nextBlob ⟨m, killed⟩ (Listing.lines ⟨m, killed⟩)⟩ := by
  have hempty : (m.digest.isEmpty || m.bytes.isEmpty) = false := by
    have hdigest : m.digest ≠ [] := by
      rw [← m.digest_eq]
      exact List.append_ne_nil_of_left_ne_nil (by decide) _
    simp [hdigest, hbytes]
  have hcheck : checkManifest (layoutStart d) m.digest m.bytes =
      ⟨d.setBlob (hexOf m.digest) (some m.bytes), [], .listBlobs m⟩ := by
    rw [checkManifest, hempty, if_neg (by simp), dif_pos m.digest_eq]
    split
    · rename_i doc media hm
      obtain ⟨rfl, rfl⟩ := Prod.mk.inj (Option.some.inj (hm.symm.trans m.loaded))
      rfl
    · rename_i hm
      rw [m.loaded] at hm
      contradiction
  have hselect : selectManifest cfg (layoutStart d) m.bytes =
      ⟨d.setBlob (hexOf m.digest) (some m.bytes), [], .listBlobs m⟩ := by
    rw [selectManifest, hindex, m.digest_eq, hcheck]
  apply Machine.reachable_of_exec [.indexFetched m.bytes, .list killed]
  have hfirst : layoutStep arith cfg (layoutStart d) (.indexFetched m.bytes) =
      some ⟨d.setBlob (hexOf m.digest) (some m.bytes), [], .listBlobs m⟩ := by
    have hphase : (layoutStart d : PullRun sha256sum jq).phase = .fetchIndex := rfl
    simp only [layoutStep, hphase, hselect]
  rw [Machine.exec, hfirst]
  rfl

/-- A blob that is in the layout already costs no download. -/
theorem installed_passed {line : Text} (hreq : blobRequest arith line = some req) {d : WorkDir}
    (hinst : Installed sha256sum req d) (returned : List BlobRequest) :
    Machine.Reachable (layoutStep arith cfg) ⟨d, returned, .nextBlob l (line :: rest)⟩
      ⟨d, req :: returned, .nextBlob l rest⟩ := by
  apply Machine.reachable_of_exec [.read, .pull .next]
  have hread : layoutStep arith cfg ⟨d, returned, .nextBlob l (line :: rest)⟩ .read =
      some ⟨d, returned, .blob l rest req .checkFinal 0⟩ := by
    simp only [layoutStep, hreq]
  have hpull : pullStep sha256sum req ⟨d, .checkFinal, 0⟩ .next = some ⟨d, .returned, 0⟩ := by
    have hv : verified sha256sum req (d.blobs req.hex) = true := hinst
    simp [pullStep, pullNext, hv, PullState.goto]
  have hcall : layoutStep arith cfg ⟨d, returned, .blob l rest req .checkFinal 0⟩ (.pull .next) =
      some ⟨d, req :: returned, .nextBlob l rest⟩ := by
    simp [layoutStep, hpull]
  rw [Machine.exec, hread, Option.bind_some, Machine.exec, hcall]
  rfl

theorem import_reached (d : WorkDir) (returned : List BlobRequest) :
    Machine.Reachable (layoutStep arith cfg) ⟨d, returned, .nextBlob l []⟩
      ⟨d, returned, .importing l (imageIndex cfg l.manifest)⟩ :=
  Machine.reachable_of_exec [.read] rfl

theorem pullStep_running {a : PullAction} (h : pullStep sha256sum req u a = some v)
    (hv : v.point ≠ .returned) : v.dir.blobs = u.dir.blobs := by
  cases pullStep_trans h with
  | installCandidate d n bytes hb => exact absurd rfl hv
  | install d n bytes hb => exact absurd rfl hv
  | seedIngest d n data => exact saveIngest_blobs data
  | _ => rfl

theorem installed_congr {d d' : WorkDir} (h : d'.blobs req.hex = d.blobs req.hex) :
    Installed sha256sum req d' ↔ Installed sha256sum req d := by
  rw [Installed, Installed, h]

/-- A call that returns is kept, and with it those of before. -/
theorem kept_returned {a : PullAction} {d : WorkDir} {returned : List BlobRequest}
    {point : PullPoint} {attempt : Nat} {phase phase' : PullPhase sha256sum jq}
    (hkept : Kept ⟨d, returned, phase⟩) (hsound : Sound sha256sum req ⟨d, point, attempt⟩)
    (h : pullStep sha256sum req ⟨d, point, attempt⟩ a = some v) (hv : v.point = .returned) :
    Kept ⟨v.dir, req :: returned, phase'⟩ := by
  have hinst : Installed sha256sum req v.dir := by
    have hs := pullStep_sound hsound h
    rwa [Sound, hv] at hs
  have hother : ∀ hex, hex ≠ req.hex → v.dir.blobs hex = d.blobs hex := by
    intro hex hne
    rcases pullStep_blobs hsound h with hsame | ⟨-, hframe⟩
    · exact congrFun hsame hex
    · exact hframe hex hne
  intro r hr
  by_cases hhex : req.hex = r.hex
  · exact ⟨req, List.mem_cons_self, hhex, hinst⟩
  · rcases List.mem_cons.mp hr with rfl | hr
    · exact absurd rfl hhex
    · obtain ⟨r', hr', hsame, hinst'⟩ := hkept r hr
      have hne : r'.hex ≠ req.hex := by
        rw [hsame]
        exact fun heq => hhex heq.symm
      exact ⟨r', List.mem_cons_of_mem _ hr', hsame,
        (installed_congr (hother r'.hex hne)).mpr hinst'⟩

theorem layoutInv_die (s : PullRun sha256sum jq) (failure : PullFailure) :
    LayoutInv arith (s.die failure) := trivial

theorem layoutInv_checkManifest (s : PullRun sha256sum jq) (digest : Text) (bytes : Bytes)
    (hreturned : s.returned = []) : LayoutInv arith (checkManifest s digest bytes) := by
  rcases checkManifest_cases s digest bytes with ⟨failure, hs⟩ | ⟨dir, m, hs⟩
  · rw [hs]
    exact layoutInv_die _ _
  · rw [hs]
    exact hreturned

theorem layoutInv_selectManifest (cfg : PullConfig) (s : PullRun sha256sum jq) (bytes : Bytes)
    (hreturned : s.returned = []) : LayoutInv arith (selectManifest cfg s bytes) := by
  rcases selectManifest_cases cfg s bytes with ⟨failure, hs⟩ | ⟨digest, hs⟩ | ⟨dir, m, hs⟩
  · rw [hs]
    exact layoutInv_die _ _
  · rw [hs]
    exact hreturned
  · rw [hs]
    exact hreturned

theorem layoutInv_read {d : WorkDir} {returned : List BlobRequest}
    (hinv : LayoutInv arith ⟨d, returned, .nextBlob l rest⟩)
    (h : layoutStep arith cfg ⟨d, returned, .nextBlob l rest⟩ .read = some t) :
    LayoutInv arith t := by
  obtain ⟨hkept, hread⟩ := hinv
  cases rest with
  | nil =>
    cases h
    exact ⟨hkept, hread⟩
  | cons line rest =>
    cases h
    cases hreq : blobRequest arith line with
    | none => simp [LayoutInv]
    | some req =>
      simp only [LayoutInv]
      exact ⟨hkept, trivial, line, hreq, hread⟩

/-- The line of a call that returns has been read. -/
theorem readUpTo_returned {d d' : WorkDir} {returned : List BlobRequest}
    {phase phase' : PullPhase sha256sum jq} {line : Text} (hline : blobRequest arith line = some req)
    (hread : ReadUpTo arith l (line :: rest) ⟨d, returned, phase⟩) :
    ReadUpTo arith l rest ⟨d', req :: returned, phase'⟩ := by
  obtain ⟨done, hlines, hdone⟩ := hread
  refine ⟨done ++ [line], by simp [hlines], ?_⟩
  intro line' hline'
  rcases List.mem_append.mp hline' with hmem | hmem
  · obtain ⟨r, hr, hmem⟩ := hdone line' hmem
    exact ⟨r, hr, List.mem_cons_of_mem _ hmem⟩
  · rw [List.mem_singleton.mp hmem]
    exact ⟨req, hline, List.mem_cons_self⟩

/-- While a call runs the blobs of before stay. -/
theorem kept_running {a : PullAction} {d : WorkDir} {returned : List BlobRequest}
    {point : PullPoint} {attempt : Nat} {phase phase' : PullPhase sha256sum jq}
    (hkept : Kept ⟨d, returned, phase⟩)
    (h : pullStep sha256sum req ⟨d, point, attempt⟩ a = some v) (hv : v.point ≠ .returned) :
    Kept ⟨v.dir, returned, phase'⟩ := by
  have hblobs := pullStep_running h hv
  intro r hr
  obtain ⟨r', hr', hsame, hinst⟩ := hkept r hr
  exact ⟨r', hr', hsame, (installed_congr (congrFun hblobs r'.hex)).mpr hinst⟩

theorem layoutInv_pull {a : PullAction} {d : WorkDir} {returned : List BlobRequest}
    {point : PullPoint} {attempt : Nat}
    (hinv : LayoutInv arith ⟨d, returned, .blob l rest req point attempt⟩)
    (h : layoutStep arith cfg ⟨d, returned, .blob l rest req point attempt⟩ (.pull a) = some t) :
    LayoutInv arith t := by
  obtain ⟨v, hv, rfl⟩ := Option.map_eq_some_iff.mp h
  obtain ⟨hkept, hsound, line, hline, hread⟩ := hinv
  by_cases hret : v.point = .returned
  · rw [if_pos hret]
    exact ⟨kept_returned hkept hsound hv hret, readUpTo_returned hline hread⟩
  · rw [if_neg hret]
    exact ⟨kept_running hkept hv hret, pullStep_sound hsound hv, line, hline, hread⟩

theorem layoutInv_step {e : PullEvent} (hinv : LayoutInv arith s)
    (h : layoutStep arith cfg s e = some t) : LayoutInv arith t := by
  obtain ⟨d, returned, phase⟩ := s
  cases e with
  | indexFetched bytes =>
    cases phase with
    | fetchIndex =>
      cases h
      exact layoutInv_selectManifest _ _ _ hinv
    | _ => cases h
  | manifestFetched bytes =>
    cases phase with
    | fetchManifest digest =>
      cases h
      exact layoutInv_checkManifest _ _ _ hinv
    | _ => cases h
  | list killed =>
    cases phase with
    | listBlobs m =>
      cases h
      obtain rfl : returned = [] := hinv
      exact ⟨by simp [Kept], [], rfl, by simp⟩
    | _ => cases h
  | read =>
    cases phase with
    | nextBlob l rest => exact layoutInv_read hinv h
    | _ => cases h
  | pull a =>
    cases phase with
    | blob l rest req point attempt => exact layoutInv_pull hinv h
    | _ => cases h
  | commandFails =>
    cases phase with
    | died failure => cases h
    | importing l index => cases h
    | _ =>
      cases h
      exact layoutInv_die _ _

/-- Where the import is reached, the layout is complete exactly if jq was not killed and
could list the manifest. -/
theorem import_complete_iff (cfg : PullConfig) (d : WorkDir) (s : PullRun sha256sum jq)
    (h : Machine.Reachable (layoutStep arith cfg) (layoutStart d) s)
    (l : Listing sha256sum jq) (index : ImageIndex) (himport : s.phase = .importing l index) :
    CompleteLayout arith l s ↔ l.Completes := by
  have hinv : LayoutInv arith s := by
    apply h.invariant
    · intro s e t hs _ ht
      exact layoutInv_step hs ht
    · rfl
  rw [LayoutInv, himport] at hinv
  obtain ⟨hkept, done, hlines, hdone⟩ := hinv
  rw [List.append_nil] at hlines
  constructor
  · intro hcomplete
    have hlisted := hcomplete.listed
    rw [Listing.succeeded, Bool.and_eq_true, Option.isNone_iff_eq_none, listBlobs_ok] at hlisted
    exact hlisted
  · rintro ⟨hkilled, hlistable⟩
    have hall : l.lines = (jq.listBlobs l.manifest.doc).1 := by rw [Listing.lines, hkilled]
    obtain ⟨entries, hentries, -⟩ := id hlistable
    constructor
    · rw [Listing.succeeded, hkilled, (listBlobs_ok jq).mpr hlistable]
      rfl
    · refine ⟨entries, hentries, fun entry hentry => ?_⟩
      obtain ⟨line, hmem, hline⟩ := tsvLine_mem jq hlistable hentries hentry
      rw [← hall, hlines] at hmem
      obtain ⟨req, hreq, hreturned⟩ := hdone line hmem
      exact ⟨line, req, hline, hreq, hreturned, hkept req hreturned⟩

def bracesHex : String := "44136fa355b3678a1146ad16f7e8649e94fb4fc21fe77e8310c060f61caaff8a"

def bracesDigest : Text := ("sha256:" ++ bracesHex).toList

/-- `{"config":{"digest":"sha256:…","size":2},"layers":[]}`, with the digest of `{}`. -/
def configDoc : Json :=
  .object [("config".toList, .object [("digest".toList, .string bracesDigest),
    ("size".toList, .number ['2'])]), ("layers".toList, .array [])]

def configBytes : Bytes :=
  ("\x7b\"config\":\x7b\"digest\":\"sha256:" ++ bracesHex ++
    "\",\"size\":2\x7d,\"layers\":[]\x7d").toUTF8.toList

def bracesBytes : Bytes := "\x7b\x7d".toUTF8.toList

def twoDocuments : Jq where
  parse bytes :=
    if bytes = bracesBytes then some (.object []) else if bytes = configBytes then some configDoc
    else none
  dump
    | .number literal => literal
    | _ => "null".toList

def twoSums (bytes : Bytes) : String :=
  if bytes = bracesBytes then bracesHex
  else if bytes = configBytes then
    "fa63dd892b4644048f332d2b489750699c3dc77556ffe62841eefda7923f8761"
  else ""

def decimalSize (t : Text) : Option Nat := if t.all Char.isDigit then some (Text.digits t) else none

def dockerImage : PullConfig :=
  ⟨"nvcr.io/nvidia/ai-dynamo/vllm-runtime:1.2.1".toList, "1.2.1".toList, "amd64".toList⟩

/-- The document `{}`. -/
def bracesManifest : Manifest twoSums twoDocuments where
  digest := digestOf twoSums bracesBytes
  bytes := bracesBytes
  doc := .object []
  media := "application/vnd.docker.distribution.manifest.v2+json".toList
  digest_eq := rfl
  loaded := by simp [loadManifest, twoDocuments, Jq.manifestMedia, Json.field, Json.truthy]

theorem configBytes_ne : configBytes ≠ bracesBytes := by decide +kernel

theorem configBytes_parse : twoDocuments.parse configBytes = some configDoc := by
  simp [twoDocuments, configBytes_ne]

def configManifest : Manifest twoSums twoDocuments where
  digest := digestOf twoSums configBytes
  bytes := configBytes
  doc := configDoc
  media := "application/vnd.docker.distribution.manifest.v2+json".toList
  digest_eq := rfl
  loaded := by
    rw [loadManifest, configBytes_parse]
    simp [configDoc, Jq.manifestMedia, Json.field, Json.truthy, List.lookup_cons]

/-- containerd's copy of `{}` is in the layout already. -/
def bracesDir : WorkDir := emptyDir.setBlob bracesHex (some bracesBytes)

def bracesRequest : BlobRequest := ⟨bracesHex, 2⟩

def configLine : Text := bracesDigest ++ ['\t', '2']

theorem configLine_listed : twoDocuments.listBlobs configDoc = ([configLine], true) := by
  have hdigest : tsvEscape bracesDigest = bracesDigest := by decide +kernel
  have hsize : tsvEscape ['2'] = ['2'] := by decide
  simp [Jq.listBlobs, blobEntries, configDoc, Json.field, Json.iterate, List.lookup_cons,
    Jq.printLines, Jq.tsvLine, Jq.tsvCell, Jq.raw, hdigest, hsize, twoDocuments, configLine]

theorem configLine_request : blobRequest decimalSize configLine = some bracesRequest := by
  have hfields : readFields configLine = (bracesDigest, ['2']) := by decide +kernel
  have hhex : hexOf bracesDigest = bracesHex := by decide +kernel
  have hsize : decimalSize ['2'] = some 2 := by decide
  rw [blobRequest, hfields, hsize, hhex]
  rfl

theorem import_complete_iff_config :
    ∃ s index, s.phase = .importing ⟨configManifest, none⟩ index ∧
      CompleteLayout decimalSize ⟨configManifest, none⟩ s := by
  have hindex : (twoDocuments.parse configManifest.bytes).bind manifestsArray = none := by
    rw [configManifest, configBytes_parse]
    simp [configDoc, manifestsArray, Json.field, List.lookup_cons]
  have hbytes : configManifest.bytes ≠ [] := by decide +kernel
  have hlist := listing_reached decimalSize dockerImage configManifest none bracesDir hbytes hindex
  have hlines : Listing.lines ⟨configManifest, none⟩ = [configLine] := by
    rw [Listing.lines, configManifest, configLine_listed]
  have hlistable : Listable configManifest.doc := by
    rw [← listBlobs_ok twoDocuments, configManifest, configLine_listed]
  have hinstalled : Installed twoSums bracesRequest
      (bracesDir.setBlob (hexOf configManifest.digest) (some configManifest.bytes)) := by
    have hne : bracesHex ≠ hexOf configManifest.digest := by decide +kernel
    have hblob : bracesDir.blobs bracesHex = some bracesBytes := setBlob_blobs_same
    rw [Installed, bracesRequest, setBlob_blobs_other hne, hblob]
    decide +kernel
  rw [hlines] at hlist
  have hcall := (hlist.trans (installed_passed configLine_request hinstalled [])).trans
    (import_reached _ _)
  exact ⟨_, _, rfl, (import_complete_iff dockerImage bracesDir _ hcall _ _ rfl).mpr ⟨rfl, hlistable⟩⟩

/-- A manifest without layers: jq fails before its first line, and an empty layout is
imported. -/
theorem empty_layout_imported :
    ¬ ∀ (sha256sum : Bytes → String) (jq : Jq) (arith : Text → Option Nat) (cfg : PullConfig)
      (d : WorkDir) (s : PullRun sha256sum jq) (l : Listing sha256sum jq) (index : ImageIndex),
      Machine.Reachable (layoutStep arith cfg) (layoutStart d) s → s.phase = .importing l index →
        CompleteLayout arith l s := by
  intro h
  have hparse : twoDocuments.parse bracesManifest.bytes = some (.object []) := if_pos rfl
  have hindex : (twoDocuments.parse bracesManifest.bytes).bind manifestsArray = none := by
    rw [hparse]
    rfl
  have hbytes : bracesManifest.bytes ≠ [] := by decide +kernel
  have hlist := listing_reached decimalSize dockerImage bracesManifest none emptyDir hbytes hindex
  have hlisting : twoDocuments.listBlobs bracesManifest.doc = ([], false) := rfl
  have hlines : Listing.lines ⟨bracesManifest, none⟩ = [] := by rw [Listing.lines, hlisting]
  rw [hlines] at hlist
  have hlisted := (h _ _ _ _ _ _ _ _ (hlist.trans (import_reached _ _)) rfl).listed
  rw [Listing.succeeded, hlisting] at hlisted
  contradiction

end PdDisaggregation
