import PdDisaggregation.Text

/-! The jq programs of `resumable-nvcr-pull.sh` on a registry document. A program
that fails has printed what came before the failure. -/

namespace PdDisaggregation

inductive Json where
  | null
  | bool (b : Bool)
  | number (literal : Text)
  | string (text : Text)
  | array (items : List Json)
  | object (fields : List (Text × Json))

/-- How jq reads a document and prints a value that is no string. -/
structure Jq where
  parse : List UInt8 → Option Json
  dump : Json → Text

namespace Json

/-- `.name`; `none` is jq's error. -/
def field (name : String) : Json → Option Json
  | .object fields => some ((fields.lookup name.toList).getD .null)
  | .null => some .null
  | _ => none

/-- `.[]` -/
def iterate : Json → Option (List Json)
  | .array items => some items
  | .object fields => some (fields.map Prod.snd)
  | _ => none

/-- `== text` -/
def isString (text : Text) : Json → Bool
  | .string t => t == text
  | _ => false

/-- Neither `null` nor `false`. -/
def truthy : Json → Bool
  | .null => false
  | .bool b => b
  | _ => true

def isCompound : Json → Bool
  | .array _ => true
  | .object _ => true
  | _ => false

end Json

open Json

/-- `jq -r` of a value, and `tostring`. -/
def Jq.raw (jq : Jq) : Json → Text
  | .string text => text
  | v => jq.dump v

def tsvEscape (t : Text) : Text :=
  t.flatMap fun c =>
    if c == '\\' then ['\\', '\\']
    else if c == '\t' then ['\\', 't']
    else if c == '\n' then ['\\', 'n']
    else if c == '\r' then ['\\', 'r']
    else [c]

def Jq.tsvCell (jq : Jq) : Json → Option Text
  | .null => some []
  | .bool b => some (jq.dump (.bool b))
  | .number literal => some (jq.dump (.number literal))
  | .string text => some (tsvEscape text)
  | .array _ | .object _ => none

/-- `[.digest, (.size | tostring)] | @tsv` -/
def Jq.tsvLine (jq : Jq) (entry : Json) : Option Text := do
  let digest ← jq.tsvCell (← entry.field "digest")
  let size ← entry.field "size"
  some (digest ++ '\t' :: tsvEscape (jq.raw size))

/-- `[.config, .layers[]]` -/
def blobEntries (manifest : Json) : Option (List Json) := do
  let config ← manifest.field "config"
  let layers ← (← manifest.field "layers").iterate
  some (config :: layers)

/-- The lines printed before an entry fails, and whether none does. -/
def Jq.printLines (jq : Jq) : List Json → List Text × Bool
  | [] => ([], true)
  | entry :: entries =>
    match jq.tsvLine entry with
    | some line => (line :: (jq.printLines entries).1, (jq.printLines entries).2)
    | none => ([], false)

/-- The blob list of a manifest: the lines, and whether jq succeeds. -/
def Jq.listBlobs (jq : Jq) (manifest : Json) : List Text × Bool :=
  match blobEntries manifest with
  | some entries => jq.printLines entries
  | none => ([], false)

/-- `.platform.os == "linux" and .platform.architecture == $arch` -/
def platformMatches (arch : Text) (entry : Json) : Option Bool := do
  let platform ← entry.field "platform"
  let os ← platform.field "os"
  if os.isString "linux".toList then
    some ((← platform.field "architecture").isString arch)
  else some false

/-- `.manifests[] | select(…) | .digest` -/
def platformDigests (arch : Text) : List Json → Option (List Json)
  | [] => some []
  | entry :: entries => do
    if ← platformMatches arch entry then
      let digest ← entry.field "digest"
      some (digest :: (← platformDigests arch entries))
    else platformDigests arch entries

/-- `jq -er … | sed -n '1p'`, captured: it fails without an output, with an error, or
if the last output is `null` or `false`. -/
def Jq.selectDigest (jq : Jq) (arch : Text) (manifests : List Json) : Option Text := do
  let digests ← platformDigests arch manifests
  let first ← digests.head?
  let last ← digests.getLast?
  if last.truthy then some (Text.captured ((jq.raw first).takeWhile (· != '\n'))) else none

/-- `jq -e '.manifests | type == "array"'` -/
def manifestsArray (index : Json) : Option (List Json) :=
  match index.field "manifests" with
  | some (.array items) => some items
  | _ => none

/-- `.mediaType // "application/vnd.docker.distribution.manifest.v2+json"` -/
def Jq.manifestMedia (jq : Jq) (manifest : Json) : Option Text := do
  let media ← manifest.field "mediaType"
  if media.truthy then some (Text.captured (jq.raw media))
  else some "application/vnd.docker.distribution.manifest.v2+json".toList

/-- An entry jq can print: an object, or `null`, whose digest is no array or object. -/
def Printable (entry : Json) : Prop :=
  ∃ digest, entry.field "digest" = some digest ∧ digest.isCompound = false

/-- A manifest with a list of layers, all of whose entries can be printed. -/
def Listable (manifest : Json) : Prop :=
  ∃ entries, blobEntries manifest = some entries ∧ ∀ entry ∈ entries, Printable entry

variable {jq : Jq} {entry manifest : Json} {entries : List Json} {line : Text}

theorem tsvCell_isSome (jq : Jq) (v : Json) : (jq.tsvCell v).isSome = !v.isCompound := by
  cases v <;> rfl

theorem field_isSome (name name' : String) (v : Json) :
    (v.field name).isSome = (v.field name').isSome := by
  cases v <;> rfl

theorem tsvLine_some (jq : Jq) : (∃ line, jq.tsvLine entry = some line) ↔ Printable entry := by
  constructor
  · rintro ⟨line, h⟩
    simp only [Jq.tsvLine, Option.bind_eq_bind, Option.bind_eq_some_iff] at h
    obtain ⟨digest, hdigest, cell, hcell, -⟩ := h
    have hsome := tsvCell_isSome jq digest
    rw [hcell] at hsome
    exact ⟨digest, hdigest, by simpa using hsome.symm⟩
  · rintro ⟨digest, hdigest, hcompound⟩
    have hcell := tsvCell_isSome jq digest
    rw [hcompound, Bool.not_false, Option.isSome_iff_exists] at hcell
    obtain ⟨cell, hcell⟩ := hcell
    have hsize := field_isSome "size" "digest" entry
    rw [hdigest, Option.isSome_some, Option.isSome_iff_exists] at hsize
    obtain ⟨size, hsize⟩ := hsize
    refine ⟨cell ++ '\t' :: tsvEscape (jq.raw size), ?_⟩
    simp [Jq.tsvLine, hdigest, hcell, hsize]

theorem printLines_map (h : ∀ entry ∈ entries, Printable entry) :
    (jq.printLines entries).2 = true ∧
      entries.map jq.tsvLine = (jq.printLines entries).1.map some := by
  induction entries with
  | nil => exact ⟨rfl, rfl⟩
  | cons entry entries ih =>
    obtain ⟨line, hline⟩ := (tsvLine_some jq).mpr (h entry List.mem_cons_self)
    obtain ⟨hok, hmap⟩ := ih fun e he => h e (List.mem_cons_of_mem _ he)
    simp [Jq.printLines, hline, hok, hmap]

theorem printable_of_printLines (h : (jq.printLines entries).2 = true) :
    ∀ entry ∈ entries, Printable entry := by
  induction entries with
  | nil => simp
  | cons entry entries ih =>
    cases hline : jq.tsvLine entry with
    | none => simp [Jq.printLines, hline] at h
    | some line =>
      simp only [Jq.printLines, hline] at h
      intro e he
      rcases List.mem_cons.mp he with rfl | he
      · exact (tsvLine_some jq).mp ⟨line, hline⟩
      · exact ih h e he

/-- jq succeeds on exactly the listable manifests. -/
theorem listBlobs_ok (jq : Jq) : (jq.listBlobs manifest).2 = true ↔ Listable manifest := by
  constructor
  · intro h
    cases hentries : blobEntries manifest with
    | none => simp [Jq.listBlobs, hentries] at h
    | some entries =>
      rw [Jq.listBlobs, hentries] at h
      exact ⟨entries, hentries, printable_of_printLines h⟩
  · rintro ⟨entries, hentries, hall⟩
    rw [Jq.listBlobs, hentries]
    exact (printLines_map hall).1

theorem tsvLine_mem (jq : Jq) (hall : Listable manifest)
    (hentries : blobEntries manifest = some entries) (he : entry ∈ entries) :
    ∃ line ∈ (jq.listBlobs manifest).1, jq.tsvLine entry = some line := by
  obtain ⟨entries', hentries', hprintable⟩ := hall
  obtain rfl := Option.some.inj (hentries.symm.trans hentries')
  have hmem := List.mem_map_of_mem (f := jq.tsvLine) he
  rw [(printLines_map hprintable).2, List.mem_map] at hmem
  obtain ⟨line, hline, heq⟩ := hmem
  rw [Jq.listBlobs, hentries]
  exact ⟨line, hline, heq.symm⟩

end PdDisaggregation
