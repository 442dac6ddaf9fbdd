import PdDisaggregation.Evidence
import PdDisaggregation.Split

/-! The text exposition format of the KVBM metrics and its two readers: the awk
program of `demo-kv-offload-reload.sh` and `prometheus_value`. -/

namespace PdDisaggregation

open Split

def isBlank (c : Char) : Bool := c == ' ' || c == '\t'

def isNameChar (c : Char) : Bool := c.isAlphanum || c == '_' || c == ':'

def isNumberChar (c : Char) : Bool :=
  c.isAlphanum || c == '_' || c == '+' || c == '-' || c == '.'

structure MetricName where
  text : Text
  ne_nil : text ≠ []
  chars : text.all isNameChar = true
  start : text.head?.any Char.isDigit = false
  deriving DecidableEq

/-- A number as a sample or a timestamp writes it. -/
structure NumberToken where
  text : Text
  ne_nil : text ≠ []
  chars : text.all isNumberChar = true
  deriving DecidableEq

structure Blanks where
  text : Text
  blank : text.all isBlank = true
  deriving DecidableEq

def Blanks.none : Blanks := ⟨[], rfl⟩

def Blanks.space : Blanks := ⟨[' '], rfl⟩

/-- What `float` makes of blanks: around a number they do not matter, and inside one they
are an error. -/
class PyFloatText (F : Type) extends PyFloat F where
  parse_blanks : ∀ (before after : Blanks) (t : Text),
    parse (before.text ++ t ++ after.text) = parse t
  parse_nil : parse [] = none
  parse_two : ∀ (first second : NumberToken) (between : Blanks), between.text ≠ [] →
    parse (first.text ++ between.text ++ second.text) = none

/-- One line without its end. -/
structure LineText where
  text : Text
  oneLine : text.all (· != '\n') = true
  deriving DecidableEq

/-- A sample line: `labels` are the blanks in front of the braces and what stands
between them, `timestamp` has the blanks in front of it. -/
structure MetricSample where
  lead : Blanks
  name : MetricName
  labels : Option (Blanks × LineText)
  gap : Blanks
  value : NumberToken
  timestamp : Option (Blanks × NumberToken)
  trail : Blanks
  gap_ne_nil : labels = none → gap.text ≠ []
  timestamp_ne_nil : ∀ t ∈ timestamp, t.1.text ≠ []

inductive ExpositionLine where
  | blank (blanks : Blanks)
  /-- HELP and TYPE lines among them. -/
  | comment (lead : Blanks) (text : LineText)
  | sample (s : MetricSample)

def MetricSample.labelText (s : MetricSample) : Text :=
  match s.labels with
  | some (blanks, inner) => blanks.text ++ '{' :: (inner.text ++ ['}'])
  | none => []

def MetricSample.stampText (s : MetricSample) : Text :=
  match s.timestamp with
  | some (blanks, stamp) => blanks.text ++ stamp.text
  | none => []

def MetricSample.text (s : MetricSample) : Text :=
  s.lead.text ++ (s.name.text ++ (s.labelText ++ (s.gap.text ++ (s.value.text ++
    (s.stampText ++ s.trail.text)))))

def ExpositionLine.text : ExpositionLine → Text
  | .blank blanks => blanks.text
  | .comment lead text => lead.text ++ '#' :: text.text
  | .sample s => s.text

abbrev Exposition := List ExpositionLine

def Exposition.text (doc : Exposition) : Text := doc.flatMap (·.text ++ ['\n'])

def awkFields (record : Text) : List Text := words isBlank record

/-- `$1 == metric {print $2}` on one record. -/
def awkPrints (metric record : Text) : Option Text :=
  match awkFields record with
  | name :: fields => if name = metric then some (fields.headD []) else none
  | [] => none

/-- The awk program, captured by `$(...)`; `none` is `exit 1`. -/
def awkMetric (metric text : Text) : Option Text :=
  let printed := (Text.lines text).filterMap (awkPrints metric)
  if printed.isEmpty then none else some (Text.captured (printed.flatMap (· ++ ['\n'])))

variable {F : Type}

def metricValue (dir : EvidenceDir F) (file metric : String) : Except EvidenceError Text := do
  let text ← dir.readText file
  Check.orElse (awkMetric metric.toList text) (.metricMissing metric file)

/-- `fetched` is what `kubectl exec … curl` printed, `none` if it failed: with
`pipefail` the pipeline then fails whatever awk read. -/
def liveMetricValue (fetched : Option Text) (metric : String) : Option Text :=
  fetched.bind (awkMetric metric.toList)

def ExpositionLine.unlabelled (name : MetricName) : ExpositionLine → Option MetricSample
  | .sample s => if s.name = name ∧ s.labels = none then some s else none
  | _ => none

def Exposition.unlabelled (doc : Exposition) (name : MetricName) : List MetricSample :=
  doc.filterMap (·.unlabelled name)

/-- A labelled sample of the metric with a blank in front of its braces. -/
def ExpositionLine.BlankLabelled (name : MetricName) : ExpositionLine → Prop
  | .sample s => s.name = name ∧ ∃ blanks inner, s.labels = some (blanks, inner) ∧ blanks.text ≠ []
  | _ => False

/-- The name at the start of the line, and a space right behind it. -/
def begins (name : MetricName) (line : Text) : Bool := (name.text ++ [' ']).isPrefixOf line

/-- Lines that a comment or a labelled sample holds behind a line break of another kind, and
that start with the name and a space. -/
def ExpositionLine.hidden (name : MetricName) : ExpositionLine → List Text
  | .blank _ => []
  | .comment lead text =>
    ((ExpositionLine.comment lead text).text.splitOnP Text.isLineBreak).filter (begins name)
  | .sample s =>
    if s.labels = none then [] else (s.text.splitOnP Text.isLineBreak).filter (begins name)

def behindLastSpace (line : Text) : Text := (line.reverse.takeWhile (· != ' ')).reverse

/-- Nothing stands before the name, and a space right behind it. -/
def MetricSample.StartsLine (s : MetricSample) : Prop :=
  s.lead.text = [] ∧ s.gap.text.head? = some ' '

instance (s : MetricSample) : Decidable s.StartsLine := inferInstanceAs (Decidable (_ ∧ _))

/-- What stands behind the last space of the sample is its value, or a timestamp with the same
number. -/
structure MetricSample.ReadAs [PyFloat F] (s : MetricSample) (v : F) : Prop where
  trail : ' ' ∉ s.trail.text
  value : s.timestamp = none → PyFloat.parse s.value.text = some v
  timestamp : ∀ t ∈ s.timestamp, ' ' ∈ t.1.text ∧ PyFloat.parse t.2.text = some v

/-- Of the lines Python takes for the metric's, the first one ends with this number. -/
def Exposition.Reads [PyFloat F] (doc : Exposition) (name : MetricName) (v : F) : Prop :=
  match doc with
  | [] => False
  | line :: doc =>
    match (line.hidden name).head?, line.unlabelled name with
    | some hidden, _ => PyFloat.parse (behindLastSpace hidden) = some v
    | none, some s => if s.StartsLine then s.ReadAs v else Exposition.Reads doc name v
    | none, none => Exposition.Reads doc name v

section Characters

variable {c : Char}

theorem isAlphanum_range (h : c.isAlphanum = true) : 48 ≤ c.toNat ∧ c.toNat ≤ 122 := by
  delta Char.isAlphanum Char.isAlpha Char.isUpper Char.isLower Char.isDigit at h
  simp only [Bool.or_eq_true, Bool.and_eq_true, decide_eq_true_eq, UInt32.le_iff_toNat_le,
    ge_iff_le] at h
  have hc : c.toNat = c.val.toNat := rfl
  rw [hc]
  simp at h
  omega

theorem isNameChar_range (h : isNameChar c = true) : 43 ≤ c.toNat ∧ c.toNat ≤ 122 := by
  simp only [isNameChar, Bool.or_eq_true, beq_iff_eq] at h
  rcases h with (h | rfl) | rfl
  · have hr := isAlphanum_range h
    omega
  · decide
  · decide

theorem isNumberChar_range (h : isNumberChar c = true) : 43 ≤ c.toNat ∧ c.toNat ≤ 122 := by
  simp only [isNumberChar, Bool.or_eq_true, beq_iff_eq] at h
  rcases h with (((h | rfl) | rfl) | rfl) | rfl
  · have hr := isAlphanum_range h
    omega
  · decide
  · decide
  · decide
  · decide

theorem isBlank_code (h : isBlank c = true) : c.toNat = 32 ∨ c.toNat = 9 := by
  simp only [isBlank, Bool.or_eq_true, beq_iff_eq] at h
  rcases h with rfl | rfl
  · decide
  · decide

theorem isLineBreak_of_range (h : 43 ≤ c.toNat ∧ c.toNat ≤ 122) : Text.isLineBreak c = false := by
  simp only [Text.isLineBreak, Bool.or_eq_false_iff, Bool.and_eq_false_iff, decide_eq_false_iff_not,
    beq_eq_false_iff_ne]
  omega

theorem isLineBreak_of_blank (h : isBlank c = true) : Text.isLineBreak c = false := by
  have hc := isBlank_code h
  simp only [Text.isLineBreak, Bool.or_eq_false_iff, Bool.and_eq_false_iff, decide_eq_false_iff_not,
    beq_eq_false_iff_ne]
  omega

theorem isBlank_of_range (h : 43 ≤ c.toNat ∧ c.toNat ≤ 122) : isBlank c = false := by
  cases hb : isBlank c with
  | false => rfl
  | true =>
    have hc := isBlank_code hb
    omega

theorem MetricName.not_blank (name : MetricName) : name.text.all (!isBlank ·) = true := by
  rw [List.all_eq_true]
  intro c hc
  rw [isBlank_of_range (isNameChar_range (List.all_eq_true.mp name.chars c hc))]
  rfl

theorem NumberToken.not_blank (n : NumberToken) : n.text.all (!isBlank ·) = true := by
  rw [List.all_eq_true]
  intro c hc
  rw [isBlank_of_range (isNumberChar_range (List.all_eq_true.mp n.chars c hc))]
  rfl

theorem Blanks.closes (b : Blanks) (h : b.text ≠ []) (rest : Text) :
    Split.closes isBlank (b.text ++ rest) = true := by
  have hb := b.blank
  cases hb' : b.text with
  | nil => exact absurd hb' h
  | cons c text =>
    rw [hb', List.all_cons, Bool.and_eq_true] at hb
    rw [List.cons_append, closes_cons, hb.1]

end Characters

/-! What awk prints for each kind of line. -/

variable {name : MetricName} {s : MetricSample}

theorem MetricSample.closes_rest (s : MetricSample) :
    Split.closes isBlank (s.stampText ++ s.trail.text) = true := by
  have htrail : Split.closes isBlank s.trail.text = true := by
    by_cases h : s.trail.text = []
    · rw [h, closes_nil]
    · simpa using s.trail.closes h []
  cases ht : s.timestamp with
  | none => rw [MetricSample.stampText, ht, List.nil_append, htrail]
  | some stamp =>
    rw [MetricSample.stampText, ht]
    simp only [List.append_assoc]
    exact stamp.1.closes (s.timestamp_ne_nil stamp (by rw [ht]; rfl)) _

theorem awkFields_unlabelled (h : s.labels = none) :
    awkFields s.text =
      s.name.text :: s.value.text :: awkFields (s.stampText ++ s.trail.text) := by
  rw [awkFields, MetricSample.text, words_lead s.lead.blank, MetricSample.labelText, h,
    List.nil_append,
    words_token s.name.ne_nil s.name.not_blank (s.gap.closes (s.gap_ne_nil h) _),
    words_lead s.gap.blank, words_token s.value.ne_nil s.value.not_blank s.closes_rest]
  rfl

theorem isBlank_brace : ['{'].all (!isBlank ·) = true := rfl

theorem awkFields_labelled {blanks : Blanks} {inner : LineText}
    (h : s.labels = some (blanks, inner)) :
    ∃ first rest, awkFields s.text =
      if blanks.text = [] then (s.name.text ++ '{' :: first) :: rest
      else s.name.text :: ('{' :: first) :: rest := by
  have htext : ∃ after, s.text = s.lead.text ++ (s.name.text ++ (blanks.text ++ '{' :: after)) := by
    simp [MetricSample.text, MetricSample.labelText, h]
  obtain ⟨after, htext⟩ := htext
  refine ⟨after.takeWhile (!isBlank ·), words isBlank (after.dropWhile (!isBlank ·)), ?_⟩
  rw [awkFields, htext, words_lead s.lead.blank]
  have hbrace := words_prefix (by simp) isBlank_brace after
  rw [List.singleton_append, List.singleton_append] at hbrace
  by_cases hb : blanks.text = []
  · have hname : (s.name.text ++ ['{']).all (!isBlank ·) = true := by
      rw [List.all_append, s.name.not_blank, isBlank_brace]
      rfl
    have hword := words_prefix (by simp) hname after
    rw [List.append_assoc, List.append_assoc, List.singleton_append, List.singleton_append] at hword
    rw [if_pos hb, hb, List.nil_append, hword]
  · rw [if_neg hb, words_token s.name.ne_nil s.name.not_blank (blanks.closes hb _),
      words_lead blanks.blank, hbrace]

theorem MetricName.ne_of_mem (name : MetricName) {field : Text} {c : Char} (hc : c ∈ field)
    (h : ¬ (43 ≤ c.toNat ∧ c.toNat ≤ 122)) : field ≠ name.text := by
  rintro rfl
  exact h (isNameChar_range (List.all_eq_true.mp name.chars c hc))

theorem MetricName.ext_text {n m : MetricName} (h : n.text = m.text) : n = m := by
  cases n
  cases m
  cases h
  rfl

theorem awkPrints_blank (name : MetricName) (blanks : Blanks) :
    awkPrints name.text (ExpositionLine.blank blanks).text = none := by
  have hwords := words_lead blanks.blank []
  rw [List.append_nil, words_nil] at hwords
  simp [awkPrints, awkFields, ExpositionLine.text, hwords]

theorem awkPrints_comment (name : MetricName) (lead : Blanks) (text : LineText) :
    awkPrints name.text (ExpositionLine.comment lead text).text = none := by
  have hhash : ['#'].all (!isBlank ·) = true := rfl
  have hwords := words_prefix (by simp) hhash text.text
  rw [List.singleton_append, List.singleton_append] at hwords
  have hne : '#' :: text.text.takeWhile (!isBlank ·) ≠ name.text :=
    name.ne_of_mem List.mem_cons_self (by decide)
  simp only [awkPrints, awkFields, ExpositionLine.text, words_lead lead.blank, hwords, if_neg hne]

theorem awkPrints_unlabelled (h : s.labels = none) :
    awkPrints name.text s.text = if s.name = name then some s.value.text else none := by
  simp only [awkPrints, awkFields_unlabelled h, List.headD_cons]
  by_cases hn : s.name = name
  · rw [if_pos hn, hn, if_pos rfl]
  · rw [if_neg hn, if_neg fun heq => hn (MetricName.ext_text heq)]

theorem awkPrints_labelled (name : MetricName) {blanks : Blanks} {inner : LineText}
    (h : s.labels = some (blanks, inner)) :
    ∃ first, awkPrints name.text s.text =
      if s.name = name ∧ blanks.text ≠ [] then some ('{' :: first) else none := by
  obtain ⟨first, rest, hfields⟩ := awkFields_labelled h
  refine ⟨first, ?_⟩
  by_cases hb : blanks.text = []
  · have hne : s.name.text ++ '{' :: first ≠ name.text :=
      name.ne_of_mem (by simp : '{' ∈ s.name.text ++ '{' :: first) (by decide)
    simp only [awkPrints, hfields, if_pos hb, if_neg hne]
    simp [hb]
  · simp only [awkPrints, hfields, if_neg hb, List.headD_cons]
    by_cases hn : s.name = name
    · simp [hn, hb]
    · simp only [hn, false_and, if_false]
      rw [if_neg fun heq => hn (MetricName.ext_text heq)]

variable {line : ExpositionLine}

/-- Without blanks in front of braces awk prints the unlabelled samples. -/
theorem awkPrints_line (h : ¬ line.BlankLabelled name) :
    awkPrints name.text line.text = (line.unlabelled name).map (·.value.text) := by
  cases line with
  | blank blanks => exact awkPrints_blank name blanks
  | comment lead text => exact awkPrints_comment name lead text
  | sample s =>
    cases hl : s.labels with
    | none =>
      rw [ExpositionLine.text, awkPrints_unlabelled hl]
      by_cases hn : s.name = name
      · simp [ExpositionLine.unlabelled, hl, hn]
      · simp [ExpositionLine.unlabelled, hn]
    | some labels =>
      obtain ⟨first, hprints⟩ := awkPrints_labelled name hl
      have hblank : ¬ (s.name = name ∧ labels.1.text ≠ []) := by
        rintro ⟨hn, hb⟩
        exact h ⟨hn, labels.1, labels.2, hl, hb⟩
      rw [ExpositionLine.text, hprints, if_neg hblank]
      simp [ExpositionLine.unlabelled, hl]

theorem awkPrints_blankLabelled (h : line.BlankLabelled name) :
    ∃ first, awkPrints name.text line.text = some ('{' :: first) := by
  cases line with
  | blank blanks => exact h.elim
  | comment lead text => exact h.elim
  | sample s =>
    obtain ⟨hn, blanks, inner, hl, hb⟩ := h
    obtain ⟨first, hprints⟩ := awkPrints_labelled name hl
    exact ⟨first, by rw [ExpositionLine.text, hprints, if_pos ⟨hn, hb⟩]⟩

/-! The lines of a document, for awk and for Python. -/

def unbroken (t : Text) : Bool := t.all (!Text.isLineBreak ·)

theorem unbroken_append (t u : Text) : unbroken (t ++ u) = (unbroken t && unbroken u) :=
  List.all_append

theorem oneLine_of_unbroken {t : Text} (h : unbroken t = true) : t.all (· != '\n') = true := by
  rw [List.all_eq_true]
  intro c hc
  have hbreak := List.all_eq_true.mp h c hc
  cases hn : c == '\n' with
  | false => simpa using hn
  | true =>
    rw [beq_iff_eq.mp hn] at hbreak
    contradiction

theorem Blanks.unbroken (b : Blanks) : unbroken b.text = true := by
  apply List.all_eq_true.mpr
  intro c hc
  rw [isLineBreak_of_blank (List.all_eq_true.mp b.blank c hc)]
  rfl

theorem MetricName.unbroken (name : MetricName) : unbroken name.text = true := by
  apply List.all_eq_true.mpr
  intro c hc
  rw [isLineBreak_of_range (isNameChar_range (List.all_eq_true.mp name.chars c hc))]
  rfl

theorem NumberToken.unbroken (n : NumberToken) : unbroken n.text = true := by
  apply List.all_eq_true.mpr
  intro c hc
  rw [isLineBreak_of_range (isNumberChar_range (List.all_eq_true.mp n.chars c hc))]
  rfl

theorem MetricSample.unbroken_behind (s : MetricSample) :
    unbroken (s.gap.text ++ (s.value.text ++ (s.stampText ++ s.trail.text))) = true := by
  have hstamp : unbroken s.stampText = true := by
    cases ht : s.timestamp with
    | none => rw [MetricSample.stampText, ht]; rfl
    | some stamp =>
      rw [MetricSample.stampText, ht, unbroken_append, stamp.1.unbroken, stamp.2.unbroken]
      rfl
  rw [unbroken_append, unbroken_append, unbroken_append, s.gap.unbroken, s.value.unbroken, hstamp,
    s.trail.unbroken]
  rfl

theorem MetricSample.unbroken (h : s.labels = none) : unbroken s.text = true := by
  rw [MetricSample.text, MetricSample.labelText, h, List.nil_append, unbroken_append, unbroken_append,
    s.lead.unbroken, s.name.unbroken, s.unbroken_behind]
  rfl

theorem ExpositionLine.oneLine (line : ExpositionLine) : line.text.all (· != '\n') = true := by
  cases line with
  | blank blanks => exact oneLine_of_unbroken blanks.unbroken
  | comment lead text =>
    rw [ExpositionLine.text, List.all_append, oneLine_of_unbroken lead.unbroken, List.all_cons,
      text.oneLine]
    rfl
  | sample s =>
    have hlabels : s.labelText.all (· != '\n') = true := by
      cases hl : s.labels with
      | none => rw [MetricSample.labelText, hl]; rfl
      | some labels =>
        rw [MetricSample.labelText, hl]
        simp only [List.all_append, List.all_cons, oneLine_of_unbroken labels.1.unbroken,
          labels.2.oneLine]
        rfl
    rw [ExpositionLine.text, MetricSample.text, List.all_append, List.all_append, List.all_append,
      oneLine_of_unbroken s.lead.unbroken, oneLine_of_unbroken s.name.unbroken, hlabels,
      oneLine_of_unbroken s.unbroken_behind]
    rfl

variable {doc : Exposition}

theorem Exposition.text_cons (line : ExpositionLine) (doc : Exposition) :
    Exposition.text (line :: doc) = line.text ++ '\n' :: doc.text := by
  simp [Exposition.text]

theorem lines_text (doc : Exposition) : Text.lines doc.text = doc.map (·.text) := by
  have hparts : doc.text.splitOn '\n' = doc.map (·.text) ++ [[]] := by
    induction doc with
    | nil => rfl
    | cons line doc ih =>
      have hline : ∀ c ∈ line.text, (c == '\n') = false := by
        simpa [List.all_eq_true] using line.oneLine
      rw [Exposition.text_cons]
      have hsplit := List.splitOnP_append_cons_of_forall_mem hline '\n' rfl (Exposition.text doc)
      have hcons : (line.text ++ '\n' :: Exposition.text doc).splitOn '\n' =
          line.text :: (Exposition.text doc).splitOn '\n' := hsplit
      rw [hcons, ih]
      rfl
  rw [Text.lines, hparts]
  simp

theorem filter_splitlines {p : Text → Bool} (hp : p [] = false) (doc : Exposition) :
    (Text.splitlines doc.text).filter p =
      doc.flatMap fun line => (line.text.splitOnP Text.isLineBreak).filter p := by
  have hdrop : ∀ t : Text, (Text.splitlines t).filter p = (t.splitOnP Text.isLineBreak).filter p := by
    intro t
    have hparts : Text.splitlines t =
        if (t.splitOnP Text.isLineBreak).getLast? = some [] then (t.splitOnP Text.isLineBreak).dropLast
        else t.splitOnP Text.isLineBreak := rfl
    rw [hparts]
    by_cases hlast : (t.splitOnP Text.isLineBreak).getLast? = some []
    · have hsplit := List.dropLast_append_getLast? [] hlast
      rw [if_pos hlast]
      conv_rhs => rw [← hsplit]
      simp [hp]
    · rw [if_neg hlast]
  rw [hdrop]
  induction doc with
  | nil => simp [Exposition.text, hp]
  | cons line doc ih =>
    have hbreak : Text.isLineBreak '\n' = true := by decide
    rw [Exposition.text_cons, List.splitOnP_append_cons _ _ hbreak, List.filter_append, ih,
      List.flatMap_cons]

theorem begins_nil (name : MetricName) : begins name [] = false := by
  cases h : name.text with
  | nil => exact absurd h name.ne_nil
  | cons c text => simp [begins, h]

theorem begins_of_head {t : Text} {c : Char} (hc : ¬ (43 ≤ c.toNat ∧ c.toNat ≤ 122)) :
    begins name (c :: t) = false := by
  cases h : name.text with
  | nil => exact absurd h name.ne_nil
  | cons a text =>
    have hchars := name.chars
    rw [h, List.all_cons, Bool.and_eq_true] at hchars
    have hne : a ≠ c := by
      rintro rfl
      exact hc (isNameChar_range hchars.1)
    simp [begins, h, List.isPrefixOf, hne]

theorem begins_name {n : MetricName} {gap rest : Text} (hgap : gap ≠ [])
    (hblank : gap.all isBlank = true) :
    begins name (n.text ++ (gap ++ rest)) = decide (n = name ∧ gap.head? = some ' ') := by
  have hoff {c : Char} (hc : isBlank c = true) : isNameChar c = false := by
    have hcode := isBlank_code hc
    cases hn : isNameChar c with
    | false => rfl
    | true =>
      have hr := isNameChar_range hn
      omega
  cases gap with
  | nil => exact absurd rfl hgap
  | cons c gap =>
    rw [List.all_cons, Bool.and_eq_true] at hblank
    rw [Bool.eq_iff_iff, decide_eq_true_eq, begins, List.isPrefixOf_iff_prefix]
    constructor
    · rintro ⟨after, hprefix⟩
      rw [List.append_assoc, List.singleton_append, List.cons_append] at hprefix
      obtain ⟨hname, hcons⟩ := append_left_unique name.chars n.chars
        (by simp [hoff (c := ' ') rfl]) (by simp [hoff hblank.1]) hprefix
      obtain ⟨rfl, -⟩ := List.cons.inj hcons
      exact ⟨MetricName.ext_text hname.symm, rfl⟩
    · rintro ⟨rfl, hhead⟩
      obtain rfl : c = ' ' := by simpa using hhead
      exact ⟨gap ++ rest, by simp⟩

theorem begins_unlabelled (h : s.labels = none) :
    begins name s.text =
      decide (s.name = name ∧ s.lead.text = [] ∧ s.gap.text.head? = some ' ') := by
  have htext : s.text = s.lead.text ++ (s.name.text ++ (s.gap.text ++ (s.value.text ++
      (s.stampText ++ s.trail.text)))) := by
    rw [MetricSample.text, MetricSample.labelText, h, List.nil_append]
  rw [htext]
  have hblank := s.lead.blank
  cases hlead : s.lead.text with
  | nil =>
    rw [List.nil_append, begins_name (s.gap_ne_nil h) s.gap.blank]
    simp
  | cons c lead =>
    rw [hlead, List.all_cons, Bool.and_eq_true] at hblank
    have hc := isBlank_code hblank.1
    rw [List.cons_append, begins_of_head (by omega)]
    simp

/-- The lines Python takes for the metric's. -/
def ExpositionLine.taken (name : MetricName) : ExpositionLine → List Text
  | .blank _ => []
  | .comment lead text => (ExpositionLine.comment lead text).hidden name
  | .sample s =>
    if s.labels = none then if s.name = name ∧ s.StartsLine then [s.text] else []
    else (ExpositionLine.sample s).hidden name

theorem taken_unlabelled (h : s.labels = none) :
    (s.text.splitOnP Text.isLineBreak).filter (begins name) =
      if s.name = name ∧ s.lead.text = [] ∧ s.gap.text.head? = some ' ' then [s.text] else [] := by
  have hpieces : s.text.splitOnP Text.isLineBreak = [s.text] := by
    apply List.splitOnP_eq_singleton
    have hu := MetricSample.unbroken h
    simpa [unbroken, List.all_eq_true] using hu
  rw [hpieces, List.filter_singleton, begins_unlabelled h]
  simp only [Bool.cond_decide]

theorem taken_line (name : MetricName) (line : ExpositionLine) :
    (line.text.splitOnP Text.isLineBreak).filter (begins name) = line.taken name := by
  cases line with
  | blank blanks =>
    have hpieces : blanks.text.splitOnP Text.isLineBreak = [blanks.text] := by
      apply List.splitOnP_eq_singleton
      have hu := blanks.unbroken
      simpa [unbroken, List.all_eq_true] using hu
    have hbegins : begins name blanks.text = false := by
      have hblank := blanks.blank
      cases hb : blanks.text with
      | nil => exact begins_nil name
      | cons c text =>
        rw [hb, List.all_cons, Bool.and_eq_true] at hblank
        have hc := isBlank_code hblank.1
        exact begins_of_head (by omega)
    simp [ExpositionLine.text, ExpositionLine.taken, hpieces, hbegins]
  | comment lead text => rfl
  | sample s =>
    by_cases h : s.labels = none
    · rw [ExpositionLine.text, ExpositionLine.taken, if_pos h, taken_unlabelled h]
      rfl
    · simp [ExpositionLine.text, ExpositionLine.taken, ExpositionLine.hidden, h]

/-! What `float` makes of what stands behind the last space. -/

theorem behindLastSpace_right {t : Text} (h : ' ' ∈ t) (before : Text) :
    behindLastSpace (before ++ t) = behindLastSpace t := by
  rw [behindLastSpace, behindLastSpace, List.reverse_append, List.takeWhile_append,
    if_neg]
  intro hall
  have hfree := List.takeWhile_eq_self_iff.mp
    ((List.takeWhile_prefix _).eq_of_length hall)
  have hspace := hfree ' ' (List.mem_reverse.mpr h)
  contradiction

theorem behindLastSpace_left {t : Text} (h : ' ' ∉ t) (before : Text) :
    behindLastSpace (before ++ t) = behindLastSpace before ++ t := by
  have hall : ∀ c ∈ t.reverse, (c != ' ') = true := by
    intro c hc
    rw [bne_iff_ne]
    rintro rfl
    exact h (List.mem_reverse.mp hc)
  rw [behindLastSpace, List.reverse_append, List.takeWhile_append_of_pos hall]
  simp [behindLastSpace]

theorem blank_behindLastSpace (b : Blanks) : (behindLastSpace b.text).all isBlank = true := by
  rw [List.all_eq_true]
  intro c hc
  have hmem : c ∈ b.text.reverse := (List.takeWhile_prefix _).subset (List.mem_reverse.mp hc)
  exact List.all_eq_true.mp b.blank c (List.mem_reverse.mp hmem)

def Blanks.behindLastSpace (b : Blanks) : Blanks :=
  ⟨PdDisaggregation.behindLastSpace b.text, blank_behindLastSpace b⟩

theorem NumberToken.no_space (n : NumberToken) : ' ' ∉ n.text := by
  intro hmem
  have hr := isNumberChar_range (List.all_eq_true.mp n.chars _ hmem)
  exact absurd hr (by decide)

section Python

variable [PyFloatText F] {dir : EvidenceDir F} {file : String} {v : F}

theorem parse_blank (b : Blanks) : (PyFloat.parse b.text : Option F) = none := by
  have hparse := PyFloatText.parse_blanks (F := F) b .none []
  rwa [List.append_nil, Blanks.none, List.append_nil, PyFloatText.parse_nil] at hparse

theorem text_unlabelled (hlabels : s.labels = none) (hlead : s.lead.text = []) :
    s.text = s.name.text ++ (s.gap.text ++ (s.value.text ++ (s.stampText ++ s.trail.text))) := by
  rw [MetricSample.text, MetricSample.labelText, hlabels, hlead, List.nil_append, List.nil_append]

section LastSpace

variable {a g v m u w : Text}

theorem behindLastSpace_trail (h : ' ' ∈ w) :
    behindLastSpace (a ++ (g ++ (v ++ (u ++ w)))) = behindLastSpace w := by
  rw [← List.append_assoc, ← List.append_assoc, ← List.append_assoc, behindLastSpace_right h]

theorem behindLastSpace_gap (hg : ' ' ∈ g) (h : ' ' ∉ v ++ w) :
    behindLastSpace (a ++ (g ++ (v ++ w))) = behindLastSpace g ++ v ++ w := by
  rw [← List.append_assoc, behindLastSpace_left h, behindLastSpace_right hg, List.append_assoc]

theorem behindLastSpace_stamp (hm : ' ' ∈ m) (h : ' ' ∉ u ++ w) :
    behindLastSpace (a ++ (g ++ (v ++ (m ++ u ++ w)))) = behindLastSpace m ++ u ++ w := by
  rw [List.append_assoc m, ← List.append_assoc, ← List.append_assoc, ← List.append_assoc _ m,
    behindLastSpace_left h, behindLastSpace_right hm, List.append_assoc]

end LastSpace

/-- Split from the right, the sample gives its value if it has no timestamp and no space
behind it, and its timestamp if a space stands in front of that. -/
theorem parse_sample (hlabels : s.labels = none) (hstarts : s.StartsLine) :
    PyFloat.parse (behindLastSpace s.text) = some v ↔ s.ReadAs v := by
  have hgap : ' ' ∈ s.gap.text := List.mem_of_mem_head? hstarts.2
  rw [text_unlabelled hlabels hstarts.1]
  by_cases htrail : ' ' ∈ s.trail.text
  · have hblank : (PyFloat.parse (behindLastSpace s.trail.text) : Option F) = none :=
      parse_blank s.trail.behindLastSpace
    rw [behindLastSpace_trail htrail, hblank]
    exact iff_of_false (by simp) fun h => h.trail htrail
  · cases hstamp : s.timestamp with
    | none =>
      have hfree : ' ' ∉ s.value.text ++ s.trail.text := by
        simp [s.value.no_space, htrail]
      rw [MetricSample.stampText, hstamp, List.nil_append, behindLastSpace_gap hgap hfree]
      rw [show behindLastSpace s.gap.text = s.gap.behindLastSpace.text from rfl,
        PyFloatText.parse_blanks]
      constructor
      · intro h
        exact ⟨htrail, fun _ => h, by simp [hstamp]⟩
      · intro h
        exact h.value hstamp
    | some t =>
      obtain ⟨blanks, stamp⟩ := t
      rw [MetricSample.stampText, hstamp]
      by_cases hspace : ' ' ∈ blanks.text
      · have hfree : ' ' ∉ stamp.text ++ s.trail.text := by
          simp [stamp.no_space, htrail]
        rw [behindLastSpace_stamp hspace hfree,
          show behindLastSpace blanks.text = blanks.behindLastSpace.text from rfl,
          PyFloatText.parse_blanks]
        constructor
        · intro h
          refine ⟨htrail, by simp [hstamp], fun t ht => ?_⟩
          obtain rfl := Option.some.inj (hstamp.symm.trans ht)
          exact ⟨hspace, h⟩
        · intro h
          exact (h.timestamp _ hstamp).2
      · have hfree : ' ' ∉ s.value.text ++ (blanks.text ++ stamp.text ++ s.trail.text) := by
          simp [s.value.no_space, stamp.no_space, hspace, htrail]
        have hbetween : blanks.text ≠ [] := s.timestamp_ne_nil (blanks, stamp) hstamp
        have hread : s.gap.behindLastSpace.text ++ s.value.text ++
            (blanks.text ++ stamp.text ++ s.trail.text) = s.gap.behindLastSpace.text ++
            (s.value.text ++ blanks.text ++ stamp.text) ++ s.trail.text := by
          simp only [List.append_assoc]
        rw [behindLastSpace_gap hgap hfree,
          show behindLastSpace s.gap.text = s.gap.behindLastSpace.text from rfl, hread,
          PyFloatText.parse_blanks, PyFloatText.parse_two _ _ _ hbetween]
        refine iff_of_false (by simp) fun h => hspace (h.timestamp _ hstamp).1

/-- Of a line that is no unlabelled sample, only what is hidden in it is read. -/
theorem reads_hidden {line : ExpositionLine} (htaken : line.taken name = line.hidden name)
    (hunlabelled : line.unlabelled name = none)
    (ih : (∃ first, (doc.flatMap (·.taken name)).head? = some first ∧
      PyFloat.parse (behindLastSpace first) = some v) ↔ doc.Reads name v) :
    (∃ first, ((line :: doc).flatMap (·.taken name)).head? = some first ∧
      PyFloat.parse (behindLastSpace first) = some v) ↔ Exposition.Reads (line :: doc) name v := by
  rw [List.flatMap_cons, htaken, Exposition.Reads, hunlabelled]
  cases line.hidden name with
  | nil => simpa using ih
  | cons first rest => simp

theorem reads_taken (name : MetricName) (doc : Exposition) :
    (∃ first, (doc.flatMap (·.taken name)).head? = some first ∧
      PyFloat.parse (behindLastSpace first) = some v) ↔ doc.Reads name v := by
  induction doc with
  | nil => simp [Exposition.Reads]
  | cons line doc ih =>
    cases line with
    | blank blanks => exact reads_hidden rfl rfl ih
    | comment lead text => exact reads_hidden rfl rfl ih
    | sample s =>
      by_cases hlabels : s.labels = none
      · have hhidden : (ExpositionLine.sample s).hidden name = [] := by
          simp [ExpositionLine.hidden, hlabels]
        by_cases hname : s.name = name
        · have hun : (ExpositionLine.sample s).unlabelled name = some s := by
            simp [ExpositionLine.unlabelled, hname, hlabels]
          by_cases hstarts : s.StartsLine
          · have htaken : (ExpositionLine.sample s).taken name = [s.text] := by
              simp [ExpositionLine.taken, hlabels, hname, hstarts]
            rw [List.flatMap_cons, htaken, Exposition.Reads, hhidden, hun]
            simp [hstarts, parse_sample hlabels hstarts]
          · have htaken : (ExpositionLine.sample s).taken name = [] := by
              simp [ExpositionLine.taken, hlabels, hstarts]
            rw [List.flatMap_cons, htaken, Exposition.Reads, hhidden, hun]
            simpa [hstarts] using ih
        · refine reads_hidden ?_ ?_ ih
          · simp [ExpositionLine.taken, hhidden, hlabels, hname]
          · simp [ExpositionLine.unlabelled, hname]
      · refine reads_hidden ?_ ?_ ih
        · simp [ExpositionLine.taken, hlabels]
        · simp [ExpositionLine.unlabelled, hlabels]

theorem prometheusValue_ok (h : dir.readText file = .ok doc.text) :
    prometheusValue dir file (String.ofList name.text) = .ok v ↔ doc.Reads name v := by
  have hfind : (Text.splitlines doc.text).find? (begins name) =
      (doc.flatMap (·.taken name)).head? := by
    rw [← List.head?_filter, filter_splitlines (begins_nil name)]
    simp only [taken_line]
  have hbegins : begins name =
      (((String.ofList name.text).toList ++ [' ']).isPrefixOf ·) := by
    funext line
    rw [String.toList_ofList]
    rfl
  rw [prometheusValue, h, Check.ok_bind, ← hbegins, hfind, Check.bind_ok, ← reads_taken]
  simp only [Check.orElse_ok]
  rfl

/-- A sample without a timestamp, its value behind one space. -/
structure MetricSample.Plain (s : MetricSample) : Prop where
  lead : s.lead = .none
  labels : s.labels = none
  gap : s.gap = .space
  timestamp : s.timestamp = none
  trail : s.trail = .none

theorem reads_plain (before after : Exposition) {v : F} (hplain : s.Plain)
    (hbefore : ∀ line ∈ before, line.taken s.name = [])
    (hv : PyFloat.parse s.value.text = some v) :
    Exposition.Reads (before ++ .sample s :: after) s.name v := by
  have hstarts : s.StartsLine := ⟨by rw [hplain.lead]; rfl, by rw [hplain.gap]; rfl⟩
  have hread : s.ReadAs v :=
    ⟨by simp [hplain.trail, Blanks.none], fun _ => hv, by simp [hplain.timestamp]⟩
  rw [← reads_taken]
  refine ⟨s.text, ?_, (parse_sample hplain.labels hstarts).mpr hread⟩
  have hnone : before.flatMap (·.taken s.name) = [] := by simpa using hbefore
  have htaken : (ExpositionLine.sample s).taken s.name = [s.text] := by
    simp [ExpositionLine.taken, hplain.labels, hstarts]
  rw [List.flatMap_append, hnone, List.nil_append, List.flatMap_cons, htaken]
  rfl

end Python

section Agreement

variable [PyFloat F] {dir : EvidenceDir F} {file : String}

/-- Under a metric's name all readers give the value of this sample. -/
structure ReadersAgree (dir : EvidenceDir F) (file : String) (doc : Exposition)
    (name : MetricName) (s : MetricSample) : Prop where
  python : ∃ v : F, PyFloat.parse s.value.text = some v ∧
    prometheusValue dir file (String.ofList name.text) = .ok v
  snapshot : metricValue dir file (String.ofList name.text) = .ok s.value.text
  live : liveMetricValue (some doc.text) (String.ofList name.text) = some s.value.text

structure ReadersFail (dir : EvidenceDir F) (file : String) (doc : Exposition)
    (name : MetricName) : Prop where
  python : ∀ v : F, prometheusValue dir file (String.ofList name.text) ≠ .ok v
  snapshot : ∀ t, metricValue dir file (String.ofList name.text) ≠ .ok t
  live : liveMetricValue (some doc.text) (String.ofList name.text) = none

omit [PyFloat F] in
theorem metricValue_ok {t : Text} (h : dir.readText file = .ok doc.text) :
    metricValue dir file (String.ofList name.text) = .ok t ↔
      awkMetric name.text doc.text = some t := by
  rw [metricValue, h, Check.ok_bind, Check.orElse_ok, String.toList_ofList]

theorem awkMetric_text (name : MetricName) (doc : Exposition) :
    awkMetric name.text doc.text =
      let printed := doc.filterMap fun line => awkPrints name.text line.text
      if printed.isEmpty then none else some (Text.captured (printed.flatMap (· ++ ['\n']))) := by
  rw [awkMetric, lines_text, List.filterMap_map]
  rfl

theorem filterMap_awkPrints (h : ∀ line ∈ doc, ¬ line.BlankLabelled name) :
    (doc.filterMap fun line => awkPrints name.text line.text) =
      (doc.unlabelled name).map (·.value.text) := by
  rw [Exposition.unlabelled, List.map_filterMap]
  exact List.filterMap_congr fun line hline => awkPrints_line (h line hline)

theorem captured_value (n : NumberToken) : Text.captured (n.text ++ ['\n']) = n.text := by
  have hoff {c : Char} (hc : c ∈ n.text) : c ≠ '\x00' ∧ c ≠ '\n' := by
    have hr := isNumberChar_range (List.all_eq_true.mp n.chars c hc)
    constructor
    · rintro rfl
      exact absurd hr (by decide)
    · rintro rfl
      exact absurd hr (by decide)
  have hfilter : (n.text ++ ['\n']).filter (· != '\x00') = n.text ++ ['\n'] := by
    rw [List.filter_eq_self]
    intro c hc
    rcases List.mem_append.mp hc with hc | hc
    · simpa using (hoff hc).1
    · rw [List.mem_singleton.mp hc]
      rfl
  rw [Text.captured, hfilter, List.rdropWhile_concat_pos (· == '\n') _ _ rfl,
    List.rdropWhile_eq_self_iff]
  intro hne
  simpa using (hoff (List.getLast_mem hne)).2

theorem mem_captured {t : Text} {c : Char} (hc : c ∈ t) (hnul : c ≠ '\x00')
    (hnewline : c ≠ '\n') : c ∈ Text.captured t := by
  have hmem : c ∈ t.filter (· != '\x00') := List.mem_filter.mpr ⟨hc, by simpa using hnul⟩
  rw [← List.rdropWhile_append_rtakeWhile (p := (· == '\n')) (l := t.filter (· != '\x00'))] at hmem
  rcases List.mem_append.mp hmem with hmem | hmem
  · exact hmem
  · have hc := List.mem_rtakeWhile_imp hmem
    exact absurd (beq_iff_eq.mp hc) hnewline

theorem awkMetric_blankLabelled (hline : line ∈ doc) (h : line.BlankLabelled name) :
    ∃ output, awkMetric name.text doc.text = some output ∧ '{' ∈ output := by
  obtain ⟨first, hprints⟩ := awkPrints_blankLabelled h
  have hmem : '{' :: first ∈ doc.filterMap fun line => awkPrints name.text line.text :=
    List.mem_filterMap.mpr ⟨line, hline, hprints⟩
  rw [awkMetric_text]
  refine ⟨_, if_neg ?_, ?_⟩
  · intro hempty
    rw [List.isEmpty_iff.mp hempty] at hmem
    exact List.not_mem_nil hmem
  · apply mem_captured
    · exact List.mem_flatMap.mpr ⟨_, hmem, by simp⟩
    · decide
    · decide

theorem awkMetric_unlabelled (hs : doc.unlabelled name = [s]) :
    awkMetric name.text doc.text = some s.value.text ↔
      ∀ line ∈ doc, ¬ line.BlankLabelled name := by
  constructor
  · intro h line hline hblank
    obtain ⟨output, houtput, hbrace⟩ := awkMetric_blankLabelled hline hblank
    obtain rfl := Option.some.inj (houtput.symm.trans h)
    have hr := isNumberChar_range (List.all_eq_true.mp s.value.chars '{' hbrace)
    exact absurd hr (by decide)
  · intro h
    rw [awkMetric_text, filterMap_awkPrints h, hs]
    simp [captured_value]

theorem awkMetric_absent (hs : doc.unlabelled name = []) :
    awkMetric name.text doc.text = none ↔ ∀ line ∈ doc, ¬ line.BlankLabelled name := by
  constructor
  · intro h line hline hblank
    obtain ⟨output, houtput, -⟩ := awkMetric_blankLabelled hline hblank
    rw [houtput] at h
    contradiction
  · intro h
    rw [awkMetric_text, filterMap_awkPrints h, hs]
    rfl

omit [PyFloat F] in
theorem liveMetricValue_eq (name : MetricName) (doc : Exposition) :
    liveMetricValue (some doc.text) (String.ofList name.text) = awkMetric name.text doc.text := by
  rw [liveMetricValue, Option.bind_some, String.toList_ofList]

end Agreement

/-- Where one unlabelled sample stands, the readers agree on it exactly if no labelled
one of the metric has a blank in front of its braces and the first line Python takes for
the metric's ends with the sample's number; where none stands, they all fail exactly if
there is no such label and Python reads no number. -/
theorem metric_readers_iff [PyFloatText F] (dir : EvidenceDir F) (file : String) (doc : Exposition)
    (name : MetricName) (h : dir.readText file = .ok doc.text) :
    (∀ s, doc.unlabelled name = [s] → (ReadersAgree dir file doc name s ↔
      (∀ line ∈ doc, ¬ line.BlankLabelled name) ∧
        ∃ v : F, PyFloat.parse s.value.text = some v ∧ doc.Reads name v)) ∧
    (doc.unlabelled name = [] → (ReadersFail dir file doc name ↔
      (∀ line ∈ doc, ¬ line.BlankLabelled name) ∧ ∀ v : F, ¬ doc.Reads name v)) := by
  constructor
  · intro s hs
    constructor
    · intro hagree
      obtain ⟨v, hv, hpython⟩ := hagree.python
      have hawk := (metricValue_ok h).mp hagree.snapshot
      exact ⟨(awkMetric_unlabelled hs).mp hawk, v, hv, (prometheusValue_ok h).mp hpython⟩
    · rintro ⟨hlabels, v, hv, hreads⟩
      have hawk := (awkMetric_unlabelled hs).mpr hlabels
      constructor
      · exact ⟨v, hv, (prometheusValue_ok h).mpr hreads⟩
      · exact (metricValue_ok h).mpr hawk
      · rw [liveMetricValue_eq, hawk]
  · intro hs
    constructor
    · intro hfail
      have hawk := hfail.live
      rw [liveMetricValue_eq] at hawk
      refine ⟨(awkMetric_absent hs).mp hawk, fun v hreads => ?_⟩
      exact hfail.python v ((prometheusValue_ok h).mpr hreads)
    · rintro ⟨hlabels, hreads⟩
      have hawk := (awkMetric_absent hs).mpr hlabels
      constructor
      · exact fun v hv => hreads v ((prometheusValue_ok h).mp hv)
      · intro t ht
        have hsome := (metricValue_ok h).mp ht
        rw [hawk] at hsome
        contradiction
      · rw [liveMetricValue_eq, hawk]

/-! Exact numbers are such floats. -/

theorem parseUnsigned_chars {t : Text} {x : ℚ} (h : Decimal.parseUnsigned t = some x) :
    ∀ c ∈ t, isBlank c = false := by
  have hdigit {c : Char} (hc : c.isDigit = true) : isBlank c = false := by
    refine isBlank_of_range (isNumberChar_range ?_)
    simp [isNumberChar, Char.isAlphanum, hc]
  have hcut := List.takeWhile_append_dropWhile (p := Char.isDigit) (l := t)
  intro c hc
  rw [← hcut, List.mem_append] at hc
  rcases hc with hc | hc
  · exact hdigit (List.mem_takeWhile_imp hc)
  · rw [Decimal.parseUnsigned, Pattern.drop_takeWhile] at h
    split at h
    · rename_i hnil
      rw [hnil] at hc
      exact absurd hc List.not_mem_nil
    · rename_i fraction hfraction
      rw [hfraction] at hc
      split at h
      · rename_i hall
        rw [Bool.and_eq_true, List.all_eq_true] at hall
        rcases List.mem_cons.mp hc with rfl | hc
        · decide
        · exact hdigit (hall.1 c hc)
      · exact absurd h (Option.some_ne_none x).symm
    · exact absurd h (Option.some_ne_none x).symm

theorem parse_chars {t : Text} {x : ℚ} (h : Decimal.parse t = some x) :
    ∀ c ∈ Pattern.strip t, isBlank c = false := by
  unfold Decimal.parse at h
  split at h
  · rename_i u hu
    obtain ⟨y, hy, -⟩ := Option.map_eq_some_iff.mp h
    rw [hu, List.forall_mem_cons]
    exact ⟨by decide, parseUnsigned_chars hy⟩
  · rename_i u hu
    rw [hu, List.forall_mem_cons]
    exact ⟨by decide, parseUnsigned_chars h⟩
  · exact parseUnsigned_chars h

theorem isSpace_of_blank {c : Char} (h : isBlank c = true) : Pattern.isSpace c = true := by
  simp only [isBlank, Bool.or_eq_true, beq_iff_eq] at h
  rcases h with rfl | rfl
  · decide
  · decide

theorem NumberToken.not_space (n : NumberToken) : ∀ c ∈ n.text, Pattern.isSpace c = false := by
  intro c hc
  have hr := isNumberChar_range (List.all_eq_true.mp n.chars c hc)
  simp only [Pattern.isSpace, Bool.or_eq_false_iff, Bool.and_eq_false_iff, decide_eq_false_iff_not,
    beq_eq_false_iff_ne]
  omega

instance : PyFloatText ℚ where
  parse_blanks before after t := by
    show Decimal.parse _ = Decimal.parse t
    rw [Decimal.parse, Decimal.parse, Pattern.strip_append
      (fun c hc => isSpace_of_blank (List.all_eq_true.mp before.blank c hc))
      (fun c hc => isSpace_of_blank (List.all_eq_true.mp after.blank c hc))]
  parse_nil := rfl
  parse_two first second between hne := by
    show Decimal.parse _ = none
    have hfirst : ∀ c ∈ (first.text ++ between.text ++ second.text).head?,
        Pattern.isSpace c = false := by
      intro c hc
      obtain ⟨d, t, ht⟩ := List.exists_cons_of_ne_nil first.ne_nil
      have hd := first.not_space
      rw [ht] at hd hc
      obtain rfl := Option.some.inj hc
      exact hd _ List.mem_cons_self
    have hlast : ∀ c ∈ (first.text ++ between.text ++ second.text).getLast?,
        Pattern.isSpace c = false := by
      intro c hc
      rw [List.getLast?_append_of_ne_nil _ second.ne_nil] at hc
      exact second.not_space c (List.mem_of_mem_getLast? hc)
    by_contra hparse
    obtain ⟨x, hx⟩ := Option.ne_none_iff_exists'.mp hparse
    have hchars := parse_chars hx
    rw [Pattern.strip_self hfirst hlast] at hchars
    obtain ⟨d, t, ht⟩ := List.exists_cons_of_ne_nil hne
    have hin : d ∈ between.text := by rw [ht]; exact List.mem_cons_self
    have hblank := List.all_eq_true.mp between.blank d hin
    rw [hchars d (by simp [hin])] at hblank
    contradiction

def matchedTokens : MetricName := ⟨"kvbm_matched_tokens".toList, by decide, by decide, by decide⟩

/-- `kvbm_matched_tokens 38400`, with a timestamp or without. -/
def matchedSample (timestamp : Option NumberToken) : MetricSample where
  lead := .none
  name := matchedTokens
  labels := none
  gap := .space
  value := ⟨"38400".toList, by decide, by decide⟩
  timestamp := timestamp.map (Blanks.space, ·)
  trail := .none
  gap_ne_nil := by simp [Blanks.space]
  timestamp_ne_nil := by simp [Blanks.space]

def typeLine : ExpositionLine :=
  .comment .none ⟨" TYPE kvbm_matched_tokens counter".toList, by decide⟩

def plainMetrics : Exposition := [typeLine, .sample (matchedSample none)]

def stampedMetrics : Exposition :=
  [typeLine, .sample (matchedSample (some ⟨"1700000000000".toList, by decide, by decide⟩))]

def snapshotDir (doc : Exposition) : EvidenceDir ℚ where
  metadata := ⟨[], 0, 0, 0, 0, 0, 0, 0⟩
  requests := []
  texts := [("metrics-after-warm.txt", doc.text)]
  comparison := none

theorem metric_readers_plain :
    ReadersAgree (snapshotDir plainMetrics) "metrics-after-warm.txt" plainMetrics matchedTokens
      (matchedSample none) := by
  have hparse : PyFloat.parse (matchedSample none).value.text = some (38400 : ℚ) := by
    decide +kernel
  have htype : ∀ line ∈ [typeLine], line.taken matchedTokens = [] := by decide +kernel
  have hreads : plainMetrics.Reads matchedTokens (38400 : ℚ) :=
    reads_plain [typeLine] [] ⟨rfl, rfl, rfl, rfl, rfl⟩ htype hparse
  have hlabels : ∀ line ∈ plainMetrics, ¬ line.BlankLabelled matchedTokens := by
    simp [plainMetrics, typeLine, ExpositionLine.BlankLabelled, matchedSample]
  exact ((metric_readers_iff (snapshotDir plainMetrics) "metrics-after-warm.txt" plainMetrics
    matchedTokens rfl).1 _ rfl).mpr ⟨hlabels, 38400, hparse, hreads⟩

theorem timestamp_read_as_value :
    ¬ ∀ (dir : EvidenceDir ℚ) file (doc : Exposition) name s,
      dir.readText file = .ok doc.text → doc.unlabelled name = [s] →
        ReadersAgree dir file doc name s := by
  intro h
  obtain ⟨v, hv, hpython⟩ := (h (snapshotDir stampedMetrics) "metrics-after-warm.txt"
    stampedMetrics matchedTokens _ rfl rfl).python
  have hvalue : (PyFloat.parse (matchedSample none).value.text : Option ℚ) = some 38400 := by
    decide +kernel
  have hread : prometheusValue (snapshotDir stampedMetrics) "metrics-after-warm.txt"
      (String.ofList matchedTokens.text) = .ok (1700000000000 : ℚ) := by
    decide +kernel
  obtain rfl := Option.some.inj (hv.symm.trans hvalue)
  have hne := Except.ok.inj (hpython.symm.trans hread)
  norm_num at hne

end PdDisaggregation
