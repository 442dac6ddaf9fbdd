import PdDisaggregation.CsvLines
import PdDisaggregation.RoceEvidence
import PdDisaggregation.RoceSampler

/-! What `summarize` reads of a sampler's output. The SSH connection of a sampler is
terminated, and its file may then end anywhere in a row. -/

namespace PdDisaggregation

/-- `str(n)` -/
def pyStr : Int → Text
  | .ofNat n => Nat.toDigits 10 n
  | .negSucc n => '-' :: Nat.toDigits 10 (n + 1)

namespace RoceReport

/-- No field of these has a character that the writer quotes. -/
def csvLine (fields : List Text) : Text := [','].intercalate fields

def headerLine : Text := csvLine (requiredColumns.map String.toList)

def rowFields (s : RoceSample) : List Text :=
  [pyStr s.monotonicNs, pyStr s.portRcvDataWords, pyStr s.portXmitDataWords]

def rowLine (s : RoceSample) : Text := csvLine (rowFields s)

/-- What the sampler writes to its output. -/
def output (rows : List RoceSample) : Text := Csv.content (headerLine :: rows.map rowLine) []

end RoceReport

open RoceReport

theorem digits_eq (t : Text) : Text.digits t = Nat.ofDigitChars 10 t 0 := by
  rw [Nat.ofDigitChars_eq_foldl]
  rfl

theorem digits_toDigits (n : Nat) : Text.digits (Nat.toDigits 10 n) = n := by
  rw [digits_eq, Nat.ofDigitChars_ten_toDigits]

theorem isDigit_toDigits {n : Nat} {c : Char} (h : c ∈ Nat.toDigits 10 n) : c.isDigit = true :=
  Nat.isDigit_of_mem_toDigits (by decide) (by decide) h

theorem digitGroups_digits {t : Text} (ht : ∀ c ∈ t, c.isDigit = true) :
    digitGroups t = if t.isEmpty then none else some (Text.digits t) := by
  have hnone : '_' ∉ t := fun hin => absurd (ht _ hin) (by decide)
  have hall : t.all Text.isDecimal = true :=
    List.all_eq_true.mpr fun c hc => Text.isDecimal_ascii (ht c hc)
  rw [digitGroups, List.splitOn_eq_singleton hnone, ← Text.decimals_ascii ht]
  cases t with
  | nil => rfl
  | cons c t => simp [hall]

/-- The characters of a number. -/
def numeric (c : Char) : Bool := c.isDigit || c == '-'

theorem numeric_range {c : Char} (h : numeric c = true) :
    c.toNat = 45 ∨ 48 ≤ c.toNat ∧ c.toNat ≤ 57 := by
  rcases Bool.or_eq_true_iff.mp h with hdigit | hminus
  · refine Or.inr ?_
    simpa [Char.isDigit, UInt32.le_iff_toNat_le] using hdigit
  · rw [beq_iff_eq.mp hminus]
    exact Or.inl rfl

theorem numeric_plain {c : Char} (h : numeric c = true) :
    Csv.plain c = true ∧ c ≠ ',' ∧ Pattern.isSpace c = false := by
  have hrange := numeric_range h
  refine ⟨?_, ?_, ?_⟩
  · refine Csv.plain_iff.mpr ⟨?_, ?_⟩
    · rintro rfl
      simp at hrange
    · rw [Csv.isNewline, Bool.or_eq_false_iff, beq_eq_false_iff_ne, beq_eq_false_iff_ne]
      constructor
      · rintro rfl
        simp at hrange
      · rintro rfl
        simp at hrange
  · rintro rfl
    simp at hrange
  · simp only [Pattern.isSpace, Bool.or_eq_false_iff, Bool.and_eq_false_iff, decide_eq_false_iff_not,
      beq_eq_false_iff_ne]
    omega

theorem numeric_pyStr (n : Int) : ∀ c ∈ pyStr n, numeric c = true := by
  intro c hc
  cases n with
  | ofNat n => exact Bool.or_eq_true_iff.mpr (Or.inl (isDigit_toDigits hc))
  | negSucc n =>
    rcases List.mem_cons.mp hc with rfl | hin
    · rfl
    · exact Bool.or_eq_true_iff.mpr (Or.inl (isDigit_toDigits hin))

theorem strip_numeric {t : Text} (ht : ∀ c ∈ t, numeric c = true) : Pattern.strip t = t := by
  have hspace : ∀ c ∈ t, Pattern.isSpace c = false := fun c hc => (numeric_plain (ht c hc)).2.2
  exact Pattern.strip_self (fun c hc => hspace c (List.mem_of_mem_head? hc))
    fun c hc => hspace c (List.mem_of_mem_getLast? hc)

/-- Between 0 and `n`. -/
def Toward (v n : Int) : Prop := 0 ≤ v ∧ v ≤ n ∨ n ≤ v ∧ v ≤ 0

theorem digits_append_le (t u : Text) : Text.digits t ≤ Text.digits (t ++ u) := by
  induction u using List.reverseRecOn with
  | nil => simp
  | append_singleton u c ih =>
    have hlast : Text.digits (t ++ (u ++ [c])) =
        10 * Text.digits (t ++ u) + (c.toNat - '0'.toNat) := by
      rw [← List.append_assoc, Text.digits, Text.digits, List.foldl_append]
      rfl
    omega

theorem pyInt_digits {t : Text} (ht : ∀ c ∈ t, c.isDigit = true) :
    pyInt t = (digitGroups t).map fun n : Nat => (n : Int) := by
  have hnumeric : ∀ c ∈ t, numeric c = true := fun c hc => by simp [numeric, ht c hc]
  rw [pyInt, strip_numeric hnumeric]
  cases t with
  | nil => rfl
  | cons c t =>
    have hc := ht c List.mem_cons_self
    split
    next heq =>
      rw [(List.cons.inj heq).1] at hc
      exact absurd hc (by decide)
    next heq =>
      rw [(List.cons.inj heq).1] at hc
      exact absurd hc (by decide)
    · cases digitGroups (c :: t) <;> rfl

theorem pyInt_minus {t : Text} (ht : ∀ c ∈ t, c.isDigit = true) :
    pyInt ('-' :: t) = (digitGroups t).map fun n : Nat => -(n : Int) := by
  have hnumeric : ∀ c ∈ '-' :: t, numeric c = true := by
    intro c hc
    rcases List.mem_cons.mp hc with rfl | hin
    · rfl
    · simp [numeric, ht c hin]
  rw [pyInt, strip_numeric hnumeric]
  show Option.map _ _ = _
  cases digitGroups t <;> rfl

theorem digitGroups_prefix {n m : Nat} {t : Text} (ht : t <+: Nat.toDigits 10 n)
    (h : digitGroups t = some m) : m ≤ n := by
  obtain ⟨u, hu⟩ := ht
  have hdigits : ∀ c ∈ t, c.isDigit = true :=
    fun c hc => isDigit_toDigits (n := n) (hu ▸ List.mem_append_left _ hc)
  rw [digitGroups_digits hdigits] at h
  split at h
  · contradiction
  · rw [← Option.some.inj h, ← digits_toDigits n, ← hu]
    exact digits_append_le t u

/-- A number that is cut short is none or one toward 0. -/
theorem pyInt_prefix {n v : Int} {t : Text} (ht : t <+: pyStr n) (h : pyInt t = some v) :
    Toward v n := by
  have hdigits {m : Nat} {u : Text} (hu : u <+: Nat.toDigits 10 m) : ∀ c ∈ u, c.isDigit = true :=
    fun c hc => isDigit_toDigits (hu.subset hc)
  cases n with
  | ofNat n =>
    rw [pyInt_digits (hdigits ht)] at h
    obtain ⟨m, hm, rfl⟩ := Option.map_eq_some_iff.mp h
    have hle := digitGroups_prefix ht hm
    exact Or.inl ⟨Int.natCast_nonneg m, Int.ofNat_le.mpr hle⟩
  | negSucc n =>
    cases t with
    | nil => contradiction
    | cons c t =>
      obtain ⟨rfl, htail⟩ := List.cons_prefix_cons.mp ht
      rw [pyInt_minus (hdigits htail)] at h
      obtain ⟨m, hm, rfl⟩ := Option.map_eq_some_iff.mp h
      have hle := digitGroups_prefix htail hm
      refine Or.inr ⟨?_, ?_⟩
      · omega
      · omega

theorem digitGroups_toDigits (n : Nat) : digitGroups (Nat.toDigits 10 n) = some n := by
  have hne : (Nat.toDigits 10 n).isEmpty = false := by simp
  rw [digitGroups_digits fun c hc => isDigit_toDigits hc, hne, digits_toDigits]
  rfl

theorem pyInt_pyStr (n : Int) : pyInt (pyStr n) = some n := by
  cases n with
  | ofNat n =>
    rw [pyStr, pyInt_digits fun c hc => isDigit_toDigits hc, digitGroups_toDigits]
    rfl
  | negSucc n =>
    rw [pyStr, pyInt_minus fun c hc => isDigit_toDigits hc, digitGroups_toDigits]
    rfl

namespace RoceReport

variable {s : RoceSample} {rows samples : List RoceSample} {part : Text} {path : String} {n k : Nat}

theorem comma_pyStr (n : Int) : ',' ∉ pyStr n :=
  fun hin => (numeric_plain (numeric_pyStr n _ hin)).2.1 rfl

theorem splitOn_rowLine (s : RoceSample) : (rowLine s).splitOn ',' = rowFields s := by
  refine List.splitOn_intercalate ',' ?_ (List.cons_ne_nil _ _)
  intro field hfield
  simp only [rowFields, List.mem_cons, List.not_mem_nil, or_false] at hfield
  rcases hfield with rfl | rfl | rfl
  · exact comma_pyStr _
  · exact comma_pyStr _
  · exact comma_pyStr _

theorem rowLine_eq (s : RoceSample) : rowLine s = pyStr s.monotonicNs ++
    ',' :: (pyStr s.portRcvDataWords ++ ',' :: pyStr s.portXmitDataWords) := by
  simp [rowLine, csvLine, rowFields, List.intercalate]

theorem plain_rowLine (s : RoceSample) : Csv.Plain (rowLine s) ∧ rowLine s ≠ [] := by
  rw [rowLine_eq]
  refine ⟨?_, by simp⟩
  have hnumber (n : Int) (c : Char) (hc : c ∈ pyStr n) : Csv.plain c = true :=
    (numeric_plain (numeric_pyStr n c hc)).1
  intro c hc
  simp only [List.mem_append, List.mem_cons] at hc
  rcases hc with hns | rfl | hrcv | rfl | hxmit
  · exact hnumber _ c hns
  · decide
  · exact hnumber _ c hrcv
  · decide
  · exact hnumber _ c hxmit

theorem plain_headerLine : Csv.Plain headerLine ∧ headerLine ≠ [] := by
  constructor
  · intro c hc
    have hall : headerLine.all Csv.plain = true := by decide +kernel
    exact List.all_eq_true.mp hall c hc
  · decide +kernel

theorem splitOn_headerLine : headerLine.splitOn ',' = requiredColumns.map String.toList := by
  decide +kernel

theorem plain_lines (rows : List RoceSample) :
    ∀ line ∈ headerLine :: rows.map rowLine, Csv.Plain line ∧ line ≠ [] := by
  intro line hline
  rcases List.mem_cons.mp hline with rfl | hrow
  · exact plain_headerLine
  · obtain ⟨s, -, rfl⟩ := List.mem_map.mp hrow
    exact plain_rowLine s

/-- The output cut off in the row behind the first `n`, and what is there of that row. -/
def cutOutput (rows : List RoceSample) (n : Nat) (part : Text) : Text :=
  Csv.content (headerLine :: (rows.take n).map rowLine) part

/-- The records behind the header. -/
def recordsBehind (rows : List RoceSample) (n : Nat) (part : Text) : List (List Text) :=
  (rows.take n).map rowFields ++ if part.isEmpty then [] else [part.splitOn ',']

/-- Where the output is cut off. -/
theorem output_take (rows : List RoceSample) (k : Nat) :
    (∃ part, (output rows).take k = part ∧ part <+: headerLine) ∨
      ∃ n part, (output rows).take k = cutOutput rows n part ∧
        (part = [] ∨ ∃ s, rows[n]? = some s ∧ part <+: rowLine s) := by
  obtain ⟨n, part, htake, hpart⟩ := Csv.content_take (headerLine :: rows.map rowLine) k
  cases n with
  | zero =>
    refine Or.inl ⟨part, ?_, ?_⟩
    · rw [output, htake]
      simp [Csv.content]
    · rcases hpart with rfl | ⟨line, hline, hprefix⟩
      · exact List.nil_prefix
      · obtain rfl := Option.some.inj hline
        exact hprefix
  | succ n =>
    refine Or.inr ⟨n, part, ?_, ?_⟩
    · rw [output, htake, List.take_succ_cons, ← List.map_take]
      rfl
    · refine hpart.imp_right fun hline => ?_
      obtain ⟨line, hline, hprefix⟩ := hline
      rw [List.getElem?_cons_succ, List.getElem?_map] at hline
      obtain ⟨s, hs, rfl⟩ := Option.map_eq_some_iff.mp hline
      exact ⟨s, hs, hprefix⟩

theorem plain_cut {line : Text} (hline : Csv.Plain line) (hpart : part <+: line) :
    Csv.Plain part := fun c hc => hline c (hpart.subset hc)

theorem recordsOf_cut (rows : List RoceSample) (n : Nat) (part : Text) :
    Csv.recordsOf (headerLine :: (rows.take n).map rowLine) part =
      requiredColumns.map String.toList :: recordsBehind rows n part := by
  have hrows : ((rows.take n).map rowLine).map (·.splitOn ',') = (rows.take n).map rowFields := by
    rw [List.map_map]
    exact List.map_congr_left fun s _ => splitOn_rowLine s
  rw [Csv.recordsOf, recordsBehind, List.cons_append, List.map_cons, List.map_append, hrows,
    splitOn_headerLine]
  congr 2
  split
  · rfl
  · rfl

theorem recordsBehind_filter (rows : List RoceSample) (n : Nat) (part : Text) :
    (recordsBehind rows n part).filter (!·.isEmpty) = recordsBehind rows n part := by
  rw [List.filter_eq_self]
  intro record hrecord
  rcases List.mem_append.mp hrecord with hrow | hpart
  · obtain ⟨s, -, rfl⟩ := List.mem_map.mp hrow
    rfl
  · split at hpart
    · contradiction
    · rw [List.mem_singleton.mp hpart]
      simp

/-- The file as `DictReader` gives it. -/
def cutFile (path : String) (rows : List RoceSample) (n : Nat) (part : Text) : CsvFile :=
  ⟨path, requiredColumns, recordsBehind rows n part⟩

theorem csvFile_cut (hpart : Csv.Plain part)
    (hend : (Csv.read (cutOutput rows n part)).2 = none) :
    csvFile path (cutOutput rows n part) = cutFile path rows n part := by
  have hrecords := Csv.read_content (plain_lines (rows.take n)) hpart hend
  rw [recordsOf_cut] at hrecords
  have hnames : (requiredColumns.map String.toList).map String.ofList = requiredColumns := by
    simp
  rw [csvFile, cutOutput, hrecords, List.tail_cons, List.headD_cons, hnames, recordsBehind_filter,
    cutFile]

theorem field_columns (path : String) (records : List (List Text)) (row : List Text) :
    (CsvFile.mk path requiredColumns records).field row "monotonic_ns" = row[0]? ∧
      (CsvFile.mk path requiredColumns records).field row "port_rcv_data_words" = row[1]? ∧
      (CsvFile.mk path requiredColumns records).field row "port_xmit_data_words" = row[2]? := by
  rcases row with _ | ⟨x, _ | ⟨y, _ | ⟨z, row⟩⟩⟩
  · exact ⟨rfl, rfl, rfl⟩
  · exact ⟨rfl, rfl, rfl⟩
  · exact ⟨rfl, rfl, rfl⟩
  · exact ⟨rfl, rfl, rfl⟩

theorem intAt_columns (path : String) (records : List (List Text)) (row : List Text) :
    intAt ℚ (CsvFile.mk path requiredColumns records) row "monotonic_ns" = row[0]?.bind pyInt ∧
      intAt ℚ (CsvFile.mk path requiredColumns records) row "port_rcv_data_words" =
        row[1]?.bind pyInt ∧
      intAt ℚ (CsvFile.mk path requiredColumns records) row "port_xmit_data_words" =
        row[2]?.bind pyInt := by
  obtain ⟨hns, hrcv, hxmit⟩ := field_columns path records row
  rw [intAt, intAt, intAt, hns, hrcv, hxmit]
  exact ⟨rfl, rfl, rfl⟩

theorem goodRow_iff {records : List (List Text)} {row : List Text} :
    GoodRow ℚ (CsvFile.mk path requiredColumns records) row ↔
      row[0]?.bind pyInt ≠ none ∧ row[1]?.bind pyInt ≠ none ∧ row[2]?.bind pyInt ≠ none := by
  obtain ⟨hns, hrcv, hxmit⟩ := intAt_columns path records row
  rw [GoodRow, requiredColumns, List.forall_mem_cons, List.forall_mem_cons, List.forall_mem_cons]
  rw [← requiredColumns, hns, hrcv, hxmit]
  simp

theorem sampleAt_eq (records : List (List Text)) (row : List Text) :
    sampleAt ℚ (CsvFile.mk path requiredColumns records) row =
      ⟨(row[0]?.bind pyInt).getD 0, (row[1]?.bind pyInt).getD 0, (row[2]?.bind pyInt).getD 0⟩ := by
  obtain ⟨hns, hrcv, hxmit⟩ := intAt_columns path records row
  rw [sampleAt, hns, hrcv, hxmit]

theorem sampleAt_rowFields (records : List (List Text)) (s : RoceSample) :
    sampleAt ℚ (CsvFile.mk path requiredColumns records) (rowFields s) = s := by
  rw [sampleAt_eq]
  simp [rowFields, pyInt_pyStr]

theorem goodRow_rowFields (records : List (List Text)) (s : RoceSample) :
    GoodRow ℚ (CsvFile.mk path requiredColumns records) (rowFields s) := by
  rw [goodRow_iff]
  simp [rowFields, pyInt_pyStr]

/-- The last row may have been cut off in its last number. -/
def CutTo (rows samples : List RoceSample) : Prop :=
  ∃ n, samples = rows.take n ∨
    ∃ s v, rows[n]? = some s ∧ Toward v s.portXmitDataWords ∧
      samples = rows.take n ++ [{ s with portXmitDataWords := v }]

/-- The samples read have the times of the rows. -/
theorem CutTo.times {rows samples : List RoceSample} (h : CutTo rows samples) :
    samples.map (·.monotonicNs) <+: rows.map (·.monotonicNs) := by
  obtain ⟨n, rfl | ⟨s, v, hs, -, rfl⟩⟩ := h
  · exact (List.take_prefix n rows).map _
  · obtain ⟨hlt, rfl⟩ := List.getElem?_eq_some_iff.mp hs
    have hnext : rows.take (n + 1) = rows.take n ++ [rows[n]] :=
      (List.take_append_getElem hlt).symm
    have hprefix := (List.take_prefix (n + 1) rows).map (·.monotonicNs)
    rw [hnext, List.map_append] at hprefix
    rw [List.map_append]
    exact hprefix

theorem sampleAt_part {records : List (List Text)} (hpart : part <+: rowLine s)
    (hgood : GoodRow ℚ (CsvFile.mk path requiredColumns records) (part.splitOn ',')) :
    ∃ v, Toward v s.portXmitDataWords ∧
      sampleAt ℚ (CsvFile.mk path requiredColumns records) (part.splitOn ',') =
        { s with portXmitDataWords := v } := by
  obtain ⟨-, -, hxmit⟩ := goodRow_iff.mp hgood
  obtain ⟨v, hv⟩ := Option.ne_none_iff_exists'.mp hxmit
  obtain ⟨w, hw, hint⟩ := Option.bind_eq_some_iff.mp hv
  obtain ⟨hsplit, hprefix⟩ := Csv.splitOn_prefix hpart (splitOn_rowLine s) hw
  refine ⟨v, pyInt_prefix hprefix hint, ?_⟩
  rw [sampleAt_eq, hsplit]
  simp [pyInt_pyStr, hint]

theorem loadSamples_cut (hpart : part = [] ∨ ∃ s, rows[n]? = some s ∧ part <+: rowLine s)
    (hload : loadSamples ℚ path (cutOutput rows n part) = .ok samples) : CutTo rows samples := by
  obtain ⟨hreadable, rfl⟩ := loadSamples_ok.mp hload
  have hplain : Csv.Plain part := by
    rcases hpart with rfl | ⟨s, -, hprefix⟩
    · intro c hc
      contradiction
    · exact plain_cut (plain_rowLine s).1 hprefix
  have hfile : csvFile path (cutOutput rows n part) = cutFile path rows n part :=
    csvFile_cut hplain hreadable.complete
  have hgood := hreadable.rows
  rw [hfile] at hgood
  have hrows : ((rows.take n).map rowFields).map (sampleAt ℚ (cutFile path rows n part)) =
      rows.take n := by
    rw [List.map_map]
    exact List.map_id'' (fun s => sampleAt_rowFields _ s) _
  have hmap : (cutFile path rows n part).rows.map (sampleAt ℚ (cutFile path rows n part)) =
      rows.take n ++
        if part.isEmpty then [] else [sampleAt ℚ (cutFile path rows n part) (part.splitOn ',')] := by
    show (recordsBehind rows n part).map _ = _
    rw [recordsBehind, List.map_append, hrows]
    congr 1
    split
    · rfl
    · rfl
  rw [samplesIn, hfile, hmap]
  refine ⟨n, ?_⟩
  by_cases hempty : part.isEmpty = true
  · rw [if_pos hempty]
    exact Or.inl (List.append_nil _)
  · rw [if_neg hempty]
    obtain ⟨s, hs, hprefix⟩ :=
      hpart.resolve_left fun hnil => hempty (List.isEmpty_iff.mpr hnil)
    have hlast : part.splitOn ',' ∈ recordsBehind rows n part := by simp [recordsBehind, hempty]
    obtain ⟨v, hv, hsample⟩ := sampleAt_part hprefix (hgood _ hlast)
    refine Or.inr ⟨s, v, hs, hv, ?_⟩
    rw [cutFile, hsample]

theorem loadSamples_take (hload : loadSamples ℚ path ((output rows).take k) = .ok samples) :
    CutTo rows samples := by
  rcases output_take rows k with ⟨part, htake, hprefix⟩ | ⟨n, part, htake, hpart⟩
  · -- nothing but a part of the header
    rw [htake] at hload
    obtain ⟨hreadable, -⟩ := loadSamples_ok.mp hload
    have hcontent : Csv.content [] part = part := rfl
    have hrecords : (Csv.read (Csv.content [] part)).1 = Csv.recordsOf [] part :=
      Csv.read_content (fun line hline => absurd hline List.not_mem_nil)
        (plain_cut plain_headerLine.1 hprefix) hreadable.complete
    have henough := hreadable.enough
    rw [hcontent] at hrecords
    rw [csvFile, hrecords, Csv.recordsOf, List.nil_append] at henough
    split at henough
    · simp at henough
    · simp at henough
  · rw [htake] at hload
    exact loadSamples_cut hpart hload

/-- Wherever the output is cut off, the samples read are those written, in order, up to one;
only the last number of that one may be too small, so that every time read is one written. -/
theorem load_cut (hload : loadSamples ℚ path ((output rows).take k) = .ok samples) :
    CutTo rows samples ∧ samples.map (·.monotonicNs) <+: rows.map (·.monotonicNs) :=
  ⟨loadSamples_take hload, (loadSamples_take hload).times⟩

theorem load_cut_short : CutTo [⟨1, 2, 30⟩, ⟨5, 6, 70⟩] [⟨1, 2, 30⟩, ⟨5, 6, 7⟩] ∧
    [(1 : Int), 5] <+: [1, 5] :=
  load_cut (show loadSamples ℚ "roce.csv" ((output [⟨1, 2, 30⟩, ⟨5, 6, 70⟩]).take 66) = _ by
    decide +kernel)

/-- The numbers of a row are those of 64-bit counters. -/
def Fits (s : RoceSample) : Prop :=
  s.monotonicNs.natAbs < 2 ^ 64 ∧ s.portRcvDataWords.natAbs < 2 ^ 64 ∧
    s.portXmitDataWords.natAbs < 2 ^ 64

theorem length_pyStr {n : Int} (h : n.natAbs < 2 ^ 64) : (pyStr n).length ≤ 21 := by
  have hdigits {m : Nat} (hm : m < 2 ^ 64) : (Nat.toDigits 10 m).length ≤ 20 :=
    (Nat.length_toDigits_le_iff (by decide) (by decide)).mpr (by omega)
  cases n with
  | ofNat n =>
    have hlength := hdigits (m := n) h
    rw [pyStr]
    omega
  | negSucc n =>
    have hlength := hdigits (m := n + 1) h
    rw [pyStr, List.length_cons]
    omega

theorem length_rowLine (h : Fits s) : (rowLine s).length ≤ 131072 := by
  have hns := length_pyStr h.1
  have hrcv := length_pyStr h.2.1
  have hxmit := length_pyStr h.2.2
  rw [rowLine_eq]
  simp only [List.length_append, List.length_cons]
  omega

/-- What is written in full is read back. -/
theorem load_written (hrows : ∀ s ∈ rows, Fits s) :
    loadSamples ℚ path (output rows) = .ok samples ↔ 2 ≤ rows.length ∧ samples = rows := by
  have hcut : output rows = cutOutput rows rows.length [] := by
    rw [output, cutOutput, List.take_length]
  have hplain : Csv.Plain [] := fun c hc => absurd hc List.not_mem_nil
  have hend : (Csv.read (cutOutput rows rows.length [])).2 = none := by
    refine Csv.read_short (plain_lines _) hplain ?_
    intro line hline
    simp only [List.mem_cons, List.mem_map] at hline
    rcases hline with rfl | rfl | ⟨s, hs, rfl⟩
    · exact Nat.zero_le _
    · decide +kernel
    · exact length_rowLine (hrows s (List.mem_of_mem_take hs))
  have hfile : csvFile path (cutOutput rows rows.length []) = cutFile path rows rows.length [] :=
    csvFile_cut hplain hend
  have hrecords : recordsBehind rows rows.length [] = rows.map rowFields := by
    simp [recordsBehind]
  have hsamples : samplesIn ℚ path (output rows) = rows := by
    rw [samplesIn, hcut, hfile, cutFile, hrecords, List.map_map]
    exact List.map_id'' (fun s => sampleAt_rowFields _ s) _
  rw [loadSamples_ok, hsamples]
  constructor
  · rintro ⟨hreadable, rfl⟩
    have henough := hreadable.enough
    rw [hcut, hfile, cutFile, hrecords, List.length_map] at henough
    exact ⟨henough, rfl⟩
  · rintro ⟨henough, rfl⟩
    refine ⟨⟨?_, ?_, ?_, ?_⟩, rfl⟩
    · rw [hcut, hfile]
      rfl
    · rw [hcut, hfile, cutFile, hrecords]
      intro row hrow
      obtain ⟨s, -, rfl⟩ := List.mem_map.mp hrow
      exact goodRow_rowFields _ s
    · rw [hcut]
      exact hend
    · rw [hcut, hfile, cutFile, hrecords, List.length_map]
      exact henough

theorem load_written_two :
    loadSamples ℚ "roce.csv" (output [⟨1, 2, 30⟩, ⟨5, 6, 70⟩]) = .ok [⟨1, 2, 30⟩, ⟨5, 6, 70⟩] ↔
      2 ≤ [RoceSample.mk 1 2 30, ⟨5, 6, 70⟩].length ∧
        [RoceSample.mk 1 2 30, ⟨5, 6, 70⟩] = [⟨1, 2, 30⟩, ⟨5, 6, 70⟩] :=
  load_written (by
    intro s hs
    simp only [List.mem_cons, List.not_mem_nil, or_false] at hs
    rcases hs with rfl | rfl
    · exact ⟨by decide, by decide, by decide⟩
    · exact ⟨by decide, by decide, by decide⟩)

end RoceReport

section Times

variable {K : Type} [Field K] [LinearOrder K] [FloorRing K]

def nanoseconds (t : K) : Int := ⌊t * (1000000000 : ℕ)⌋

/-- The rows are those of the samples taken, but perhaps for the last one. -/
structure Sampler.Written (s : Sampler K) : Prop where
  times : ∃ rest, s.taken.map nanoseconds = s.rows.map (·.monotonicNs) ++ rest

/-- Between two iterations there is a row for each sample. -/
def Sampler.WrittenAll (s : Sampler K) : Prop :=
  s.taken.map nanoseconds = s.rows.map (·.monotonicNs)

variable {fl : K → K} {interval : K} {s : Sampler K}

theorem Sampler.WrittenAll.written (h : s.WrittenAll) : s.Written := by
  refine ⟨[], ?_⟩
  rw [List.append_nil]
  exact h

omit [FloorRing K] in
theorem Sampler.pace_rows (fl : K → K) (interval : K) (s : Sampler K) (d : Duration K) :
    (s.pace fl interval d).taken = s.taken ∧ (s.pace fl interval d).rows = s.rows := by
  rw [pace]
  split
  · exact ⟨rfl, rfl⟩
  · exact ⟨rfl, rfl⟩

theorem Sampler.WrittenAll.run (h : s.WrittenAll) (its : List (Iteration K)) :
    (s.run fl interval its).1.Written := by
  induction its generalizing s with
  | nil => exact h.written
  | cons it its ih =>
    have htaken : (s.take it.arriving).Written := by
      refine ⟨[nanoseconds (s.clock + it.arriving)], ?_⟩
      show (s.taken ++ [s.clock + it.arriving]).map nanoseconds = _
      rw [List.map_append, h]
      rfl
    rw [Sampler.run]
    split
    · exact h.written
    · dsimp only
      split
      · exact htaken
      next counters _ =>
        split
        · apply ih
          obtain ⟨hpaced, hrows⟩ := Sampler.pace_rows fl interval
            ((((s.take it.arriving).pass it.reading).pass it.writing).write
              (s.clock + it.arriving) counters) it.pausing
          rw [Sampler.WrittenAll, hpaced, hrows]
          show (s.taken ++ [s.clock + it.arriving]).map nanoseconds = (s.rows ++ [_]).map _
          rw [List.map_append, List.map_append, h]
          rfl
        · exact ⟨htaken.times⟩

theorem sample_written (fl : K → K) (isFile : String → Bool) (intervalMs opened : K)
    (headerOpen : Bool) (its : List (Iteration K)) :
    (sample fl isFile intervalMs opened headerOpen its).1.Written := by
  have hstart : Sampler.WrittenAll (⟨opened, fl opened, [], []⟩ : Sampler K) := rfl
  rw [sample]
  split
  · exact hstart.written
  · split
    · exact hstart.run its
    · exact hstart.written

variable [IsStrictOrderedRing K] {samples : List RoceSample} {path : String} {k : Nat}
  {isFile : String → Bool} {intervalMs opened : K} {headerOpen : Bool} {its : List (Iteration K)}

/-- However the sampler ran and wherever its output is cut off, the samples read are no
burst: `j + 2` of them take the time of `j` intervals, to the nanosecond. -/
theorem read_never_bursts
    (hload : RoceReport.loadSamples ℚ path ((RoceReport.output
      (sample id isFile intervalMs opened headerOpen its).1.rows).take k) = .ok samples)
    (i j : Nat) (h : i + j + 1 < samples.length) :
    j * (intervalMs / 1000) * 1000000000 - 1 ≤
      ((samples[i + j + 1].monotonicNs - samples[i].monotonicNs : Int) : K) := by
  have hspread := sample_spread Rounds.exact isFile intervalMs opened headerOpen its
  obtain ⟨rest, htimes⟩ := (sample_written id isFile intervalMs opened headerOpen its).times
  obtain ⟨tail, hprefix⟩ := (RoceReport.loadSamples_take hload).times
  rw [← hprefix, List.append_assoc] at htimes
  have htime (m : Nat) (hm : m < samples.length) :
      ∃ t, (sample id isFile intervalMs opened headerOpen its).1.taken[m]? = some t ∧
        nanoseconds t = samples[m].monotonicNs := by
    rw [← Option.map_eq_some_iff, ← List.getElem?_map, htimes,
      List.getElem?_append_left (by simpa using hm)]
    simp [hm]
  obtain ⟨a, ha, hna⟩ := htime i (by omega)
  obtain ⟨b, hb, hnb⟩ := htime (i + j + 1) h
  have happart := hspread i j a b ha hb
  rw [nsmul_eq_mul, id] at happart
  have hfloor := Int.floor_le (a * 1000000000)
  have hceil := Int.lt_floor_add_one (b * 1000000000)
  rw [← hna, ← hnb, nanoseconds, nanoseconds]
  push_cast
  linarith

end Times

theorem read_never_bursts_late :
    ((1 : ℕ) : ℚ) * (10 / 1000) * 1000000000 - 1 ≤ ((20000000 - 0 : Int) : ℚ) :=
  read_never_bursts (show RoceReport.loadSamples ℚ "roce.csv" ((RoceReport.output
      (sample id (fun _ => true) 10 0 true lateIterations).1.rows).take 91) =
    .ok [⟨0, 0, 0⟩, ⟨19000000, 0, 0⟩, ⟨20000000, 0, 0⟩] by decide +kernel) 0 1 (by decide)

end PdDisaggregation
