import PdDisaggregation.CsvReader

/-! Text without quotes, as `csv.reader` reads it: its lines, each split at the commas. The
last line may lack its end. -/

namespace Csv

def plain (c : Char) : Bool := c != '"' && !isNewline c

def Plain (t : Text) : Prop := ∀ c ∈ t, plain c = true

theorem plain_iff {c : Char} : plain c = true ↔ c ≠ '"' ∧ isNewline c = false := by
  simp [plain]

/-- Not in quotes, and not behind the end of a line. -/
structure Reader.Open (r : Reader) : Prop where
  state : r.state = .startRecord ∨ r.state = .startField ∨ r.state = .inField
  field : ',' ∉ r.field
  empty : r.state ≠ .inField → r.field = []

variable {r r' : Reader} {c : Char} {t line last : Text}

theorem Reader.Open.start : Reader.start.Open := ⟨Or.inl rfl, List.not_mem_nil, fun _ => rfl⟩

/-- A comma ends a field. -/
theorem processChar_comma (hr : r.Open) :
    processChar r ',' = .ok (r.saveField .startField) := by
  rcases hr.state with h | h | h
  · simp [processChar, h, startField, isNewline]
  · simp [processChar, h, startField, isNewline]
  · simp [processChar, h, isNewline]

theorem processChar_plain (hr : r.Open) (hc : plain c = true) (hne : c ≠ ',') :
    processChar r c = r.addChar c .inField := by
  obtain ⟨hquote, hnewline⟩ := plain_iff.mp hc
  rcases hr.state with h | h | h
  · simp [processChar, h, startField, hnewline, hquote, hne]
  · simp [processChar, h, startField, hnewline, hquote, hne]
  · simp [processChar, h, hnewline, hne]

theorem processChar_newline (hr : r.Open) (hs : r.state ≠ .startRecord) :
    processChar r '\n' = .ok (r.saveField .eatCrnl) := by
  rcases hr.state with h | h | h
  · contradiction
  · simp [processChar, h, startField, isNewline]
  · simp [processChar, h, isNewline]

theorem open_saveField : (r.saveField .startField).Open :=
  ⟨Or.inr (Or.inl rfl), List.not_mem_nil, fun _ => rfl⟩

theorem open_addChar (hr : r.Open) (hne : c ≠ ',') :
    ({ r with field := r.field ++ [c], state := .inField } : Reader).Open := by
  refine ⟨Or.inr (Or.inr rfl), ?_, fun h => absurd rfl h⟩
  intro hin
  rcases List.mem_append.mp hin with hold | hnew
  · exact hr.field hold
  · exact hne (List.mem_singleton.mp hnew).symm

/-- Reading plain text: what has been read is split at its commas. -/
structure Reads (r : Reader) (t : Text) (r' : Reader) : Prop where
  isOpen : r'.Open
  fields : r'.fields ++ [r'.field] = r.fields ++ (r.field ++ t).splitOn ','
  begun : r.state ≠ .startRecord ∨ t ≠ [] → r'.state ≠ .startRecord

theorem reads_plain (hr : r.Open) (ht : Plain t) (h : t.foldlM processChar r = .ok r') :
    Reads r t r' := by
  induction t generalizing r with
  | nil =>
    obtain rfl := Except.ok.inj h
    refine ⟨hr, ?_, fun h => h.resolve_right fun hne => hne rfl⟩
    rw [List.append_nil, List.splitOn_eq_singleton hr.field]
  | cons c t ih =>
    have hc := ht c List.mem_cons_self
    have ht' : Plain t := fun c hc => ht c (List.mem_cons_of_mem _ hc)
    rw [List.foldlM_cons] at h
    by_cases hcomma : c = ','
    · subst hcomma
      rw [processChar_comma hr] at h
      have hreads := ih open_saveField ht' h
      refine ⟨hreads.isOpen, ?_, fun _ => hreads.begun (Or.inl (by simp [Reader.saveField]))⟩
      rw [hreads.fields, List.splitOn_append_cons_self_of_not_mem hr.field]
      simp [Reader.saveField]
    · rw [processChar_plain hr hc hcomma, Reader.addChar] at h
      split at h
      · have hreads := ih (open_addChar hr hcomma) ht' h
        refine ⟨hreads.isOpen, ?_, fun _ => hreads.begun (Or.inl (by simp))⟩
        rw [hreads.fields]
        simp
      · contradiction

/-- A text within the limit of a field is read without an error. -/
theorem reads_short (hr : r.Open) (ht : Plain t) (hlength : r.field.length + t.length ≤ 131072) :
    ∃ r', t.foldlM processChar r = .ok r' := by
  induction t generalizing r with
  | nil => exact ⟨r, rfl⟩
  | cons c t ih =>
    have hc := ht c List.mem_cons_self
    have ht' : Plain t := fun c hc => ht c (List.mem_cons_of_mem _ hc)
    rw [List.length_cons] at hlength
    rw [List.foldlM_cons]
    by_cases hcomma : c = ','
    · subst hcomma
      rw [processChar_comma hr]
      refine ih open_saveField ht' ?_
      rw [Reader.saveField, List.length_nil]
      omega
    · rw [processChar_plain hr hc hcomma, Reader.addChar, if_pos (by omega)]
      refine ih (open_addChar hr hcomma) ht' ?_
      rw [List.length_append, List.length_singleton]
      omega

theorem endLine_open (hr : r.Open) (hs : r.state ≠ .startRecord) :
    endLine r = ⟨.startRecord, [], r.fields ++ [r.field]⟩ := by
  rcases hr.state with h | h | h
  · contradiction
  · simp [endLine, h, Reader.saveField]
  · simp [endLine, h, Reader.saveField]

/-- The reader after a line. -/
def lineRead (line : Text) : Reader := ⟨.startRecord, [], line.splitOn ','⟩

theorem reads_start (hline : Plain line) (h : line.foldlM processChar .start = .ok r) :
    Reads .start line r := reads_plain .start hline h

/-- A line without its end. -/
theorem readLine_last (hline : Plain line) (hne : line ≠ [])
    (h : readLine .start line = .ok r) : r = lineRead line := by
  rw [readLine] at h
  cases hfold : line.foldlM processChar .start with
  | error e =>
    rw [hfold] at h
    contradiction
  | ok r' =>
    have hreads := reads_start hline hfold
    rw [hfold] at h
    rw [← Except.ok.inj h, endLine_open hreads.isOpen (hreads.begun (Or.inr hne)), hreads.fields]
    rfl

theorem foldlM_line (hline : Plain line) (hne : line ≠ []) :
    (line ++ ['\n']).foldlM processChar .start =
      (line.foldlM processChar .start).map fun r => r.saveField .eatCrnl := by
  rw [List.foldlM_append]
  cases hfold : line.foldlM processChar .start with
  | error e => rfl
  | ok r' =>
    have hreads := reads_start hline hfold
    show List.foldlM processChar r' ['\n'] = _
    rw [List.foldlM_cons, processChar_newline hreads.isOpen (hreads.begun (Or.inr hne))]
    rfl

theorem readLine_ended (hline : Plain line) (hne : line ≠ [])
    (h : readLine .start (line ++ ['\n']) = .ok r) : r = lineRead line := by
  rw [readLine, foldlM_line hline hne] at h
  cases hfold : line.foldlM processChar .start with
  | error e =>
    rw [hfold] at h
    contradiction
  | ok r' =>
    have hreads := reads_start hline hfold
    rw [hfold] at h
    rw [← Except.ok.inj h, lineRead]
    exact congrArg (Reader.mk .startRecord []) hreads.fields

theorem readLine_ok (hline : Plain line) (hne : line ≠ []) (hlength : line.length ≤ 131072) :
    readLine .start (line ++ ['\n']) = .ok (lineRead line) ∧
      readLine .start line = .ok (lineRead line) := by
  obtain ⟨r', hfold⟩ := reads_short .start hline (by simpa [Reader.start] using hlength)
  constructor
  · have hok : readLine .start (line ++ ['\n']) = .ok (endLine (r'.saveField .eatCrnl)) := by
      rw [readLine, foldlM_line hline hne, hfold]
      rfl
    rw [hok, readLine_ended hline hne hok]
  · have hok : readLine .start line = .ok (endLine r') := by
      rw [readLine, hfold]
      rfl
    rw [hok, readLine_last hline hne hok]

/-- The text of some lines and of one that is not ended. -/
def content (lines : List Text) (last : Text) : Text := lines.flatMap (· ++ ['\n']) ++ last

theorem fileLines_plain {acc rest : Text} (ht : Plain t) :
    fileLines acc (t ++ '\n' :: rest) = (acc ++ t ++ ['\n']) :: fileLines [] rest := by
  induction t generalizing acc with
  | nil => simp [fileLines, isNewline]
  | cons c t ih =>
    have hc := (plain_iff.mp (ht c List.mem_cons_self)).2
    have hne : c ≠ '\r' := by
      rintro rfl
      exact absurd hc (by decide)
    have ht' : Plain t := fun c hc => ht c (List.mem_cons_of_mem _ hc)
    rw [List.cons_append, fileLines]
    · rw [hc, if_neg (by simp), ih ht']
      simp
    · intro u hu
      exact absurd hu hne

theorem fileLines_last {acc : Text} (ht : Plain t) :
    fileLines acc t = if (acc ++ t).isEmpty then [] else [acc ++ t] := by
  induction t generalizing acc with
  | nil => simp [fileLines]
  | cons c t ih =>
    have hc := (plain_iff.mp (ht c List.mem_cons_self)).2
    have hne : c ≠ '\r' := by
      rintro rfl
      exact absurd hc (by decide)
    have ht' : Plain t := fun c hc => ht c (List.mem_cons_of_mem _ hc)
    rw [fileLines]
    · rw [hc, if_neg (by simp), ih ht']
      simp
    · intro u hu
      exact absurd hu hne

theorem fileLines_content {lines : List Text} (hlines : ∀ line ∈ lines, Plain line)
    (hlast : Plain last) :
    fileLines [] (content lines last) =
      lines.map (· ++ ['\n']) ++ if last.isEmpty then [] else [last] := by
  induction lines with
  | nil => exact fileLines_last hlast
  | cons line lines ih =>
    have hhead : content (line :: lines) last = line ++ '\n' :: content lines last := by
      simp [content]
    rw [hhead, fileLines_plain (hlines line List.mem_cons_self),
      ih fun l hl => hlines l (List.mem_cons_of_mem _ hl)]
    rfl

/-- The records of such a text. -/
def recordsOf (lines : List Text) (last : Text) : List (List Text) :=
  (lines ++ if last.isEmpty then [] else [last]).map (·.splitOn ',')

theorem records_line {raw : Text} {rest : List Text}
    (hraw : ∀ r, readLine .start raw = .ok r → r = lineRead line)
    (hend : (records .start (raw :: rest)).2 = none) :
    (records .start rest).2 = none ∧
      (records .start (raw :: rest)).1 = line.splitOn ',' :: (records .start rest).1 := by
  cases hread : readLine .start raw with
  | error e =>
    rw [records, hread] at hend
    contradiction
  | ok r =>
    obtain rfl := hraw r hread
    rw [records, hread] at hend ⊢
    exact ⟨hend, rfl⟩

theorem records_read {raw : Text} {rest : List Text}
    (hread : readLine .start raw = .ok (lineRead line))
    (hrest : (records .start rest).2 = none) : (records .start (raw :: rest)).2 = none := by
  rw [records, hread]
  exact hrest

/-- If no error comes up the records are the lines, the last one among them. -/
theorem read_content {lines : List Text} (hlines : ∀ line ∈ lines, Plain line ∧ line ≠ [])
    (hlast : Plain last) (hend : (read (content lines last)).2 = none) :
    (read (content lines last)).1 = recordsOf lines last := by
  rw [read, fileLines_content (fun line hl => (hlines line hl).1) hlast] at hend ⊢
  induction lines with
  | nil =>
    rw [List.map_nil, List.nil_append] at hend ⊢
    rw [recordsOf, List.nil_append]
    split at hend
    next hempty =>
      rw [if_pos hempty]
      rfl
    next hempty =>
      have hne : last ≠ [] := fun hnil => hempty (List.isEmpty_iff.mpr hnil)
      rw [if_neg hempty]
      exact (records_line (fun r hr => readLine_last hlast hne hr) hend).2
  | cons line lines ih =>
    obtain ⟨hline, hne⟩ := hlines line List.mem_cons_self
    rw [List.map_cons, List.cons_append] at hend ⊢
    obtain ⟨hrest, hrecords⟩ := records_line (fun r hr => readLine_ended hline hne hr) hend
    rw [hrecords, ih (fun l hl => hlines l (List.mem_cons_of_mem _ hl)) hrest]
    rfl

/-- None does when the lines are within the limit of a field. -/
theorem read_short {lines : List Text} (hlines : ∀ line ∈ lines, Plain line ∧ line ≠ [])
    (hlast : Plain last) (hlength : ∀ line ∈ last :: lines, line.length ≤ 131072) :
    (read (content lines last)).2 = none := by
  rw [read, fileLines_content (fun line hl => (hlines line hl).1) hlast]
  induction lines with
  | nil =>
    rw [List.map_nil, List.nil_append]
    split
    · rfl
    next hempty =>
      have hne : last ≠ [] := fun hnil => hempty (List.isEmpty_iff.mpr hnil)
      exact records_read (readLine_ok hlast hne (hlength last List.mem_cons_self)).2 rfl
  | cons line lines ih =>
    obtain ⟨hline, hne⟩ := hlines line List.mem_cons_self
    have hshort : line.length ≤ 131072 := hlength line (by simp)
    refine records_read (readLine_ok hline hne hshort).1 (ih ?_ ?_)
    · exact fun l hl => hlines l (List.mem_cons_of_mem _ hl)
    · intro l hl
      rcases List.mem_cons.mp hl with rfl | hin
      · exact hlength l List.mem_cons_self
      · exact hlength l (List.mem_cons_of_mem _ (List.mem_cons_of_mem _ hin))

/-- A text of whole lines that is cut off: some of the lines and a part of the next. -/
theorem content_take (lines : List Text) (k : Nat) :
    ∃ n part, (content lines []).take k = content (lines.take n) part ∧
      (part = [] ∨ ∃ line, lines[n]? = some line ∧ part <+: line) := by
  induction lines generalizing k with
  | nil => exact ⟨0, [], by simp [content], Or.inl rfl⟩
  | cons line lines ih =>
    have hhead : content (line :: lines) [] = line ++ '\n' :: content lines [] := by
      simp [content]
    rw [hhead]
    by_cases hk : k ≤ line.length
    · refine ⟨0, line.take k, ?_, Or.inr ⟨line, rfl, List.take_prefix k line⟩⟩
      rw [List.take_append_of_le_length hk]
      simp [content]
    · obtain ⟨m, rfl⟩ : ∃ m, k = line.length + (m + 1) := ⟨k - line.length - 1, by omega⟩
      obtain ⟨n, part, htake, hpart⟩ := ih m
      refine ⟨n + 1, part, ?_, ?_⟩
      · rw [List.take_length_add_append, List.take_succ_cons, htake]
        simp [content]
      · simpa using hpart

/-- The pieces of a text that another follows: only the last one changes. -/
theorem splitOn_append (t u : Text) :
    ∃ front piece head tail, t.splitOn ',' = front ++ [piece] ∧ u.splitOn ',' = head :: tail ∧
      (t ++ u).splitOn ',' = front ++ (piece ++ head) :: tail := by
  induction t with
  | nil =>
    obtain ⟨head, tail, hu⟩ := List.exists_cons_of_ne_nil (List.splitOn_ne_nil ',' u)
    exact ⟨[], [], head, tail, by simp, hu, by simpa using hu⟩
  | cons c t ih =>
    obtain ⟨front, piece, head, tail, ht, hu, htu⟩ := ih
    rw [List.cons_append, List.splitOn_cons_eq_if_modifyHead, List.splitOn_cons_eq_if_modifyHead,
      ht, htu]
    split
    · exact ⟨[] :: front, piece, head, tail, rfl, hu, rfl⟩
    · cases front with
      | nil => exact ⟨[], c :: piece, head, tail, rfl, hu, rfl⟩
      | cons first front => exact ⟨(c :: first) :: front, piece, head, tail, rfl, hu, rfl⟩

/-- A part of a line of three fields that has a third one. -/
theorem splitOn_prefix {part x y z w : Text}
    (hpart : part <+: line) (hline : line.splitOn ',' = [x, y, z])
    (hthird : (part.splitOn ',')[2]? = some w) : part.splitOn ',' = [x, y, w] ∧ w <+: z := by
  obtain ⟨u, rfl⟩ := hpart
  obtain ⟨front, piece, head, tail, ht, -, htu⟩ := splitOn_append part u
  rw [htu] at hline
  rw [ht] at hthird ⊢
  rcases front with _ | ⟨a, _ | ⟨b, _ | ⟨c, front⟩⟩⟩
  · simp at hthird
  · simp at hthird
  · simp only [List.cons_append, List.nil_append, List.cons.injEq] at hline
    obtain ⟨rfl, rfl, rfl, rfl⟩ := hline
    obtain rfl := Option.some.inj hthird
    exact ⟨rfl, List.prefix_append _ _⟩
  · simp at hline

end Csv
