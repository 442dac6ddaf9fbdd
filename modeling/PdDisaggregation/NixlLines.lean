import PdDisaggregation.NixlTimes

/-! Where the pattern of `roce-throughput.py` matches in a decode log: as often in a line as
the line has records, and nowhere else. -/

namespace PdDisaggregation

/-- No record is spread over two lines: what stands behind a marker up to the newline has a
time and a size only if the marker's own line has. -/
def Unbroken (log : Text) : Prop :=
  ∀ v w, log = v ++ (metricsMarker ++ w) →
    Pattern.Carries isNumeral [xferKey, mibKey] (w.takeWhile Pattern.notNewline) →
      Pattern.Carries isNumeral [xferKey, mibKey] (w.takeWhile (!Text.isLineBreak ·))

/-- A marker with a time and a size behind it. -/
def HasRecord (t : Text) : Prop :=
  ∃ before record, t = before ++ (metricsMarker ++ record) ∧
    Pattern.Carries isNumeral [xferKey, mibKey] record

def EndsLine (rest : Text) : Prop := ∀ c t, rest = c :: t → Text.isLineBreak c = true

section Scan

variable {u w rest : Text}

theorem lineBreak_not_numeral {c : Char} (h : Text.isLineBreak c = true) : isNumeral c = false := by
  by_contra hn
  have hnumeral : isNumeral c = true := by simpa using hn
  simp only [isNumeral, Char.isDigit, Bool.or_eq_true, Bool.and_eq_true, decide_eq_true_iff,
    beq_iff_eq, ge_iff_le, UInt32.le_iff_toNat_le] at hnumeral
  simp only [Text.isLineBreak, Bool.or_eq_true, Bool.and_eq_true, decide_eq_true_iff,
    beq_iff_eq] at h
  rcases hnumeral with hdigit | rfl
  · have hlow : '0'.val.toNat = 48 := rfl
    have hhigh : '9'.val.toNat = 57 := rfl
    have hval : c.toNat = c.val.toNat := rfl
    rw [hlow, hhigh] at hdigit
    omega
  · revert h
    decide

theorem EndsLine.ends (h : EndsLine rest) : Pattern.Ends isNumeral rest :=
  fun c t ht => lineBreak_not_numeral (h c t ht)

theorem HasRecord.prepend {t : Text} (v : Text) (h : HasRecord t) : HasRecord (v ++ t) := by
  obtain ⟨before, record, rfl, hcarries⟩ := h
  exact ⟨v ++ before, record, (List.append_assoc _ _ _).symm, hcarries⟩

theorem HasRecord.append {t : Text} (v : Text) (h : HasRecord t) : HasRecord (t ++ v) := by
  obtain ⟨before, record, rfl, hcarries⟩ := h
  exact ⟨before, record ++ v, by simp only [List.append_assoc], hcarries.append v⟩

/-- The records of a line on its own are its records with what follows. -/
def OwnRecords (u rest : Text) : Prop :=
  ∀ v w, u = v ++ (metricsMarker ++ w) →
    Pattern.Carries isNumeral [xferKey, mibKey] ((w ++ rest).takeWhile Pattern.notNewline) →
      Pattern.Carries isNumeral [xferKey, mibKey] w

end Scan

theorem contains_iff {needle t : Text} :
    Text.contains needle t = true ↔ ∃ v w, t = v ++ (needle ++ w) := by
  rw [Text.contains, decide_eq_true_iff]
  constructor
  · rintro ⟨v, w, rfl⟩
    exact ⟨v, w, List.append_assoc _ _ _⟩
  · rintro ⟨v, w, rfl⟩
    exact ⟨v, w, List.append_assoc _ _ _⟩

section Lines

def hasMarker (l : Nat × Text) : Bool := Text.contains metricsMarker l.2

theorem HasRecord.contains {t : Text} (h : HasRecord t) :
    Text.contains metricsMarker t = true := by
  obtain ⟨before, record, ht, -⟩ := h
  exact contains_iff.mpr ⟨before, record, ht⟩

theorem Unbroken.own {u rest : Text} (h : Unbroken (u ++ rest))
    (hline : ∀ c ∈ u, Text.isLineBreak c = false) (hend : EndsLine rest) : OwnRecords u rest := by
  intro v w hu hcarries
  have hwhole := h v (w ++ rest) (by rw [hu]; simp only [List.append_assoc]) hcarries
  have hw : ∀ c ∈ w, (!Text.isLineBreak c) = true := by
    intro c hc
    rw [hline c (by rw [hu]; simp [hc])]
    rfl
  have hrest : rest.takeWhile (!Text.isLineBreak ·) = [] := by
    cases rest with
    | nil => rfl
    | cons c t => exact List.takeWhile_cons_of_neg (by simp [hend c t rfl])
  rwa [List.takeWhile_append_of_pos hw, hrest, List.append_nil] at hwhole

end Lines

end PdDisaggregation
