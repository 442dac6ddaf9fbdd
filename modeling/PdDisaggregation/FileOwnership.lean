import PdDisaggregation.SetupMemory
import PdDisaggregation.Split

/-! Which files the setup takes for its own and which the rollback deletes. The
two agree on the server configuration. The rollback looks for one line of the
export file where the setup compares all of it. -/

namespace PdDisaggregation

open Script Split

variable {s t : NfsHost} {content : Text}

/-- The characters that are gone when the setup compares a file. -/
def dropped (c : Char) : Bool := c == '\r' || c == '\x00'

/-- What may stand behind the export line in a file of the setup's. -/
def filler (c : Char) : Bool := dropped c || c == '\n'

def spelled (t : Text) : Text := t.filter (!dropped ·)

def setupAccepts (content : Text) : Bool :=
  Text.captured (Text.delete '\r' content) == exportLine

theorem captured_delete (content : Text) :
    Text.captured (Text.delete '\r' content) = (spelled content).rdropWhile (· == '\n') := by
  rw [Text.captured, Text.delete, List.filter_filter, spelled]
  congr 1
  apply List.filter_congr
  intro c _
  simp [dropped, bne, Bool.and_comm]

theorem exportLine_plain : ∀ c ∈ exportLine, filler c = false ∧ endsLine c = false := by
  have h : exportLine.all (fun c => !filler c && !endsLine c) = true := by decide
  intro c hc
  have hall := List.all_eq_true.mp h c hc
  simpa using hall

theorem spelled_exportLine : spelled exportLine = exportLine := by decide

theorem spelled_append (a b : Text) : spelled (a ++ b) = spelled a ++ spelled b :=
  List.filter_append a b

theorem spelled_eq_nil {a : Text} : spelled a = [] ↔ a.all dropped = true := by
  simp [spelled, List.filter_eq_nil_iff]

theorem spelled_filler {a : Text} :
    a.all filler = true ↔ ∃ k, spelled a = List.replicate k '\n' := by
  constructor
  · intro h
    refine ⟨_, List.eq_replicate_iff.mpr ⟨rfl, fun c hc => ?_⟩⟩
    have hmem := List.mem_filter.mp hc
    have hfill := List.all_eq_true.mp h c hmem.1
    simp_all [filler]
  · rintro ⟨k, hk⟩
    rw [List.all_eq_true]
    intro c hc
    by_cases hd : dropped c = true
    · simp [filler, hd]
    · have hmem : c ∈ spelled a := List.mem_filter.mpr ⟨hc, by simpa using hd⟩
      rw [hk] at hmem
      simp [filler, List.eq_of_mem_replicate hmem]

theorem rdropWhile_exportLine (k : Nat) :
    (exportLine ++ List.replicate k '\n').rdropWhile (· == '\n') = exportLine := by
  induction k with
  | zero => decide +kernel
  | succ k ih =>
    rw [List.replicate_succ', ← List.append_assoc, List.rdropWhile_concat_pos]
    · exact ih
    · rfl

/-- The setup reads the export line, then newlines. -/
theorem setupAccepts_iff :
    setupAccepts content = true ↔
      ∃ k, spelled content = exportLine ++ List.replicate k '\n' := by
  rw [setupAccepts, beq_iff_eq, captured_delete]
  constructor
  · intro h
    have hsplit := List.rdropWhile_append_rtakeWhile (p := (· == '\n')) (l := spelled content)
    have hend : (spelled content).rtakeWhile (· == '\n') =
        List.replicate ((spelled content).rtakeWhile (· == '\n')).length '\n' := by
      apply List.eq_replicate_iff.mpr
      refine ⟨rfl, fun c hc => ?_⟩
      simpa using List.mem_rtakeWhile_imp hc
    rw [h, hend] at hsplit
    exact ⟨_, hsplit.symm⟩
  · rintro ⟨k, hk⟩
    rw [hk]
    exact rdropWhile_exportLine k

theorem mem_grepLines {line : Text} (hne : line ≠ []) :
    line ∈ grepLines content ↔ line ∈ content.splitOnP endsLine := by
  rw [grepLines]
  split
  next hlast =>
    rcases List.eq_nil_or_concat' content with rfl | ⟨front, c, rfl⟩
    · simp [List.splitOnP_nil, hne]
    · obtain rfl : c = '\n' := by simpa using hlast
      rw [List.splitOnP_append_cons (p := endsLine) front [] rfl, List.splitOnP_nil,
        List.dropLast_concat, List.mem_append, List.mem_singleton]
      simp [hne]
  next => rfl

theorem exportAccepted_iff : exportAccepted exportPath content = true ↔
    ∃ before after, content = before ++ (exportLine ++ after) ∧
      opens endsLine before = true ∧ closes endsLine after = true := by
  have hpatterns : exportPatterns exportPath = [exportLine] := by decide +kernel
  have hne : exportLine ≠ [] := by decide +kernel
  have hlines : exportAccepted exportPath content = true ↔ exportLine ∈ grepLines content := by
    simp [exportAccepted, hpatterns]
  rw [hlines, mem_grepLines hne, mem_splitOnP]
  constructor
  · intro h
    exact h.2
  · intro h
    exact ⟨fun c hc => (exportLine_plain c hc).2, h⟩

/-- Around an export line the setup accepts only filler. -/
theorem setupAccepts_around (before after : Text) :
    setupAccepts (before ++ (exportLine ++ after)) = true ↔
      before.all dropped = true ∧ after.all filler = true := by
  rw [setupAccepts_iff, spelled_append, spelled_append, spelled_exportLine, ← spelled_eq_nil,
    spelled_filler]
  constructor
  · rintro ⟨k, hk⟩
    have hcount : ∀ c ∈ spelled before ++ spelled after, c = '\n' := by
      intro c hc
      by_contra hne
      have hpos : 0 < (spelled before ++ spelled after).count c := List.count_pos_iff.mpr hc
      have heq := congrArg (List.count c) hk
      simp only [List.count_append, List.count_replicate] at heq hpos
      have hne' : ('\n' == c) = false := by simpa using fun h => hne h.symm
      rw [hne'] at heq
      simp only [Bool.false_eq_true, if_false] at heq
      omega
    cases hb : spelled before with
    | nil =>
      rw [hb, List.nil_append] at hk
      exact ⟨rfl, k, List.append_cancel_left hk⟩
    | cons c cs =>
      have hc := hcount c (by simp [hb])
      obtain ⟨tail, hfirst⟩ : ∃ tail, exportLine = '/' :: tail := ⟨_, rfl⟩
      rw [hb, hc, hfirst] at hk
      have hhead := congrArg List.head? hk
      simp at hhead
  · rintro ⟨hb, k, hk⟩
    exact ⟨k, by rw [hb, hk, List.nil_append]⟩

/-- The export line is the only thing a file says where it stands whole, and is
whole where it is the only thing a file says. -/
structure PlainlyOwned (content : Text) : Prop where
  alone : ∀ before after, content = before ++ (exportLine ++ after) →
    opens endsLine before = true → closes endsLine after = true →
    before.all dropped = true ∧ after.all filler = true
  whole : ∀ before line after, content = before ++ (line ++ after) →
    before.all dropped = true → after.all filler = true →
    line.head?.any (!dropped ·) = true → line.getLast?.any (!dropped ·) = true →
    spelled line = exportLine →
    line = exportLine ∧ opens endsLine before = true ∧ closes endsLine after = true

theorem exists_spelled (h : setupAccepts content = true) :
    ∃ before line after, content = before ++ (line ++ after) ∧ before.all dropped = true ∧
      after.all filler = true ∧ line.head?.any (!dropped ·) = true ∧
      line.getLast?.any (!dropped ·) = true ∧ spelled line = exportLine := by
  obtain ⟨k, hk⟩ := setupAccepts_iff.mp h
  obtain ⟨front, back, rfl, hfront, hback⟩ := List.filter_eq_append_iff.mp hk
  have hne : front.filter (!dropped ·) ≠ [] := by
    rw [hfront]
    decide
  obtain ⟨before, line, after, rfl, hbefore, hafter, hhead, hlast⟩ := exists_core hne
  refine ⟨before, line, after ++ back, by simp, hbefore, ?_, hhead, hlast, ?_⟩
  · rw [spelled_filler]
    refine ⟨k, ?_⟩
    rw [spelled_append, spelled_eq_nil.mpr hafter, List.nil_append]
    exact hback
  · rw [← hfront]
    change spelled line = spelled (before ++ (line ++ after))
    rw [spelled_append, spelled_append, spelled_eq_nil.mpr hbefore, spelled_eq_nil.mpr hafter]
    simp

theorem core_unique {before before' line line' after after' : Text}
    (h : before ++ (line ++ after) = before' ++ (line' ++ after'))
    (hb : before.all dropped = true) (hb' : before'.all dropped = true)
    (ha : after.all filler = true) (ha' : after'.all filler = true)
    (hhead : line.head?.any (!dropped ·) = true) (hhead' : line'.head?.any (!dropped ·) = true)
    (hlast : line.getLast?.any (!filler ·) = true)
    (hlast' : line'.getLast?.any (!filler ·) = true) :
    before = before' ∧ line = line' ∧ after = after' := by
  have hfirst : ∀ {line after : Text}, line.head?.any (!dropped ·) = true →
      (line ++ after).head?.any (!dropped ·) = true := by
    intro line after hline
    cases line with
    | nil => simp at hline
    | cons c line => simpa using hline
  obtain ⟨hbefore, hrest⟩ := append_left_unique hb hb' (hfirst hhead) (hfirst hhead') h
  exact ⟨hbefore, append_right_unique ha ha' hlast hlast' hrest⟩

/-- A spelled export line has no newline at its end. -/
theorem spelled_getLast {line : Text} (hlast : line.getLast?.any (!dropped ·) = true)
    (hline : spelled line = exportLine) : line.getLast?.any (!filler ·) = true := by
  rcases List.eq_nil_or_concat' line with rfl | ⟨line, c, rfl⟩
  · simp at hlast
  · have hc : dropped c = false := by simpa using hlast
    have hmem : c ∈ spelled (line ++ [c]) := List.mem_filter.mpr ⟨by simp, by simp [hc]⟩
    rw [hline] at hmem
    simp [(exportLine_plain c hmem).1]

theorem accepts_agree_iff :
    (setupAccepts content = true ↔ exportAccepted exportPath content = true) ↔
      PlainlyOwned content := by
  constructor
  · intro h
    constructor
    · rintro before after rfl hopens hcloses
      apply (setupAccepts_around before after).mp
      exact h.mpr (exportAccepted_iff.mpr ⟨before, after, rfl, hopens, hcloses⟩)
    · rintro before line after rfl hbefore hafter hhead hlast hline
      have haccept : setupAccepts (before ++ (line ++ after)) = true := by
        obtain ⟨k, hk⟩ := spelled_filler.mp hafter
        refine setupAccepts_iff.mpr ⟨k, ?_⟩
        rw [spelled_append, spelled_append, spelled_eq_nil.mpr hbefore, hline, hk, List.nil_append]
      obtain ⟨before', after', heq, hopens, hcloses⟩ := exportAccepted_iff.mp (h.mp haccept)
      rw [heq] at haccept
      obtain ⟨hbefore', hafter'⟩ := (setupAccepts_around before' after').mp haccept
      obtain ⟨rfl, rfl, rfl⟩ := core_unique heq hbefore hbefore' hafter hafter' hhead (by decide)
        (spelled_getLast hlast hline) (by decide)
      exact ⟨rfl, hopens, hcloses⟩
  · intro h
    constructor
    · intro haccept
      obtain ⟨before, line, after, heq, hbefore, hafter, hhead, hlast, hline⟩ :=
        exists_spelled haccept
      obtain ⟨rfl, hopens, hcloses⟩ := h.whole before line after heq hbefore hafter hhead hlast hline
      exact exportAccepted_iff.mpr ⟨before, after, heq, hopens, hcloses⟩
    · intro haccept
      obtain ⟨before, after, rfl, hopens, hcloses⟩ := exportAccepted_iff.mp haccept
      exact (setupAccepts_around before after).mpr (h.alone before after rfl hopens hcloses)

theorem setupAccepts_lines (h : setupAccepts content = true) {line : Text}
    (hline : line ∈ content.splitOnP (· == '\n')) :
    spelled line = [] ∨ spelled line = exportLine := by
  obtain ⟨k, hk⟩ := setupAccepts_iff.mp h
  have hkeep : ∀ c, (c == '\n') = true → (!dropped c) = true := by
    intro c hc
    rw [beq_iff_eq] at hc
    rw [hc]
    rfl
  have hmem : spelled line ∈ (exportLine ++ List.replicate k '\n').splitOnP (· == '\n') := by
    rw [← hk, spelled, splitOnP_filter hkeep]
    exact List.mem_map_of_mem hline
  clear hk
  induction k with
  | zero =>
    have hsplit : (exportLine ++ List.replicate 0 '\n').splitOnP (· == '\n') = [exportLine] := by
      decide +kernel
    rw [hsplit, List.mem_singleton] at hmem
    exact Or.inr hmem
  | succ k ih =>
    rw [List.replicate_succ', ← List.append_assoc,
      List.splitOnP_append_cons (p := (· == '\n')) _ [] (beq_self_eq_true '\n'),
      List.mem_append] at hmem
    rcases hmem with hmem | hmem
    · exact ih hmem
    · exact Or.inl (by simpa using hmem)

theorem writeExport_accepts (hf : s.exportFile = some content) :
    (∃ t, Ends writeExport s (.ok ()) t) ↔ setupAccepts content = true := by
  simp only [writeExport, ends_read_ok, hf, ends_dieUnless_ok, setupAccepts]
  simp

theorem removeExport_deletes (hf : s.exportFile = some content) :
    (∃ r t, Ends (removeExport exportPath exportFilePath) s r t ∧ t.exportFile = none) ↔
      exportAccepted exportPath content = true := by
  have hunexpected : s.exportUnexpected exportPath exportFilePath = false ↔
      exportAccepted exportPath content = true := by
    simp [NfsHost.exportUnexpected, file_export, hf]
  constructor
  · rintro ⟨r, t, h, ht⟩
    cases r with
    | ok a => exact hunexpected.mp (removeExport_ok.mp h).1
    | error e =>
      rcases removeExport_error.mp h with ⟨-, -, rfl⟩ | ⟨hx, -⟩
      · rw [hf] at ht
        contradiction
      · exact hunexpected.mp hx
  · intro h
    have hx := hunexpected.mpr h
    have hne : s.file exportFilePath ≠ none := by simp [file_export, hf]
    cases hp : (s.removeFile exportFilePath).withPackage "exportfs" NfsHost.reexport with
    | ok t =>
      refine ⟨.ok (), t, removeExport_ok.mpr ⟨hx, by rw [if_neg hne]; exact hp⟩, ?_⟩
      obtain ⟨-, rfl⟩ := withPackage_ok.mp hp
      rw [removeFile_export]
      rfl
    | error e =>
      refine ⟨.error e, _, removeExport_error.mpr (Or.inr ⟨hx, hne, hp, rfl⟩), ?_⟩
      rw [removeFile_export]

theorem writeConfig_accepts (hf : s.nfsConfigFile = some content) :
    (∃ t, Ends writeConfig s (.ok ()) t) ↔ configAccepted content = true := by
  simp only [writeConfig, ends_read_ok, hf, ends_dieUnless_ok, configAccepted]
  simp

theorem removeConfig_deletes (hf : s.nfsConfigFile = some content) :
    (∃ r t, Ends (removeConfig nfsConfigPath) s r t ∧ t.nfsConfigFile = none) ↔
      configAccepted content = true := by
  have hunexpected : s.configUnexpected nfsConfigPath = false ↔ configAccepted content = true := by
    simp [NfsHost.configUnexpected, file_config, hf]
  constructor
  · rintro ⟨r, t, h, ht⟩
    cases r with
    | ok a => exact hunexpected.mp (removeConfig_ok.mp h).1
    | error e =>
      obtain ⟨-, -, rfl⟩ := removeConfig_error.mp h
      rw [hf] at ht
      contradiction
  · intro h
    refine ⟨.ok (), _, removeConfig_ok.mpr ⟨hunexpected.mpr h, rfl⟩, ?_⟩
    rw [removeFile_config]

/-- What the setup accepts as its own is what the rollback deletes, and that is no
file with a second export line. -/
structure SameOwnership (s : NfsHost) : Prop where
  exportFile : s.exportFile ≠ none → ((∃ t, Ends writeExport s (.ok ()) t) ↔
    ∃ r t, Ends (removeExport exportPath exportFilePath) s r t ∧ t.exportFile = none)
  exportAlone : ∀ content, s.exportFile = some content →
    (∃ r t, Ends (removeExport exportPath exportFilePath) s r t ∧ t.exportFile = none) →
    ∀ line ∈ content.splitOnP (· == '\n'), spelled line = [] ∨ spelled line = exportLine
  nfsConfigFile : s.nfsConfigFile ≠ none → ((∃ t, Ends writeConfig s (.ok ()) t) ↔
    ∃ r t, Ends (removeConfig nfsConfigPath) s r t ∧ t.nfsConfigFile = none)

theorem sameOwnership_iff (s : NfsHost) :
    SameOwnership s ↔ ∀ content, s.exportFile = some content → PlainlyOwned content := by
  constructor
  · intro h content hf
    have hagree := h.exportFile (by simp [hf])
    rw [writeExport_accepts hf, removeExport_deletes hf] at hagree
    exact accepts_agree_iff.mp hagree
  · intro h
    constructor
    · intro hne
      obtain ⟨content, hf⟩ := Option.ne_none_iff_exists'.mp hne
      rw [writeExport_accepts hf, removeExport_deletes hf]
      exact accepts_agree_iff.mpr (h content hf)
    · intro content hf hdeletes line hline
      rw [removeExport_deletes hf] at hdeletes
      exact setupAccepts_lines ((accepts_agree_iff.mpr (h content hf)).mpr hdeletes) hline
    · intro hne
      obtain ⟨content, hf⟩ := Option.ne_none_iff_exists'.mp hne
      rw [writeConfig_accepts hf, removeConfig_deletes hf]

/-- Phase 2's export line and one of somebody else's. -/
def sharedExports : Text := exportLine ++ "\n/srv/scratch 10.0.0.0/8(rw)\n".toList

def sharedHost : NfsHost := { startedHost .inactive with exportFile := some sharedExports }

theorem rollback_deletes_shared : ¬ ∀ s, SameOwnership s := by
  intro h
  have hf : sharedHost.exportFile = some sharedExports := rfl
  have haccept : exportAccepted exportPath sharedExports = true := by decide +kernel
  have hdeletes := (removeExport_deletes hf).mpr haccept
  have hadopts :=
    (writeExport_accepts hf).mp (((h sharedHost).exportFile (by simp [hf])).mpr hdeletes)
  have hrefuses : setupAccepts sharedExports = false := by decide +kernel
  rw [hrefuses] at hadopts
  exact absurd hadopts (by decide)

end PdDisaggregation
