import PdDisaggregation.ReplaySoundness
import PdDisaggregation.Split

/-! The line `IO stats: <state>, peer IO stats: <state>` of the nvidia-fs
statistics and the tests that read it. The shell looks at the start of a line,
Python anywhere in the text, where the peer flag is found as well. -/

namespace PdDisaggregation

open Split

inductive IoStatistics where
  | enabled
  | disabled
  deriving DecidableEq

def IoStatistics.name : IoStatistics → Text
  | .enabled => "Enabled".toList
  | .disabled => "Disabled".toList

def IoStatistics.other : IoStatistics → IoStatistics
  | .enabled => .disabled
  | .disabled => .enabled

def IoStatistics.isEnabled : IoStatistics → Bool
  | .enabled => true
  | .disabled => false

/-- `[[:space:]]` inside a line, in the C locale. -/
def isShellSpace (c : Char) : Bool :=
  c == ' ' || c == '\t' || c == '\x0b' || c == '\x0c' || c == '\r'

/-- `^IO stats:[[:space:]]*{state}` on one line. -/
def matchesIoStats (state : IoStatistics) (line : Text) : Bool :=
  "IO stats:".toList.isPrefixOf line &&
    state.name.isPrefixOf ((line.drop "IO stats:".length).dropWhile isShellSpace)

/-- `grep -Eq` of it over `<<<"$stats"`, with `stats=$(cat …)`. -/
def anchoredGrep (state : IoStatistics) (stats : Text) : Bool :=
  (Text.lines (Text.captured stats)).any (matchesIoStats state)

def ioStatsLine (rw peer : IoStatistics) : Text :=
  "IO stats: ".toList ++ rw.name ++ ", peer IO stats: ".toList ++ peer.name

def isLineFeed (c : Char) : Bool := c == '\n'

structure StatsSnapshot where
  before : Text
  after : Text
  rw : IoStatistics
  peer : IoStatistics
  starts : opens isLineFeed before = true
  ends : closes isLineFeed after = true

def StatsSnapshot.text (s : StatsSnapshot) : Text :=
  s.before ++ (ioStatsLine s.rw s.peer ++ s.after)

def StatsSnapshot.withPeer (s : StatsSnapshot) (peer : IoStatistics) : StatsSnapshot :=
  { s with peer := peer }

def EvidenceDir.withBefore {F : Type} (dir : EvidenceDir F) (text : Text) : EvidenceDir F :=
  { dir with texts := ("nvidia-fs-before.txt", text) :: dir.texts }

def notNul (c : Char) : Bool := c != '\x00'

section Greps

variable {state : IoStatistics} {a b t : Text}

theorem any_lines {m : Text → Bool} (hm : m [] = false) (t : Text) :
    (Text.lines t).any m = (t.splitOnP isLineFeed).any m := by
  have hparts : t.splitOn '\n' = t.splitOnP isLineFeed := rfl
  rw [Text.lines, hparts]
  by_cases hlast : (t.splitOnP isLineFeed).getLast? = some []
  · have hsplit := List.dropLast_append_getLast? [] hlast
    simp only [hlast, if_true]
    conv_rhs => rw [← hsplit]
    simp [hm]
  · simp only [hlast, if_false]

/-- The newlines that `$(...)` drops end no line that says anything. -/
theorem any_rdropWhile {m : Text → Bool} (hm : m [] = false) (t : Text) :
    ((t.rdropWhile (· == '\n')).splitOnP isLineFeed).any m = (t.splitOnP isLineFeed).any m := by
  induction t using List.reverseRecOn with
  | nil => rfl
  | append_singleton t c ih =>
    by_cases hc : c = '\n'
    · subst hc
      have hclose : closes isLineFeed ['\n'] = true := rfl
      rw [List.rdropWhile_concat_pos (· == '\n') _ _ (beq_self_eq_true _), ih,
        any_splitOnP_closes hm hclose]
      simp [List.splitOnP_cons_eq_if_modifyHead, isLineFeed, hm]
    · rw [List.rdropWhile_concat_neg _ _ _ (by simpa using hc)]

theorem matchesIoStats_nil (state : IoStatistics) : matchesIoStats state [] = false := by
  cases state <;> decide

theorem anchoredGrep_eq (state : IoStatistics) (t : Text) :
    anchoredGrep state t =
      ((t.filter notNul).splitOnP isLineFeed).any (matchesIoStats state) := by
  rw [anchoredGrep, any_lines (matchesIoStats_nil state)]
  exact any_rdropWhile (matchesIoStats_nil state) (t.filter notNul)

theorem anchoredGrep_opens (h : opens isLineFeed a = true) :
    anchoredGrep state (a ++ b) = (anchoredGrep state a || anchoredGrep state b) := by
  simp only [anchoredGrep_eq, List.filter_append]
  apply any_splitOnP_opens (matchesIoStats_nil state)
  rcases List.eq_nil_or_concat' a with rfl | ⟨a, c, rfl⟩
  · rfl
  · rw [opens_concat, isLineFeed, beq_iff_eq] at h
    subst h
    have hkeep : ['\n'].filter notNul = ['\n'] := rfl
    rw [List.filter_append, hkeep, opens_concat]
    rfl

theorem anchoredGrep_closes (h : closes isLineFeed b = true) :
    anchoredGrep state (a ++ b) = (anchoredGrep state a || anchoredGrep state b) := by
  simp only [anchoredGrep_eq, List.filter_append]
  apply any_splitOnP_closes (matchesIoStats_nil state)
  cases b with
  | nil => rfl
  | cons c b =>
    rw [closes_cons, isLineFeed, beq_iff_eq] at h
    subst h
    rfl

theorem anchoredGrep_line (state rw peer : IoStatistics) :
    anchoredGrep state (ioStatsLine rw peer) = decide (state = rw) := by
  cases state <;> cases rw <;> cases peer <;> decide +kernel

theorem anchoredGrep_text (state : IoStatistics) (s : StatsSnapshot) :
    anchoredGrep state s.text =
      (anchoredGrep state s.before || decide (state = s.rw) || anchoredGrep state s.after) := by
  rw [StatsSnapshot.text, anchoredGrep_opens s.starts, anchoredGrep_closes s.ends,
    anchoredGrep_line, Bool.or_assoc]

theorem enabledText_plain : ∀ c ∈ "IO stats: Enabled".toList, isLineFeed c = false := by
  have h : "IO stats: Enabled".toList.all (!isLineFeed ·) = true := by decide
  intro c hc
  simpa using List.all_eq_true.mp h c hc

theorem statsEnabled_iff : statsEnabled t = true ↔ "IO stats: Enabled".toList <:+: t :=
  decide_eq_true_iff

theorem statsEnabled_line (rw peer : IoStatistics) :
    statsEnabled (ioStatsLine rw peer) = (rw.isEnabled || peer.isEnabled) := by
  cases rw <;> cases peer <;> decide +kernel

theorem statsEnabled_text (s : StatsSnapshot) :
    statsEnabled s.text = (statsEnabled s.before || (s.rw.isEnabled || s.peer.isEnabled) ||
      statsEnabled s.after) := by
  have hne : "IO stats: Enabled".toList ≠ [] := by decide
  rw [← statsEnabled_line, Bool.eq_iff_iff]
  simp only [Bool.or_eq_true, statsEnabled_iff, StatsSnapshot.text]
  rw [infix_append_opens hne enabledText_plain s.starts,
    infix_append_closes hne enabledText_plain s.ends, or_assoc]

end Greps

/-- The tests give the state of the read and write statistics, and without them
neither gate asks for a counter. -/
structure Recognised (s : StatsSnapshot) : Prop where
  enabledGrep : anchoredGrep .enabled s.text = s.rw.isEnabled
  disabledGrep : anchoredGrep .disabled s.text = !s.rw.isEnabled
  python : statsEnabled s.text = s.rw.isEnabled
  undemanded : s.rw = .disabled → ∀ (F : Type) (dir : EvidenceDir F) (c : Comparison F),
    validateCounterGate (dir.withBefore s.text) c = .ok () ∧
      finalCounterGate (dir.withBefore s.text) c = .ok ()

/-- Two runs that differ in the peer flag get one verdict from either gate. -/
def PeerIndependent (s : StatsSnapshot) : Prop :=
  s.rw = .disabled → ∀ (F : Type) [PyFloat F] (dir : EvidenceDir F),
    (validateEvidence (dir.withBefore (s.withPeer .enabled).text) = .ok () ↔
      validateEvidence (dir.withBefore (s.withPeer .disabled).text) = .ok ()) ∧
    ∀ c, finalGate (dir.withBefore (s.withPeer .enabled).text) c = .ok () ↔
      finalGate (dir.withBefore (s.withPeer .disabled).text) c = .ok ()

/-- No line around it says the opposite, and nothing in the text says `Enabled`
for statistics that are disabled. -/
structure Unambiguous (s : StatsSnapshot) : Prop where
  before : anchoredGrep s.rw.other s.before = false
  after : anchoredGrep s.rw.other s.after = false
  python : s.rw = .enabled ∨
    s.peer = .disabled ∧ statsEnabled s.before = false ∧ statsEnabled s.after = false

variable {F : Type} {s : StatsSnapshot} {text : Text}

theorem readText_withBefore (dir : EvidenceDir F) (text : Text) :
    (dir.withBefore text).readText "nvidia-fs-before.txt" = .ok text := rfl

theorem readText_other (dir : EvidenceDir F) (text : Text) {name : String}
    (h : name ≠ "nvidia-fs-before.txt") :
    (dir.withBefore text).readText name = dir.readText name := by
  have hne : (name == "nvidia-fs-before.txt") = false := by simpa using h
  simp only [EvidenceDir.readText, EvidenceDir.withBefore, List.lookup_cons, hne]

theorem counterGates_skipped (h : statsEnabled text = false) (dir : EvidenceDir F)
    (c : Comparison F) : validateCounterGate (dir.withBefore text) c = .ok () ∧
      finalCounterGate (dir.withBefore text) c = .ok () := by
  have hoff : ¬ statsEnabled text = true := by simp [h]
  constructor
  · rw [validateCounterGate, readText_withBefore, Check.ok_bind, if_neg hoff]
    rfl
  · rw [finalCounterGate, readText_withBefore, Check.ok_bind, if_neg hoff]
    rfl

theorem recognised_iff (s : StatsSnapshot) : Recognised s ↔ Unambiguous s := by
  have hgrep : (anchoredGrep .enabled s.text = s.rw.isEnabled ∧
      anchoredGrep .disabled s.text = !s.rw.isEnabled) ↔
        anchoredGrep s.rw.other s.before = false ∧ anchoredGrep s.rw.other s.after = false := by
    rw [anchoredGrep_text, anchoredGrep_text]
    cases s.rw <;> simp [IoStatistics.other, IoStatistics.isEnabled]
  have hpython : statsEnabled s.text = s.rw.isEnabled ↔ s.rw = .enabled ∨
      s.peer = .disabled ∧ statsEnabled s.before = false ∧ statsEnabled s.after = false := by
    rw [statsEnabled_text]
    cases s.rw with
    | enabled => simp [IoStatistics.isEnabled]
    | disabled =>
      cases s.peer <;> simp [IoStatistics.isEnabled]
  constructor
  · intro h
    obtain ⟨hbefore, hafter⟩ := hgrep.mp ⟨h.enabledGrep, h.disabledGrep⟩
    exact ⟨hbefore, hafter, hpython.mp h.python⟩
  · intro h
    obtain ⟨henabled, hdisabled⟩ := hgrep.mpr ⟨h.before, h.after⟩
    have htest := hpython.mpr h.python
    refine ⟨henabled, hdisabled, htest, fun hrw F dir c => ?_⟩
    rw [hrw] at htest
    exact counterGates_skipped htest dir c

/-- The evidence of a run without statistics, whose snapshots hold no counters. -/
theorem finalGate_shortReload (text : Text) :
    finalGate (shortReload.withBefore text) shortComparison = .ok () ↔
      statsEnabled text = false := by
  have hanswers : finalAnswers shortComparison = true := rfl
  have hreport : finalReport shortComparison = .ok () := by decide +kernel
  have hnixl : nixlGate (shortReload.withBefore text) shortComparison = .ok () := by
    have hlog : (shortReload.withBefore text).readText "decode.log" =
        shortReload.readText "decode.log" := readText_other shortReload text (by decide)
    have hgate : nixlGate shortReload shortComparison = .ok () := by decide +kernel
    rw [nixlGate, hlog]
    exact hgate
  rw [finalGate, hanswers, hreport, hnixl]
  have hcold : nvfsCounter (shortReload.withBefore text) "after-cold" "Writes" =
      .error (.counterUnparsed "Writes" "after-cold") := by
    have hparse : nvfsCounter shortReload "after-cold" "Writes" =
        .error (.counterUnparsed "Writes" "after-cold") := by decide +kernel
    rw [nvfsCounter, readText_other _ _ (by decide)]
    exact hparse
  cases hs : statsEnabled text with
  | false =>
    rw [(counterGates_skipped hs shortReload shortComparison).2]
    exact iff_of_true rfl rfl
  | true =>
    apply iff_of_false
    · intro h
      simp only [Check.require, if_true, Check.ok_bind, Check.seq_ok] at h
      obtain ⟨hgate, -⟩ := h
      rw [finalCounterGate, readText_withBefore, Check.ok_bind, if_pos hs] at hgate
      obtain ⟨x, hx, -⟩ := Check.bind_ok.mp hgate
      obtain ⟨w0, -, hx⟩ := Check.bind_ok.mp hx
      obtain ⟨w1, hw1, -⟩ := Check.bind_ok.mp hx
      rw [hcold] at hw1
      contradiction
    · simp

/-- Where the statistics are disabled and recognised as such, the peer flag alone
turns the verdict. -/
theorem not_peerIndependent (hrw : s.rw = .disabled) (h : Recognised s) : ¬ PeerIndependent s := by
  intro hpeer
  have hu := (recognised_iff s).mp h
  have hrw' : s.rw ≠ .enabled := by simp [hrw]
  obtain ⟨-, hbefore, hafter⟩ := hu.python.resolve_left hrw'
  have htest : ∀ peer : IoStatistics, statsEnabled (s.withPeer peer).text = peer.isEnabled := by
    intro peer
    have htext := statsEnabled_text (s.withPeer peer)
    simpa [StatsSnapshot.withPeer, hrw, hbefore, hafter, IoStatistics.isEnabled] using htext
  have hverdict := (hpeer hrw ℚ shortReload).2 shortComparison
  rw [finalGate_shortReload, finalGate_shortReload, htest, htest] at hverdict
  simp [IoStatistics.isEnabled] at hverdict

theorem statsRecognised_iff (s : StatsSnapshot) :
    (Recognised s ↔ Unambiguous s) ∧
      (Recognised s ∧ PeerIndependent s ↔ s.rw = .enabled ∧
        anchoredGrep .disabled s.before = false ∧ anchoredGrep .disabled s.after = false) := by
  refine ⟨recognised_iff s, ?_⟩
  constructor
  · rintro ⟨h, hpeer⟩
    have hrw : s.rw = .enabled := by
      cases hs : s.rw with
      | enabled => rfl
      | disabled => exact absurd hpeer (not_peerIndependent hs h)
    have hu := (recognised_iff s).mp h
    have hbefore := hu.before
    have hafter := hu.after
    rw [hrw] at hbefore hafter
    exact ⟨hrw, hbefore, hafter⟩
  · rintro ⟨hrw, hbefore, hafter⟩
    constructor
    · apply (recognised_iff s).mpr
      exact ⟨by rw [hrw]; exact hbefore, by rw [hrw]; exact hafter, Or.inl hrw⟩
    · intro hdisabled
      simp [hrw] at hdisabled

/-- Peer statistics alone are on. -/
def peerSnapshot : StatsSnapshot where
  before := []
  after := ['\n']
  rw := .disabled
  peer := .enabled
  starts := rfl
  ends := rfl

theorem peer_flag_misread : ¬ ∀ s, Recognised s ∧ PeerIndependent s := by
  intro h
  have hpython := (h peerSnapshot).1.python
  have htest : statsEnabled peerSnapshot.text = true := by
    rw [statsEnabled_text]
    simp [peerSnapshot, IoStatistics.isEnabled]
  rw [htest] at hpython
  simp [peerSnapshot, IoStatistics.isEnabled] at hpython

end PdDisaggregation
