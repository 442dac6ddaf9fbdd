import PdDisaggregation.Pattern

/-! Every match of a pattern in a text, one after the other, and patterns that
pick up keyed values: a record that lies within one line is matched there. -/

namespace Pattern

/-- A match: its groups and the text it leaves. -/
def matchEnd : List Piece → Text → Option (List Text × Text)
  | [], t => some ([], t)
  | .lit l :: rest, t => if l.isPrefixOf t then matchEnd rest (t.drop l.length) else none
  | .run p least group :: rest, t =>
    let longest := (t.takeWhile p).length
    (List.range (longest + 1 - least)).findSome? fun i =>
      let k := longest - i
      (matchEnd rest (t.drop k)).map fun m => (if group then t.take k :: m.1 else m.1, m.2)
  | .skip p :: rest, t =>
    (List.range ((t.takeWhile p).length + 1)).findSome? fun k => matchEnd rest (t.drop k)

structure Found where
  start : Nat
  stop : Nat
  groups : List Text
  deriving DecidableEq

/-- `taken` characters still belong to the match before. -/
def findFrom (pattern : List Piece) : Nat → Nat → Text → List Found
  | _, _, [] => []
  | pos, taken + 1, _ :: t => findFrom pattern (pos + 1) taken t
  | pos, 0, c :: t =>
    match matchEnd pattern (c :: t) with
    | some m =>
      let taken := (c :: t).length - m.2.length
      ⟨pos, pos + taken, m.1⟩ :: findFrom pattern (pos + 1) (taken - 1) t
    | none => findFrom pattern (pos + 1) 0 t

/-- `re.finditer`, for a pattern that matches no empty text. -/
def findIter (pattern : List Piece) (t : Text) : List Found := findFrom pattern 0 0 t

/-- `.*?key([...]+)` for each key in turn. -/
def fields (p : Char → Bool) : List Text → List Piece
  | [] => []
  | key :: keys => .skip notNewline :: .lit key :: .run p 1 true :: fields p keys

/-- The keys occur in this order, each with a value behind it. -/
def Carries (p : Char → Bool) : List Text → Text → Prop
  | [], _ => True
  | key :: keys, t => ∃ before value, t = before ++ key ++ value ∧
      (∃ c u, value = c :: u ∧ p c = true) ∧ Carries p keys (value.dropWhile p)

/-- What follows the line does not continue a run of `p`. -/
def Ends (p : Char → Bool) (rest : Text) : Prop := ∀ c t, rest = c :: t → p c = false

variable {p : Char → Bool} {pattern : List Piece} {keys : List Text} {key t u rest : Text}
  {pos : Nat}

theorem findFrom_quiet (h : ∀ v w, u = v ++ w → w ≠ [] → matchEnd pattern (w ++ t) = none) :
    findFrom pattern pos 0 (u ++ t) = findFrom pattern (pos + u.length) 0 t := by
  induction u generalizing pos with
  | nil => rfl
  | cons c u ih =>
    have hc : matchEnd pattern (c :: (u ++ t)) = none := h [] (c :: u) rfl (List.cons_ne_nil c u)
    have hu : ∀ v w, u = v ++ w → w ≠ [] → matchEnd pattern (w ++ t) = none := by
      intro v w hvw hw
      exact h (c :: v) w (by rw [hvw]; rfl) hw
    have hpos : pos + 1 + u.length = pos + (u.length + 1) := by omega
    rw [List.cons_append, findFrom, hc]
    show findFrom pattern (pos + 1) 0 (u ++ t) = _
    rw [ih hu, List.length_cons, hpos]

theorem Carries.prepend (z : Text) (h : Carries p keys t) : Carries p keys (z ++ t) := by
  cases keys with
  | nil => trivial
  | cons key keys =>
    obtain ⟨before, value, rfl, hvalue⟩ := h
    exact ⟨z ++ before, value, by simp only [List.append_assoc], hvalue⟩

theorem findSome?_range {β : Type} {f : Nat → Option β} {n m : Nat} (hn : n < m)
    (h : f n ≠ none) : ∃ k ≤ n, (List.range m).findSome? f = f k ∧ f k ≠ none := by
  induction n generalizing f m with
  | zero =>
    obtain ⟨m, rfl⟩ : ∃ j, m = j + 1 := ⟨m - 1, by omega⟩
    refine ⟨0, Nat.le_refl 0, ?_, h⟩
    rw [List.range_succ_eq_map, List.findSome?_cons_of_isSome (Option.isSome_iff_ne_none.mpr h)]
  | succ n ih =>
    obtain ⟨m, rfl⟩ : ∃ j, m = j + 1 := ⟨m - 1, by omega⟩
    rw [List.range_succ_eq_map]
    by_cases h0 : f 0 = none
    · have hstep : (f ∘ Nat.succ) n ≠ none := h
      obtain ⟨k, hk, hfind, hne⟩ := ih (by omega : n < m) hstep
      refine ⟨k + 1, by omega, ?_, hne⟩
      rw [List.findSome?_cons_of_isNone (Option.isNone_iff_eq_none.mpr h0), List.findSome?_map]
      exact hfind
    · refine ⟨0, Nat.zero_le _, ?_, h0⟩
      rw [List.findSome?_cons_of_isSome (Option.isSome_iff_ne_none.mpr h0)]

/-- The longest run is taken when what follows it matches. -/
theorem matchEnd_run {groups : List Text} {w : Text} (hrun : t.takeWhile p ≠ [])
    (h : matchEnd pattern (t.dropWhile p) = some (groups, w)) :
    matchEnd (.run p 1 true :: pattern) t = some (t.takeWhile p :: groups, w) := by
  have hlong : 0 < (t.takeWhile p).length := List.length_pos_iff.mpr hrun
  obtain ⟨n, hn⟩ : ∃ n, (t.takeWhile p).length = n + 1 := ⟨_, (Nat.succ_pred_eq_of_pos hlong).symm⟩
  have htake : t.take (t.takeWhile p).length = t.takeWhile p :=
    List.prefix_iff_eq_take.mp (List.takeWhile_prefix p) |>.symm
  simp only [matchEnd, hn, Nat.add_sub_cancel]
  rw [List.range_succ_eq_map, List.findSome?_cons, Nat.sub_zero, ← hn, drop_takeWhile, h, htake]
  rfl

theorem matchEnd_run_none (hrun : t.takeWhile p = []) :
    matchEnd (.run p 1 true :: pattern) t = none := by
  rw [matchEnd, hrun]
  rfl

/-- Keys that are found in one line, and not inside a run. -/
structure LineKeys (p : Char → Bool) (keys : List Text) : Prop where
  run : ∀ c, p c = true → notNewline c = true
  line : ∀ key ∈ keys, ∀ c ∈ key, notNewline c = true
  start : ∀ key ∈ keys, ∃ c t, key = c :: t ∧ p c = false

theorem LineKeys.tail (h : LineKeys p (key :: keys)) : LineKeys p keys where
  run := h.run
  line k hk := h.line k (List.mem_cons_of_mem _ hk)
  start k hk := h.start k (List.mem_cons_of_mem _ hk)

theorem Carries.ne_nil (h : Carries p (key :: keys) t) : t ≠ [] := by
  obtain ⟨before, value, rfl, ⟨c, v, rfl, -⟩, -⟩ := h
  simp

theorem Carries.append (z : Text) (h : Carries p keys t) : Carries p keys (t ++ z) := by
  induction keys generalizing t with
  | nil => trivial
  | cons key keys ih =>
    obtain ⟨before, value, rfl, ⟨c, v, hvalue, hc⟩, hrest⟩ := h
    refine ⟨before, value ++ z, by simp only [List.append_assoc],
      ⟨c, v ++ z, by rw [hvalue]; rfl, hc⟩, ?_⟩
    rw [List.dropWhile_append]
    by_cases hv : (value.dropWhile p).isEmpty = true
    · cases keys with
      | nil => trivial
      | cons key keys => exact absurd (List.isEmpty_iff.mp hv) hrest.ne_nil
    · rw [if_neg hv]
      exact ih hrest

/-- No key begins inside a run. -/
theorem Carries.of_run (hk : LineKeys p keys) (hu : ∀ c ∈ u, p c = true)
    (h : Carries p keys (u ++ t)) : Carries p keys t := by
  cases keys with
  | nil => trivial
  | cons key keys =>
    obtain ⟨before, value, heq, hvalue⟩ := h
    rw [List.append_assoc] at heq
    rcases List.append_eq_append_iff.mp heq with ⟨v, rfl, rfl⟩ | ⟨v, rfl, hv⟩
    · exact ⟨v, value, by rw [List.append_assoc], hvalue⟩
    · cases v with
      | nil => exact ⟨[], value, by simpa using hv.symm, hvalue⟩
      | cons c v =>
        obtain ⟨d, key', hkey, hd⟩ := hk.start key List.mem_cons_self
        rw [hkey, List.cons_append, List.cons_append, List.cons.injEq] at hv
        rw [hv.1, hu c (by simp)] at hd
        contradiction

/-- Whatever stands before the value of the last key that was passed, the keys that are left
are still ahead. -/
theorem Carries.split_run {x v b : Text} (h : Carries p keys (v.dropWhile p)) :
    ∃ a' b', (x ++ v ++ b).dropWhile p = a' ++ b' ∧ Carries p keys a' ∧ a' <:+ x ++ v ∧
      b'.dropWhile p = b.dropWhile p := by
  have hv : (x ++ v).dropWhile p = [] → v.dropWhile p = [] := by
    intro hnil
    rw [List.dropWhile_eq_nil_iff] at hnil ⊢
    exact fun c hc => hnil c (List.mem_append_right _ hc)
  rw [List.dropWhile_append]
  by_cases hnil : ((x ++ v).dropWhile p).isEmpty = true
  · rw [if_pos hnil]
    refine ⟨[], b.dropWhile p, rfl, ?_, List.nil_suffix, ?_⟩
    · rwa [hv (List.isEmpty_iff.mp hnil)] at h
    · exact List.dropWhile_idempotent p b
  · rw [if_neg hnil]
    refine ⟨_, b, rfl, ?_, List.dropWhile_suffix p, rfl⟩
    rw [List.dropWhile_append]
    split
    · exact h
    · rw [← List.takeWhile_append_dropWhile (p := p) (l := v), ← List.append_assoc]
      exact h.prepend _

/-- A record in front of a text is matched no later than it ends. -/
def MatchedFirst (p : Char → Bool) (keys : List Text) : Prop :=
  ∀ (a b : Text), (∀ c ∈ a, notNewline c = true) → Carries p keys a →
    ∃ groups w, matchEnd (fields p keys) (a ++ b) = some (groups, w) ∧ b.dropWhile p <:+ w

theorem MatchedFirst.run {before key value x b : Text} (h : MatchedFirst p keys)
    (hline : ∀ c ∈ before ++ key ++ value, notNewline c = true)
    (hcarries : Carries p keys (value.dropWhile p)) (hx : x ++ value <:+ before ++ key ++ value)
    (hne : (x ++ value ++ b).takeWhile p ≠ []) :
    ∃ groups w, matchEnd (.run p 1 true :: fields p keys) (x ++ value ++ b) = some (groups, w) ∧
      b.dropWhile p <:+ w := by
  obtain ⟨a', b', hsplit, ha', hsuffix, hb'⟩ := hcarries.split_run (x := x) (b := b)
  have hnewline : ∀ c ∈ a', notNewline c = true :=
    fun c hc => hline c ((hsuffix.trans hx).subset hc)
  obtain ⟨groups, w, hmatch, hw⟩ := h a' b' hnewline ha'
  rw [← hsplit] at hmatch
  exact ⟨_, w, matchEnd_run hne hmatch, hb' ▸ hw⟩

/-- A key that starts earlier is followed by the same record. -/
theorem MatchedFirst.earlier {before key value b : Text} {k : Nat} {r : List Text × Text}
    (h : MatchedFirst p keys) (hline : ∀ c ∈ before ++ key ++ value, notNewline c = true)
    (hcarries : Carries p keys (value.dropWhile p)) (hk : k ≤ before.length)
    (hr : matchEnd (.lit key :: .run p 1 true :: fields p keys)
      ((before ++ key ++ value ++ b).drop k) = some r) : b.dropWhile p <:+ r.2 := by
  have hle : k + key.length ≤ (before ++ key).length := by
    rw [List.length_append]
    omega
  have hdrop : ((before ++ key ++ value ++ b).drop k).drop key.length =
      (before ++ key).drop (k + key.length) ++ value ++ b := by
    rw [List.drop_drop, List.append_assoc (before ++ key), List.drop_append_of_le_length hle,
      List.append_assoc]
  rw [matchEnd] at hr
  split at hr
  · rw [hdrop] at hr
    by_cases hne : ((before ++ key).drop (k + key.length) ++ value ++ b).takeWhile p = []
    · rw [matchEnd_run_none hne] at hr
      contradiction
    · have hsuffix : (before ++ key).drop (k + key.length) ++ value <:+
          before ++ key ++ value := by
        obtain ⟨y, hy⟩ := List.drop_suffix (k + key.length) (before ++ key)
        exact ⟨y, by rw [← List.append_assoc, hy]⟩
      obtain ⟨groups, w, hmatch, hw⟩ := h.run hline hcarries hsuffix hne
      rw [hmatch, Option.some.injEq] at hr
      rwa [← hr]
  · contradiction

theorem MatchedFirst.cons {key : Text} (h : MatchedFirst p keys) :
    MatchedFirst p (key :: keys) := by
  rintro _ b hline ⟨before, value, rfl, ⟨c, v, hvalue, hc⟩, hcarries⟩
  have hmiddle : matchEnd (.lit key :: .run p 1 true :: fields p keys)
      ((before ++ key ++ value ++ b).drop before.length) ≠ none := by
    have hprefix : key.isPrefixOf (key ++ (value ++ b)) = true :=
      List.isPrefixOf_iff_prefix.mpr (List.prefix_append _ _)
    have hne : ([] ++ value ++ b).takeWhile p ≠ [] := by
      rw [hvalue, List.nil_append, List.cons_append, List.takeWhile_cons_of_pos hc]
      exact List.cons_ne_nil _ _
    obtain ⟨groups, w, hmatch, -⟩ := h.run hline hcarries (List.suffix_append _ _) hne
    rw [List.nil_append] at hmatch
    rw [List.append_assoc, List.append_assoc, List.drop_left, matchEnd, if_pos hprefix,
      List.drop_left, hmatch]
    exact Option.some_ne_none _
  have hskip : before.length <
      ((before ++ key ++ value ++ b).takeWhile notNewline).length + 1 := by
    have hall : ∀ c ∈ before, notNewline c = true := by
      intro c hc
      exact hline c (by simp [hc])
    rw [List.append_assoc, List.append_assoc, List.takeWhile_append_of_pos hall,
      List.length_append]
    omega
  obtain ⟨k, hk, hfind, hne⟩ := findSome?_range (f := fun k =>
    matchEnd (.lit key :: .run p 1 true :: fields p keys)
      ((before ++ key ++ value ++ b).drop k)) hskip hmiddle
  obtain ⟨r, hr⟩ := Option.ne_none_iff_exists'.mp hne
  refine ⟨r.1, r.2, ?_, h.earlier hline hcarries hk hr⟩
  rw [fields, matchEnd, hfind, hr]

end Pattern
