import PdDisaggregation.Text

/-! Waiting for a pattern in the output of a child process. The output arrives
in chunks, and a search sees what has arrived so far. -/

namespace Expect

/-- A search gives the text before its match and the text behind it. -/
abbrev Search := Text → Option (Text × Text)

/-- `buffer` was read and not matched, `pending` was sent and not read. -/
structure Child where
  buffer : Text
  pending : Text
  received : Nat

def Child.unread (child : Child) : Text := child.buffer ++ child.pending

def Child.sends (child : Child) (t : Text) : Child := { child with pending := child.pending ++ t }

/-- `cut n` ends a chunk behind the first `n` characters of the output. A chunk
never holds more than the child has sent. -/
def awaitChunk (cut : Nat → Bool) (find : Search) : Text → Nat → Text → Option (Text × Child)
  | _, _, [] => none
  | buffer, received, c :: pending =>
    if pending.isEmpty || cut (received + 1) then
      match find (buffer ++ [c]) with
      | some m => some (m.1, ⟨m.2, pending, received + 1⟩)
      | none => awaitChunk cut find (buffer ++ [c]) (received + 1) pending
    else awaitChunk cut find (buffer ++ [c]) (received + 1) pending

/-- What is in the buffer is searched first. A child with nothing more to say
is waited for until the timeout, which is `none`. -/
def expect (cut : Nat → Bool) (find : Search) (child : Child) : Option (Text × Child) :=
  match find child.buffer with
  | some m => some (m.1, { child with buffer := m.2 })
  | none => awaitChunk cut find child.buffer child.received child.pending

variable {cut cut' : Nat → Bool} {find : Search} {child child' : Child} {before : Text}

theorem awaitChunk_some {buffer pending : Text} {received : Nat}
    (h : awaitChunk cut find buffer received pending = some (before, child')) :
    received ≤ child'.received ∧
      ∃ u, buffer ++ pending = u ++ child'.pending ∧ find u = some (before, child'.buffer) := by
  induction pending generalizing buffer received with
  | nil => contradiction
  | cons c pending ih =>
    have hsplit : buffer ++ c :: pending = (buffer ++ [c]) ++ pending := by simp
    have hlater (hh : awaitChunk cut find (buffer ++ [c]) (received + 1) pending =
        some (before, child')) : received ≤ child'.received ∧
          ∃ u, buffer ++ c :: pending = u ++ child'.pending ∧
            find u = some (before, child'.buffer) := by
      obtain ⟨hle, u, hu, hfind⟩ := ih hh
      exact ⟨by omega, u, by rw [hsplit, hu], hfind⟩
    rw [awaitChunk] at h
    by_cases hchunk : (pending.isEmpty || cut (received + 1)) = true
    · rw [if_pos hchunk] at h
      cases hf : find (buffer ++ [c]) with
      | some m =>
        rw [hf] at h
        obtain ⟨rfl, rfl⟩ := Prod.mk.inj (Option.some.inj h)
        exact ⟨Nat.le_succ _, buffer ++ [c], hsplit, hf⟩
      | none =>
        rw [hf] at h
        exact hlater h
    · rw [if_neg hchunk] at h
      exact hlater h

theorem expect_some (h : expect cut find child = some (before, child')) :
    child.received ≤ child'.received ∧
      ∃ u, child.unread = u ++ child'.pending ∧ find u = some (before, child'.buffer) := by
  rw [expect] at h
  cases hf : find child.buffer with
  | some m =>
    rw [hf] at h
    obtain ⟨rfl, rfl⟩ := Prod.mk.inj (Option.some.inj h)
    exact ⟨Nat.le_refl _, child.buffer, rfl, hf⟩
  | none =>
    rw [hf] at h
    exact awaitChunk_some h

theorem awaitChunk_none {buffer pending : Text} {received : Nat} (hne : pending ≠ [])
    (h : awaitChunk cut find buffer received pending = none) : find (buffer ++ pending) = none := by
  induction pending generalizing buffer received with
  | nil => contradiction
  | cons c pending ih =>
    have hsplit : buffer ++ c :: pending = (buffer ++ [c]) ++ pending := by simp
    rw [awaitChunk] at h
    rw [hsplit]
    by_cases hlast : pending = []
    · subst hlast
      have hchunk : (([] : Text).isEmpty || cut (received + 1)) = true := rfl
      rw [if_pos hchunk] at h
      rw [List.append_nil]
      cases hf : find (buffer ++ [c]) with
      | none => rfl
      | some m =>
        rw [hf] at h
        contradiction
    · by_cases hchunk : (pending.isEmpty || cut (received + 1)) = true
      · rw [if_pos hchunk] at h
        cases hf : find (buffer ++ [c]) with
        | some m =>
          rw [hf] at h
          contradiction
        | none =>
          rw [hf] at h
          exact ih hlast h
      · rw [if_neg hchunk] at h
        exact ih hlast h

/-- A timeout means that the search fails on everything the child has sent. -/
theorem expect_none (h : expect cut find child = none) : find child.unread = none := by
  rw [expect] at h
  cases hf : find child.buffer with
  | some m =>
    rw [hf] at h
    contradiction
  | none =>
    rw [hf] at h
    by_cases hpending : child.pending = []
    · rw [Child.unread, hpending, List.append_nil]
      exact hf
    · exact awaitChunk_none hpending h

theorem awaitChunk_congr {buffer pending : Text} {received : Nat}
    (h : ∀ n, received < n → cut n = cut' n) :
    awaitChunk cut find buffer received pending = awaitChunk cut' find buffer received pending := by
  induction pending generalizing buffer received with
  | nil => rfl
  | cons c pending ih =>
    have hnext : awaitChunk cut find (buffer ++ [c]) (received + 1) pending =
        awaitChunk cut' find (buffer ++ [c]) (received + 1) pending :=
      ih fun n hn => h n (by omega)
    rw [awaitChunk, awaitChunk, h (received + 1) (Nat.lt_succ_self _), hnext]

/-- Only the chunks that are still to come matter. -/
theorem expect_congr (h : ∀ n, child.received < n → cut n = cut' n) :
    expect cut find child = expect cut' find child := by
  rw [expect, expect, awaitChunk_congr h]

theorem awaitChunk_at {buffer v w : Text} {received : Nat} {after : Text} (hv : v ≠ [])
    (hcut : cut (received + v.length) = true)
    (hquiet : ∀ n, received < n → n < received + v.length → cut n = false)
    (hfind : find (buffer ++ v) = some (before, after)) :
    awaitChunk cut find buffer received (v ++ w) =
      some (before, ⟨after, w, received + v.length⟩) := by
  induction v generalizing buffer received with
  | nil => contradiction
  | cons c v ih =>
    rw [List.cons_append, awaitChunk]
    rw [List.length_cons] at hcut hquiet ⊢
    by_cases hlast : v = []
    · subst hlast
      have hchunk : (w.isEmpty || cut (received + 1)) = true := by
        rw [List.length_nil, Nat.zero_add] at hcut
        rw [hcut, Bool.or_true]
      rw [List.nil_append, if_pos hchunk, hfind]
      rfl
    · have hpos := List.length_pos_iff.mpr hlast
      have hchunk : ¬ ((v ++ w).isEmpty || cut (received + 1)) = true := by
        rw [hquiet (received + 1) (by omega) (by omega)]
        simp [hlast]
      have hlen : received + 1 + v.length = received + (v.length + 1) := by omega
      rw [if_neg hchunk, ← hlen]
      apply ih hlast
      · rwa [hlen]
      · exact fun n hn hlt => hquiet n (by omega) (by omega)
      · simpa using hfind

/-- When the next chunk ends behind `v`, the search sees exactly `v`. -/
theorem expect_at {v w : Text} {received : Nat} {after : Text} (hempty : find [] = none)
    (hv : v ≠ []) (hcut : cut (received + v.length) = true)
    (hquiet : ∀ n, received < n → n < received + v.length → cut n = false)
    (hfind : find v = some (before, after)) :
    expect cut find ⟨[], v ++ w, received⟩ = some (before, ⟨after, w, received + v.length⟩) := by
  rw [expect]
  simp only [hempty]
  exact awaitChunk_at hv hcut hquiet hfind

/-! The first occurrence of a text. -/

/-- `needle` is not empty. -/
def splitFirst (needle : Text) : Search
  | [] => none
  | c :: t =>
    if needle.isPrefixOf (c :: t) then some ([], (c :: t).drop needle.length)
    else (splitFirst needle t).map fun m => (c :: m.1, m.2)

variable {needle t z : Text} {m : Text × Text}

theorem splitFirst_eq (h : splitFirst needle t = some m) : t = m.1 ++ (needle ++ m.2) := by
  induction t generalizing m with
  | nil => contradiction
  | cons c t ih =>
    rw [splitFirst] at h
    by_cases hp : needle.isPrefixOf (c :: t) = true
    · rw [if_pos hp, Option.some.injEq] at h
      subst h
      obtain ⟨w, hw⟩ := List.isPrefixOf_iff_prefix.mp hp
      show c :: t = needle ++ (c :: t).drop needle.length
      rw [← hw, List.drop_left]
    · rw [if_neg hp, Option.map_eq_some_iff] at h
      obtain ⟨m', hm, rfl⟩ := h
      exact congrArg (List.cons c) (ih hm)

theorem splitFirst_append (z : Text) (h : splitFirst needle t = some m) :
    splitFirst needle (t ++ z) = some (m.1, m.2 ++ z) := by
  induction t generalizing m with
  | nil => contradiction
  | cons c t ih =>
    rw [splitFirst] at h
    rw [List.cons_append, splitFirst]
    by_cases hp : needle.isPrefixOf (c :: t) = true
    · rw [if_pos hp, Option.some.injEq] at h
      subst h
      obtain ⟨w, hw⟩ := List.isPrefixOf_iff_prefix.mp hp
      have hlonger : needle.isPrefixOf (c :: (t ++ z)) = true := by
        rw [List.isPrefixOf_iff_prefix, ← List.cons_append, ← hw, List.append_assoc]
        exact List.prefix_append _ _
      rw [if_pos hlonger, ← List.cons_append, ← hw, List.append_assoc, List.drop_left, List.drop_left]
    · rw [if_neg hp, Option.map_eq_some_iff] at h
      obtain ⟨m', hm, rfl⟩ := h
      -- a longer text has no earlier occurrence: the found one lies behind it
      have hlonger : ¬ needle.isPrefixOf (c :: (t ++ z)) = true := by
        rw [List.isPrefixOf_iff_prefix]
        intro hprefix
        have hlen := congrArg List.length (splitFirst_eq hm)
        simp only [List.length_append] at hlen
        refine hp (List.isPrefixOf_iff_prefix.mpr ?_)
        refine List.prefix_of_prefix_length_le hprefix ⟨z, rfl⟩ ?_
        rw [List.length_cons]
        omega
      rw [if_neg hlonger, ih hm]
      rfl

theorem splitFirst_ne_none (hne : needle ≠ []) (v w : Text) :
    splitFirst needle (v ++ (needle ++ w)) ≠ none := by
  induction v with
  | nil =>
    obtain ⟨c, n, rfl⟩ := List.exists_cons_of_ne_nil hne
    have hprefix : (c :: n).isPrefixOf (c :: (n ++ w)) = true :=
      List.isPrefixOf_iff_prefix.mpr ⟨w, rfl⟩
    rw [List.nil_append, List.cons_append, splitFirst, if_pos hprefix]
    exact Option.some_ne_none _
  | cons c v ih =>
    rw [List.cons_append, splitFirst]
    by_cases hp : needle.isPrefixOf (c :: (v ++ (needle ++ w))) = true
    · rw [if_pos hp]
      exact Option.some_ne_none _
    · rw [if_neg hp]
      exact fun h => ih (Option.map_eq_none_iff.mp h)

/-- What is found in a text whose end comes later is found without that end,
if it leaves the end over. -/
theorem splitFirst_of_append {a : Text} (hne : needle ≠ [])
    (h : splitFirst needle (t ++ z) = some (m.1, a ++ z)) : splitFirst needle t = some (m.1, a) := by
  have ht : t = m.1 ++ (needle ++ a) := by
    have hh := splitFirst_eq h
    simp only [← List.append_assoc] at hh
    have hcancel := List.append_cancel_right hh
    rw [hcancel, List.append_assoc]
  cases hs : splitFirst needle t with
  | none => exact absurd hs (ht ▸ splitFirst_ne_none hne m.1 a)
  | some m' =>
    have hlonger := splitFirst_append z hs
    rw [h, Option.some.injEq, Prod.mk.injEq] at hlonger
    have hafter := List.append_cancel_right hlonger.2
    rw [hlonger.1, hafter]

theorem splitFirst_suffix (z : Text) (h : splitFirst needle t = some m) :
    ∃ m', splitFirst needle (z ++ t) = some m' ∧ m.2 <:+ m'.2 := by
  induction z with
  | nil => exact ⟨m, h, List.suffix_rfl⟩
  | cons c z ih =>
    rw [List.cons_append, splitFirst]
    by_cases hp : needle.isPrefixOf (c :: (z ++ t)) = true
    · refine ⟨_, if_pos hp, ?_⟩
      have ht := splitFirst_eq h
      have hlen := congrArg List.length ht
      simp only [List.length_append] at hlen
      have hfull : m.2 <:+ c :: (z ++ t) :=
        ⟨c :: (z ++ (m.1 ++ needle)), by rw [ht]; simp⟩
      refine List.suffix_of_suffix_length_le hfull (List.drop_suffix _ _) ?_
      rw [List.length_drop, List.length_cons, List.length_append]
      omega
    · obtain ⟨m', hm', hsuffix⟩ := ih
      refine ⟨(c :: m'.1, m'.2), ?_, hsuffix⟩
      rw [if_neg hp, hm']
      rfl

theorem splitFirst_skip {sp : Text} (hne : needle ≠ []) (h : ∀ c ∈ sp, needle.head? ≠ some c) :
    splitFirst needle (sp ++ t) = (splitFirst needle t).map fun m => (sp ++ m.1, m.2) := by
  induction sp with
  | nil =>
    rw [List.nil_append]
    cases splitFirst needle t with
    | none => rfl
    | some m => rfl
  | cons c sp ih =>
    have hc : ¬ needle.isPrefixOf (c :: (sp ++ t)) = true := by
      rw [List.isPrefixOf_iff_prefix]
      rintro ⟨w, hw⟩
      obtain ⟨d, n, rfl⟩ := List.exists_cons_of_ne_nil hne
      rw [List.cons_append, List.cons.injEq] at hw
      refine h c List.mem_cons_self ?_
      rw [← hw.1]
      rfl
    rw [List.cons_append, splitFirst, if_neg hc, ih fun d hd => h d (List.mem_cons_of_mem _ hd),
      Option.map_map]
    rfl

end Expect
