import PdDisaggregation.NexusMarkers
import PdDisaggregation.NexusReading

/-! How far the reading may be behind the device, and what it means when all
the answers it may then get agree. -/

namespace PdDisaggregation

open Expect

/-- Reading may have come to the start of `unread` or behind one of its `#`. -/
def Leftover (unread v : Text) : Prop := v = unread ∨ ∃ u, unread = u ++ '#' :: v

def beforeHash (t : Text) : Text := t.takeWhile (· != '#')

def afterHash (t : Text) : Text := (t.dropWhile (· != '#')).tail

/-- What is unread behind the command when its prompt was taken to be the
first `#` it could be. -/
def backlog (unread : Text) (x : Exchange) : Text :=
  afterHash ((facing x.command (unread ++ x.response.stream)).getD [])

/-- However late the prompt is recognised, no error comes before it. -/
structure Passes (unread : Text) (x : Exchange) : Prop where
  completes : isCopyCommand x.command = true →
    Text.contains copyComplete x.response.text = true
  unmarked : ∀ y, facing x.command (unread ++ x.response.stream) = some y → carriesError y = false

/-- From wherever the prompt is looked for, there is none to find or an error
comes before the first `#`. -/
def Fails (unread : Text) (x : Exchange) : Prop :=
  ∀ v, Leftover unread v → ∀ y, facing x.command (v ++ x.response.stream) = some y →
    carriesError (beforeHash y) = true

/-- Some command certainly fails, and all before it certainly pass. -/
def CertainStop : Text → List Exchange → Prop
  | _, [] => False
  | unread, x :: xs =>
    Fails unread x ∨ Passes unread x ∧ CertainStop (backlog unread x) xs

def AllPass : Text → List Exchange → Prop
  | _, [] => True
  | unread, x :: xs => Passes unread x ∧ AllPass (backlog unread x) xs

section Facing

variable {command t y z w sp E v b rest : Text} {r : Response} {x : Exchange}

theorem facing_spaces (hsp : AllSpaces sp) (h : facing command t = some y) :
    ∃ sp', AllSpaces sp' ∧ facing command (sp ++ t) = some (sp' ++ y) := by
  unfold facing at h ⊢
  by_cases hc : isCopyCommand command = true
  · have hskip : splitFirst copyComplete (sp ++ t) =
        (splitFirst copyComplete t).map fun m => (sp ++ m.1, m.2) := by
      refine splitFirst_skip copyComplete_ne_nil fun c hc hhead => ?_
      rw [hsp c hc] at hhead
      exact absurd hhead (by decide)
    rw [if_pos hc, Option.map_eq_some_iff] at h
    obtain ⟨m, hm, rfl⟩ := h
    refine ⟨[], fun _ hmem => absurd hmem List.not_mem_nil, ?_⟩
    rw [if_pos hc, hskip, hm]
    rfl
  · rw [if_neg hc, Option.some.injEq] at h
    rw [if_neg hc, h]
    exact ⟨sp, hsp, rfl⟩

theorem facing_suffix (z : Text) (h : facing command t = some y) :
    ∃ y', facing command (z ++ t) = some y' ∧ y <:+ y' := by
  unfold facing at h ⊢
  by_cases hc : isCopyCommand command = true
  · rw [if_pos hc, Option.map_eq_some_iff] at h
    obtain ⟨m, hm, rfl⟩ := h
    obtain ⟨m', hm', hsuffix⟩ := splitFirst_suffix z hm
    exact ⟨m'.2, by rw [if_pos hc, hm']; rfl, hsuffix⟩
  · rw [if_neg hc, Option.some.injEq] at h
    subst h
    exact ⟨z ++ t, if_neg hc, List.suffix_append z t⟩

theorem facing_tail (h : facing command t = some y) : y <:+ t := by
  unfold facing at h
  by_cases hc : isCopyCommand command = true
  · rw [if_pos hc, Option.map_eq_some_iff] at h
    obtain ⟨m, hm, rfl⟩ := h
    rw [splitFirst_eq hm, ← List.append_assoc]
    exact List.suffix_append _ _
  · rw [if_neg hc, Option.some.injEq] at h
    rw [h]

theorem facing_ne_none (w : Text)
    (h : isCopyCommand command = true → Text.contains copyComplete r.text = true) :
    facing command (w ++ r.stream) ≠ none := by
  unfold facing
  by_cases hc : isCopyCommand command = true
  · obtain ⟨u, v, huv⟩ := of_decide_eq_true (h hc)
    have hsplit : w ++ r.stream =
        (w ++ u) ++ (copyComplete ++ (v ++ '#' :: List.replicate r.pad ' ')) := by
      rw [Response.stream, ← huv]
      simp only [List.append_assoc]
    rw [if_pos hc, hsplit]
    exact fun hn => splitFirst_ne_none copyComplete_ne_nil _ _ (Option.map_eq_none_iff.mp hn)
  · rw [if_neg hc]
    exact Option.some_ne_none _

theorem contains_of_facing (hsp : AllSpaces sp) (h : facing command (sp ++ r.stream) ≠ none)
    (hc : isCopyCommand command = true) : Text.contains copyComplete r.text = true := by
  unfold facing at h
  rw [if_pos hc] at h
  have hsome : splitFirst copyComplete (sp ++ r.stream) ≠ none := fun hn => h (by rw [hn]; rfl)
  obtain ⟨m, hm⟩ := Option.ne_none_iff_exists'.mp hsome
  have hinfix : copyComplete <:+: sp ++ r.stream := by
    rw [splitFirst_eq hm]
    exact ⟨m.1, m.2, List.append_assoc _ _ _⟩
  rw [infix_spaces hsp (by decide), Response.stream, Split.infix_append_cons (by decide)] at hinfix
  rcases hinfix with hh | hh
  · exact decide_eq_true hh
  · have hmem : 'C' ∈ List.replicate r.pad ' ' := hh.subset List.mem_cons_self
    exact absurd (List.eq_of_mem_replicate hmem) (by decide)

theorem beforeHash_append (h : '#' ∈ y) : y = beforeHash y ++ '#' :: afterHash y := by
  have hsplit := List.takeWhile_append_dropWhile (p := fun c => c != '#') (l := y)
  cases hd : y.dropWhile (fun c => c != '#') with
  | nil =>
    have hall := List.dropWhile_eq_nil_iff.mp hd '#' h
    exact absurd hall (by decide)
  | cons c t =>
    have hhead := List.head?_dropWhile_not (fun c => c != '#') y
    rw [hd] at hhead
    have hc : c = '#' := by simpa using hhead
    rw [hd, hc] at hsplit
    rw [beforeHash, afterHash, hd]
    exact hsplit.symm

/-- Behind any `#` is behind the first one. -/
theorem leftover_afterHash (z v : Text) : Leftover (afterHash (z ++ '#' :: v)) v := by
  by_cases hz : '#' ∈ z
  · right
    refine ⟨afterHash z, ?_⟩
    have hsplit := beforeHash_append hz
    have hne : (z.dropWhile (fun c => c != '#')).isEmpty = false := by
      rw [List.isEmpty_eq_false_iff]
      intro hn
      exact absurd (List.dropWhile_eq_nil_iff.mp hn '#' hz) (by decide)
    rw [afterHash, List.dropWhile_append, hne]
    cases hd : z.dropWhile (fun c => c != '#') with
    | nil =>
      rw [hd] at hne
      contradiction
    | cons c t =>
      rw [afterHash, hd]
      rfl
  · left
    have hnone : z.dropWhile (fun c => c != '#') = [] := by
      rw [List.dropWhile_eq_nil_iff]
      intro c hc
      rw [bne_iff_ne]
      intro he
      rw [he] at hc
      exact hz hc
    rw [afterHash, List.dropWhile_append, hnone]
    rfl

theorem Leftover.suffix (h : Leftover E v) : ∃ z, E = z ++ v := by
  rcases h with rfl | ⟨u, rfl⟩
  · exact ⟨[], rfl⟩
  · exact ⟨u ++ ['#'], by simp⟩

theorem beforeHash_append_hash (b t : Text) : beforeHash (b ++ '#' :: t) <+: b := by
  unfold beforeHash
  by_cases hb : '#' ∈ b
  · have hsplit := beforeHash_append hb
    have hno : (b.takeWhile (fun c => c != '#')).length ≠ b.length := by
      intro hlen
      have hlen' := congrArg List.length hsplit
      rw [List.length_append, List.length_cons] at hlen'
      have hsame : (beforeHash b).length = b.length := hlen
      omega
    rw [List.takeWhile_append, if_neg hno]
    exact List.takeWhile_prefix _
  · have hall : ∀ c ∈ b, (c != '#') = true := by
      intro c hc
      rw [bne_iff_ne]
      intro he
      rw [he] at hc
      exact hb hc
    rw [List.takeWhile_append_of_pos hall, List.takeWhile_cons_of_neg (by decide), List.append_nil]

theorem facing_hash (h : facing command (w ++ r.stream) = some y) : '#' ∈ y := by
  obtain ⟨z, rfl⟩ := facing_ends h
  exact List.mem_append_right _ List.mem_cons_self

end Facing

section Sync

variable {E w b sp rest : Text} {x : Exchange} {xs : List Exchange} {vs : List Bool}

/-- `w` is unread, and the spaces in front of it went with a prompt. -/
def Behind (E w : Text) : Prop := ∃ sp, AllSpaces sp ∧ Leftover E (sp ++ w)

theorem Behind.of_leftover (h : Leftover E w) : Behind E w :=
  ⟨[], fun _ hc => absurd hc List.not_mem_nil, h⟩

/-- Reading from the earliest place possible sees all that reading from `w`
sees. -/
theorem Behind.facing (h : Behind E w) {y : Text}
    (hy : facing x.command (w ++ x.response.stream) = some y) :
    ∃ z, facing x.command (E ++ x.response.stream) = some (z ++ y) := by
  obtain ⟨sp, hsp, hleft⟩ := h
  obtain ⟨u, hu⟩ := hleft.suffix
  obtain ⟨sp', -, hlater⟩ := facing_spaces hsp hy
  obtain ⟨y', hy', z, hz⟩ := facing_suffix u hlater
  refine ⟨z ++ sp', ?_⟩
  rw [hu]
  simp only [List.append_assoc] at hy' ⊢
  rw [hy', hz]

theorem behind_backlog (h : Behind E w) (hsp : AllSpaces sp)
    (hy : facing x.command (w ++ x.response.stream) = some (b ++ '#' :: (sp ++ rest))) :
    Behind (backlog E x) rest := by
  obtain ⟨z, hz⟩ := h.facing hy
  refine ⟨sp, hsp, ?_⟩
  rw [backlog, hz, Option.getD_some, ← List.append_assoc]
  exact leftover_afterHash (z ++ b) (sp ++ rest)

theorem passes_answers (hpass : Passes E x) (hw : Behind E w) (h : Answers w (x :: xs) vs) :
    ∃ rest vs', Behind (backlog E x) rest ∧ Answers rest xs vs' ∧ vs = true :: vs' := by
  cases h with
  | timeout hnone => exact absurd hnone (facing_ne_none w hpass.completes)
  | refused hy hsp he =>
    obtain ⟨z, hz⟩ := hw.facing hy
    have hclean := hpass.unmarked _ hz
    have hb : carriesError _ = false := not_carriesError ⟨z, _, List.append_assoc z _ _⟩ hclean
    rw [he] at hb
    contradiction
  | ok hy hsp he hrest => exact ⟨_, _, behind_backlog hw hsp hy, hrest, rfl⟩

theorem fails_answers (hfail : Fails E x) (hw : Behind E w) (h : Answers w (x :: xs) vs) :
    vs = [false] := by
  cases h with
  | timeout hnone => rfl
  | refused hy hsp he => rfl
  | @ok _ b _ rest _ _ _ hy hsp he hrest =>
    -- the error before the first `#` is before the one taken for the prompt
    exfalso
    obtain ⟨sp, hspaces, hleft⟩ := hw
    obtain ⟨sp', hsp', hlater⟩ := facing_spaces hspaces hy
    rw [← List.append_assoc] at hlater
    have hfirst := hfail _ hleft _ hlater
    rw [← List.append_assoc] at hfirst
    have hmarked := carriesError_mono (beforeHash_append_hash (sp' ++ b) _).isInfix hfirst
    rw [carriesError_spaces hsp', he] at hmarked
    contradiction

theorem certainStop_answers (hstop : CertainStop E xs) :
    ∃ k, ∀ w, Behind E w → ∀ vs, Answers w xs vs → vs = List.replicate k true ++ [false] := by
  induction xs generalizing E with
  | nil => contradiction
  | cons x xs ih =>
    rcases hstop with hfail | ⟨hpass, hlater⟩
    · exact ⟨0, fun w hw vs h => fails_answers hfail hw h⟩
    · obtain ⟨k, hk⟩ := ih hlater
      refine ⟨k + 1, fun w hw vs h => ?_⟩
      obtain ⟨rest, vs', hrest, hanswers, rfl⟩ := passes_answers hpass hw h
      rw [hk rest hrest vs' hanswers]
      rfl

theorem allPass_answers (hpass : AllPass E xs) (hw : Behind E w) (h : Answers w xs vs) :
    vs = List.replicate xs.length true := by
  induction xs generalizing E w vs with
  | nil =>
    cases h
    rfl
  | cons x xs ih =>
    obtain ⟨rest, vs', hrest, hanswers, rfl⟩ := passes_answers hpass.1 hw h
    rw [ih hpass.2 hrest hanswers]
    rfl

theorem AllPass.completes (h : AllPass E xs) :
    ∀ x ∈ xs, isCopyCommand x.command = true →
      Text.contains copyComplete x.response.text = true := by
  induction xs generalizing E with
  | nil => exact fun x hx => absurd hx List.not_mem_nil
  | cons x xs ih =>
    intro x' hx'
    rcases List.mem_cons.mp hx' with rfl | hlater
    · exact h.1.completes
    · exact ih h.2 x' hlater

/-! If all readings agree, the run stops for certain or passes for certain. -/

/-- Reading may be in step with the device. -/
def InStep (E : Text) : Prop := ∃ sp, AllSpaces sp ∧ Leftover E sp

def Agree (E : Text) (xs : List Exchange) : Prop :=
  ∀ w w', Leftover E w → Leftover E w' → ∀ vs vs', Answers w xs vs → Answers w' xs vs' → vs = vs'

theorem answers_total (w : Text) (xs : List Exchange) : ∃ vs, Answers w xs vs := by
  induction xs generalizing w with
  | nil => exact ⟨[], Answers.done w⟩
  | cons x xs ih =>
    cases hf : facing x.command (w ++ x.response.stream) with
    | none => exact ⟨[false], Answers.timeout hf⟩
    | some y =>
      obtain ⟨z, rfl⟩ := facing_ends hf
      have hpad := allSpaces_replicate x.response.pad
      rw [← List.append_nil (List.replicate x.response.pad ' ')] at hf
      cases he : carriesError z with
      | true => exact ⟨[false], Answers.refused hf hpad he⟩
      | false =>
        obtain ⟨vs, hvs⟩ := ih []
        exact ⟨true :: vs, Answers.ok hf hpad he hvs⟩

/-- Any `#` without an error before it may be taken for the prompt. -/
theorem answers_true (w : Text) {x : Exchange} {b rest : Text}
    (h : facing x.command (w ++ x.response.stream) = some (b ++ '#' :: rest))
    (he : carriesError b = false) {vs : List Bool} (hrest : Answers rest xs vs) :
    Answers w (x :: xs) (true :: vs) := by
  have hspaces : AllSpaces [] := fun _ hc => absurd hc List.not_mem_nil
  refine Answers.ok ?_ hspaces he hrest
  exact h

theorem fails_of_agree (hagree : Agree E (x :: xs)) (hE : Answers E (x :: xs) [false]) :
    Fails E x := by
  intro v hv y hy
  cases he : carriesError (beforeHash y) with
  | true => rfl
  | false =>
    obtain ⟨vs, hvs⟩ := answers_total (afterHash y) xs
    rw [beforeHash_append (facing_hash hy)] at hy
    have hsame := hagree E v (Or.inl rfl) hv _ _ hE (answers_true v hy he hvs)
    exact absurd (List.cons.inj hsame).1 (by decide)

theorem passes_of_agree (hstep : InStep E) (hagree : Agree E (x :: xs))
    (hE : ¬ Answers E (x :: xs) [false]) : Passes E x := by
  constructor
  · intro hc
    obtain ⟨sp, hsp, hleft⟩ := hstep
    refine contains_of_facing hsp ?_ hc
    intro hnone
    obtain ⟨vs, hvs⟩ := answers_total E (x :: xs)
    have hsame := hagree E sp (Or.inl rfl) hleft vs [false] hvs (Answers.timeout hnone)
    exact hE (hsame ▸ hvs)
  · intro y hy
    obtain ⟨z, rfl⟩ := facing_ends hy
    have hpad := allSpaces_replicate x.response.pad
    have hbehind : carriesError (List.replicate x.response.pad ' ') = false := by
      rw [← List.append_nil (List.replicate x.response.pad ' '), carriesError_spaces hpad]
      rfl
    cases hm : carriesError (z ++ '#' :: List.replicate x.response.pad ' ') with
    | false => rfl
    | true =>
      rcases carriesError_hash.mp hm with hz | hz
      · rw [← List.append_nil (List.replicate x.response.pad ' ')] at hy
        exact absurd (Answers.refused hy hpad hz) hE
      · rw [hbehind] at hz
        contradiction

theorem Passes.facing (hpass : Passes E x) :
    ∃ y, facing x.command (E ++ x.response.stream) = some y ∧
      carriesError y = false ∧ '#' ∈ y ∧ backlog E x = afterHash y := by
  obtain ⟨y, hy⟩ := Option.ne_none_iff_exists'.mp (facing_ne_none E hpass.completes)
  refine ⟨y, hy, hpass.unmarked y hy, facing_hash hy, ?_⟩
  rw [backlog, hy, Option.getD_some]

theorem Passes.answers (hpass : Passes E x) (hw : Leftover (backlog E x) w)
    (h : Answers w xs vs) : Answers E (x :: xs) (true :: vs) := by
  obtain ⟨y, hy, hclean, hhash, hback⟩ := hpass.facing
  have hsplit := beforeHash_append hhash
  rw [hback] at hw
  rcases hw with rfl | ⟨u, hu⟩
  · rw [hsplit] at hy
    refine answers_true E hy (not_carriesError ?_ hclean) h
    exact ⟨[], _, hsplit.symm⟩
  · rw [hu] at hsplit
    have hlater : y = (beforeHash y ++ '#' :: u) ++ '#' :: w := by
      rw [List.append_assoc]
      exact hsplit
    rw [hlater] at hy
    refine answers_true E hy (not_carriesError ?_ hclean) h
    exact ⟨[], _, hlater.symm⟩

theorem agree_backlog (hpass : Passes E x) (hagree : Agree E (x :: xs)) :
    Agree (backlog E x) xs := by
  intro w w' hw hw' vs vs' h h'
  have hsame := hagree E E (Or.inl rfl) (Or.inl rfl) _ _ (hpass.answers hw h) (hpass.answers hw' h')
  exact (List.cons.inj hsame).2

theorem inStep_backlog (hpass : Passes E x) : InStep (backlog E x) := by
  obtain ⟨y, hy, -, -, hback⟩ := hpass.facing
  obtain ⟨z, rfl⟩ := facing_ends hy
  refine ⟨_, allSpaces_replicate x.response.pad, ?_⟩
  rw [hback]
  exact leftover_afterHash z _

theorem stop_or_pass (hstep : InStep E) (hagree : Agree E xs) :
    CertainStop E xs ∨ AllPass E xs := by
  induction xs generalizing E with
  | nil => exact Or.inr trivial
  | cons x xs ih =>
    by_cases hE : Answers E (x :: xs) [false]
    · exact Or.inl (Or.inl (fails_of_agree hagree hE))
    · have hpass := passes_of_agree hstep hagree hE
      rcases ih (inStep_backlog hpass) (agree_backlog hpass hagree) with hh | hh
      · exact Or.inl (Or.inr ⟨hpass, hh⟩)
      · exact Or.inr ⟨hpass, hh⟩

end Sync

end PdDisaggregation
