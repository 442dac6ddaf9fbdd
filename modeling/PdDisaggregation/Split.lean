import Mathlib.Data.List.DropRight
import Mathlib.Data.List.TakeWhile

/-! A list cut into pieces at its separators: which lists are pieces, what a
filter does to them, and where a core lies between two borders. -/

namespace Split

variable {α : Type} {p q : α → Bool}

/-- A piece may begin behind `before`. -/
def opens (p : α → Bool) (before : List α) : Bool := before.getLast?.all p

/-- A piece may end in front of `after`. -/
def closes (p : α → Bool) (after : List α) : Bool := after.head?.all p

@[simp] theorem opens_nil : opens p [] = true := rfl

@[simp] theorem closes_nil : closes p [] = true := rfl

@[simp] theorem closes_cons {a : α} {l : List α} : closes p (a :: l) = p a := by simp [closes]

@[simp] theorem opens_concat {a : α} {l : List α} : opens p (l ++ [a]) = p a := by simp [opens]

theorem opens_append_cons {a : α} {l r : List α} (ha : p a = true) (hr : opens p r = true) :
    opens p (l ++ a :: r) = true := by
  rcases List.eq_nil_or_concat' r with rfl | ⟨r, b, rfl⟩
  · simpa using ha
  · rw [opens_concat] at hr
    have hassoc : l ++ a :: (r ++ [b]) = (l ++ a :: r) ++ [b] := by simp
    rw [hassoc, opens_concat, hr]

theorem splitOnP_cases (p : α → Bool) (l : List α) :
    (∀ a ∈ l, p a = false) ∧ l.splitOnP p = [l] ∨
      ∃ piece a rest, l = piece ++ a :: rest ∧ (∀ b ∈ piece, p b = false) ∧ p a = true ∧
        l.splitOnP p = piece :: rest.splitOnP p := by
  have hcut := List.takeWhile_append_dropWhile (p := fun a => !p a) (l := l)
  have hpiece : ∀ a ∈ l.takeWhile (fun a => !p a), p a = false := by
    intro a ha
    simpa using List.mem_takeWhile_imp ha
  cases hrest : l.dropWhile (fun a => !p a) with
  | nil =>
    rw [hrest, List.append_nil] at hcut
    rw [hcut] at hpiece
    exact Or.inl ⟨hpiece, List.splitOnP_eq_singleton hpiece⟩
  | cons a rest =>
    have ha : p a = true := by
      have hh := List.head?_dropWhile_not (fun a => !p a) l
      rw [hrest] at hh
      simpa using hh
    rw [hrest] at hcut
    have hsplit := List.splitOnP_append_cons_of_forall_mem hpiece a ha rest
    rw [hcut] at hsplit
    exact Or.inr ⟨_, a, rest, hcut.symm, hpiece, ha, hsplit⟩

theorem of_mem_splitOnP {l piece : List α} (h : piece ∈ l.splitOnP p) :
    (∀ a ∈ piece, p a = false) ∧ ∃ before after, l = before ++ (piece ++ after) ∧
      opens p before = true ∧ closes p after = true := by
  induction hn : l.length using Nat.strong_induction_on generalizing l with
  | _ n ih =>
    rcases splitOnP_cases p l with ⟨hnone, hsplit⟩ | ⟨first, a, rest, rfl, hfirst, ha, hsplit⟩
    · rw [hsplit, List.mem_singleton] at h
      subst h
      exact ⟨hnone, [], [], by simp, rfl, rfl⟩
    · rw [hsplit] at h
      rcases List.mem_cons.mp h with rfl | h
      · exact ⟨hfirst, [], a :: rest, rfl, rfl, by simpa using ha⟩
      · have hlt : rest.length < n := by
          rw [List.length_append, List.length_cons] at hn
          omega
        obtain ⟨hpiece, before, after, hrest, hopens, hcloses⟩ := ih rest.length hlt h rfl
        refine ⟨hpiece, first ++ a :: before, after, ?_, opens_append_cons ha hopens, hcloses⟩
        rw [hrest, List.append_assoc, List.cons_append]

theorem mem_splitOnP {l piece : List α} :
    piece ∈ l.splitOnP p ↔ (∀ a ∈ piece, p a = false) ∧
      ∃ before after, l = before ++ (piece ++ after) ∧ opens p before = true ∧
        closes p after = true := by
  refine ⟨of_mem_splitOnP, ?_⟩
  rintro ⟨hpiece, before, after, rfl, hopens, hcloses⟩
  have htail : piece ∈ (piece ++ after).splitOnP p := by
    cases after with
    | nil =>
      rw [List.append_nil, List.splitOnP_eq_singleton hpiece]
      exact List.mem_singleton_self piece
    | cons a after =>
      rw [List.splitOnP_append_cons_of_forall_mem hpiece a (by simpa using hcloses) after]
      exact List.mem_cons_self
  rcases List.eq_nil_or_concat' before with rfl | ⟨before, a, rfl⟩
  · exact htail
  · rw [opens_concat] at hopens
    have hassoc : before ++ [a] ++ (piece ++ after) = before ++ a :: (piece ++ after) := by simp
    rw [hassoc, List.splitOnP_append_cons before _ hopens]
    exact List.mem_append_right _ htail

/-- A filter that keeps the separators acts on each piece. -/
theorem splitOnP_filter (hkeep : ∀ a, p a = true → q a = true) (l : List α) :
    (l.filter q).splitOnP p = (l.splitOnP p).map (List.filter q) := by
  induction l with
  | nil => rfl
  | cons a l ih =>
    by_cases hp : p a = true
    · rw [List.filter_cons_of_pos (hkeep a hp), List.splitOnP_cons_eq_if_modifyHead, if_pos hp,
        List.splitOnP_cons_eq_if_modifyHead, if_pos hp, ih]
      rfl
    · obtain ⟨piece, pieces, hl⟩ := List.exists_cons_of_ne_nil (List.splitOnP_ne_nil p l)
      rw [List.splitOnP_cons_eq_if_modifyHead a l, if_neg hp, hl]
      rw [hl] at ih
      by_cases hq : q a = true
      · rw [List.filter_cons_of_pos hq, List.splitOnP_cons_eq_if_modifyHead, if_neg hp, ih]
        simp [hq]
      · rw [List.filter_cons_of_neg hq, ih]
        simp [hq]

/-- What does not hold `a` lies on one side of it. -/
theorem infix_append_cons {a : α} {needle x y : List α} (hn : a ∉ needle) :
    needle <:+: x ++ a :: y ↔ needle <:+: x ∨ needle <:+: y := by
  constructor
  · rintro ⟨v, w, h⟩
    rw [List.append_assoc] at h
    rcases List.append_eq_append_iff.mp h with ⟨u, hx, hr⟩ | ⟨u, hv, hr⟩
    · -- the needle starts in `x`, and it cannot run over `a`
      rcases List.append_eq_append_iff.mp hr with ⟨z, hz, hy⟩ | ⟨z, hz, hy⟩
      · left
        exact ⟨v, z, by rw [hx, hz, List.append_assoc]⟩
      · cases z with
        | nil =>
          left
          rw [List.append_nil] at hz
          exact ⟨v, [], by rw [hx, hz, List.append_nil]⟩
        | cons c z =>
          rw [List.cons_append, List.cons.injEq] at hy
          refine absurd ?_ hn
          rw [hz, ← hy.1]
          simp
    · cases u with
      | nil =>
        rw [List.nil_append] at hr
        cases needle with
        | nil => exact Or.inl (List.nil_infix)
        | cons c n =>
          rw [List.cons_append, List.cons.injEq] at hr
          exact absurd (hr.1 ▸ List.mem_cons_self) hn
      | cons c u =>
        rw [List.cons_append, List.cons.injEq] at hr
        right
        exact ⟨u, w, by rw [hr.2, List.append_assoc]⟩
  · rintro (⟨v, w, rfl⟩ | ⟨v, w, rfl⟩)
    · exact ⟨v, w ++ a :: y, by simp⟩
    · exact ⟨x ++ a :: v, w, by simp⟩

theorem infix_append_opens {needle a b : List α} (hne : needle ≠ [])
    (hn : ∀ x ∈ needle, p x = false) (h : opens p a = true) :
    needle <:+: a ++ b ↔ needle <:+: a ∨ needle <:+: b := by
  rcases List.eq_nil_or_concat' a with rfl | ⟨a, x, rfl⟩
  · simp [hne]
  · rw [opens_concat] at h
    have hx : x ∉ needle := fun hmem => by simp [hn x hmem] at h
    rw [List.append_assoc, List.singleton_append, infix_append_cons hx, infix_append_cons hx]
    simp [hne]

theorem infix_append_closes {needle a b : List α} (hne : needle ≠ [])
    (hn : ∀ x ∈ needle, p x = false) (h : closes p b = true) :
    needle <:+: a ++ b ↔ needle <:+: a ∨ needle <:+: b := by
  cases b with
  | nil => simp [hne]
  | cons x b =>
    rw [closes_cons] at h
    have hx : x ∉ needle := fun hmem => by simp [hn x hmem] at h
    have hb := infix_append_cons (x := []) (y := b) hx
    rw [infix_append_cons hx, ← List.nil_append (x :: b), hb]
    simp [hne]

theorem any_splitOnP_opens {m : List α → Bool} (hm : m [] = false) {a b : List α}
    (h : opens p a = true) :
    ((a ++ b).splitOnP p).any m = ((a.splitOnP p).any m || (b.splitOnP p).any m) := by
  rcases List.eq_nil_or_concat' a with rfl | ⟨a, x, rfl⟩
  · simp [hm]
  · rw [opens_concat] at h
    rw [List.append_assoc, List.singleton_append, List.splitOnP_append_cons a b h,
      List.splitOnP_append_cons a [] h]
    simp [hm]

theorem any_splitOnP_closes {m : List α → Bool} (hm : m [] = false) {a b : List α}
    (h : closes p b = true) :
    ((a ++ b).splitOnP p).any m = ((a.splitOnP p).any m || (b.splitOnP p).any m) := by
  cases b with
  | nil => simp [hm]
  | cons x b =>
    rw [closes_cons] at h
    rw [List.splitOnP_append_cons a b h, List.splitOnP_cons_eq_if_modifyHead, if_pos h]
    simp [hm]

/-- The pieces that hold something. -/
def words (p : α → Bool) (l : List α) : List (List α) := (l.splitOnP p).filter (!·.isEmpty)

theorem words_append_cons {a : α} (ha : p a = true) (l r : List α) :
    words p (l ++ a :: r) = words p l ++ words p r := by
  rw [words, List.splitOnP_append_cons l r ha, List.filter_append]
  rfl

@[simp] theorem words_nil : words p [] = [] := rfl

theorem words_lead {lead : List α} (h : lead.all p = true) (l : List α) :
    words p (lead ++ l) = words p l := by
  induction lead with
  | nil => rfl
  | cons a lead ih =>
    rw [List.all_cons, Bool.and_eq_true] at h
    have hcons := words_append_cons h.1 [] (lead ++ l)
    rw [List.cons_append, ← List.nil_append (a :: (lead ++ l)), hcons, words_nil, List.nil_append,
      ih h.2]

theorem words_token {token rest : List α} (hne : token ≠ []) (h : token.all (!p ·) = true)
    (hr : closes p rest = true) : words p (token ++ rest) = token :: words p rest := by
  have htoken : words p token = [token] := by
    have hnone : ∀ a ∈ token, p a = false := by simpa [List.all_eq_true] using h
    rw [words, List.splitOnP_eq_singleton hnone]
    simp [hne]
  cases rest with
  | nil => rw [List.append_nil, htoken, words_nil]
  | cons a rest =>
    rw [closes_cons] at hr
    have hcons := words_append_cons hr [] rest
    rw [List.nil_append, words_nil, List.nil_append] at hcons
    rw [words_append_cons hr, htoken, hcons, List.singleton_append]

theorem words_prefix {token : List α} (hne : token ≠ []) (h : token.all (!p ·) = true)
    (l : List α) : words p (token ++ l) =
      (token ++ l.takeWhile (!p ·)) :: words p (l.dropWhile (!p ·)) := by
  have hword : (token ++ l.takeWhile (!p ·)).all (!p ·) = true := by
    rw [List.all_append, h, List.all_takeWhile]
    rfl
  have hcloses : closes p (l.dropWhile (!p ·)) = true := by
    have hh := List.head?_dropWhile_not (!p ·) l
    rw [closes]
    cases hd : (l.dropWhile (!p ·)).head? with
    | none => rfl
    | some a =>
      rw [hd] at hh
      simpa using hh
  have hword' : token ++ l.takeWhile (!p ·) ≠ [] := by simp [hne]
  rw [← words_token hword' hword hcloses, List.append_assoc, List.takeWhile_append_dropWhile]

section

variable {a a' b b' : List α}

theorem append_left_unique (ha : a.all p = true) (ha' : a'.all p = true)
    (hb : b.head?.any (!p ·) = true) (hb' : b'.head?.any (!p ·) = true) (h : a ++ b = a' ++ b') :
    a = a' ∧ b = b' := by
  have htake : ∀ {a b : List α}, a.all p = true → b.head?.any (!p ·) = true →
      (a ++ b).takeWhile p = a := by
    intro a b ha hb
    rw [List.takeWhile_append_of_pos (List.all_eq_true.mp ha)]
    cases b with
    | nil => simp at hb
    | cons x b => simp_all
  have heq : a = a' := by rw [← htake ha hb, ← htake ha' hb', h]
  subst heq
  exact ⟨rfl, List.append_cancel_left h⟩

theorem append_right_unique (hb : b.all p = true) (hb' : b'.all p = true)
    (ha : a.getLast?.any (!p ·) = true) (ha' : a'.getLast?.any (!p ·) = true)
    (h : a ++ b = a' ++ b') : a = a' ∧ b = b' := by
  have hrev := congrArg List.reverse h
  rw [List.reverse_append, List.reverse_append] at hrev
  have hh := append_left_unique (p := p) (by simpa using hb) (by simpa using hb')
    (by simpa using ha) (by simpa using ha') hrev
  exact ⟨List.reverse_injective hh.2, List.reverse_injective hh.1⟩

/-- Everything in front of the first and behind the last element outside `p`. -/
theorem exists_core {l : List α} (h : l.filter (!p ·) ≠ []) :
    ∃ before core after, l = before ++ (core ++ after) ∧ before.all p = true ∧
      after.all p = true ∧ core.head?.any (!p ·) = true ∧ core.getLast?.any (!p ·) = true := by
  have hsome : l.dropWhile p ≠ [] := by
    intro hnil
    apply h
    rw [List.filter_eq_nil_iff]
    intro x hx
    simpa using List.dropWhile_eq_nil_iff.mp hnil x hx
  have hne : (l.dropWhile p).rdropWhile p ≠ [] := by
    intro hnil
    have hall := List.rdropWhile_eq_nil_iff.mp hnil
    have hhead := List.head_dropWhile_not p hsome
    rw [hall _ (List.head_mem hsome)] at hhead
    contradiction
  refine ⟨l.takeWhile p, (l.dropWhile p).rdropWhile p, (l.dropWhile p).rtakeWhile p, ?_, ?_, ?_,
    ?_, ?_⟩
  · rw [List.rdropWhile_append_rtakeWhile, List.takeWhile_append_dropWhile]
  · exact List.all_takeWhile
  · rw [List.all_eq_true]
    intro x hx
    exact List.mem_rtakeWhile_imp hx
  · obtain ⟨tail, htail⟩ := List.rdropWhile_prefix p (l := l.dropWhile p)
    have hhead := List.head_dropWhile_not p hsome
    cases hcore : (l.dropWhile p).rdropWhile p with
    | nil => exact absurd hcore hne
    | cons x core =>
      rw [hcore] at htail
      simp only [← htail, List.cons_append, List.head_cons] at hhead
      simp [hhead]
  · have hlast := List.rdropWhile_last_not p _ hne
    rw [List.getLast?_eq_getLast_of_ne_nil hne]
    simpa using hlast

end

end Split
