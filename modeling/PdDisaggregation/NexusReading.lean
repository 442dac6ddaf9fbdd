import PdDisaggregation.NexusApply

/-! The command loop without chunks: any `#` that has been sent may be taken
for the prompt. The chunked loop does exactly what this one may do. -/

namespace PdDisaggregation

open Expect

/-- The part of the output in which the prompt of a command is looked for. -/
def facing (command t : Text) : Option Text :=
  if isCopyCommand command then (splitFirst copyComplete t).map Prod.snd else some t

/-- From `w`, sent and not read, the commands may get these results. -/
inductive Answers : Text → List Exchange → List Bool → Prop
  | done (w : Text) : Answers w [] []
  | timeout {w : Text} {x : Exchange} {xs : List Exchange}
      (h : facing x.command (w ++ x.response.stream) = none) : Answers w (x :: xs) [false]
  | refused {w b sp rest : Text} {x : Exchange} {xs : List Exchange}
      (h : facing x.command (w ++ x.response.stream) = some (b ++ '#' :: (sp ++ rest)))
      (hsp : AllSpaces sp) (he : carriesError b = true) : Answers w (x :: xs) [false]
  | ok {w b sp rest : Text} {x : Exchange} {xs : List Exchange} {vs : List Bool}
      (h : facing x.command (w ++ x.response.stream) = some (b ++ '#' :: (sp ++ rest)))
      (hsp : AllSpaces sp) (he : carriesError b = false) (hrest : Answers rest xs vs) :
      Answers w (x :: xs) (true :: vs)

def okFlags (verdicts : List (Text × Verdict)) : List Bool := verdicts.map fun v => v.2.isOk

variable {cut cut' : Nat → Bool} {command before t w y : Text} {child child' : Child}
  {xs : List Exchange}

theorem unread_sends (child : Child) (t : Text) : (child.sends t).unread = child.unread ++ t :=
  (List.append_assoc _ _ _).symm

theorem copyComplete_ne_nil : copyComplete ≠ [] := List.cons_ne_nil _ _

theorem expect_prompt_some (h : expect cut prompt child = some (before, child')) :
    child.received ≤ child'.received ∧
      ∃ sp, AllSpaces sp ∧ child.unread = before ++ '#' :: (sp ++ child'.unread) := by
  obtain ⟨hle, u, hu, hfind⟩ := expect_some h
  obtain ⟨sp, hsp, rfl⟩ := prompt_some hfind
  refine ⟨hle, sp, hsp, ?_⟩
  rw [hu, Child.unread]
  simp only [List.append_assoc, List.cons_append]

theorem expect_copy_some (h : expect cut (splitFirst copyComplete) child = some (before, child')) :
    child.received ≤ child'.received ∧
      splitFirst copyComplete child.unread = some (before, child'.unread) := by
  obtain ⟨hle, u, hu, hfind⟩ := expect_some h
  refine ⟨hle, ?_⟩
  rw [hu]
  exact splitFirst_append _ hfind

theorem expectAnswer_some (h : expectAnswer cut command child = some (before, child')) :
    child.received ≤ child'.received ∧ ∃ sp, AllSpaces sp ∧
      facing command child.unread = some (before ++ '#' :: (sp ++ child'.unread)) := by
  unfold expectAnswer at h
  unfold facing
  by_cases hc : isCopyCommand command = true
  · rw [if_pos hc] at h ⊢
    cases hm : expect cut (splitFirst copyComplete) child with
    | none =>
      rw [hm] at h
      contradiction
    | some m =>
      rw [hm] at h
      obtain ⟨hle, hsplit⟩ := expect_copy_some hm
      obtain ⟨hle', sp, hsp, hunread⟩ := expect_prompt_some h
      refine ⟨hle.trans hle', sp, hsp, ?_⟩
      rw [hsplit, ← hunread]
      rfl
  · rw [if_neg hc] at h ⊢
    obtain ⟨hle, sp, hsp, hunread⟩ := expect_prompt_some h
    exact ⟨hle, sp, hsp, by rw [hunread]⟩

/-- The prompt that ends the last response is still ahead. -/
theorem facing_ends {r : Response} (h : facing command (w ++ r.stream) = some y) :
    ∃ z, y = z ++ '#' :: List.replicate r.pad ' ' := by
  have hend : ('#' :: List.replicate r.pad ' ') <:+ w ++ r.stream :=
    ⟨w ++ r.text, by rw [Response.stream, List.append_assoc]⟩
  unfold facing at h
  by_cases hc : isCopyCommand command = true
  · rw [if_pos hc, Option.map_eq_some_iff] at h
    obtain ⟨m, hm, rfl⟩ := h
    have hsplit := splitFirst_eq hm
    have hy : m.2 <:+ w ++ r.stream := ⟨m.1 ++ copyComplete, by rw [hsplit, List.append_assoc]⟩
    by_cases hle : ('#' :: List.replicate r.pad ' ').length ≤ m.2.length
    · obtain ⟨z, hz⟩ := List.suffix_of_suffix_length_le hend hy hle
      exact ⟨z, hz.symm⟩
    · -- the sentence would end behind the `#`, but there are only spaces
      exfalso
      have hdot : ('.' :: m.2) <:+ w ++ r.stream :=
        ⟨m.1 ++ "Copy complete".toList, by
          rw [hsplit, List.append_assoc]
          rfl⟩
      have hinside : ('.' :: m.2) <:+ '#' :: List.replicate r.pad ' ' := by
        refine List.suffix_of_suffix_length_le hdot hend ?_
        rw [List.length_cons]
        omega
      have hmem : '.' ∈ '#' :: List.replicate r.pad ' ' := hinside.subset List.mem_cons_self
      rcases List.mem_cons.mp hmem with hhash | hspace
      · exact absurd hhash (by decide)
      · exact absurd (List.eq_of_mem_replicate hspace) (by decide)
  · rw [if_neg hc, Option.some.injEq] at h
    obtain ⟨z, hz⟩ := hend
    exact ⟨z, by rw [← h, hz]⟩

theorem allSpaces_replicate (n : Nat) : AllSpaces (List.replicate n ' ') :=
  fun _ hc => List.eq_of_mem_replicate hc

theorem expectAnswer_none {r : Response} (hunread : child.unread = w ++ r.stream)
    (h : expectAnswer cut command child = none) : facing command (w ++ r.stream) = none := by
  have hprompt {c : Child} (hy : facing command (w ++ r.stream) = some c.unread) :
      expect cut prompt c ≠ none := by
    intro hnone
    obtain ⟨z, hz⟩ := facing_ends hy
    have hfail := expect_none hnone
    rw [hz, prompt_hash (allSpaces_replicate _)] at hfail
    contradiction
  unfold expectAnswer at h
  by_cases hc : isCopyCommand command = true
  · rw [if_pos hc] at h
    cases hm : expect cut (splitFirst copyComplete) child with
    | none =>
      have hfail := expect_none hm
      rw [facing, if_pos hc, ← hunread, hfail]
      rfl
    | some m =>
      rw [hm] at h
      have hsplit := (expect_copy_some hm).2
      refine absurd h (hprompt ?_)
      rw [facing, if_pos hc, ← hunread, hsplit]
      rfl
  · rw [if_neg hc] at h
    refine absurd h (hprompt ?_)
    rw [facing, if_neg hc, hunread]

theorem answers_of_run (cut : Nat → Bool) (child : Child) (xs : List Exchange) :
    Answers child.unread xs (okFlags (applyCommands cut child xs)) := by
  induction xs generalizing child with
  | nil => exact Answers.done _
  | cons x xs ih =>
    have hunread := unread_sends child x.response.stream
    rw [applyCommands]
    cases hm : expectAnswer cut x.command (child.sends x.response.stream) with
    | none => exact Answers.timeout (expectAnswer_none hunread hm)
    | some m =>
      obtain ⟨-, sp, hsp, hfacing⟩ := expectAnswer_some hm
      rw [hunread] at hfacing
      cases he : carriesError m.1 with
      | true =>
        simp only [he, if_true]
        exact Answers.refused hfacing hsp he
      | false =>
        simp only [he, Bool.false_eq_true, if_false]
        exact Answers.ok hfacing hsp he (ih m.2)

/-! Every answer is one that some way of cutting the input produces. -/

theorem expectAnswer_at {b sp rest : Text} {n : Nat}
    (h : facing command t = some (b ++ '#' :: (sp ++ rest))) (hsp : AllSpaces sp) :
    ∃ k, 0 < k ∧ ∀ cut : Nat → Bool, cut (n + k) = true →
      (∀ i, n < i → i < n + k → cut i = false) →
        expectAnswer cut command ⟨[], t, n⟩ = some (b, ⟨[], rest, n + k⟩) := by
  have hhash : b ++ '#' :: sp ≠ [] := by simp
  unfold facing at h
  by_cases hc : isCopyCommand command = true
  · rw [if_pos hc, Option.map_eq_some_iff] at h
    obtain ⟨⟨m, y⟩, hm, rfl⟩ := h
    have hsplit := splitFirst_eq hm
    have ht : t = (m ++ (copyComplete ++ (b ++ '#' :: sp))) ++ rest := by
      rw [hsplit]
      simp only [List.append_assoc, List.cons_append]
    have hfind : splitFirst copyComplete (m ++ (copyComplete ++ (b ++ '#' :: sp))) =
        some (m, b ++ '#' :: sp) := by
      have hlonger : splitFirst copyComplete
          ((m ++ (copyComplete ++ (b ++ '#' :: sp))) ++ rest) =
            some (m, (b ++ '#' :: sp) ++ rest) := by
        rw [← ht, hm]
        simp only [List.append_assoc, List.cons_append]
      exact splitFirst_of_append (m := (m, [])) copyComplete_ne_nil hlonger
    have hne : m ++ (copyComplete ++ (b ++ '#' :: sp)) ≠ [] := by simp
    refine ⟨_, List.length_pos_iff.mpr hne, fun cut hcut hquiet => ?_⟩
    have hfirst := expect_at (w := rest) (show splitFirst copyComplete [] = none from rfl) hne hcut
      hquiet hfind
    rw [← ht] at hfirst
    rw [expectAnswer, if_pos hc, hfirst]
    show expect cut prompt ⟨b ++ '#' :: sp, rest, _⟩ = _
    rw [expect, prompt_hash hsp]
  · rw [if_neg hc, Option.some.injEq] at h
    have ht : t = (b ++ '#' :: sp) ++ rest := by
      rw [h]
      simp only [List.append_assoc, List.cons_append]
    refine ⟨_, List.length_pos_iff.mpr hhash, fun cut hcut hquiet => ?_⟩
    rw [expectAnswer, if_neg hc, ht]
    exact expect_at prompt_nil hhash hcut hquiet (prompt_hash hsp)

theorem expectAnswer_congr (h : ∀ n, child.received < n → cut n = cut' n) :
    expectAnswer cut command child = expectAnswer cut' command child := by
  unfold expectAnswer
  rw [expect_congr h, expect_congr h]
  cases hm : expect cut' (splitFirst copyComplete) child with
  | none => rfl
  | some m =>
    have hle := (expect_copy_some hm).1
    have hsecond : expect cut prompt m.2 = expect cut' prompt m.2 :=
      expect_congr fun n hn => h n (by omega)
    simp only [hsecond]

theorem applyCommands_congr (h : ∀ n, child.received < n → cut n = cut' n) :
    applyCommands cut child xs = applyCommands cut' child xs := by
  induction xs generalizing child with
  | nil => rfl
  | cons x xs ih =>
    have hsame : expectAnswer cut x.command (child.sends x.response.stream) =
        expectAnswer cut' x.command (child.sends x.response.stream) := expectAnswer_congr h
    rw [applyCommands, applyCommands, hsame]
    cases hm : expectAnswer cut' x.command (child.sends x.response.stream) with
    | none => rfl
    | some m =>
      have hle : child.received ≤ m.2.received := (expectAnswer_some hm).1
      have hrest : applyCommands cut m.2 xs = applyCommands cut' m.2 xs :=
        ih fun n hn => h n (by omega)
      simp only [hrest]

/-- The first chunk ends at `q`, the others as `cut` says. -/
def cutFirst (q : Nat) (cut : Nat → Bool) (n : Nat) : Bool := n == q || (decide (q < n) && cut n)

theorem cutFirst_self (q : Nat) (cut : Nat → Bool) : cutFirst q cut q = true := by
  simp [cutFirst]

theorem cutFirst_before {q i : Nat} (h : i < q) (cut : Nat → Bool) : cutFirst q cut i = false := by
  have hne : (i == q) = false := by simp; omega
  have hlt : decide (q < i) = false := by simp; omega
  rw [cutFirst, hne, hlt]
  rfl

theorem cutFirst_behind {q i : Nat} (h : q < i) (cut : Nat → Bool) : cutFirst q cut i = cut i := by
  have hne : (i == q) = false := by simp; omega
  rw [cutFirst, hne, decide_eq_true h]
  rfl

theorem run_of_answers {vs : List Bool} (h : Answers w xs vs) (n : Nat) :
    ∃ cut, okFlags (applyCommands cut ⟨[], w, n⟩ xs) = vs := by
  induction h generalizing n with
  | done w => exact ⟨fun _ => true, rfl⟩
  | @timeout w x xs h =>
    refine ⟨fun _ => true, ?_⟩
    rw [applyCommands]
    cases hm : expectAnswer (fun _ => true) x.command
        (Child.sends ⟨[], w, n⟩ x.response.stream) with
    | none => rfl
    | some m =>
      obtain ⟨-, sp, -, hfacing⟩ := expectAnswer_some hm
      rw [unread_sends] at hfacing
      have hsome : facing x.command (w ++ x.response.stream) ≠ none := by
        intro hnone
        exact Option.some_ne_none _ (hfacing.symm.trans hnone)
      contradiction
  | @refused w b sp rest x xs h hsp he =>
    obtain ⟨k, hk, hat⟩ := expectAnswer_at (n := n) h hsp
    have hanswer := hat _ (cutFirst_self _ fun _ => true) fun i _ hi => cutFirst_before hi _
    refine ⟨cutFirst (n + k) fun _ => true, ?_⟩
    have hsends : Child.sends ⟨[], w, n⟩ x.response.stream = ⟨[], w ++ x.response.stream, n⟩ := rfl
    rw [applyCommands, hsends, hanswer]
    simp only [he, if_true]
    rfl
  | @ok w b sp rest x xs vs h hsp he _ ih =>
    obtain ⟨k, hk, hat⟩ := expectAnswer_at (n := n) h hsp
    obtain ⟨cut, hrun⟩ := ih (n + k)
    have hanswer := hat _ (cutFirst_self _ cut) fun i _ hi => cutFirst_before hi _
    have hlater : applyCommands (cutFirst (n + k) cut) ⟨[], rest, n + k⟩ xs =
        applyCommands cut ⟨[], rest, n + k⟩ xs :=
      applyCommands_congr fun i hi => cutFirst_behind hi cut
    refine ⟨cutFirst (n + k) cut, ?_⟩
    have hsends : Child.sends ⟨[], w, n⟩ x.response.stream = ⟨[], w ++ x.response.stream, n⟩ := rfl
    rw [applyCommands, hsends, hanswer]
    simp only [he, Bool.false_eq_true, if_false, hlater]
    exact congrArg (List.cons true) hrun

/-- The chunked loop and the chunk-free one have the same results. -/
theorem run_iff_answers (xs : List Exchange) (vs : List Bool) :
    (∃ cut, okFlags (applyCommands cut ⟨[], [], 0⟩ xs) = vs) ↔ Answers [] xs vs := by
  constructor
  · rintro ⟨cut, rfl⟩
    exact answers_of_run cut ⟨[], [], 0⟩ xs
  · exact fun h => run_of_answers h 0

end PdDisaggregation
