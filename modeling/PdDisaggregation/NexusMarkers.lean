import PdDisaggregation.NexusApply
import PdDisaggregation.Split

/-! Where an error marker lies in a text that holds prompts: no marker runs
over a `#`, and none starts with a space. -/

namespace PdDisaggregation

open Split

variable {needle x y sp t b : Text}

theorem infix_spaces (hsp : AllSpaces sp) (hn : needle.head? ≠ some ' ') :
    needle <:+: sp ++ t ↔ needle <:+: t := by
  cases needle with
  | nil => simp
  | cons c n =>
    have hc : c ≠ ' ' := fun h => hn (congrArg some h)
    induction sp with
    | nil => rfl
    | cons d sp ih =>
      have hd : d = ' ' := hsp d List.mem_cons_self
      have hi : (c :: n) <:+: sp ++ t ↔ (c :: n) <:+: t :=
        ih fun e he => hsp e (List.mem_cons_of_mem _ he)
      rw [List.cons_append, List.infix_cons_iff, hi]
      constructor
      · rintro (⟨w, hw⟩ | h)
        · rw [List.cons_append, List.cons.injEq] at hw
          exact absurd (hw.1.trans hd) hc
        · exact h
      · exact Or.inr

theorem delete_append (s t : Text) :
    Text.delete '\r' (s ++ t) = Text.delete '\r' s ++ Text.delete '\r' t := List.filter_append ..

theorem delete_hash (t : Text) : Text.delete '\r' ('#' :: t) = '#' :: Text.delete '\r' t := by
  rw [Text.delete, List.filter_cons_of_pos (by decide)]
  rfl

theorem delete_spaces (h : AllSpaces sp) : Text.delete '\r' sp = sp := by
  rw [Text.delete, List.filter_eq_self]
  intro c hc
  rw [h c hc]
  decide

theorem carriesError_iff : carriesError t = true ↔
    "% Invalid".toList <:+: Text.delete '\r' t ∨ "% Incomplete".toList <:+: Text.delete '\r' t ∨
      "ERROR".toList <:+: Text.delete '\r' t := by
  simp only [carriesError, Text.contains, Bool.or_eq_true, decide_eq_true_iff, or_assoc]

theorem carriesError_mono (h : b <:+: t) (hb : carriesError b = true) : carriesError t = true := by
  have hdelete : Text.delete '\r' b <:+: Text.delete '\r' t := h.filter _
  rw [carriesError_iff] at hb ⊢
  rcases hb with hb | hb | hb
  · exact Or.inl (hb.trans hdelete)
  · exact Or.inr (Or.inl (hb.trans hdelete))
  · exact Or.inr (Or.inr (hb.trans hdelete))

theorem not_carriesError (h : b <:+: t) (ht : carriesError t = false) : carriesError b = false := by
  cases hb : carriesError b with
  | false => rfl
  | true =>
    rw [carriesError_mono h hb] at ht
    contradiction

theorem carriesError_hash :
    carriesError (x ++ '#' :: y) = true ↔ carriesError x = true ∨ carriesError y = true := by
  rw [carriesError_iff, carriesError_iff, carriesError_iff, delete_append, delete_hash,
    infix_append_cons (by decide), infix_append_cons (by decide), infix_append_cons (by decide)]
  exact (or_congr_right or_or_or_comm).trans or_or_or_comm

theorem carriesError_spaces (h : AllSpaces sp) : carriesError (sp ++ t) = carriesError t := by
  rw [Bool.eq_iff_iff, carriesError_iff, carriesError_iff, delete_append, delete_spaces h,
    infix_spaces h (by decide), infix_spaces h (by decide), infix_spaces h (by decide)]

end PdDisaggregation
