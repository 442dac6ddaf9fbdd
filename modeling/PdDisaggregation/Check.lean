import Mathlib.Data.List.Basic

/-! Checks that either pass or stop the program with an error. -/

namespace Check

variable {ε α β : Type}

def require (test : Bool) (e : ε) : Except ε Unit := if test then .ok () else .error e

def orElse (value : Option α) (e : ε) : Except ε α :=
  match value with
  | some a => .ok a
  | none => .error e

def each (check : α → Except ε Unit) : List α → Except ε Unit
  | [] => .ok ()
  | a :: as => do
    check a
    each check as

variable {e : ε} {a : α} {b : β} {test : Bool}

@[simp] theorem require_ok : require test e = .ok () ↔ test = true := by
  cases test <;> simp [require]

@[simp] theorem orElse_ok {value : Option α} : orElse value e = .ok a ↔ value = some a := by
  cases value <;> simp [orElse]

@[simp] theorem ok_bind {f : α → Except ε β} : ((.ok a : Except ε α) >>= f) = f a := rfl

@[simp] theorem bind_ok {x : Except ε α} {f : α → Except ε β} :
    (x >>= f) = .ok b ↔ ∃ a, x = .ok a ∧ f a = .ok b := by
  cases x with
  | error e => simp [bind, Except.bind]
  | ok a => simp [bind, Except.bind]

@[simp high] theorem seq_ok {x : Except ε Unit} {f : Unit → Except ε β} :
    (x >>= f) = .ok b ↔ x = .ok () ∧ f () = .ok b := by
  rw [bind_ok]
  exact ⟨fun ⟨_, h⟩ => h, fun h => ⟨(), h⟩⟩

/-- A sequence fails with the error of its first check, or after it has passed. -/
theorem require_error {e' : ε} {f : Unit → Except ε β} :
    (require test e >>= f) = .error e' ↔
      test = false ∧ e = e' ∨ test = true ∧ f () = .error e' := by
  cases test <;> simp [require, bind, Except.bind]

@[simp] theorem mapError_ok {ε' : Type} {x : Except ε α} {f : ε → ε'} :
    x.mapError f = .ok a ↔ x = .ok a := by
  cases x <;> simp [Except.mapError]

theorem unless_ok {x : Except ε Bool} :
    (if (!test) = true then pure false else x) = .ok true ↔ test = true ∧ x = .ok true := by
  cases test <;> simp [pure, Except.pure]

theorem each_ok {check : α → Except ε Unit} {as : List α} :
    each check as = .ok () ↔ ∀ a ∈ as, check a = .ok () := by
  induction as with
  | nil => simp [each]
  | cons a as ih => simp [each, ih]

/-- Stops with such an error. -/
def Fails (bad : ε → Prop) (x : Except ε α) : Prop := ∃ e, x = .error e ∧ bad e

section Fails

variable {bad : ε → Prop}

@[simp] theorem fails_ok : ¬ Fails bad (.ok a : Except ε α) := by
  rintro ⟨e, h, -⟩
  contradiction

@[simp] theorem fails_error : Fails bad (.error e : Except ε α) ↔ bad e := by simp [Fails]

@[simp] theorem fails_pure : ¬ Fails bad (pure a : Except ε α) := fails_ok

@[simp] theorem fails_require : Fails bad (require test e) ↔ test = false ∧ bad e := by
  cases test <;> simp [require]

@[simp] theorem fails_orElse {value : Option α} :
    Fails bad (orElse value e) ↔ value = none ∧ bad e := by
  cases value <;> simp [orElse]

theorem fails_bind {x : Except ε α} {f : α → Except ε β} :
    Fails bad (x >>= f) ↔ Fails bad x ∨ ∃ a, x = .ok a ∧ Fails bad (f a) := by
  cases x with
  | error e => simp [Fails, bind, Except.bind]
  | ok a => simp

theorem bind_error (bad : ε → Prop) {x : Except ε α} {f : α → Except ε β}
    (hx : ∀ e, x = .error e → bad e) (hf : ∀ a e, f a = .error e → bad e)
    (h : (x >>= f) = .error e) : bad e := by
  cases x with
  | error e' =>
    obtain rfl := Except.error.inj h
    exact hx _ rfl
  | ok a => exact hf a e h

theorem fails_seq {x : Except ε Unit} {f : Unit → Except ε β} :
    Fails bad (x >>= f) ↔ Fails bad x ∨ x = .ok () ∧ Fails bad (f ()) := by
  rw [fails_bind]
  exact or_congr_right ⟨fun ⟨_, h⟩ => h, fun h => ⟨(), h⟩⟩

/-- A loop stops at the first element that does. -/
theorem fails_mapM {f : α → Except ε β} {l : List α} :
    Fails bad (l.mapM f) ↔ ∃ before a after, l = before ++ a :: after ∧
      (∀ b ∈ before, ∃ c, f b = .ok c) ∧ Fails bad (f a) := by
  induction l with
  | nil => simp [Fails, pure, Except.pure]
  | cons a l ih =>
    rw [List.mapM_cons, fails_bind]
    simp only [fails_bind, ih, fails_pure, and_false, exists_false, or_false]
    constructor
    · rintro (h | ⟨b, hb, before, a', after, rfl, hbefore, h⟩)
      · exact ⟨[], a, l, rfl, by simp, h⟩
      · refine ⟨a :: before, a', after, rfl, ?_, h⟩
        intro c hc
        rcases List.mem_cons.mp hc with rfl | hc
        · exact ⟨b, hb⟩
        · exact hbefore c hc
    · rintro ⟨before, a', after, hl, hbefore, h⟩
      cases before with
      | nil =>
        obtain ⟨rfl, rfl⟩ := List.cons.inj hl
        exact Or.inl h
      | cons b before =>
        obtain ⟨rfl, rfl⟩ := List.cons.inj hl
        obtain ⟨c, hc⟩ := hbefore a List.mem_cons_self
        exact Or.inr ⟨c, hc, before, a', after, rfl,
          fun b hb => hbefore b (List.mem_cons_of_mem _ hb), h⟩

theorem mapM_error {f : α → Except ε β} {l : List α} (h : l.mapM f = .error e) :
    ∃ a ∈ l, f a = .error e := by
  have hfails : Fails (· = e) (l.mapM f) := ⟨e, h, rfl⟩
  obtain ⟨before, a, after, rfl, -, _, ha, rfl⟩ := fails_mapM.mp hfails
  exact ⟨a, by simp, ha⟩

theorem exists_mapM_ok {f : α → Except ε β} {l : List α} :
    (∃ bs, l.mapM f = .ok bs) ↔ ∀ a ∈ l, ∃ b, f a = .ok b := by
  induction l with
  | nil => simp [pure, Except.pure]
  | cons a l ih =>
    rw [List.forall_mem_cons, ← ih, List.mapM_cons]
    constructor
    · intro ⟨bs, h⟩
      obtain ⟨b, hb, h⟩ := bind_ok.mp h
      obtain ⟨bs', hbs, -⟩ := bind_ok.mp h
      exact ⟨⟨b, hb⟩, bs', hbs⟩
    · intro ⟨⟨b, hb⟩, bs, hbs⟩
      exact ⟨b :: bs, by rw [hb, ok_bind, hbs]; rfl⟩

theorem mem_of_mapM {f : α → Except ε β} {l : List α} {bs : List β} (h : l.mapM f = .ok bs) :
    ∀ b ∈ bs, ∃ a ∈ l, f a = .ok b := by
  induction l generalizing bs with
  | nil =>
    obtain rfl := Except.ok.inj h
    simp
  | cons a l ih =>
    rw [List.mapM_cons] at h
    obtain ⟨c, hc, h⟩ := bind_ok.mp h
    obtain ⟨cs, hcs, h⟩ := bind_ok.mp h
    obtain rfl := Except.ok.inj h
    intro b hb
    rcases List.mem_cons.mp hb with rfl | hb
    · exact ⟨a, List.mem_cons_self, hc⟩
    · obtain ⟨a', ha', hb⟩ := ih hcs b hb
      exact ⟨a', List.mem_cons_of_mem _ ha', hb⟩

theorem mapM_ok_iff {f : α → Except ε β} {p : α → Prop} {g : α → β}
    (hf : ∀ a b, f a = .ok b ↔ p a ∧ b = g a) {l : List α} {bs : List β} :
    l.mapM f = .ok bs ↔ (∀ a ∈ l, p a) ∧ bs = l.map g := by
  induction l generalizing bs with
  | nil => simp [pure, Except.pure, eq_comm]
  | cons a l ih =>
    rw [List.mapM_cons, List.forall_mem_cons, List.map_cons, bind_ok]
    simp only [bind_ok, hf, ih]
    constructor
    · rintro ⟨_, ⟨ha, rfl⟩, _, ⟨hl, rfl⟩, h⟩
      exact ⟨⟨ha, hl⟩, (Except.ok.inj h).symm⟩
    · rintro ⟨⟨ha, hl⟩, rfl⟩
      exact ⟨g a, ⟨ha, rfl⟩, l.map g, ⟨hl, rfl⟩, rfl⟩

/-- Where nothing but such errors comes up, any element with one will do. -/
theorem fails_mapM_of_all {f : α → Except ε β} {l : List α}
    (h : ∀ a ∈ l, ∀ e, f a = .error e → bad e) :
    Fails bad (l.mapM f) ↔ ∃ a ∈ l, Fails bad (f a) := by
  induction l with
  | nil => simp
  | cons a l ih =>
    have hrest := ih fun a ha => h a (List.mem_cons_of_mem _ ha)
    rw [List.mapM_cons, fails_bind]
    simp only [fails_bind, hrest, fails_pure, and_false, exists_false, or_false,
      List.mem_cons, exists_eq_or_imp]
    constructor
    · rintro (hfails | ⟨b, -, hfails⟩)
      · exact Or.inl hfails
      · exact Or.inr hfails
    · rintro (hfails | hfails)
      · exact Or.inl hfails
      · cases hf : f a with
        | error e => exact Or.inl (fails_error.mpr (h a List.mem_cons_self e hf))
        | ok b => exact Or.inr ⟨b, rfl, hfails⟩

/-- A loop over consecutive indices. -/
theorem fails_mapM_range' {f : Nat → Except ε β} {start n : Nat} :
    Fails bad ((List.range' start n).mapM f) ↔ ∃ i, start ≤ i ∧ i < start + n ∧
      Fails bad (f i) ∧ ∀ j, start ≤ j → j < i → ∃ b, f j = .ok b := by
  induction n generalizing start with
  | zero =>
    simp only [List.range'_zero, List.mapM_nil, fails_pure, false_iff, not_exists]
    intro i h
    omega
  | succ n ih =>
    rw [List.range'_succ, List.mapM_cons, fails_bind]
    simp only [fails_bind, ih, fails_pure, and_false, exists_false, or_false]
    constructor
    · rintro (h | ⟨b, hb, i, hle, hlt, h, hj⟩)
      · exact ⟨start, Nat.le_refl _, by omega, h, fun j hle hlt => by omega⟩
      · refine ⟨i, by omega, by omega, h, fun j hle' hlt' => ?_⟩
        rcases Nat.eq_or_lt_of_le hle' with rfl | hlt''
        · exact ⟨b, hb⟩
        · exact hj j hlt'' hlt'
    · rintro ⟨i, hle, hlt, h, hj⟩
      rcases Nat.eq_or_lt_of_le hle with rfl | hlt'
      · exact Or.inl h
      · obtain ⟨b, hb⟩ := hj start (Nat.le_refl _) hlt'
        exact Or.inr ⟨b, hb, i, hlt', by omega, h, fun j hle' hlt'' => hj j (by omega) hlt''⟩

theorem fails_mapError {ε' : Type} {x : Except ε α} {f : ε → ε'} {bad' : ε' → Prop} :
    Fails bad' (x.mapError f) ↔ Fails (fun e => bad' (f e)) x := by
  cases x <;> simp [Fails, Except.mapError]

end Fails

end Check
