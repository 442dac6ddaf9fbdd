import PdDisaggregation.Script

/-! Triples for scripts: what holds before a script, at each of its commands, and where it
ends or fails. Conditions see the commands executed so far, latest first. -/

namespace Script

variable {κ ε σ α β : Type}

/-- From `P` every command of `m` meets `C`, and `m` returns in `Q` or fails in `E`. -/
def Triple (C : List κ → κ → σ → Prop) (E : List κ → ε → σ → Prop) (P : List κ → σ → Prop)
    (m : Script κ ε σ α) (Q : α → List κ → σ → Prop) : Prop :=
  ∀ done s, P done s → Meets C (fun done r t =>
    match r with
    | .ok a => Q a done t
    | .error e => E done e t) done m s

/-- `for x in xs` -/
def each : List α → (α → Script κ ε σ Unit) → Script κ ε σ Unit
  | [], _ => pure ()
  | x :: xs, f => do
    f x
    each xs f

variable {C : List κ → κ → σ → Prop} {E : List κ → ε → σ → Prop} {P R : List κ → σ → Prop}
  {Q : α → List κ → σ → Prop} {m : Script κ ε σ α}

theorem Triple.mono {P' : List κ → σ → Prop} {Q' : α → List κ → σ → Prop}
    (h : Triple C E P m Q) (hP : ∀ done s, P' done s → P done s)
    (hQ : ∀ a done s, Q a done s → Q' a done s) : Triple C E P' m Q' := by
  intro done s hs
  refine (h done s (hP done s hs)).mono (fun _ _ _ hc => hc) fun done r t ht => ?_
  cases r with
  | ok a => exact hQ a done t ht
  | error e => exact ht

theorem triple_bind {k : α → Script κ ε σ β} {Q' : β → List κ → σ → Prop}
    (hm : Triple C E P m Q) (hk : ∀ a, Triple C E (Q a) (k a) Q') :
    Triple C E P (m >>= k) Q' := by
  intro done s hs
  refine (meets_bind k).mpr ((hm done s hs).mono (fun _ _ _ hc => hc) fun done r t ht => ?_)
  cases r with
  | ok a => exact hk a done t ht
  | error e => exact ht

/-- `m; k` -/
theorem triple_seq {m : Script κ ε σ Unit} {k : Unit → Script κ ε σ β}
    {Q' : β → List κ → σ → Prop} (hm : Triple C E P m fun _ => R)
    (hk : Triple C E R (k ()) Q') : Triple C E P (m >>= k) Q' :=
  triple_bind hm fun _ => hk

theorem triple_pure {a : α} (h : ∀ done s, P done s → Q a done s) :
    Triple C E P (pure a) Q := fun done s hs => (meets_pure a).mpr (h done s hs)

theorem triple_die {e : ε} (h : ∀ done s, P done s → E done e s) : Triple C E P (die e) Q :=
  fun done s hs => (meets_die e).mpr (h done s hs)

theorem triple_reading {g : σ → β} {k : β → Script κ ε σ α}
    (hk : ∀ b, Triple C E (fun done s => P done s ∧ g s = b) (k b) Q) :
    Triple C E P (read g >>= k) Q :=
  fun done s hs => (meets_bind k).mpr ((meets_read g).mpr (hk (g s) done s ⟨hs, rfl⟩))

theorem triple_exec {Q : Unit → List κ → σ → Prop} {c : κ} {f : σ → σ}
    (hC : ∀ done s, P done s → C done c s) (hQ : ∀ done s, P done s → Q () (c :: done) (f s)) :
    Triple C E P (exec c f) Q :=
  fun done s hs => (meets_exec c f).mpr ⟨hC done s hs, hQ done s hs⟩

theorem triple_attempt {Q : Unit → List κ → σ → Prop} {c : κ} {f : σ → Except ε σ}
    (hC : ∀ done s, P done s → C done c s)
    (hQ : ∀ done s t, P done s → f s = .ok t → Q () (c :: done) t)
    (hE : ∀ done s e, P done s → f s = .error e → E (c :: done) e s) :
    Triple C E P (attempt c f) Q := by
  intro done s hs
  refine (meets_attempt c f).mpr ⟨hC done s hs, ?_⟩
  cases hf : f s with
  | ok t => exact hQ done s t hs hf
  | error e => exact hE done s e hs hf

theorem triple_dieUnless {test : Bool} {e : ε} {Q : Unit → List κ → σ → Prop}
    (hQ : ∀ done s, P done s → test = true → Q () done s)
    (hE : ∀ done s, P done s → test = false → E done e s) :
    Triple C E P (dieUnless test e) Q :=
  fun done s hs => (meets_dieUnless test e).mpr ⟨hQ done s hs, hE done s hs⟩

theorem triple_ite {p : Prop} [Decidable p] {n : Script κ ε σ α}
    (hm : p → Triple C E P m Q) (hn : ¬ p → Triple C E P n Q) :
    Triple C E P (if p then m else n) Q := by
  by_cases hp : p
  · rw [if_pos hp]
    exact hm hp
  · rw [if_neg hp]
    exact hn hp

/-- A loop keeps what is indexed by the elements still to come. -/
theorem triple_each {I : List α → List κ → σ → Prop} {f : α → Script κ ε σ Unit}
    (h : ∀ x xs, Triple C E (I (x :: xs)) (f x) fun _ => I xs) (xs : List α) :
    Triple C E (I xs) (each xs f) fun _ => I [] := by
  induction xs with
  | nil => exact triple_pure fun _ _ hs => hs
  | cons x xs ih => exact triple_seq (h x xs) ih

section Runs

variable {s t : σ} {done : List κ}

/-- What every command finds and every end leaves, every stopping point does. -/
theorem Triple.stops {B : List κ → σ → Prop} (h : Triple C E P m Q) (hP : P [] s)
    (hC : ∀ done c t, C done c t → B done t) (hQ : ∀ a done t, Q a done t → B done t)
    (hE : ∀ done e t, E done e t → B done t) (hstops : Stops m s done t) : B done t := by
  have hmeets : Meets (fun done _ t => B done t) (fun done _ t => B done t) [] m s := by
    refine (h [] s hP).mono hC fun done r t ht => ?_
    cases r with
    | ok a => exact hQ a done t ht
    | error e => exact hE done e t ht
  exact hmeets.stops hstops

theorem along_steps {log : List (κ × σ)} (h : Along C done log) {done' : List κ} {c : κ}
    (hc : (done', c, t) ∈ steps done log) : C done' c t := by
  induction log generalizing done with
  | nil => contradiction
  | cons e log ih =>
    rcases List.mem_cons.mp hc with hhead | hrest
    · cases hhead
      exact h.1
    · exact ih h.2 hrest

theorem Triple.executes (h : Triple C E P m Q) (hP : P [] s) {c : κ}
    (hc : ExecutesAfter m s done c t) : C done c t := along_steps (h [] s hP).1 hc

theorem Triple.ends_error (h : Triple C E P m Q) (hP : P [] s) {e : ε}
    (he : Ends m s (.error e) t) : ∃ done', E done' e t := (h [] s hP).ends he

theorem Triple.ends_ok (h : Triple C E P m Q) (hP : P [] s) {a : α}
    (he : Ends m s (.ok a) t) : ∃ done', Q a done' t := (h [] s hP).ends he

end Runs

end Script
