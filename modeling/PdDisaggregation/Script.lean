import Mathlib.Logic.Relation
import Mathlib.Data.List.Basic

/-! Scripts that may be cut short before any of their commands. A run keeps
each command with the state it found, so every stopping point of a run is in
its record, and one triple speaks about all of them. -/

/-- The commands a run executed, each with the state before it, then the state
it left and how it ended. -/
structure ScriptRun (κ ε σ α : Type) where
  log : List (κ × σ)
  state : σ
  result : Except ε α

def Script (κ ε σ α : Type) := σ → ScriptRun κ ε σ α

namespace Script

variable {κ ε σ α β : Type}

def ret (a : α) : Script κ ε σ α := fun s => ⟨[], s, .ok a⟩

def die (e : ε) : Script κ ε σ α := fun s => ⟨[], s, .error e⟩

def read (g : σ → α) : Script κ ε σ α := fun s => ⟨[], s, .ok (g s)⟩

def exec (c : κ) (f : σ → σ) : Script κ ε σ Unit := fun s => ⟨[(c, s)], f s, .ok ()⟩

/-- A command with an exit status of its own: a failing one changes nothing. -/
def attempt (c : κ) (f : σ → Except ε σ) : Script κ ε σ Unit := fun s =>
  match f s with
  | .ok t => ⟨[(c, s)], t, .ok ()⟩
  | .error e => ⟨[(c, s)], s, .error e⟩

def andThen (m : Script κ ε σ α) (k : α → Script κ ε σ β) : Script κ ε σ β := fun s =>
  match (m s).result with
  | .ok a => ⟨(m s).log ++ (k a (m s).state).log, (k a (m s).state).state, (k a (m s).state).result⟩
  | .error e => ⟨(m s).log, (m s).state, .error e⟩

instance : Monad (Script κ ε σ) where
  pure := ret
  bind := andThen

def dieUnless (test : Bool) (e : ε) : Script κ ε σ Unit := if test then ret () else die e

/-- The points at which a record can be cut: what was executed so far, latest
first, and the state at that moment. -/
def cuts : List κ → List (κ × σ) → σ → List (List κ × σ)
  | done, [], t => [(done, t)]
  | done, (c, s) :: log, t => (done, s) :: cuts (c :: done) log t

/-- The run from `s` stopped, of itself or by interruption, in state `t`
after executing `done`. -/
def Stops (m : Script κ ε σ α) (s : σ) (done : List κ) (t : σ) : Prop :=
  (done, t) ∈ cuts [] (m s).log (m s).state

instance [DecidableEq κ] [DecidableEq σ] (m : Script κ ε σ α) (s : σ) (done : List κ) (t : σ) :
    Decidable (Stops m s done t) :=
  inferInstanceAs (Decidable ((done, t) ∈ cuts [] (m s).log (m s).state))

def Along (C : List κ → κ → σ → Prop) : List κ → List (κ × σ) → Prop
  | _, [] => True
  | done, (c, s) :: log => C done c s ∧ Along C (c :: done) log

/-- `C` holds whenever a command is about to be executed, `Q` when the script
ends. Both see the commands executed before. -/
def Meets (C : List κ → κ → σ → Prop) (Q : List κ → Except ε α → σ → Prop)
    (done : List κ) (m : Script κ ε σ α) (s : σ) : Prop :=
  Along C done (m s).log ∧
    Q (((m s).log.map Prod.fst).reverse ++ done) (m s).result (m s).state

variable {C : List κ → κ → σ → Prop} {Q : List κ → Except ε α → σ → Prop}
  {done : List κ} {s t : σ} {m : Script κ ε σ α}

theorem along_append (log log' : List (κ × σ)) :
    Along C done (log ++ log') ↔
      Along C done log ∧ Along C ((log.map Prod.fst).reverse ++ done) log' := by
  induction log generalizing done with
  | nil => simp [Along]
  | cons e log ih => simp [Along, ih, and_assoc]

@[simp] theorem meets_pure (a : α) : Meets C Q done (pure a) s ↔ Q done (.ok a) s := by
  change (True ∧ Q done (.ok a) s) ↔ _
  simp

@[simp] theorem meets_die (e : ε) : Meets C Q done (die e) s ↔ Q done (.error e) s := by
  simp [Meets, die, Along]

@[simp] theorem meets_read (g : σ → α) :
    Meets C Q done (read g) s ↔ Q done (.ok (g s)) s := by
  simp [Meets, read, Along]

@[simp] theorem meets_exec {Q : List κ → Except ε Unit → σ → Prop} (c : κ) (f : σ → σ) :
    Meets C Q done (exec c f) s ↔ C done c s ∧ Q (c :: done) (.ok ()) (f s) := by
  simp [Meets, exec, Along]

@[simp] theorem meets_attempt {Q : List κ → Except ε Unit → σ → Prop} (c : κ)
    (f : σ → Except ε σ) :
    Meets C Q done (attempt c f) s ↔ C done c s ∧
      match f s with
      | .ok t => Q (c :: done) (.ok ()) t
      | .error e => Q (c :: done) (.error e) s := by
  cases h : f s <;> simp [Meets, attempt, Along, h]

@[simp] theorem meets_dieUnless {Q : List κ → Except ε Unit → σ → Prop} (test : Bool) (e : ε) :
    Meets C Q done (dieUnless test e) s ↔
      (test = true → Q done (.ok ()) s) ∧ (test = false → Q done (.error e) s) := by
  cases test <;> simp [Meets, dieUnless, ret, die, Along]

@[simp] theorem meets_bind {Q : List κ → Except ε β → σ → Prop} (k : α → Script κ ε σ β) :
    Meets C Q done (m >>= k) s ↔
      Meets C (fun done' r t =>
        match r with
        | .ok a => Meets C Q done' (k a) t
        | .error e => Q done' (.error e) t) done m s := by
  change Meets C Q done (andThen m k) s ↔ _
  cases h : (m s).result with
  | error e => simp [Meets, andThen, h]
  | ok a => simp [Meets, andThen, h, along_append, and_assoc]

@[simp] theorem meets_ite (p : Prop) [Decidable p] (n : Script κ ε σ α) :
    Meets C Q done (if p then m else n) s ↔
      (p → Meets C Q done m s) ∧ (¬ p → Meets C Q done n s) := by
  by_cases h : p <;> simp [h]

theorem along_mono {C' : List κ → κ → σ → Prop} (hC : ∀ done c t, C done c t → C' done c t)
    {log : List (κ × σ)} (h : Along C done log) : Along C' done log := by
  induction log generalizing done with
  | nil => trivial
  | cons e log ih => exact ⟨hC _ _ _ h.1, ih h.2⟩

theorem Meets.mono {C' : List κ → κ → σ → Prop} {Q' : List κ → Except ε α → σ → Prop}
    (h : Meets C Q done m s) (hC : ∀ done c t, C done c t → C' done c t)
    (hQ : ∀ done r t, Q done r t → Q' done r t) : Meets C' Q' done m s :=
  ⟨along_mono hC h.1, hQ _ _ _ h.2⟩

theorem along_cuts {P : List κ → σ → Prop} {log : List (κ × σ)}
    (h : Along (fun done _ t => P done t) done log)
    (hend : P ((log.map Prod.fst).reverse ++ done) t) :
    ∀ p ∈ cuts done log t, P p.1 p.2 := by
  induction log generalizing done with
  | nil => simpa [cuts] using hend
  | cons e log ih =>
    intro p hp
    rcases List.mem_cons.mp hp with rfl | hp
    · exact h.1
    · exact ih h.2 (by simpa using hend) p hp

def Executes (m : Script κ ε σ α) (s : σ) (c : κ) (t : σ) : Prop := (c, t) ∈ (m s).log

instance [DecidableEq κ] [DecidableEq σ] (m : Script κ ε σ α) (s : σ) (c : κ) (t : σ) :
    Decidable (Executes m s c t) := inferInstanceAs (Decidable ((c, t) ∈ (m s).log))

/-- The commands of a record, each with what was executed before it, latest first. -/
def steps : List κ → List (κ × σ) → List (List κ × κ × σ)
  | _, [] => []
  | done, (c, s) :: log => (done, c, s) :: steps (c :: done) log

/-- The run from `s` executes `c` in state `t`, after `done`. -/
def ExecutesAfter (m : Script κ ε σ α) (s : σ) (done : List κ) (c : κ) (t : σ) : Prop :=
  (done, c, t) ∈ steps [] (m s).log

instance [DecidableEq κ] [DecidableEq σ] (m : Script κ ε σ α) (s : σ) (done : List κ) (c : κ)
    (t : σ) : Decidable (ExecutesAfter m s done c t) :=
  inferInstanceAs (Decidable ((done, c, t) ∈ steps [] (m s).log))

theorem Meets.stops {P : List κ → σ → Prop}
    (h : Meets (fun done _ t => P done t) (fun done _ t => P done t) [] m s)
    {u : σ} (hu : Stops m s done u) : P done u :=
  along_cuts h.1 h.2 _ hu

/-- Wherever the script may stop, `P` holds of what was executed and the state. -/
abbrev Cuts (P : List κ → σ → Prop) (done : List κ) (m : Script κ ε σ α) (s : σ) : Prop :=
  Meets (fun done _ t => P done t) (fun done _ t => P done t) done m s

/-- Every command keeps `J`, a property of the commands executed so far and
the state they left. -/
def Keeps (J : List κ → σ → Prop) (m : Script κ ε σ α) : Prop :=
  ∀ done s, J done s → Meets (fun done _ t => J done t) (fun done _ t => J done t) done m s

variable {J : List κ → σ → Prop}

theorem keeps_read (g : σ → α) : Keeps J (read g : Script κ ε σ α) := fun _ _ h => (meets_read g).mpr h

theorem keeps_dieUnless (test : Bool) (e : ε) : Keeps J (dieUnless test e) :=
  fun _ _ h => (meets_dieUnless test e).mpr ⟨fun _ => h, fun _ => h⟩

theorem keeps_pure (a : α) : Keeps J (pure a : Script κ ε σ α) := fun _ _ h => (meets_pure a).mpr h

theorem keeps_exec {c : κ} {f : σ → σ} (hf : ∀ done s, J done s → J (c :: done) (f s)) :
    Keeps J (exec c f : Script κ ε σ Unit) := fun done s h => (meets_exec c f).mpr ⟨h, hf done s h⟩

theorem keeps_attempt {c : κ} {f : σ → Except ε σ}
    (hf : ∀ done s t, J done s → f s = .ok t → J (c :: done) t)
    (he : ∀ done s, J done s → J (c :: done) s) : Keeps J (attempt c f) := by
  intro done s h
  refine (meets_attempt c f).mpr ⟨h, ?_⟩
  cases hr : f s with
  | ok t => exact hf done s t h hr
  | error e => exact he done s h

theorem keeps_bind {k : α → Script κ ε σ β} (hm : Keeps J m) (hk : ∀ a, Keeps J (k a)) :
    Keeps J (m >>= k) := by
  intro done s h
  refine (meets_bind k).mpr ((hm done s h).mono (fun _ _ _ hh => hh) fun done' r t hh => ?_)
  cases r with
  | ok a => exact hk a done' t hh
  | error e => exact hh

theorem keeps_check {test : Bool} {e : ε} {k : Unit → Script κ ε σ β} (hk : Keeps J (k ())) :
    Keeps J (dieUnless test e >>= k) := keeps_bind (keeps_dieUnless test e) fun _ => hk

theorem keeps_reading {g : σ → α} {k : α → Script κ ε σ β} (hk : ∀ a, Keeps J (k a)) :
    Keeps J (read g >>= k) := keeps_bind (keeps_read g) hk

theorem Keeps.meets_bind {P : List κ → σ → Prop} {k : α → Script κ ε σ β} (hm : Keeps J m)
    (h : J done s) (hP : ∀ done t, J done t → P done t)
    (hk : ∀ a done t, J done t →
      Meets (fun done _ t => P done t) (fun done _ t => P done t) done (k a) t) :
    Meets (fun done _ t => P done t) (fun done _ t => P done t) done (m >>= k) s := by
  refine (Script.meets_bind k).mpr ((hm done s h).mono (fun done' _ t hh => hP done' t hh) ?_)
  intro done' r t hh
  cases r with
  | ok a => exact hk a done' t hh
  | error e => exact hP done' t hh

theorem keeps_ite {p : Prop} [Decidable p] {n : Script κ ε σ α} (hm : Keeps J m) (hn : Keeps J n) :
    Keeps J (if p then m else n) := by
  by_cases h : p
  · simpa [h] using hm
  · simpa [h] using hn

/-- A part that reads and refuses but executes nothing. -/
def Passive (m : Script κ ε σ α) : Prop := ∀ s, (m s).log = [] ∧ (m s).state = s

theorem passive_read (g : σ → α) : Passive (read g : Script κ ε σ α) := fun _ => ⟨rfl, rfl⟩

theorem passive_dieUnless (test : Bool) (e : ε) :
    Passive (dieUnless test e : Script κ ε σ Unit) := by
  intro s
  cases test with
  | true => exact ⟨rfl, rfl⟩
  | false => exact ⟨rfl, rfl⟩

theorem passive_bind {k : α → Script κ ε σ β} (hm : Passive m) (hk : ∀ a, Passive (k a)) :
    Passive (m >>= k) := by
  intro s
  change (andThen m k s).log = [] ∧ (andThen m k s).state = s
  obtain ⟨hlog, hstate⟩ := hm s
  cases h : (m s).result with
  | error e => simp [andThen, h, hlog, hstate]
  | ok a =>
    obtain ⟨hlog', hstate'⟩ := hk a s
    simp [andThen, h, hlog, hstate, hlog', hstate']

theorem passive_check {test : Bool} {e : ε} {k : Unit → Script κ ε σ β} (hk : Passive (k ())) :
    Passive (dieUnless test e >>= k) := passive_bind (passive_dieUnless test e) fun _ => hk

theorem passive_reading {g : σ → α} {k : α → Script κ ε σ β} (hk : ∀ a, Passive (k a)) :
    Passive (read g >>= k) := passive_bind (passive_read g) hk

theorem Passive.keeps (h : Passive m) : Keeps J m := by
  intro done s hs
  obtain ⟨hlog, hstate⟩ := h s
  unfold Meets
  rw [hlog, hstate]
  exact ⟨trivial, hs⟩

def Ends (m : Script κ ε σ α) (s : σ) (r : Except ε α) (t : σ) : Prop :=
  (m s).result = r ∧ (m s).state = t

section Ends

variable {r : Except ε α} {e : ε} {a : α} {b : β}

theorem Ends.stops (h : Ends m s r t) : ∃ done', Stops m s done' t := by
  have hh (log : List (κ × σ)) : ∀ done, ∃ done', (done', t) ∈ cuts done log t := by
    induction log with
    | nil => exact fun done => ⟨done, by simp [cuts]⟩
    | cons e log ih =>
      intro done
      obtain ⟨done', hd⟩ := ih (e.1 :: done)
      exact ⟨done', List.mem_cons_of_mem _ hd⟩
  obtain ⟨done', hd⟩ := hh (m s).log []
  exact ⟨done', by rw [Stops, h.2]; exact hd⟩

theorem Meets.ends (h : Meets C Q done m s) (he : Ends m s r t) : ∃ done', Q done' r t := by
  refine ⟨((m s).log.map Prod.fst).reverse ++ done, ?_⟩
  have hh := h.2
  rwa [he.1, he.2] at hh

/-- A passive part adds no stopping point: what follows it starts where it did. -/
theorem Passive.meets_bind {P : List κ → σ → Prop} {k : α → Script κ ε σ β} (hm : Passive m)
    (h : P done s) (hk : ∀ a, Ends m s (.ok a) s → Cuts P done (k a) s) :
    Cuts P done (m >>= k) s := by
  obtain ⟨hlog, hstate⟩ := hm s
  refine (Script.meets_bind k).mpr ⟨by rw [hlog]; trivial, ?_⟩
  rw [hlog, hstate]
  cases hr : (m s).result with
  | error e => exact h
  | ok a => exact hk a ⟨hr, hstate⟩

theorem Passive.ends (h : Passive m) (he : Ends m s r t) : t = s := he.2.symm.trans (h s).2

@[simp] theorem ends_pure : Ends (pure a : Script κ ε σ α) s r t ↔ r = .ok a ∧ t = s :=
  and_congr eq_comm eq_comm

@[simp] theorem ends_read (g : σ → α) :
    Ends (read g : Script κ ε σ α) s r t ↔ r = .ok (g s) ∧ t = s := and_congr eq_comm eq_comm

@[simp] theorem ends_exec {r : Except ε Unit} (c : κ) (f : σ → σ) :
    Ends (exec c f) s r t ↔ r = .ok () ∧ t = f s := and_congr eq_comm eq_comm

@[simp] theorem ends_attempt_ok {f : σ → Except ε σ} (c : κ) :
    Ends (attempt c f) s (.ok ()) t ↔ f s = .ok t := by
  cases h : f s <;> simp [Ends, attempt, h]

@[simp] theorem ends_attempt_error {f : σ → Except ε σ} (c : κ) :
    Ends (attempt c f) s (.error e) t ↔ f s = .error e ∧ t = s := by
  cases h : f s <;> simp [Ends, attempt, h, eq_comm]

@[simp] theorem ends_dieUnless_ok {test : Bool} :
    Ends (dieUnless test e : Script κ ε σ Unit) s (.ok ()) t ↔ test = true ∧ t = s := by
  cases test <;> simp [Ends, dieUnless, ret, die, eq_comm]

@[simp] theorem ends_dieUnless_error {test : Bool} {e' : ε} :
    Ends (dieUnless test e : Script κ ε σ Unit) s (.error e') t ↔
      test = false ∧ e' = e ∧ t = s := by
  cases test <;> simp [Ends, dieUnless, ret, die, eq_comm]

@[simp] theorem ends_bind_ok {k : α → Script κ ε σ β} :
    Ends (m >>= k) s (.ok b) t ↔ ∃ a u, Ends m s (.ok a) u ∧ Ends (k a) u (.ok b) t := by
  change Ends (andThen m k) s (.ok b) t ↔ _
  cases h : (m s).result with
  | error e => simp [Ends, andThen, h]
  | ok a => simp [Ends, andThen, h]

@[simp high] theorem ends_seq_ok {m : Script κ ε σ Unit} {k : Unit → Script κ ε σ β} :
    Ends (m >>= k) s (.ok b) t ↔ ∃ u, Ends m s (.ok ()) u ∧ Ends (k ()) u (.ok b) t := by
  rw [ends_bind_ok]
  exact ⟨fun ⟨_, h⟩ => h, fun h => ⟨(), h⟩⟩

@[simp] theorem ends_bind_error {k : α → Script κ ε σ β} :
    Ends (m >>= k) s (.error e) t ↔
      Ends m s (.error e) t ∨ ∃ a u, Ends m s (.ok a) u ∧ Ends (k a) u (.error e) t := by
  change Ends (andThen m k) s (.error e) t ↔ _
  cases h : (m s).result with
  | error e' => simp [Ends, andThen, h]
  | ok a => simp [Ends, andThen, h]

@[simp high] theorem ends_seq_error {m : Script κ ε σ Unit} {k : Unit → Script κ ε σ β} :
    Ends (m >>= k) s (.error e) t ↔
      Ends m s (.error e) t ∨ ∃ u, Ends m s (.ok ()) u ∧ Ends (k ()) u (.error e) t := by
  rw [ends_bind_error]
  exact or_congr_right ⟨fun ⟨_, h⟩ => h, fun h => ⟨(), h⟩⟩

theorem ends_read_ok {g : σ → α} {k : α → Script κ ε σ β} :
    Ends (read g >>= k) s (.ok b) t ↔ Ends (k (g s)) s (.ok b) t := by
  simp only [ends_bind_ok, ends_read, Except.ok.injEq]
  constructor
  · rintro ⟨_, _, ⟨rfl, rfl⟩, h⟩
    exact h
  · exact fun h => ⟨_, _, ⟨rfl, rfl⟩, h⟩

theorem ends_exec_ok {c : κ} {f : σ → σ} {k : Unit → Script κ ε σ β} :
    Ends (exec c f >>= k) s (.ok b) t ↔ Ends (k ()) (f s) (.ok b) t := by
  rw [ends_seq_ok]
  simp only [ends_exec, true_and, exists_eq_left]

theorem ends_check_ok {test : Bool} {k : Unit → Script κ ε σ β} :
    Ends (dieUnless test e >>= k) s (.ok b) t ↔ test = true ∧ Ends (k ()) s (.ok b) t := by
  rw [ends_seq_ok]
  simp only [ends_dieUnless_ok, and_assoc, exists_and_left, exists_eq_left]

@[simp] theorem executes_pure {c : κ} : ¬ Executes (pure a : Script κ ε σ α) s c t := List.not_mem_nil

@[simp] theorem executes_read {g : σ → α} {c : κ} : ¬ Executes (read g : Script κ ε σ α) s c t :=
  List.not_mem_nil

@[simp] theorem executes_dieUnless {test : Bool} {c : κ} :
    ¬ Executes (dieUnless test e : Script κ ε σ Unit) s c t := by
  cases test <;> exact List.not_mem_nil

@[simp] theorem executes_exec {c c' : κ} {f : σ → σ} :
    Executes (exec c f : Script κ ε σ Unit) s c' t ↔ c' = c ∧ t = s := by
  simp [Executes, exec]

theorem executes_bind {k : α → Script κ ε σ β} {c : κ} :
    Executes (m >>= k) s c t ↔
      Executes m s c t ∨ ∃ a u, Ends m s (.ok a) u ∧ Executes (k a) u c t := by
  change Executes (andThen m k) s c t ↔ _
  cases h : (m s).result with
  | error e => simp [Executes, Ends, andThen, h]
  | ok a => simp [Executes, Ends, andThen, h]

theorem executes_seq {m : Script κ ε σ Unit} {k : Unit → Script κ ε σ β} {c : κ} :
    Executes (m >>= k) s c t ↔
      Executes m s c t ∨ ∃ u, Ends m s (.ok ()) u ∧ Executes (k ()) u c t := by
  rw [executes_bind]
  exact or_congr_right ⟨fun ⟨_, h⟩ => h, fun h => ⟨(), h⟩⟩

theorem executes_read_bind {g : σ → α} {k : α → Script κ ε σ β} {c : κ} :
    Executes (read g >>= k) s c t ↔ Executes (k (g s)) s c t := by
  simp only [executes_bind, executes_read, ends_read, Except.ok.injEq, false_or]
  constructor
  · rintro ⟨_, _, ⟨rfl, rfl⟩, h⟩
    exact h
  · exact fun h => ⟨_, _, ⟨rfl, rfl⟩, h⟩

theorem executes_check {test : Bool} {k : Unit → Script κ ε σ β} {c : κ} :
    Executes (dieUnless test e >>= k) s c t ↔ test = true ∧ Executes (k ()) s c t := by
  rw [executes_seq]
  simp only [executes_dieUnless, ends_dieUnless_ok, false_or, and_assoc, exists_and_left,
    exists_eq_left]

end Ends

end Script
