import PdDisaggregation.Machine
import Mathlib.Algebra.BigOperators.Group.List.Basic
import Mathlib.Algebra.Ring.Nat

/-! Tasks that share a state and run interleaved, one atomic step of one task at a
time. What holds of all their runs follows from what a step of one task does to the
shared state, to itself and to any other task. -/

namespace Tasks

structure System (σ τ : Type) where
  shared : σ
  tasks : List τ

inductive Event (τ ι : Type) where
  | arrive (task : τ)
  | run (place : Nat) (answer : ι)

variable {σ τ ι : Type}

/-- `advance` gives the shared state a step leaves and what becomes of the task: nothing
when it has ended, otherwise the task further on and those it has spawned. -/
def step (advance : σ → τ → ι → σ × List τ) (s : System σ τ) :
    Event τ ι → Option (System σ τ)
  | .arrive task => some { s with tasks := s.tasks ++ [task] }
  | .run place answer =>
    s.tasks[place]?.map fun task =>
      ⟨(advance s.shared task answer).1,
        s.tasks.take place ++ (advance s.shared task answer).2 ++ s.tasks.drop (place + 1)⟩

/-- Tasks arrive only at their start. -/
def Arrives (starts : τ → Prop) (_ : System σ τ) : Event τ ι → Prop
  | .arrive task => starts task
  | .run _ _ => True

abbrev Reaches (starts : τ → Prop) (advance : σ → τ → ι → σ × List τ) :=
  Machine.Reaches (step advance) (Arrives starts)

variable {starts : τ → Prop} {advance : σ → τ → ι → σ × List τ} {s t : System σ τ}

theorem step_run {pre post : List τ} {task : τ} {shared : σ} (answer : ι) :
    step advance ⟨shared, pre ++ task :: post⟩ (.run pre.length answer) =
      some ⟨(advance shared task answer).1,
        pre ++ (advance shared task answer).2 ++ post⟩ := by
  have hplace : (pre ++ task :: post)[pre.length]? = some task := by simp
  have hdrop : (pre ++ task :: post).drop (pre.length + 1) = post := by
    rw [← List.drop_drop, List.drop_left]
    rfl
  rw [step]
  dsimp only
  rw [hplace, Option.map_some, List.take_left, hdrop]

theorem step_cases {e : Event τ ι} (h : step advance s e = some t) :
    (∃ task, e = .arrive task ∧ t = { s with tasks := s.tasks ++ [task] }) ∨
    ∃ pre task post answer, s.tasks = pre ++ task :: post ∧
      t = ⟨(advance s.shared task answer).1,
        pre ++ (advance s.shared task answer).2 ++ post⟩ := by
  cases e with
  | arrive task => exact Or.inl ⟨task, rfl, (Option.some.inj h).symm⟩
  | run place answer =>
    obtain ⟨task, htask, ht⟩ := Option.map_eq_some_iff.mp h
    have hsplit : s.tasks = s.tasks.take place ++ task :: s.tasks.drop (place + 1) := by
      obtain ⟨hlt, hget⟩ := List.getElem?_eq_some_iff.mp htask
      rw [← hget, ← List.drop_eq_getElem_cons hlt, List.take_append_drop]
    exact Or.inr ⟨_, task, _, answer, hsplit, ht.symm⟩

/-- `Shared` holds of the shared state and `Local` of each task in it, whatever tasks
arrive and whichever runs next. Tokens are handed on but never made or lost: the shared
state and the tasks have `total` of them, so that a task that holds one knows what the
others do not. -/
structure Sound (starts : τ → Prop) (advance : σ → τ → ι → σ × List τ)
    (Shared : σ → Prop) (Local : σ → τ → Prop) (free : σ → ℕ) (held : τ → ℕ) (total : ℕ) :
    Prop where
  arrives : ∀ s t, starts t → Local s t
  arrivesEmpty : ∀ t, starts t → held t = 0
  shared : ∀ s t a, Shared s → Local s t → Shared (advance s t a).1
  own : ∀ s t a, Shared s → Local s t → ∀ t' ∈ (advance s t a).2, Local (advance s t a).1 t'
  conserved : ∀ s t a, Shared s → Local s t →
    free (advance s t a).1 + ((advance s t a).2.map held).sum = free s + held t
  others : ∀ s t u a, Shared s → Local s t → Local s u → free s + held t + held u ≤ total →
    Local (advance s t a).1 u

structure Holds (Shared : σ → Prop) (Local : σ → τ → Prop) (free : σ → ℕ) (held : τ → ℕ)
    (total : ℕ) (s : System σ τ) : Prop where
  shared : Shared s.shared
  tasks : ∀ t ∈ s.tasks, Local s.shared t
  tokens : free s.shared + (s.tasks.map held).sum = total

variable {Shared : σ → Prop} {Local : σ → τ → Prop} {free : σ → ℕ} {held : τ → ℕ} {total : ℕ}

theorem Holds.arrive (h : Holds Shared Local free held total s)
    (sound : Sound starts advance Shared Local free held total) {task : τ}
    (hstart : starts task) :
    Holds Shared Local free held total { s with tasks := s.tasks ++ [task] } where
  shared := h.shared
  tasks t ht := by
    rcases List.mem_append.mp ht with hold | hnew
    · exact h.tasks t hold
    · rw [List.mem_singleton.mp hnew]
      exact sound.arrives _ _ hstart
  tokens := by
    have htokens := h.tokens
    have hempty := sound.arrivesEmpty _ hstart
    simp only [List.map_append, List.map_cons, List.map_nil, List.sum_append, List.sum_cons,
      List.sum_nil]
    omega

theorem held_le (held : τ → ℕ) {u : τ} {tasks : List τ} (hu : u ∈ tasks) :
    held u ≤ (tasks.map held).sum := by
  induction tasks with
  | nil => contradiction
  | cons t tasks ih =>
    rw [List.map_cons, List.sum_cons]
    rcases List.mem_cons.mp hu with rfl | htail
    · omega
    · have hle := ih htail
      omega

theorem Holds.run {pre post : List τ} {task : τ} {shared : σ}
    (h : Holds Shared Local free held total ⟨shared, pre ++ task :: post⟩)
    (sound : Sound starts advance Shared Local free held total) (answer : ι) :
    Holds Shared Local free held total ⟨(advance shared task answer).1,
      pre ++ (advance shared task answer).2 ++ post⟩ := by
  have hshared : Shared shared := h.shared
  have htask : Local shared task := h.tasks task (by simp)
  have htokens := h.tokens
  simp only [List.map_append, List.map_cons, List.sum_append, List.sum_cons] at htokens
  have hother : ∀ u ∈ pre ++ post, Local (advance shared task answer).1 u := by
    intro u hu
    have hle := held_le held hu
    rw [List.map_append, List.sum_append] at hle
    refine sound.others _ _ _ _ hshared htask (h.tasks u ?_) (by omega)
    rcases List.mem_append.mp hu with hpre | hpost
    · exact List.mem_append_left _ hpre
    · exact List.mem_append_right _ (List.mem_cons_of_mem _ hpost)
  constructor
  · exact sound.shared _ _ _ hshared htask
  · intro u hu
    rw [List.append_assoc, List.mem_append, List.mem_append] at hu
    rcases hu with hpre | hnew | hpost
    · exact hother u (List.mem_append_left _ hpre)
    · exact sound.own _ _ _ hshared htask u hnew
    · exact hother u (List.mem_append_right _ hpost)
  · have hconserved := sound.conserved _ _ answer hshared htask
    simp only [List.map_append, List.sum_append]
    omega

theorem Holds.step {e : Event τ ι} (h : Holds Shared Local free held total s)
    (sound : Sound starts advance Shared Local free held total) (hstart : Arrives starts s e)
    (hstep : Tasks.step advance s e = some t) : Holds Shared Local free held total t := by
  rcases step_cases hstep with ⟨task, rfl, rfl⟩ | ⟨pre, task, post, answer, hs, rfl⟩
  · exact h.arrive sound hstart
  · obtain ⟨shared, tasks⟩ := s
    subst hs
    exact h.run sound answer

/-- The rule for all interleavings. -/
theorem Sound.holds (sound : Sound starts advance Shared Local free held total)
    (h : Reaches starts advance s t) (hs : Holds Shared Local free held total s) :
    Holds Shared Local free held total t :=
  Machine.Reaches.invariant (fun _ _ _ hi hg hh => hi.step sound hg hh) h hs

/-- A token that the shared state has not got is with a task. -/
theorem Holds.exists_held (h : Holds Shared Local free held total s)
    (hfree : free s.shared < total) : ∃ t ∈ s.tasks, held t ≠ 0 := by
  by_contra hnone
  push Not at hnone
  have hzero : (s.tasks.map held).sum = 0 := by
    apply List.sum_eq_zero
    intro n hn
    obtain ⟨t, ht, rfl⟩ := List.mem_map.mp hn
    exact hnone t ht
  have htokens := h.tokens
  omega

/-- A task can always be the next one to run. -/
theorem Reaches.run {pre post : List τ} {task : τ} {shared : σ} (answer : ι) :
    Reaches starts advance ⟨shared, pre ++ task :: post⟩
      ⟨(advance shared task answer).1, pre ++ (advance shared task answer).2 ++ post⟩ :=
  Relation.ReflTransGen.single ⟨.run pre.length answer, trivial, step_run answer⟩

theorem Reaches.arrive {task : τ} (hstart : starts task) :
    Reaches starts advance s { s with tasks := s.tasks ++ [task] } :=
  Relation.ReflTransGen.single ⟨.arrive task, hstart, rfl⟩

theorem reaches_of_exec (events : List (Event τ ι))
    (hstart : ∀ task, .arrive task ∈ events → starts task)
    (h : Machine.exec (step advance) s events = some t) : Reaches starts advance s t := by
  induction events generalizing s with
  | nil =>
    cases Option.some.inj h
    exact .refl
  | cons e events ih =>
    obtain ⟨u, hu, hrest⟩ := Option.bind_eq_some_iff.mp h
    have harrives : Arrives starts s e := by
      cases e with
      | arrive task => exact hstart task List.mem_cons_self
      | run place answer => trivial
    have htail := ih (fun task hin => hstart task (List.mem_cons_of_mem _ hin)) hrest
    exact Relation.ReflTransGen.head ⟨e, harrives, hu⟩ htail

end Tasks
