import Mathlib.Logic.Relation
import Mathlib.Order.Basic

/-! Executable step functions with labels and the states their runs reach. A
guard says which labelled steps a run is allowed to take. -/

namespace Machine

variable {σ ι : Type}

def exec (step : σ → ι → Option σ) : σ → List ι → Option σ
  | s, [] => some s
  | s, a :: as => (step s a).bind (exec step · as)

def GuardedStep (step : σ → ι → Option σ) (guard : σ → ι → Prop) (s t : σ) : Prop :=
  ∃ a, guard s a ∧ step s a = some t

/-- Reachable by steps that all meet the guard. -/
abbrev Reaches (step : σ → ι → Option σ) (guard : σ → ι → Prop) :=
  Relation.ReflTransGen (GuardedStep step guard)

abbrev Reachable (step : σ → ι → Option σ) := Reaches step (fun _ _ => True)

variable {step : σ → ι → Option σ} {guard : σ → ι → Prop} {s t : σ}

theorem Reaches.reachable (h : Reaches step guard s t) : Reachable step s t :=
  Relation.ReflTransGen.mono (fun _ _ ⟨a, _, ha⟩ => ⟨a, trivial, ha⟩) _ _ h

theorem Reaches.invariant {I : σ → Prop}
    (hstep : ∀ s a t, I s → guard s a → step s a = some t → I t)
    (h : Reaches step guard s t) (hs : I s) : I t := by
  induction h with
  | refl => exact hs
  | tail _ hh ih =>
    obtain ⟨a, hg, ha⟩ := hh
    exact hstep _ a _ ih hg ha

theorem Reaches.monotone {α : Type*} [Preorder α] {I : σ → Prop} {f : σ → α}
    (hinv : ∀ s a t, I s → guard s a → step s a = some t → I t)
    (hstep : ∀ s a t, I s → guard s a → step s a = some t → f s ≤ f t)
    (h : Reaches step guard s t) (hs : I s) : f s ≤ f t := by
  have hh : I t ∧ f s ≤ f t := by
    refine Reaches.invariant (I := fun u => I u ∧ f s ≤ f u) ?_ h ⟨hs, le_refl _⟩
    rintro u a v ⟨hu, hle⟩ hg ha
    exact ⟨hinv u a v hu hg ha, hle.trans (hstep u a v hu hg ha)⟩
  exact hh.2

theorem reachable_of_exec (as : List ι) (h : exec step s as = some t) : Reachable step s t := by
  induction as generalizing s with
  | nil =>
    cases Option.some.inj h
    exact .refl
  | cons a as ih =>
    obtain ⟨u, hu, hh⟩ := Option.bind_eq_some_iff.mp h
    exact Relation.ReflTransGen.head ⟨a, trivial, hu⟩ (ih hh)

def restrict (step : σ → ι → Option σ) (guard : σ → ι → Prop) [∀ s a, Decidable (guard s a)]
    (s : σ) (a : ι) : Option σ := if guard s a then step s a else none

theorem reaches_of_exec [∀ s a, Decidable (guard s a)] (as : List ι)
    (h : exec (restrict step guard) s as = some t) : Reaches step guard s t := by
  refine Relation.ReflTransGen.mono ?_ _ _ (reachable_of_exec as h)
  rintro u v ⟨a, -, ha⟩
  by_cases hg : guard u a
  · exact ⟨a, hg, by simpa [restrict, hg] using ha⟩
  · simp [restrict, hg] at ha

end Machine
