import Mathlib.Logic.Relation
import Mathlib.Tactic

/-!
# Loops given by one iteration

`step s` is one pass through a loop: `inl s'` goes round again from `s'`, and
`inr r` leaves the loop with `r`. A run is executed with a budget of passes.
A loop that never comes to a state which its own pass reproduces, and makes
progress on every pass, is done within its measure; one that does come to such
a state spends any budget.
-/
namespace Wificond.StepLoop

variable {σ ρ : Type*} {step : σ → σ ⊕ ρ} {s t : σ} {r : ρ} {n m : ℕ}

def run (step : σ → σ ⊕ ρ) : ℕ → σ → Option ρ
  | 0, _ => none
  | n + 1, s =>
    match step s with
    | .inl s' => run step n s'
    | .inr r => some r

/-- The states at the start of each pass, the one that leaves included. -/
def visited (step : σ → σ ⊕ ρ) : ℕ → σ → List σ
  | 0, _ => []
  | n + 1, s =>
    s :: match step s with
      | .inl s' => visited step n s'
      | .inr _ => []

/-- Some budget suffices. -/
def Halts (step : σ → σ ⊕ ρ) (s : σ) : Prop := ∃ n, (run step n s).isSome

/-- The loop started in `s` comes to stand in `t` at the start of a pass. -/
def Visits (step : σ → σ ⊕ ρ) (s t : σ) : Prop :=
  Relation.ReflTransGen (fun a b => step a = .inl b) s t

theorem run_succ_continue {s' : σ} (h : step s = .inl s') (n : ℕ) :
    run step (n + 1) s = run step n s' := by
  simp [run, h]

theorem run_succ_leave (h : step s = .inr r) (n : ℕ) : run step (n + 1) s = some r := by
  simp [run, h]

theorem visited_succ_continue {s' : σ} (h : step s = .inl s') (n : ℕ) :
    visited step (n + 1) s = s :: visited step n s' := by
  simp [visited, h]

theorem visited_succ_leave (h : step s = .inr r) (n : ℕ) : visited step (n + 1) s = [s] := by
  simp [visited, h]

/-- A budget that suffices visits all there is to visit. -/
theorem visited_add (h : (run step n s).isSome) (k : ℕ) :
    visited step (n + k) s = visited step n s := by
  induction n generalizing s with
  | zero => simp [run] at h
  | succ n ih =>
    rw [Nat.succ_add]
    cases hs : step s with
    | inl s' =>
      rw [run_succ_continue hs] at h
      rw [visited_succ_continue hs, visited_succ_continue hs, ih h]
    | inr r => rw [visited_succ_leave hs, visited_succ_leave hs]

/-- What every pass of a loop that may fail does to a part of the state, the passes of a run
that succeeds do one after the other. -/
theorem run_eq_foldl_visited {β ε : Type*} {step : σ → σ ⊕ Except ε ρ} (f : σ → β) (g : ρ → β)
    (act : β → σ → β) (hcontinue : ∀ a b, step a = .inl b → f b = act (f a) a)
    (hleave : ∀ a r, step a = .inr (.ok r) → g r = act (f a) a)
    (h : run step n s = some (.ok r)) : g r = (visited step n s).foldl act (f s) := by
  induction n generalizing s with
  | zero => simp [run] at h
  | succ n ih =>
    cases hs : step s with
    | inl s' =>
      rw [run_succ_continue hs] at h
      rw [visited_succ_continue hs, List.foldl_cons, ← hcontinue s s' hs]
      exact ih h
    | inr r' =>
      rw [run_succ_leave hs, Option.some.injEq] at h
      rw [visited_succ_leave hs, List.foldl_cons, List.foldl_nil]
      exact hleave s r (hs.trans (congrArg Sum.inr h))

/-- Where the passes of two loops differ in what they leave with, so do their runs. -/
theorem run_map {τ : Type*} {step' : σ → σ ⊕ τ} (g : ρ → τ)
    (h : ∀ a, step' a = (step a).map id g) (n : ℕ) (s : σ) :
    run step' n s = (run step n s).map g := by
  induction n generalizing s with
  | zero => rfl
  | succ n ih =>
    have hs' := h s
    cases hs : step s with
    | inl t =>
      rw [hs] at hs'
      rw [run_succ_continue hs, run_succ_continue hs', id, ih]
    | inr r =>
      rw [hs] at hs'
      rw [run_succ_leave hs, run_succ_leave hs', Option.map_some]

/-- The result of a run is what the pass left with that the run came to last. -/
theorem exists_leave_of_run (h : run step n s = some r) :
    ∃ t, Visits step s t ∧ step t = .inr r := by
  induction n generalizing s with
  | zero => simp [run] at h
  | succ n ih =>
    cases hs : step s with
    | inl s' =>
      obtain ⟨t, hvisits, hleave⟩ := ih (by rwa [run_succ_continue hs] at h)
      exact ⟨t, .head hs hvisits, hleave⟩
    | inr r' =>
      rw [run_succ_leave hs, Option.some.injEq] at h
      exact ⟨s, .refl, h ▸ hs⟩

theorem Visits.invariant {Inv : σ → Prop} (h : Visits step s t)
    (hstep : ∀ a b, step a = .inl b → Inv a → Inv b) (hs : Inv s) : Inv t := by
  induction h with
  | refl => exact hs
  | tail _ hab ih => exact hstep _ _ hab ih

/-- A run that comes to a pass which leaves the loop has the result of that pass, if its
budget suffices for any. -/
theorem run_eq_of_visits_leave (h : Visits step s t) (hleave : step t = .inr r)
    (hn : (run step n s).isSome) : run step n s = some r := by
  induction h using Relation.ReflTransGen.head_induction_on generalizing n with
  | refl =>
    cases n with
    | zero => simp [run] at hn
    | succ n => exact run_succ_leave hleave n
  | head hstep _ ih =>
    cases n with
    | zero => simp [run] at hn
    | succ n =>
      rw [run_succ_continue hstep] at hn ⊢
      exact ih hn

theorem halts_continue {s' : σ} (h : step s = .inl s') : Halts step s ↔ Halts step s' := by
  constructor
  · intro hhalts
    obtain ⟨n, hn⟩ := hhalts
    cases n with
    | zero => simp [run] at hn
    | succ n => exact ⟨n, by rwa [run_succ_continue h] at hn⟩
  · intro hhalts
    obtain ⟨n, hn⟩ := hhalts
    exact ⟨n + 1, by rwa [run_succ_continue h]⟩

theorem halts_visits (h : Visits step s t) : Halts step s ↔ Halts step t := by
  induction h with
  | refl => exact Iff.rfl
  | tail _ hstep ih => exact ih.trans (halts_continue hstep)

theorem halts_of_visits_leave (h : Visits step s t) (hleave : step t = .inr r) : Halts step s :=
  (halts_visits h).mpr ⟨1, by simp [run, hleave]⟩

/-- A state that its own pass reproduces is never left. -/
theorem not_halts_of_fixed (h : step s = .inl s) : ¬ Halts step s := by
  intro hhalts
  obtain ⟨n, hn⟩ := hhalts
  induction n with
  | zero => simp [run] at hn
  | succ n ih => exact ih (by rwa [run_succ_continue h] at hn)

/-- A loop that comes to such a state spends any budget. -/
theorem run_eq_none_of_visits_fixed (hvisits : Visits step s t) (h : step t = .inl t) (n : ℕ) :
    run step n s = none := by
  by_contra hne
  have hhalts : Halts step s := ⟨n, Option.isSome_iff_ne_none.mpr hne⟩
  exact not_halts_of_fixed h ((halts_visits hvisits).mp hhalts)

section Progress
variable {μ : σ → ℕ}

/-- A loop that never stands still is done within its measure. -/
theorem run_isSome_of_decreasing
    (hμ : ∀ a b, Visits step s a → step a = .inl b → μ b < μ a) (hn : μ s < n) :
    (run step n s).isSome := by
  induction n generalizing s with
  | zero => omega
  | succ n ih =>
    cases hs : step s with
    | inl s' =>
      rw [run_succ_continue hs]
      have hlt := hμ s s' .refl hs
      exact ih (fun a b ha => hμ a b (.head hs ha)) (by omega)
    | inr r => simp [run_succ_leave hs]

end Progress

section Advance
variable {pos : σ → ℕ} {size : ℕ}

/-- Every pass of the run that goes round again moves the position forward. -/
def Advances (step : σ → σ ⊕ ρ) (pos : σ → ℕ) (s : σ) : Prop :=
  ∀ a b, Visits step s a → step a = .inl b → pos a < pos b

theorem advances_of_forall (h : ∀ a b, step a = .inl b → pos a < pos b) :
    Advances step pos s :=
  fun a b _ hab => h a b hab

theorem decreasing_of_advances (hsize : ∀ a b, step a = .inl b → pos a < size)
    (h : Advances step pos s) (a b : σ) (ha : Visits step s a) (hab : step a = .inl b) :
    size - pos b < size - pos a := by
  have hpos := h a b ha hab
  have hroom := hsize a b hab
  omega

/-- A position that only moves forward inside a buffer comes to its end, and the size
of the buffer is budget enough. -/
theorem run_isSome_of_advances (hsize : ∀ a b, step a = .inl b → pos a < size)
    (h : Advances step pos s) : (run step (size + 1) s).isSome :=
  run_isSome_of_decreasing (μ := fun a => size - pos a) (decreasing_of_advances hsize h) (by omega)

theorem halts_of_advances (hsize : ∀ a b, step a = .inl b → pos a < size)
    (h : Advances step pos s) : Halts step s :=
  ⟨size + 1, run_isSome_of_advances hsize h⟩

end Advance

end Wificond.StepLoop
