import Mathlib.Data.List.Basic
import Mathlib.Tactic

/-!
# Results with the accesses made for them

A logged computation produces its result and the list of its accesses together. An error
ends the computation, and no access is made behind it. A condition on all accesses is
shown for one step after the other.
-/
namespace Wificond

universe u v w

structure Logged (A : Type u) (ε : Type v) (α : Type w) where
  accesses : List A
  result : Except ε α

namespace Logged

variable {A : Type u} {ε : Type v} {α β : Type w}

/-- A computation that makes no access. -/
def lift (x : Except ε α) : Logged A ε α := ⟨[], x⟩

def bind (x : Logged A ε α) (f : α → Logged A ε β) : Logged A ε β :=
  match x.result with
  | .error e => ⟨x.accesses, .error e⟩
  | .ok a => ⟨x.accesses ++ (f a).accesses, (f a).result⟩

instance : Monad (Logged A ε) where
  pure a := lift (.ok a)
  bind := bind

/-- All accesses satisfy `P`. -/
def All (P : A → Prop) (x : Logged A ε α) : Prop := ∀ a ∈ x.accesses, P a

section Results

@[simp] theorem result_lift (x : Except ε α) : (lift x : Logged A ε α).result = x := rfl

@[simp] theorem result_pure (a : α) : (pure a : Logged A ε α).result = .ok a := rfl

@[simp] theorem result_bind (x : Logged A ε α) (f : α → Logged A ε β) :
    (x >>= f).result = x.result >>= fun a => (f a).result := by
  show (bind x f).result = _
  rw [bind]
  cases x.result <;> rfl

/-- A sequence has the result of another whose parts have the same results. -/
theorem result_bind_congr {x : Logged A ε α} {y : Except ε α} {f : α → Logged A ε β}
    {g : α → Except ε β} (hx : x.result = y) (hf : ∀ a, (f a).result = g a) :
    (x >>= f).result = y >>= g := by
  rw [result_bind, hx]
  exact congrArg (y >>= ·) (funext hf)

@[simp] theorem result_ite (p : Prop) [Decidable p] (x y : Logged A ε α) :
    (if p then x else y).result = if p then x.result else y.result := by
  split_ifs <;> rfl

end Results

section Accesses
variable {P : A → Prop}

@[simp] theorem all_lift (x : Except ε α) : (lift x : Logged A ε α).All P := by
  simp [All, lift]

@[simp] theorem all_pure (a : α) : (pure a : Logged A ε α).All P := all_lift (.ok a)

/-- The accesses of a sequence are those of the first part and, where this has a value, those
of the second part for it. -/
@[simp] theorem all_bind_iff (x : Logged A ε α) (f : α → Logged A ε β) :
    (x >>= f).All P ↔ x.All P ∧ ∀ a, x.result = .ok a → (f a).All P := by
  show (bind x f).All P ↔ _
  simp only [All, bind]
  cases hx : x.result with
  | error e => simp
  | ok a => simp [or_imp, forall_and]

end Accesses

end Logged

end Wificond
