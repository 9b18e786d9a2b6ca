import Mathlib.Algebra.BigOperators.Group.List.Lemmas
import Mathlib.Algebra.Group.Submonoid.Operations

/-!
# Steps that accumulate

A step that may fail gets a total and returns another. Where it adds the same amount to every
total, what a sequence of such steps returns does not depend on how they are grouped. A second
part is about amounts that are read off a list of keyed entries.
-/
namespace Accumulation

section Steps
variable {M : Type*} {ε : Type*} [AddMonoid M]

/-- The step adds the amount to whatever it is given. -/
def Adds (step : M → Except ε M) (amount : M) : Prop := ∀ total, step total = .ok (total + amount)

/-- The step adds some amount from the submonoid. -/
def AddsIn (s : AddSubmonoid M) (step : M → Except ε M) : Prop := ∃ amount ∈ s, Adds step amount

/-- What the step makes of nothing; for a step that fails there, nothing. -/
def yield (step : M → Except ε M) : M :=
  match step 0 with
  | .ok amount => amount
  | .error _ => 0

variable {step next : M → Except ε M} {amount amount' : M} {s : AddSubmonoid M}

theorem Adds.yield_eq (h : Adds step amount) : yield step = amount := by
  rw [yield, h 0]
  exact zero_add amount

theorem adds_pure : Adds (ε := ε) (M := M) pure 0 := by
  intro total
  rw [add_zero]
  rfl

theorem Adds.bind (h : Adds step amount) (h' : Adds next amount') :
    Adds (fun total => step total >>= next) (amount + amount') := by
  intro total
  show (step total >>= next) = _
  rw [h total, ← add_assoc]
  exact h' (total + amount)

theorem Adds.foldlM {α : Type*} {each : M → α → Except ε M} {amount : α → M} {xs : List α}
    (h : ∀ x ∈ xs, Adds (fun total => each total x) (amount x)) :
    Adds (fun total => xs.foldlM each total) (xs.map amount).sum := by
  induction xs with
  | nil => exact adds_pure
  | cons x xs ih =>
    have hrest := ih fun y hy => h y (by simp [hy])
    have hboth := (h x (by simp)).bind hrest
    intro total
    show (each total x >>= fun total => xs.foldlM each total) = _
    rw [List.map_cons, List.sum_cons]
    exact hboth total

/-- The step is made where there is something to make it for. -/
def onSome {α : Type*} (x? : Option α) (step : α → M → Except ε M) (total : M) : Except ε M :=
  match x? with
  | none => pure total
  | some x => step x total

theorem Adds.onSome {α : Type*} {x? : Option α} {each : α → M → Except ε M} {amount : α → M}
    (h : ∀ x ∈ x?, Adds (each x) (amount x)) :
    Adds (onSome x? each) ((x?.map amount).getD 0) := by
  cases x? with
  | none => exact adds_pure
  | some x => exact h x rfl

/-- A step that is made, behind a change that adds an amount, where there is something to make it
for. -/
theorem adds_of_present {α : Type*} {x? : Option α} {each : α → M} {change : M → M}
    (h : Adds step ((x?.map each).getD 0)) (hchange : ∀ total, change total = total + amount) :
    Adds (fun total => if x?.isSome then step (change total) else pure total)
      ((x?.map fun x => amount + each x).getD 0) := by
  cases x? with
  | none => exact adds_pure
  | some x =>
    intro total
    show step (change total) = Except.ok (total + (amount + each x))
    rw [hchange, h, add_assoc]
    rfl

theorem AddsIn.adds (h : AddsIn s step) : Adds step (yield step) := by
  obtain ⟨amount, -, hadds⟩ := h
  rwa [hadds.yield_eq]

theorem AddsIn.yield_mem (h : AddsIn s step) : yield step ∈ s := by
  obtain ⟨amount, hmem, hadds⟩ := h
  rwa [hadds.yield_eq]

theorem addsIn_pure : AddsIn (ε := ε) s pure := ⟨0, s.zero_mem, adds_pure⟩

theorem AddsIn.bind (h : AddsIn s step) (h' : AddsIn s next) :
    AddsIn s fun total => step total >>= next := by
  obtain ⟨amount, hmem, hadds⟩ := h
  obtain ⟨amount', hmem', hadds'⟩ := h'
  exact ⟨amount + amount', s.add_mem hmem hmem', hadds.bind hadds'⟩

/-- A change that adds an amount may come before the step. -/
theorem AddsIn.after {change : M → M} (h : AddsIn s step) (hmem : amount ∈ s)
    (hchange : ∀ total, change total = total + amount) :
    AddsIn s fun total => step (change total) := by
  obtain ⟨amount', hmem', hadds⟩ := h
  refine ⟨amount + amount', s.add_mem hmem hmem', fun total => ?_⟩
  show step (change total) = _
  rw [hadds, hchange, add_assoc]

theorem AddsIn.ite {c : Prop} [Decidable c] (h : AddsIn s step) (h' : AddsIn s next) :
    AddsIn s fun total => if c then step total else next total := by
  by_cases hc : c
  · simpa [hc] using h
  · simpa [hc] using h'

end Steps

section Entries
variable {α κ M : Type*} [AddMonoid M] [DecidableEq κ] {key : α → κ}

/-- The amount of the first entry with the key. -/
def readFirst (key : α → κ) (k : κ) (amount : α → M) (xs : List α) : M :=
  ((xs.find? fun x => key x = k).map amount).getD 0

/-- What is read under all keys, one after the other. -/
def readAll (key : α → κ) (readers : List (κ × (α → M))) (xs : List α) : M :=
  (readers.map fun r => readFirst key r.1 r.2 xs).sum

/-- The amount adds up the same way on either side of any other. -/
def Central (amount : M) : Prop := ∀ other, AddCommute amount other

variable {x : α} {xs ys : List α} {k : κ} {amount : α → M} {readers : List (κ × (α → M))}

theorem central_zero : Central (0 : M) := AddCommute.zero_left

theorem central_readFirst (h : ∀ x ∈ xs, key x = k → Central (amount x)) :
    Central (readFirst key k amount xs) := by
  rw [readFirst]
  cases hfind : xs.find? fun x => key x = k with
  | none => exact central_zero
  | some x => exact h x (List.mem_of_find?_eq_some hfind) (by simpa using List.find?_some hfind)

theorem central_readAll (h : ∀ r ∈ readers, ∀ x ∈ xs, key x = r.1 → Central (r.2 x)) :
    Central (readAll key readers xs) := by
  intro other
  induction readers with
  | nil => exact AddCommute.zero_left other
  | cons r readers ih =>
    have hfirst : AddCommute (readFirst key r.1 r.2 xs) other :=
      central_readFirst (h r (by simp)) other
    exact hfirst.add_left (ih fun r' hr' => h r' (by simp [hr']))

/-- An entry is read in front of entries with other keys as if it stood alone. -/
theorem readFirst_cons (hx : key x ∉ xs.map key) :
    readFirst key k amount (x :: xs) = readFirst key k amount [x] + readFirst key k amount xs := by
  by_cases hk : key x = k
  · have hnone : xs.find? (fun y => key y = k) = none := by
      rw [List.find?_eq_none]
      intro y hy heq
      have hsame : key y = key x := by simpa [hk] using heq
      exact hx (hsame ▸ List.mem_map_of_mem hy)
    simp [readFirst, hk, hnone]
  · simp [readFirst, hk]

/-- Only what is read first may be an amount that is not central. -/
theorem readAll_cons {r : κ × (α → M)} (hx : key x ∉ xs.map key)
    (h : ∀ r ∈ readers, ∀ y ∈ x :: xs, key y = r.1 → Central (r.2 y)) :
    readAll key (r :: readers) (x :: xs) =
      readAll key (r :: readers) [x] + readAll key (r :: readers) xs := by
  induction readers generalizing r with
  | nil => simpa [readAll] using readFirst_cons hx
  | cons r' readers ih =>
    have hrest := ih (r := r') fun r hr => h r (by simp [hr])
    have hcentral : Central (readAll key (r' :: readers) [x]) :=
      central_readAll fun r hr y hy => h r hr y (by simp [List.mem_singleton.mp hy])
    calc readAll key (r :: r' :: readers) (x :: xs)
        = readFirst key r.1 r.2 (x :: xs) + readAll key (r' :: readers) (x :: xs) := List.sum_cons
      _ = readFirst key r.1 r.2 [x] + readFirst key r.1 r.2 xs +
            (readAll key (r' :: readers) [x] + readAll key (r' :: readers) xs) := by
          rw [readFirst_cons hx, hrest]
      _ = readFirst key r.1 r.2 [x] + readAll key (r' :: readers) [x] +
            (readFirst key r.1 r.2 xs + readAll key (r' :: readers) xs) :=
          (hcentral _).symm.add_add_add_comm _ _

/-- What is read of entries with distinct keys is the sum of what is read of each. -/
theorem readAll_eq_sum {r : κ × (α → M)} (hkeys : (xs.map key).Nodup)
    (h : ∀ r ∈ readers, ∀ x ∈ xs, key x = r.1 → Central (r.2 x)) :
    readAll key (r :: readers) xs = (xs.map fun x => readAll key (r :: readers) [x]).sum := by
  induction xs with
  | nil => simp [readAll, readFirst]
  | cons x xs ih =>
    obtain ⟨hx, hrest⟩ := List.nodup_cons.mp hkeys
    have htail := ih hrest fun r hr y hy => h r hr y (by simp [hy])
    rw [readAll_cons hx h, htail, List.map_cons, List.sum_cons]

/-- Central amounts may be added up apart from the others. -/
theorem sum_filter_add_sum_filter (p : α → Bool) (h : ∀ x ∈ xs, ¬ p x → Central (amount x)) :
    (xs.map amount).sum =
      ((xs.filter p).map amount).sum + ((xs.filter fun x => !p x).map amount).sum := by
  induction xs with
  | nil => simp
  | cons x xs ih =>
    have hrest := ih fun y hy => h y (by simp [hy])
    by_cases hx : p x
    · simp [hx, hrest, add_assoc]
    · have hcomm := h x (by simp) hx ((xs.filter p).map amount).sum
      have hother : (x :: xs).filter (fun x => !p x) = x :: xs.filter fun x => !p x := by simp [hx]
      rw [hother, List.filter_cons_of_neg hx, List.map_cons, List.sum_cons, List.map_cons,
        List.sum_cons, hrest, ← add_assoc, hcomm.eq, add_assoc]

/-- The central amounts may come in any order. -/
theorem sum_eq_of_perm (p : α → Bool) (h : ∀ x ∈ xs, ¬ p x → Central (amount x))
    (hothers : (xs.filter fun x => !p x).Perm (ys.filter fun x => !p x))
    (heq : ((xs.filter p).map amount).sum = ((ys.filter p).map amount).sum) :
    (xs.map amount).sum = (ys.map amount).sum := by
  have hys : ∀ y ∈ ys, ¬ p y → Central (amount y) := by
    intro y hy hpy
    have hmem : y ∈ ys.filter fun x => !p x := by simpa [hy] using hpy
    exact h y (List.mem_filter.mp (hothers.mem_iff.mpr hmem)).1 hpy
  have hcomm : (((xs.filter fun x => !p x).map amount)).Pairwise AddCommute := by
    apply List.pairwise_of_forall_mem_list
    intro a ha b _
    obtain ⟨x, hx, rfl⟩ := List.mem_map.mp ha
    obtain ⟨hmem, hpx⟩ := List.mem_filter.mp hx
    exact h x hmem (by simpa using hpx) b
  calc (xs.map amount).sum
      = ((xs.filter p).map amount).sum + ((xs.filter fun x => !p x).map amount).sum :=
        sum_filter_add_sum_filter p h
    _ = ((ys.filter p).map amount).sum + ((ys.filter fun x => !p x).map amount).sum := by
        rw [heq, (hothers.map amount).sum_eq' hcomm]
    _ = (ys.map amount).sum := (sum_filter_add_sum_filter p hys).symm

end Entries

end Accumulation
