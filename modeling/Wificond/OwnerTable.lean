import Mathlib.Tactic

/-!
# Tables of live owners

A partial table from keys to owners, kept by filling in what one owner supports and
by dropping an owner altogether. Where a key has at most one possible owner, the
table names it exactly as long as that owner is live and supports the key.
-/
namespace Wificond.OwnerTable

variable {κ ω : Type*} {owner : κ → ω} {live live' : ω → Prop} {supports supports' : ω → κ → Prop}
variable {table table' : κ → Option ω} {key : κ} {w : ω}

/-- Every entry is the live owner of its key, and every key that a live one supports
has an entry. -/
structure Tracks (owner : κ → ω) (live : ω → Prop) (supports : ω → κ → Prop)
    (table : κ → Option ω) : Prop where
  entry : ∀ key w, table key = some w → w = owner key ∧ live w
  isSome : ∀ key w, live w → supports w key → (table key).isSome

namespace Tracks

theorem mono (h : Tracks owner live supports table)
    (hsub : ∀ w key, live w → supports' w key → supports w key) :
    Tracks owner live supports' table where
  entry := h.entry
  isSome key w hw hs := h.isSome key w hw (hsub w key hw hs)

/-- Filling in the keys that `added` lists for `w`. -/
theorem fill (w : ω) (added : κ → Prop) [DecidablePred added]
    (h : Tracks owner live supports table)
    (hadded : ∀ key, added key → w = owner key)
    (htable : ∀ key, table' key = (table key).or (if added key then some w else none))
    (hlive : ∀ w', live w' → live' w') (hw : live' w)
    (hsupports : ∀ w' key, live' w' → supports' w' key →
      live w' ∧ supports w' key ∨ added key) :
    Tracks owner live' supports' table' where
  entry key w' hentry := by
    rw [htable] at hentry
    rcases Option.or_eq_some_iff.mp hentry with hold | ⟨-, hnew⟩
    · obtain ⟨hown, hl⟩ := h.entry key w' hold
      exact ⟨hown, hlive w' hl⟩
    · split_ifs at hnew with hadd
      obtain rfl := Option.some.inj hnew
      exact ⟨hadded key hadd, hw⟩
  isSome key w' hl hs := by
    rw [htable, Option.isSome_or]
    rcases hsupports w' key hl hs with ⟨hlw, hsw⟩ | hadd
    · simp [h.isSome key w' hlw hsw]
    · simp [hadd]

/-- Dropping the entries of `w`, which is no longer live. -/
theorem drop (h : Tracks owner live supports table)
    (howner : ∀ w' key, supports w' key → w' = owner key)
    (htable : ∀ key w', table' key = some w' ↔ table key = some w' ∧ w' ≠ w)
    (hlive : ∀ w', live' w' ↔ live w' ∧ w' ≠ w) : Tracks owner live' supports table' where
  entry key w' hentry := by
    obtain ⟨hold, hne⟩ := (htable key w').mp hentry
    obtain ⟨hown, hl⟩ := h.entry key w' hold
    exact ⟨hown, (hlive w').mpr ⟨hl, hne⟩⟩
  isSome key w' hl hs := by
    obtain ⟨hlw, hne⟩ := (hlive w').mp hl
    obtain ⟨w'', hold⟩ := Option.isSome_iff_exists.mp (h.isSome key w' hlw hs)
    have heq : w'' = w' := (h.entry key w'' hold).1.trans (howner w' key hs).symm
    subst heq
    exact Option.isSome_iff_exists.mpr ⟨w'', (htable key w'').mpr ⟨hold, hne⟩⟩

theorem lookup (h : Tracks owner live supports table) (hlive : live (owner key))
    (hs : supports (owner key) key) : table key = some (owner key) := by
  obtain ⟨w, hentry⟩ := Option.isSome_iff_exists.mp (h.isSome key _ hlive hs)
  rw [hentry, (h.entry key w hentry).1]

end Tracks

end Wificond.OwnerTable
