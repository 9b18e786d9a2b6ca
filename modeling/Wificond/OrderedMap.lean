import Mathlib.Data.List.Perm.Basic
import Mathlib.Tactic
import Std.Data.ExtTreeMap

/-!
# Ordered maps and the lists they come from

`Std.ExtTreeMap` stands for an ordered associative container. Iteration goes
through `toList`, and a list with distinct keys that agrees with all lookups is
that iteration up to order.
-/
namespace Wificond.OrderedMap

variable {α β γ : Type*} {cmp : α → α → Ordering} [Std.TransCmp cmp] [Std.LawfulEqCmp cmp]

omit [Std.LawfulEqCmp cmp] in
theorem mem_iff_exists {m : Std.ExtTreeMap α β cmp} {a : α} : a ∈ m ↔ ∃ b, m[a]? = some b := by
  rw [Std.ExtTreeMap.mem_iff_isSome_getElem?, Option.isSome_iff_exists]

omit [Std.LawfulEqCmp cmp] in
theorem notMem_iff {m : Std.ExtTreeMap α β cmp} {a : α} : a ∉ m ↔ m[a]? = none := by
  rw [Std.ExtTreeMap.mem_iff_isSome_getElem?, Option.not_isSome_iff_eq_none]

/-- Erasing an absent key changes nothing. -/
theorem erase_eq_self {m : Std.ExtTreeMap α β cmp} {a : α} (h : a ∉ m) : m.erase a = m := by
  apply Std.ExtTreeMap.ext_getElem?
  intro b
  rw [Std.ExtTreeMap.getElem?_erase]
  split_ifs with hab
  · rw [← Std.LawfulEqCmp.compare_eq_iff_eq.mp hab, Std.ExtTreeMap.getElem?_eq_none h]
  · rfl

theorem getElem?_insert_ite [DecidableEq α] (m : Std.ExtTreeMap α β cmp) (a a' : α) (b : β) :
    (m.insert a b)[a']? = if a = a' then some b else m[a']? := by
  simp only [Std.ExtTreeMap.getElem?_insert, Std.LawfulEqCmp.compare_eq_iff_eq]

theorem getElem?_erase_ite [DecidableEq α] (m : Std.ExtTreeMap α β cmp) (a a' : α) :
    (m.erase a)[a']? = if a = a' then none else m[a']? := by
  simp only [Std.ExtTreeMap.getElem?_erase, Std.LawfulEqCmp.compare_eq_iff_eq]

/-- Of the entries that are written one after the other, the last one with a key counts. -/
theorem getElem?_foldl_insert [DecidableEq α] (entries : List (α × β))
    (m : Std.ExtTreeMap α β cmp) (a : α) :
    (entries.foldl (fun m e => m.insert e.1 e.2) m)[a]? =
      ((entries.reverse.find? fun e => e.1 = a).map Prod.snd).or m[a]? := by
  induction entries using List.reverseRecOn with
  | nil => simp
  | append_singleton entries e ih =>
    rw [List.foldl_append, List.foldl_cons, List.foldl_nil, getElem?_insert_ite, ih,
      List.reverse_append, List.reverse_singleton, List.singleton_append, List.find?_cons]
    by_cases hkey : e.1 = a
    · simp [hkey]
    · simp [hkey]

theorem nodup_toList (m : Std.ExtTreeMap α β cmp) : m.toList.Nodup := by
  refine m.distinct_keys_toList.imp ?_
  rintro a b hab rfl
  exact hab (Std.ReflCmp.compare_self)

/-- A list of entries with distinct keys is the iteration of every map with the same
lookups, up to order. -/
theorem toList_perm (m : Std.ExtTreeMap α β cmp) (l : List γ) (key : γ → α) (val : γ → β)
    (hkey : (l.map key).Nodup)
    (hget : ∀ a b, m[a]? = some b ↔ ∃ c ∈ l, key c = a ∧ val c = b) :
    m.toList.Perm (l.map fun c => (key c, val c)) := by
  have hl : (l.map fun c => (key c, val c)).Nodup := by
    refine List.Nodup.of_map Prod.fst ?_
    rwa [List.map_map]
  rw [List.perm_ext_iff_of_nodup (nodup_toList m) hl]
  intro p
  obtain ⟨a, b⟩ := p
  rw [Std.ExtTreeMap.mem_toList_iff_getElem?_eq_some, hget]
  simp

/-- The same with the order of iteration carried over to the list. -/
theorem exists_toList_eq_map (m : Std.ExtTreeMap α β cmp) (l : List γ) (key : γ → α)
    (val : γ → β) (hkey : (l.map key).Nodup)
    (hget : ∀ a b, m[a]? = some b ↔ ∃ c ∈ l, key c = a ∧ val c = b) :
    ∃ l' : List γ, l'.Perm l ∧ m.toList = l'.map fun c => (key c, val c) := by
  let f := fun c => (key c, val c)
  have hcomp := congrFun (congrFun (List.eq_map_comp_perm f) m.toList) l
  obtain ⟨l', heq, hl'⟩ := hcomp.mpr (toList_perm m l key val hkey hget)
  exact ⟨l', hl', heq⟩

/-- The iteration comes to a key once, if it is there. -/
theorem filter_toList [DecidableEq α] (m : Std.ExtTreeMap α β cmp) (a : α) :
    m.toList.filter (fun entry => entry.1 = a) = m[a]?.toList.map (Prod.mk a) := by
  have hmem (entry : α × β) : entry ∈ m.toList.filter (fun entry => entry.1 = a) ↔
      entry ∈ m[a]?.toList.map (Prod.mk a) := by
    obtain ⟨a', b⟩ := entry
    rw [List.mem_filter, Std.ExtTreeMap.mem_toList_iff_getElem?_eq_some]
    simp only [decide_eq_true_eq, List.mem_map, Option.mem_toList, Prod.mk.injEq]
    constructor
    · rintro ⟨hget, rfl⟩
      exact ⟨b, hget, rfl, rfl⟩
    · rintro ⟨b, hget, rfl, rfl⟩
      exact ⟨hget, rfl⟩
  have hnodup : (m[a]?.toList.map (Prod.mk a)).Nodup := by cases m[a]? <;> simp
  have hperm := (List.perm_ext_iff_of_nodup ((nodup_toList m).filter _) hnodup).mpr hmem
  cases hget : m[a]? with
  | none => simpa [hget] using hperm
  | some b => simpa [hget] using hperm

/-- Where the other keys contribute nothing, what is gathered comes from one. -/
theorem flatMap_toList_of_eq_nil [DecidableEq α] (m : Std.ExtTreeMap α β cmp) (a : α)
    (f : β → List γ) (h : ∀ a' b, a' ≠ a → m[a']? = some b → f b = []) :
    m.toList.flatMap (fun entry => f entry.2) = m[a]?.toList.flatMap f := by
  have hskip (l : List (α × β)) (hl : ∀ entry ∈ l, entry.1 ≠ a → f entry.2 = []) :
      l.flatMap (fun entry => f entry.2) =
        (l.filter fun entry => entry.1 = a).flatMap fun entry => f entry.2 := by
    induction l with
    | nil => rfl
    | cons entry l ih =>
      have hrest := ih fun e he => hl e (by simp [he])
      by_cases ha : entry.1 = a
      · rw [List.filter_cons_of_pos (by simpa using ha), List.flatMap_cons, List.flatMap_cons,
          hrest]
      · rw [List.filter_cons_of_neg (by simpa using ha), List.flatMap_cons, hl entry (by simp) ha,
          List.nil_append, hrest]
  rw [hskip, filter_toList, List.flatMap_map]
  intro entry hentry hne
  exact h entry.1 entry.2 hne (Std.ExtTreeMap.mem_toList_iff_getElem?_eq_some.mp hentry)

/-- The iteration starts with the least key. -/
theorem exists_toList_eq_cons {m : Std.ExtTreeMap α β cmp} {a : α} {b : β} (h : m[a]? = some b)
    (hleast : ∀ a', cmp a' a ≠ .lt) : ∃ l, m.toList = (a, b) :: l := by
  have hmem : (a, b) ∈ m.toList := Std.ExtTreeMap.mem_toList_iff_getElem?_eq_some.mpr h
  obtain ⟨before, l, hsplit⟩ := List.append_of_mem hmem
  have hordered := m.ordered_keys_toList
  rw [hsplit, List.pairwise_append] at hordered
  cases before with
  | nil => exact ⟨l, hsplit⟩
  | cons entry before =>
    exact absurd (hordered.2.2 entry (by simp) (a, b) (by simp)) (hleast entry.1)

/-- The loop that erases every entry whose value satisfies `p`. -/
def eraseWhere (p : β → Bool) (m : Std.ExtTreeMap α β cmp) : Std.ExtTreeMap α β cmp :=
  m.toList.foldl (fun m' entry => if p entry.2 then m'.erase entry.1 else m') m

private theorem getElem?_foldl_erase (p : β → Bool) (l : List (α × β))
    (m : Std.ExtTreeMap α β cmp) (a : α) (b : β) :
    (l.foldl (fun m' entry => if p entry.2 then m'.erase entry.1 else m') m)[a]? = some b ↔
      m[a]? = some b ∧ ∀ b', (a, b') ∈ l → ¬ p b' := by
  induction l generalizing m with
  | nil => simp
  | cons entry l ih =>
    obtain ⟨a', c⟩ := entry
    rw [List.foldl_cons, ih]
    by_cases hp : p c
    · rw [if_pos hp, Std.ExtTreeMap.getElem?_erase]
      by_cases ha : a' = a
      · subst ha
        simp only [Std.ReflCmp.compare_self, if_true]
        grind
      · rw [if_neg fun h => ha (Std.LawfulEqCmp.compare_eq_iff_eq.mp h)]
        grind
    · rw [if_neg hp]
      grind

/-- Exactly the entries with such values go. -/
theorem getElem?_eraseWhere (p : β → Bool) (m : Std.ExtTreeMap α β cmp) (a : α) (b : β) :
    (eraseWhere p m)[a]? = some b ↔ m[a]? = some b ∧ ¬ p b := by
  rw [eraseWhere, getElem?_foldl_erase]
  simp only [Std.ExtTreeMap.mem_toList_iff_getElem?_eq_some]
  constructor
  · intro hmem
    obtain ⟨hb, h⟩ := hmem
    exact ⟨hb, h b hb⟩
  · intro hmem
    obtain ⟨hb, hp⟩ := hmem
    refine ⟨hb, fun b' hb' => ?_⟩
    rw [hb, Option.some.injEq] at hb'
    exact hb' ▸ hp

/-- What a function makes of the values of a map. -/
def image (f : β → γ) (m : Std.ExtTreeMap α β cmp) : Set γ :=
  {c | ∃ (a : α) (b : β), m[a]? = some b ∧ f b = c}

/-- The function tells the values of different keys apart. -/
def Separates (f : β → γ) (m : Std.ExtTreeMap α β cmp) : Prop :=
  ∀ (a a' : α) (b b' : β), m[a]? = some b → m[a']? = some b' → f b = f b' → a = a'

theorem image_erase {f : β → γ} {m : Std.ExtTreeMap α β cmp} (h : Separates f m) (a : α) :
    image f (m.erase a) = image f m \ {c | m[a]?.map f = some c} := by
  ext c
  constructor
  · rintro ⟨a', b', hb', rfl⟩
    rw [Std.ExtTreeMap.getElem?_erase] at hb'
    split_ifs at hb' with heq
    refine ⟨⟨a', b', hb', rfl⟩, fun hold => ?_⟩
    obtain ⟨b, hb, hfb⟩ := Option.map_eq_some_iff.mp hold
    exact heq (Std.LawfulEqCmp.compare_eq_iff_eq.mpr (h a a' b b' hb hb' hfb))
  · rintro ⟨⟨a', b', hb', rfl⟩, hne⟩
    have hkey : a ≠ a' := by
      rintro rfl
      exact hne (by simp [hb'])
    refine ⟨a', b', ?_, rfl⟩
    rw [Std.ExtTreeMap.getElem?_erase, if_neg, hb']
    rwa [Std.LawfulEqCmp.compare_eq_iff_eq]

/-- A new value takes the place of the one that was there. -/
theorem image_insert {f : β → γ} {m : Std.ExtTreeMap α β cmp} (h : Separates f m) (a : α) {b : β}
    (hfresh : f b ∉ image f m) :
    image f (m.insert a b) = insert (f b) (image f m) \ {c | m[a]?.map f = some c} := by
  ext c
  constructor
  · rintro ⟨a', b', hb', rfl⟩
    rw [Std.ExtTreeMap.getElem?_insert] at hb'
    split_ifs at hb' with heq
    · obtain rfl := Option.some.inj hb'
      refine ⟨Set.mem_insert _ _, fun hold => ?_⟩
      obtain ⟨old, hold, hf⟩ := Option.map_eq_some_iff.mp hold
      exact hfresh ⟨a, old, hold, hf⟩
    · refine ⟨Set.mem_insert_of_mem _ ⟨a', b', hb', rfl⟩, fun hold => ?_⟩
      obtain ⟨old, hold, hf⟩ := Option.map_eq_some_iff.mp hold
      exact heq (Std.LawfulEqCmp.compare_eq_iff_eq.mpr (h a a' old b' hold hb' hf))
  · rintro ⟨hmem, hne⟩
    rcases Set.mem_insert_iff.mp hmem with rfl | ⟨a', b', hb', rfl⟩
    · exact ⟨a, b, by simp, rfl⟩
    · have hkey : a ≠ a' := by
        rintro rfl
        exact hne (by simp [hb'])
      refine ⟨a', b', ?_, rfl⟩
      rw [Std.ExtTreeMap.getElem?_insert, if_neg, hb']
      rwa [Std.LawfulEqCmp.compare_eq_iff_eq]

end Wificond.OrderedMap
