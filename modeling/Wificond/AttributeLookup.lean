import Wificond.AttributeHalting

/-!
# What a lookup finds

A search for a type comes to at most one header of that type, and returns the bytes from
there to the rounded end of the attribute if they lie inside the buffer. All readers of a
single attribute start from these bytes.
-/
namespace Wificond

open LittleEndian PaddedTlv StepLoop

section Slices
variable {data : List UInt8} {ptr size off w start stop : ℕ}

theorem length_slice_of_le (h : stop ≤ data.length) : (slice data start stop).length =
    stop - start := by
  simp [slice]
  omega

/-- A field of a part of the buffer is a field of the buffer. -/
theorem field_slice (h : off + w ≤ size) :
    field (slice data ptr (ptr + size)) off w = field data (ptr + off) w := by
  have hmin : min w (size - off) = w := by omega
  simp only [field, slice, Nat.add_sub_cancel_left, List.drop_take, List.drop_drop,
    List.take_take, hmin]

theorem slice_slice (h : stop ≤ size) :
    slice (slice data ptr (ptr + size)) start stop = slice data (ptr + start) (ptr + stop) := by
  have hmin : min (stop - start) (size - start) = stop - start := by omega
  simp only [slice, Nat.add_sub_cancel_left, List.drop_take, List.drop_drop, List.take_take,
    hmin, Nat.add_sub_add_left]

end Slices

/-- The headers that stand one behind the other from `start` on, each as far behind the one
before as that one's length says. -/
inductive Chain (data : List UInt8) (start : ℕ) : ℕ → Prop
  | first (h : start + nlaHdrlen ≤ data.length) : Chain data start start
  | behind {ptr : ℕ} (h : Chain data start ptr)
      (hroom : ptr + nlaAlign (nlaLen data ptr) + nlaHdrlen ≤ data.length) :
      Chain data start (ptr + nlaAlign (nlaLen data ptr))

/-- The attribute at `ptr` lies inside the buffer, with its padding. -/
def Inside (data : List UInt8) (ptr : ℕ) : Prop :=
  ptr + nlaAlign (nlaLen data ptr) ≤ data.length

instance (data : List UInt8) (ptr : ℕ) : Decidable (Inside data ptr) :=
  inferInstanceAs (Decidable (_ ≤ _))

/-- The attribute at `ptr` as the vector that the walkers copy. -/
def attributeAt (data : List UInt8) (ptr : ℕ) : BaseNL80211Attr :=
  ⟨slice data ptr (ptr + nlaAlign (nlaLen data ptr))⟩

section Area
variable {data : List UInt8} {start ptr id : ℕ}

theorem Chain.room (h : Chain data start ptr) : ptr + nlaHdrlen ≤ data.length := by
  cases h <;> assumption

theorem MeetsHeader.chain (h : MeetsHeader data id start ptr) : Chain data start ptr := by
  induction h with
  | first h => exact .first h
  | behind _ _ hroom ih => exact .behind ih hroom

theorem length_attributeAt (h : Inside data ptr) :
    (attributeAt data ptr).data.length = nlaAlign (nlaLen data ptr) := by
  rw [attributeAt, length_slice_of_le h, Nat.add_sub_cancel_left]

theorem attributeAt_of_zero (h : nlaLen data ptr = 0) : attributeAt data ptr = ⟨[]⟩ := by
  simp [attributeAt, h, slice_self]

/-- The copy starts with the header it was cut out by. -/
theorem nlaLen_attributeAt (h : nlaLen data ptr ≠ 0) :
    nlaLen (attributeAt data ptr).data 0 = nlaLen data ptr := by
  have hfour : 4 ≤ nlaAlign (nlaLen data ptr) := four_le_align4 h
  rw [attributeAt, nlaLen, field_slice (by omega)]
  rfl

/-- `IsValid` asks no more of the copy than that it is not empty. -/
theorem isValid_attributeAt (h : Inside data ptr) :
    (attributeAt data ptr).isValid = true ↔ nlaLen data ptr ≠ 0 := by
  by_cases hzero : nlaLen data ptr = 0
  · simp [attributeAt_of_zero hzero, hzero, BaseNL80211Attr.isValid]
  · have hfour : 4 ≤ nlaAlign (nlaLen data ptr) := four_le_align4 hzero
    refine iff_of_true ?_ hzero
    rw [BaseNL80211Attr.isValid, length_attributeAt h, nlaLen_attributeAt hzero,
      if_neg (by unfold nlaHdrlen; omega), decide_eq_true rfl]

end Area

/-- The search for `id` comes to `ptr` and finds its type there. -/
def IsFirst (data : List UInt8) (start id ptr : ℕ) : Prop :=
  MeetsHeader data id start ptr ∧ nlaType data ptr = id

section Lookup
variable {data : List UInt8} {start id ptr : ℕ}

theorem noZeroLength_of_halts (h : Halts (getAttributeStep data id) start) :
    NoZeroLength data id start := by
  intro ptr hmeets htype hzero
  have hstuck := not_halts_of_fixed (hmeets.standstill htype hzero)
  exact hstuck ((halts_visits hmeets.visits).mp h)

theorem getAttributeStep_eq_some_iff {first last : ℕ} :
    getAttributeStep data id ptr = .inr (.ok (some (first, last))) ↔
      ptr + nlaHdrlen ≤ data.length ∧ nlaType data ptr = id ∧ Inside data ptr ∧ first = ptr ∧
        last = ptr + nlaAlign (nlaLen data ptr) := by
  unfold getAttributeStep Inside
  split_ifs with hhead htype hout
  · simp [hout]
  · have hin : ptr + nlaAlign (nlaLen data ptr) ≤ data.length := not_lt.mp hout
    simp [hhead, hin, htype, eq_comm]
  · simp [htype]
  · simp [hhead]

/-- The search finds the first attribute of its type if that lies inside the buffer. -/
theorem getAttributeImpl_eq_some_iff {first last : ℕ} :
    getAttributeImpl data start id = .ok (some (first, last)) ↔
      IsFirst data start id first ∧ Inside data first ∧
        last = first + nlaAlign (nlaLen data first) := by
  rw [getAttributeImpl, walk]
  constructor
  · intro h
    cases hrun : run (getAttributeStep data id) (data.length + 1) start with
    | none => simp [hrun] at h
    | some result =>
      obtain rfl : result = .ok (some (first, last)) := by simpa only [hrun] using h
      obtain ⟨ptr, hvisits, hleave⟩ := exists_leave_of_run hrun
      obtain ⟨hhead, htype, hin, rfl, rfl⟩ := getAttributeStep_eq_some_iff.mp hleave
      exact ⟨⟨.of_visits hvisits hhead, htype⟩, hin, rfl⟩
  · intro h
    obtain ⟨⟨hmeets, htype⟩, hin, rfl⟩ := h
    have hleave := getAttributeStep_eq_some_iff.mpr ⟨hmeets.room, htype, hin, rfl, rfl⟩
    have hcond := noZeroLength_of_halts (halts_of_visits_leave hmeets.visits hleave)
    have hadv := ((getAttributeStep_terminates_iff data id start).mpr hcond).1
    have hsome := run_isSome_of_advances (fun a b hab => getAttributeStep_bound hab) hadv
    rw [run_eq_of_visits_leave hmeets.visits hleave hsome]

/-- A search takes no range that it has not tested. -/
theorem getAttributeImpl_ne_outOfRange (data : List UInt8) (start id : ℕ) :
    getAttributeImpl data start id ≠ .error .outOfRange := by
  rw [getAttributeImpl, walk]
  cases hrun : run (getAttributeStep data id) (data.length + 1) start with
  | none => simp
  | some result =>
    intro h
    obtain rfl : result = .error .outOfRange := h
    obtain ⟨ptr, -, hleave⟩ := exists_leave_of_run hrun
    unfold getAttributeStep at hleave
    split_ifs at hleave <;> simp at hleave

/-- The search stops at the first header of the type. -/
theorem IsFirst.eq {ptr' : ℕ} (h : IsFirst data start id ptr) (h' : IsFirst data start id ptr') :
    ptr = ptr' := by
  have hstop {a b : ℕ} (hfirst : IsFirst data start id a)
      (hvisits : Visits (getAttributeStep data id) a b) : a = b := by
    rcases Relation.ReflTransGen.cases_head hvisits with hsame | ⟨c, hstep, -⟩
    · exact hsame
    · exact absurd hfirst.2 (getAttributeStep_inl.mp hstep).2.1
  have hdet : Relator.RightUnique fun a b => getAttributeStep data id a = .inl b := by
    intro a b c hb hc
    exact Sum.inl.inj (hb.symm.trans hc)
  rcases Relation.ReflTransGen.total_of_right_unique hdet h.1.visits h'.1.visits with
    hvisits | hvisits
  · exact hstop h hvisits
  · exact (hstop h' hvisits).symm

theorem getAttributeImpl_of_isFirst (h : IsFirst data start id ptr) :
    getAttributeImpl data start id =
      .ok (if Inside data ptr then some (ptr, ptr + nlaAlign (nlaLen data ptr)) else none) := by
  by_cases hin : Inside data ptr
  · rw [if_pos hin]
    exact getAttributeImpl_eq_some_iff.mpr ⟨h, hin, rfl⟩
  · rw [if_neg hin]
    have hcond : NoZeroLength data id start := by
      apply noZeroLength_of_halts
      refine halts_of_visits_leave h.1.visits (r := .ok none) ?_
      have hout : ptr + nlaAlign (nlaLen data ptr) > data.length := not_le.mp hin
      simp [getAttributeStep, h.1.room, h.2, hout]
    cases hfound : getAttributeImpl data start id with
    | error fault =>
      cases fault with
      | spin => exact absurd hcond ((getAttributeImpl_eq_spin_iff data id start).mp hfound)
      | outOfRange => exact absurd hfound (getAttributeImpl_ne_outOfRange data start id)
    | ok found =>
      cases found with
      | none => rfl
      | some range =>
        obtain ⟨hfirst, hin', -⟩ := getAttributeImpl_eq_some_iff.mp hfound
        exact absurd (h.eq hfirst ▸ hin') hin

theorem getAttributeImpl_of_noHeader (hends : NoZeroLength data id start)
    (h : ∀ ptr, ¬ IsFirst data start id ptr) : getAttributeImpl data start id = .ok none := by
  cases hfound : getAttributeImpl data start id with
  | error fault =>
    cases fault with
    | spin => exact absurd hends ((getAttributeImpl_eq_spin_iff data id start).mp hfound)
    | outOfRange => exact absurd hfound (getAttributeImpl_ne_outOfRange data start id)
  | ok found =>
    cases found with
    | none => rfl
    | some range => exact absurd (getAttributeImpl_eq_some_iff.mp hfound).1 (h range.1)

variable {valid : BaseNL80211Attr → Bool} {attr : BaseNL80211Attr}

theorem getAttributeFrom_eq :
    getAttributeFrom data start valid id = (getAttributeImpl data start id).map fun found =>
      found.bind fun range => if valid ⟨slice data range.1 range.2⟩ then
        some ⟨slice data range.1 range.2⟩ else none := by
  unfold getAttributeFrom
  cases getAttributeImpl data start id with
  | error fault => rfl
  | ok found => cases found <;> rfl

/-- `GetAttribute` returns the first attribute of the type if it lies inside the buffer and
the test of the class accepts it. -/
theorem getAttributeFrom_eq_some_iff :
    getAttributeFrom data start valid id = .ok (some attr) ↔
      ∃ ptr, IsFirst data start id ptr ∧ Inside data ptr ∧ attr = attributeAt data ptr ∧
        valid attr = true := by
  rw [getAttributeFrom_eq]
  constructor
  · intro h
    cases himpl : getAttributeImpl data start id with
    | error fault => simp [himpl, Except.map] at h
    | ok found =>
      rw [himpl, Except.map, Except.ok.injEq, Option.bind_eq_some_iff] at h
      obtain ⟨range, rfl, h⟩ := h
      obtain ⟨hfirst, hin, hlast⟩ := getAttributeImpl_eq_some_iff.mp himpl
      rw [hlast] at h
      split_ifs at h with hvalid
      obtain rfl := Option.some.inj h
      exact ⟨range.1, hfirst, hin, rfl, hvalid⟩
  · intro h
    obtain ⟨ptr, hfirst, hin, rfl, hvalid⟩ := h
    rw [getAttributeImpl_eq_some_iff.mpr ⟨hfirst, hin, rfl⟩]
    rw [attributeAt] at hvalid ⊢
    simp [Except.map, hvalid]

theorem getAttributeFrom_ne_outOfRange (data : List UInt8) (start : ℕ)
    (valid : BaseNL80211Attr → Bool) (id : ℕ) :
    getAttributeFrom data start valid id ≠ .error .outOfRange := by
  have himpl := getAttributeImpl_ne_outOfRange data start id
  rw [getAttributeFrom_eq]
  cases h : getAttributeImpl data start id with
  | error fault => simpa [Except.map, h] using himpl
  | ok found => simp [Except.map]

variable {α : Type} {t : AttrTemplate α}

theorem getAttributeValueFrom_eq :
    getAttributeValueFrom data start t id =
      (getAttributeFrom data start t.isValid id).bind fun found =>
        match found with
        | none => .ok none
        | some attr => (t.getValue attr).map some := by
  unfold getAttributeValueFrom
  cases getAttributeFrom data start t.isValid id with
  | error fault => rfl
  | ok found =>
    cases found with
    | none => rfl
    | some attr =>
      show (t.getValue attr).bind (fun v => .ok (some v)) = (t.getValue attr).map some
      cases t.getValue attr <;> rfl

theorem getAttributeValueFrom_eq_some_iff {v : α} :
    getAttributeValueFrom data start t id = .ok (some v) ↔
      ∃ attr, getAttributeFrom data start t.isValid id = .ok (some attr) ∧
        t.getValue attr = .ok v := by
  rw [getAttributeValueFrom_eq]
  cases getAttributeFrom data start t.isValid id with
  | error fault => simp [Except.bind]
  | ok found =>
    cases found with
    | none => simp [Except.bind]
    | some attr => cases hv : t.getValue attr <;> simp [Except.bind, Except.map, hv]

theorem getAttributeValueFrom_eq_outOfRange_iff :
    getAttributeValueFrom data start t id = .error .outOfRange ↔
      ∃ attr, getAttributeFrom data start t.isValid id = .ok (some attr) ∧
        t.getValue attr = .error .outOfRange := by
  have hfrom := getAttributeFrom_ne_outOfRange data start t.isValid id
  rw [getAttributeValueFrom_eq]
  cases h : getAttributeFrom data start t.isValid id with
  | error fault => simpa [Except.bind, h] using hfrom
  | ok found =>
    cases found with
    | none => simp [Except.bind]
    | some attr => cases hv : t.getValue attr <;> simp [Except.bind, Except.map, hv]

end Lookup

end Wificond
