import Wificond.AttributeLookup

/-!
# Attributes that are accepted

Every test of `nla_len` rounds it up to four bytes first. The length of an attribute that
is accepted therefore ends inside the buffer, but it may be less than the header: lengths
one to three round to the size of a header.
-/
namespace Wificond

open LittleEndian PaddedTlv StepLoop

/-- A length that rounds to the size of a header without being one. -/
def ShortHeader (data : List UInt8) (ptr : ℕ) : Prop :=
  nlaLen data ptr ≠ 0 ∧ nlaLen data ptr < nlaHdrlen

instance (data : List UInt8) (ptr : ℕ) : Decidable (ShortHeader data ptr) :=
  inferInstanceAs (Decidable (_ ∧ _))

section Walk
variable {data : List UInt8} {start ptr : ℕ}

theorem ShortHeader.inside (h : ShortHeader data ptr) (hroom : ptr + nlaHdrlen ≤ data.length) :
    Inside data ptr := by
  have halign : nlaAlign (nlaLen data ptr) = 4 := by
    obtain ⟨hzero, hlt⟩ := h
    simp only [nlaAlign, align4, nlaHdrlen] at hlt ⊢
    omega
  rw [Inside, halign]
  exact hroom

variable {β γ : Type} {step : ℕ × β → (ℕ × β) ⊕ Exec γ}

/-- A walk that goes from each attribute to the one behind it and takes the range of bytes
between header and end of each. -/
structure TakesPayloads (data : List UInt8) (step : ℕ × β → (ℕ × β) ⊕ Exec γ) : Prop where
  next : ∀ ptr b ptr' b', step (ptr, b) = .inl (ptr', b') →
    ptr + nlaHdrlen ≤ data.length ∧ ptr' = ptr + nlaAlign (nlaLen data ptr) ∧ ptr < ptr'
  fault : ∀ ptr b, step (ptr, b) = .inr (.error .outOfRange) →
    ptr + nlaHdrlen ≤ data.length ∧ ShortHeader data ptr
  short : ∀ ptr b, ptr + nlaHdrlen ≤ data.length → ShortHeader data ptr →
    step (ptr, b) = .inr (.error .outOfRange)
  long : ∀ ptr b, ptr + nlaHdrlen ≤ data.length → Inside data ptr →
    nlaHdrlen ≤ nlaLen data ptr → ∃ b', step (ptr, b) = .inl (ptr + nlaAlign (nlaLen data ptr), b')

namespace TakesPayloads

/-- Each header of the chain is come to, unless there is a fault before. -/
theorem visits_or_fault (hstep : TakesPayloads data step) (b : β) (h : Chain data start ptr) :
    (∃ b', Visits step (start, b) (ptr, b')) ∨
      ∃ t, Visits step (start, b) t ∧ step t = .inr (.error .outOfRange) := by
  induction h with
  | first => exact .inl ⟨b, .refl⟩
  | @behind ptr hchain hroom ih =>
    rcases ih with ⟨b', hvisits⟩ | hfault
    · by_cases hzero : nlaLen data ptr = 0
      · exact .inl ⟨b', by simpa [hzero] using hvisits⟩
      by_cases hlen : nlaLen data ptr < nlaHdrlen
      · exact .inr ⟨(ptr, b'), hvisits, hstep.short ptr b' hchain.room ⟨hzero, hlen⟩⟩
      · have hin : Inside data ptr := Nat.le_trans (Nat.le_add_right _ _) hroom
        obtain ⟨b'', hnext⟩ := hstep.long ptr b' hchain.room hin (not_lt.mp hlen)
        exact .inl ⟨b'', hvisits.tail hnext⟩
    · exact .inr hfault

theorem chain_of_visits (hstep : TakesPayloads data step) {b : β} {t : ℕ × β}
    (h : Visits step (start, b) t) (hroom : t.1 + nlaHdrlen ≤ data.length) :
    Chain data start t.1 := by
  induction h with
  | refl => exact .first hroom
  | @tail t t' _ hnext ih =>
    obtain ⟨hhead, heq, -⟩ := hstep.next t.1 t.2 t'.1 t'.2 hnext
    rw [heq] at hroom ⊢
    exact .behind (ih hhead) hroom

/-- The walk comes to an end. -/
theorem run_isSome (hstep : TakesPayloads data step) (start : ℕ) (b : β) :
    (run step (data.length + 1) (start, b)).isSome :=
  run_isSome_of_advances
    (fun a b hab => lt_of_header_le (hstep.next a.1 a.2 b.1 b.2 hab).1)
    (advances_of_forall fun a b hab => (hstep.next a.1 a.2 b.1 b.2 hab).2.2)

/-- It takes a reversed range exactly when there is a short header in the chain. -/
theorem walk_eq_outOfRange_iff (hstep : TakesPayloads data step) (start : ℕ) (b : β) :
    walk step data.length (start, b) = .error .outOfRange ↔
      ∃ ptr, Chain data start ptr ∧ ShortHeader data ptr := by
  obtain ⟨result, hrun⟩ := Option.isSome_iff_exists.mp (hstep.run_isSome start b)
  rw [walk, hrun]
  constructor
  · intro h
    obtain rfl : result = .error .outOfRange := h
    obtain ⟨t, hvisits, hleave⟩ := exists_leave_of_run hrun
    obtain ⟨hroom, hshort⟩ := hstep.fault t.1 t.2 hleave
    exact ⟨t.1, hstep.chain_of_visits hvisits hroom, hshort⟩
  · intro h
    obtain ⟨ptr, hchain, hshort⟩ := h
    obtain ⟨t, hvisits, hleave⟩ : ∃ t, Visits step (start, b) t ∧
        step t = .inr (.error .outOfRange) := by
      rcases hstep.visits_or_fault b hchain with ⟨b', hvisits⟩ | hfault
      · exact ⟨(ptr, b'), hvisits, hstep.short ptr b' hchain.room hshort⟩
      · exact hfault
    have hresult := run_eq_of_visits_leave hvisits hleave (hstep.run_isSome start b)
    exact Option.some.inj (hrun.symm.trans hresult)

end TakesPayloads

end Walk

/-- There is a header, and the payload ends inside the attribute's bytes. -/
def InBounds (attr : BaseNL80211Attr) : Prop :=
  nlaHdrlen ≤ nlaLen attr.data 0 ∧ nlaLen attr.data 0 ≤ attr.data.length

instance (attr : BaseNL80211Attr) : Decidable (InBounds attr) :=
  inferInstanceAs (Decidable (_ ∧ _))

/-- A template without a size test of its own that takes the range of the payload. -/
structure ReadsPayload {α : Type} (t : AttrTemplate α) : Prop where
  isValid : t.isValid = BaseNL80211Attr.isValid
  inRange : ∀ attr, InBounds attr → ∃ v, t.getValue attr = .ok v
  outOfRange : ∀ attr, ¬ InBounds attr → t.getValue attr = .error .outOfRange

theorem readsPayload_vector : ReadsPayload AttrTemplate.vector where
  isValid := rfl
  inRange _ h := ⟨_, if_pos h⟩
  outOfRange _ h := if_neg h

theorem readsPayload_string : ReadsPayload AttrTemplate.string where
  isValid := rfl
  inRange _ h := ⟨_, if_pos h⟩
  outOfRange _ h := if_neg h

section Payload
variable {data : List UInt8} {ptr : ℕ} {α : Type}

theorem inBounds_attributeAt (hin : Inside data ptr) (hzero : nlaLen data ptr ≠ 0) :
    InBounds (attributeAt data ptr) ↔ ¬ ShortHeader data ptr := by
  have hle : nlaLen data ptr ≤ nlaAlign (nlaLen data ptr) := le_align4 _
  rw [InBounds, nlaLen_attributeAt hzero, length_attributeAt hin, ShortHeader]
  omega

theorem getListStep_of_inside {element : BaseNL80211Attr → Exec (Option α)} {found : List α}
    (hhead : ptr + nlaHdrlen ≤ data.length) (hin : Inside data ptr) :
    getListStep element data (ptr, found) =
      match element (attributeAt data ptr) with
      | .error fault => .inr (.error fault)
      | .ok none => .inr (.ok none)
      | .ok (some value) => .inl (ptr + nlaAlign (nlaLen data ptr), found ++ [value]) := by
  rw [Inside] at hin
  exact (if_pos hhead).trans (if_neg (not_lt.mpr hin))

/-- A list walk goes on behind an attribute that lies inside the buffer and that it takes. -/
theorem getListStep_eq_inl_iff {element : BaseNL80211Attr → Exec (Option α)}
    {found found' : List α} {ptr' : ℕ} :
    getListStep element data (ptr, found) = .inl (ptr', found') ↔
      ptr + nlaHdrlen ≤ data.length ∧ Inside data ptr ∧
        ptr' = ptr + nlaAlign (nlaLen data ptr) ∧
        ∃ v, element (attributeAt data ptr) = .ok (some v) ∧ found' = found ++ [v] := by
  by_cases hhead : ptr + nlaHdrlen ≤ data.length
  · by_cases hin : Inside data ptr
    · rw [getListStep_of_inside hhead hin]
      rcases element (attributeAt data ptr) with fault | ⟨- | v⟩
      · simp
      · simp
      · simp [hhead, hin, eq_comm]
    · have hout : data.length < ptr + nlaAlign (nlaLen data ptr) := not_le.mp hin
      simp [getListStep, hhead, hin, hout]
  · simp [getListStep, hhead]

theorem getListStep_eq_error_iff {element : BaseNL80211Attr → Exec (Option α)} {found : List α}
    {fault : Fault} :
    getListStep element data (ptr, found) = .inr (.error fault) ↔
      ptr + nlaHdrlen ≤ data.length ∧ Inside data ptr ∧
        element (attributeAt data ptr) = .error fault := by
  by_cases hhead : ptr + nlaHdrlen ≤ data.length
  · by_cases hin : Inside data ptr
    · rw [getListStep_of_inside hhead hin]
      rcases element (attributeAt data ptr) with fault | ⟨- | v⟩ <;> simp [hhead, hin]
    · have hout : data.length < ptr + nlaAlign (nlaLen data ptr) := not_le.mp hin
      simp [getListStep, hhead, hin, hout]
  · simp [getListStep, hhead]

open NL80211NestedAttr in
/-- What the value list takes from an attribute of the chain. -/
theorem valueElement_attributeAt {t : AttrTemplate α} (ht : ReadsPayload t)
    (hin : Inside data ptr) :
    (nlaLen data ptr = 0 → valueElement t (attributeAt data ptr) = .ok none) ∧
    (ShortHeader data ptr → valueElement t (attributeAt data ptr) = .error .outOfRange) ∧
    (nlaHdrlen ≤ nlaLen data ptr → ∃ v, valueElement t (attributeAt data ptr) = .ok (some v)) := by
  refine ⟨fun hzero => ?_, fun hshort => ?_, fun hlen => ?_⟩
  · rw [attributeAt_of_zero hzero, valueElement, ht.isValid]
    rfl
  · have hvalid := (isValid_attributeAt hin).mpr hshort.1
    have hout := ht.outOfRange _ ((inBounds_attributeAt hin hshort.1).not_left.mpr hshort)
    simp [valueElement, ht.isValid, hvalid, hout, Except.map]
  · have hzero : nlaLen data ptr ≠ 0 := by
      unfold nlaHdrlen at hlen
      omega
    have hvalid := (isValid_attributeAt hin).mpr hzero
    obtain ⟨v, hv⟩ := ht.inRange _ ((inBounds_attributeAt hin hzero).mpr
      fun hshort => absurd hshort.2 (not_lt.mpr hlen))
    exact ⟨v, by simp [valueElement, ht.isValid, hvalid, hv, Except.map]⟩

end Payload

open NL80211NestedAttr in
theorem takesPayloads_getListStep {α : Type} {t : AttrTemplate α} (ht : ReadsPayload t)
    (data : List UInt8) : TakesPayloads data (getListStep (valueElement t) data) where
  next ptr found ptr' found' h := by
    obtain ⟨hhead, hin, hptr, v, hv, -⟩ := getListStep_eq_inl_iff.mp h
    have hzero : nlaLen data ptr ≠ 0 := by
      intro hzero
      simp [(valueElement_attributeAt ht hin).1 hzero] at hv
    have hfour : 4 ≤ nlaAlign (nlaLen data ptr) := four_le_align4 hzero
    exact ⟨hhead, hptr, by omega⟩
  fault ptr found h := by
    obtain ⟨hhead, hin, herror⟩ := getListStep_eq_error_iff.mp h
    obtain ⟨hempty, -, hlong⟩ := valueElement_attributeAt ht hin
    refine ⟨hhead, fun hzero => ?_, not_le.mp fun hlen => ?_⟩
    · simp [hempty hzero] at herror
    · obtain ⟨v, hv⟩ := hlong hlen
      simp [hv] at herror
  short ptr found hhead hshort :=
    getListStep_eq_error_iff.mpr ⟨hhead, hshort.inside hhead,
      (valueElement_attributeAt ht (hshort.inside hhead)).2.1 hshort⟩
  long ptr found hhead hin hlen := by
    obtain ⟨v, hv⟩ := (valueElement_attributeAt ht hin).2.2 hlen
    exact ⟨found ++ [v], getListStep_eq_inl_iff.mpr ⟨hhead, hin, rfl, v, hv, rfl⟩⟩

open NL80211Packet in
theorem takesPayloads_getAllStep (data : List UInt8) : TakesPayloads data (getAllStep data) where
  next ptr found ptr' found' h := by
    have hadvances : ptr < data.length ∧ ptr < ptr' := getAllStep_advances h
    simp only [getAllStep] at h
    split_ifs at h with hhead hbad hlen
    exact ⟨hhead, (Prod.mk.inj (Sum.inl.inj h)).1.symm, hadvances.2⟩
  fault ptr found h := by
    simp only [getAllStep] at h
    split_ifs at h with hhead hbad hlen
    · simp at h
    · exact ⟨hhead, fun hzero => hbad (.inr hzero), hlen⟩
    · simp at h
  short ptr found hhead hshort := by
    have hin : ptr + nlaAlign (nlaLen data ptr) ≤ data.length := hshort.inside hhead
    have hbad : ¬ (ptr + nlaAlign (nlaLen data ptr) > data.length ∨ nlaLen data ptr = 0) :=
      not_or.mpr ⟨not_lt.mpr hin, hshort.1⟩
    simp only [getAllStep, if_pos hhead, if_neg hbad, if_pos hshort.2]
  long ptr found hhead hin hlen := by
    have hbad : ¬ (ptr + nlaAlign (nlaLen data ptr) > data.length ∨ nlaLen data ptr = 0) := by
      rw [Inside] at hin
      unfold nlaHdrlen at hlen
      omega
    simp only [getAllStep, if_pos hhead, if_neg hbad, if_neg (not_lt.mpr hlen)]
    exact ⟨_, rfl⟩

section Accepted
variable {data : List UInt8} {start id : ℕ} {attr : BaseNL80211Attr}

theorem ValueType.isValid_base (k : ValueType) (h : k.template.isValid attr = true) :
    attr.isValid = true := by
  cases k with
  | int t =>
    by_contra hbase
    simp [ValueType.template, AttrTemplate.int, hbase] at h
  | vector | array n | string => exact h

/-- A vector that `IsValid` accepts starts with a header whose length, rounded, is its own. -/
theorem align_of_isValid (h : attr.isValid = true) :
    nlaHdrlen ≤ attr.data.length ∧ nlaAlign (nlaLen attr.data 0) = attr.data.length := by
  unfold BaseNL80211Attr.isValid at h
  split_ifs at h with hlen
  exact ⟨not_lt.mp hlen, of_decide_eq_true h⟩

theorem inBounds_iff_of_isValid (h : attr.isValid = true) :
    InBounds attr ↔ ¬ ShortHeader attr.data 0 := by
  obtain ⟨hlen, halign⟩ := align_of_isValid h
  have hle : nlaLen attr.data 0 ≤ nlaAlign (nlaLen attr.data 0) := le_align4 _
  have hzero : nlaLen attr.data 0 ≠ 0 := by
    intro hzero
    rw [hzero] at halign
    simp [nlaHdrlen, ← halign] at hlen
  rw [InBounds, ShortHeader]
  omega

theorem inBounds_of_getAttributeFrom {valid : BaseNL80211Attr → Bool}
    (hvalid : ∀ attr, valid attr = true → attr.isValid = true)
    (hchain : ∀ ptr, Chain data start ptr → ¬ ShortHeader data ptr)
    (h : getAttributeFrom data start valid id = .ok (some attr)) : InBounds attr := by
  obtain ⟨ptr, hfirst, hin, rfl, hattr⟩ := getAttributeFrom_eq_some_iff.mp h
  have hzero := (isValid_attributeAt hin).mp (hvalid _ hattr)
  exact (inBounds_attributeAt hin hzero).mpr (hchain ptr hfirst.1.chain)

/-- The result of a list walk is what it had collected when it left. -/
theorem eq_of_getListStep {α : Type} {element : BaseNL80211Attr → Exec (Option α)} {ptr : ℕ}
    {found values : List α} (h : getListStep element data (ptr, found) = .inr (.ok (some values))) :
    values = found := by
  by_cases hhead : ptr + nlaHdrlen ≤ data.length
  · by_cases hin : Inside data ptr
    · rw [getListStep_of_inside hhead hin] at h
      split at h <;> simp at h
    · have hout : data.length < ptr + nlaAlign (nlaLen data ptr) := not_le.mp hin
      simp [getListStep, hhead, hout] at h
  · simpa [getListStep, hhead, eq_comm] using h

open NL80211NestedAttr in
theorem inBounds_of_list {valid : BaseNL80211Attr → Bool}
    (hvalid : ∀ attr, valid attr = true → attr.isValid = true)
    (hchain : ∀ ptr, Chain data start ptr → ¬ ShortHeader data ptr) {attrs : List BaseNL80211Attr}
    (h : walk (getListStep (attributeElement valid) data) data.length (start, []) =
      .ok (some attrs)) : ∀ attr ∈ attrs, InBounds attr := by
  cases hrun : run (getListStep (attributeElement valid) data) (data.length + 1) (start, []) with
  | none => simp [walk, hrun] at h
  | some result =>
    obtain rfl : result = .ok (some attrs) := by simpa only [walk, hrun] using h
    obtain ⟨t, hvisits, hleave⟩ := exists_leave_of_run hrun
    rw [eq_of_getListStep hleave]
    -- what is collected behind a header of the chain came from headers of the chain
    have hinv : (t.1 + nlaHdrlen ≤ data.length → Chain data start t.1) ∧
        ∀ attr ∈ t.2, InBounds attr := by
      clear hrun hleave h
      induction hvisits with
      | refl => exact ⟨.first, by simp⟩
      | @tail t t' _ hstep ih =>
        obtain ⟨hhead, hin, hptr, v, hv, hfound⟩ := getListStep_eq_inl_iff.mp hstep
        have hat := ih.1 hhead
        have htaken : valid (attributeAt data t.1) = true ∧ attributeAt data t.1 = v := by
          simpa [attributeElement] using hv
        obtain ⟨hattr, rfl⟩ := htaken
        refine ⟨fun hroom => by rw [hptr] at hroom ⊢; exact .behind hat hroom, ?_⟩
        rw [hfound]
        intro attr hmem
        rcases List.mem_append.mp hmem with hmem | hmem
        · exact ih.2 attr hmem
        · obtain rfl := List.mem_singleton.mp hmem
          have hzero := (isValid_attributeAt hin).mp (hvalid _ hattr)
          exact (inBounds_attributeAt hin hzero).mpr (hchain t.1 hat)
    exact hinv.2

open NL80211Packet in
/-- What `GetAllAttributes` decodes is laid out anew, with the length of what was cut out. -/
theorem inBounds_of_getAllAttributes {packet : NL80211Packet} {flag : Bool}
    {attributes : List BaseNL80211Attr}
    (h : packet.getAllAttributes = .ok (flag, attributes)) :
    ∀ attr ∈ attributes, InBounds attr := by
  rw [getAllAttributes, walk] at h
  cases hrun : run (getAllStep packet.data) (packet.data.length + 1) (attributeStart, []) with
  | none => simp [hrun] at h
  | some result =>
    obtain rfl : result = .ok (flag, attributes) := by simpa only [hrun] using h
    obtain ⟨t, hvisits, hleave⟩ := exists_leave_of_run hrun
    have hinv : ∀ attr ∈ t.2, InBounds attr := by
      clear hrun hleave h
      induction hvisits with
      | refl => simp
      | @tail t t' _ hstep ih =>
        obtain ⟨ptr, found⟩ := t
        simp only [getAllStep] at hstep
        split_ifs at hstep with hhead hbad hlen
        obtain rfl := Sum.inl.inj hstep
        intro attr hmem
        rcases List.mem_append.mp hmem with hmem | hmem
        · exact ih attr hmem
        · obtain rfl := List.mem_singleton.mp hmem
          have hlt : nlaLen packet.data ptr < 2 ^ 16 := field_lt packet.data ptr 2
          have hin : ptr + nlaLen packet.data ptr ≤ packet.data.length := by
            have hle : nlaLen packet.data ptr ≤ nlaAlign (nlaLen packet.data ptr) := le_align4 _
            have hroom := not_lt.mp (not_or.mp hbad).1
            omega
          rw [InBounds, nlaLen_ofPayload, ofPayload_eq_encode, Item.length_encode,
            length_slice_of_le hin]
          unfold nlaHdrlen at hlen ⊢
          have halign := le_align4 (ptr + nlaLen packet.data ptr - (ptr + 4))
          omega
    have hresult : attributes = t.2 := by
      simp only [getAllStep] at hleave
      split_ifs at hleave <;> simp at hleave
      · exact hleave.2.symm
      · exact hleave.2.symm
    rw [hresult]
    exact hinv

end Accepted

/-- Whatever is accepted from the buffer, taken as an attribute, as a nested attribute or as
a packet, has its payload between a header and the end of its bytes. -/
structure AcceptsInBounds (data : List UInt8) : Prop where
  isValid : ∀ k : ValueType, k.template.isValid ⟨data⟩ = true → InBounds ⟨data⟩
  nestedTyped : ∀ (k : ValueType) id attr,
    NL80211NestedAttr.getTypedAttribute ⟨data⟩ k.template id = .ok (some attr) → InBounds attr
  nested : ∀ id attr, NL80211NestedAttr.getAttribute ⟨data⟩ id = .ok (some attr) → InBounds attr
  packetTyped : ∀ (k : ValueType) id attr,
    NL80211Packet.getTypedAttribute ⟨data⟩ k.template id = .ok (some attr) → InBounds attr
  packet : ∀ id attr, NL80211Packet.getAttribute ⟨data⟩ id = .ok (some attr) → InBounds attr
  list : ∀ (k : ValueType) attrs,
    NL80211NestedAttr.getListOfAttributes ⟨data⟩ k.template = .ok (some attrs) →
      ∀ attr ∈ attrs, InBounds attr
  nestedList : ∀ attrs, NL80211NestedAttr.getListOfNestedAttributes ⟨data⟩ = .ok (some attrs) →
    ∀ attr ∈ attrs, InBounds attr
  decoded : ∀ flag attrs, NL80211Packet.getAllAttributes ⟨data⟩ = .ok (flag, attrs) →
    ∀ attr ∈ attrs, InBounds attr

/-- The templates that take the range of the payload. -/
def payloadTemplates : List (AttrTemplate (List UInt8)) := [.vector, .string]

/-- No range of bytes taken on the buffer is reversed or leaves it. -/
structure UsesInBounds (data : List UInt8) : Prop where
  value : ∀ t ∈ payloadTemplates, t.isValid ⟨data⟩ = true → t.getValue ⟨data⟩ ≠ .error .outOfRange
  nested : ∀ t ∈ payloadTemplates, ∀ id,
    NL80211NestedAttr.getAttributeValue ⟨data⟩ t id ≠ .error .outOfRange
  packet : ∀ t ∈ payloadTemplates, ∀ id,
    NL80211Packet.getAttributeValue ⟨data⟩ t id ≠ .error .outOfRange
  list : ∀ t ∈ payloadTemplates,
    NL80211NestedAttr.getListOfAttributeValues ⟨data⟩ t ≠ .error .outOfRange
  decoded : NL80211Packet.getAllAttributes ⟨data⟩ ≠ .error .outOfRange
  merge : ∀ attr : BaseNL80211Attr, nlaHdrlen ≤ attr.data.length →
    attr.merge ⟨data⟩ ≠ .error .outOfRange

/-- No header that is tested has length one, two or three: neither that of the buffer, where
it is just a header, nor one in the chain of a nested attribute or of a packet. -/
structure NoShortHeader (data : List UInt8) : Prop where
  single : data.length = nlaHdrlen → ¬ ShortHeader data 0
  nested : ∀ ptr, Chain data nlaHdrlen ptr → ¬ ShortHeader data ptr
  packet : ∀ ptr, Chain data NL80211Packet.attributeStart ptr → ¬ ShortHeader data ptr

section Buffer
variable {data : List UInt8}

theorem readsPayload_of_mem {t : AttrTemplate (List UInt8)} (h : t ∈ payloadTemplates) :
    ReadsPayload t := by
  simp only [payloadTemplates, List.mem_cons, List.not_mem_nil, or_false] at h
  rcases h with rfl | rfl
  · exact readsPayload_vector
  · exact readsPayload_string

theorem NoShortHeader.inBounds (h : NoShortHeader data)
    (hvalid : BaseNL80211Attr.isValid ⟨data⟩ = true) : InBounds ⟨data⟩ := by
  refine (inBounds_iff_of_isValid hvalid).mpr fun hshort => ?_
  obtain ⟨hlen, halign⟩ := align_of_isValid hvalid
  refine h.single ?_ hshort
  obtain ⟨hzero, hlt⟩ := hshort
  dsimp only at hlen halign
  simp only [nlaAlign, align4, nlaHdrlen] at hlen halign hlt ⊢
  omega

theorem NoShortHeader.acceptsInBounds (h : NoShortHeader data) : AcceptsInBounds data where
  isValid k hvalid := h.inBounds (k.isValid_base hvalid)
  nestedTyped k _ _ := inBounds_of_getAttributeFrom (fun _ => k.isValid_base) h.nested
  nested _ _ := inBounds_of_getAttributeFrom (fun _ => id) h.nested
  packetTyped k _ _ := inBounds_of_getAttributeFrom (fun _ => k.isValid_base) h.packet
  packet _ _ := inBounds_of_getAttributeFrom (fun _ => id) h.packet
  list k _ := inBounds_of_list (fun _ => k.isValid_base) h.nested
  nestedList _ := inBounds_of_list (fun _ => id) h.nested
  decoded _ _ := inBounds_of_getAllAttributes

/-- A value is read in range when the chain that it is looked up in has no short header. -/
theorem getAttributeValueFrom_ne_outOfRange {start : ℕ} {t : AttrTemplate (List UInt8)}
    (ht : ReadsPayload t) (hchain : ∀ ptr, Chain data start ptr → ¬ ShortHeader data ptr) (id : ℕ) :
    getAttributeValueFrom data start t id ≠ .error .outOfRange := by
  intro hout
  obtain ⟨attr, hattr, hvalue⟩ := getAttributeValueFrom_eq_outOfRange_iff.mp hout
  have hvalid : ∀ attr, t.isValid attr = true → attr.isValid = true := by
    rw [ht.isValid]
    exact fun _ h => h
  obtain ⟨v, hv⟩ := ht.inRange attr (inBounds_of_getAttributeFrom hvalid hchain hattr)
  simp [hv] at hvalue

/-- Merging into an attribute that has a header. -/
theorem merge_ne_outOfRange_iff :
    (∀ attr : BaseNL80211Attr, nlaHdrlen ≤ attr.data.length →
      attr.merge ⟨data⟩ ≠ .error .outOfRange) ↔
      (BaseNL80211Attr.isValid ⟨data⟩ = true → InBounds ⟨data⟩) := by
  constructor
  · intro h hvalid
    by_contra hout
    have hshort := (inBounds_iff_of_isValid hvalid).not_left.mp hout
    have hheader : nlaHdrlen ≤ data.length := (align_of_isValid hvalid).1
    exact h ⟨data⟩ hheader (by
      simp [BaseNL80211Attr.merge, hvalid, hshort.2, not_lt.mpr hheader])
  · intro h attr hheader
    unfold BaseNL80211Attr.merge
    rw [if_neg (not_lt.mpr hheader)]
    split_ifs with hvalid hid
    · simp
    · simp
    · have hin := h (by simpa using hvalid)
      simp [not_lt.mpr hin.1]

theorem NoShortHeader.usesInBounds (h : NoShortHeader data) : UsesInBounds data where
  value t ht hvalid hout := by
    have hreads := readsPayload_of_mem ht
    rw [hreads.isValid] at hvalid
    obtain ⟨v, hv⟩ := hreads.inRange _ (h.inBounds hvalid)
    simp [hv] at hout
  nested t ht := getAttributeValueFrom_ne_outOfRange (readsPayload_of_mem ht) h.nested
  packet t ht := getAttributeValueFrom_ne_outOfRange (readsPayload_of_mem ht) h.packet
  list t ht hout := by
    have hwalk := takesPayloads_getListStep (readsPayload_of_mem ht) data
    obtain ⟨ptr, hchain, hshort⟩ := (hwalk.walk_eq_outOfRange_iff nlaHdrlen []).mp hout
    exact h.nested ptr hchain hshort
  decoded hout := by
    obtain ⟨ptr, hchain, hshort⟩ := ((takesPayloads_getAllStep data).walk_eq_outOfRange_iff
      NL80211Packet.attributeStart []).mp hout
    exact h.packet ptr hchain hshort
  merge := merge_ne_outOfRange_iff.mpr h.inBounds

/-- On every buffer, what is accepted is in bounds and what is used is in range exactly when
no header that is tested is short. -/
theorem payloads_in_bounds_iff (data : List UInt8) :
    AcceptsInBounds data ∧ UsesInBounds data ↔ NoShortHeader data := by
  constructor
  · intro h
    obtain ⟨haccepts, huses⟩ := h
    refine ⟨fun hlen hshort => ?_, fun ptr hchain hshort => ?_, fun ptr hchain hshort => ?_⟩
    · have halign : nlaAlign (nlaLen data 0) = 4 := by
        obtain ⟨hzero, hlt⟩ := hshort
        simp only [nlaAlign, align4, nlaHdrlen] at hlt ⊢
        omega
      have hvalid : BaseNL80211Attr.isValid ⟨data⟩ = true := by
        simp [BaseNL80211Attr.isValid, hlen, halign]
      exact (inBounds_iff_of_isValid hvalid).mp (haccepts.isValid .vector hvalid) hshort
    · have hwalk := takesPayloads_getListStep readsPayload_vector data
      exact huses.list .vector (by simp [payloadTemplates])
        ((hwalk.walk_eq_outOfRange_iff nlaHdrlen []).mpr ⟨ptr, hchain, hshort⟩)
    · exact huses.decoded (((takesPayloads_getAllStep data).walk_eq_outOfRange_iff
        NL80211Packet.attributeStart []).mpr ⟨ptr, hchain, hshort⟩)
  · intro h
    exact ⟨h.acceptsInBounds, h.usesInBounds⟩

/-- Four bytes with length one pass `IsValid`, and a vector read from them is reversed. -/
theorem short_header_accepted :
    BaseNL80211Attr.isValid ⟨[1, 0, 5, 0]⟩ = true ∧ ¬ InBounds ⟨[1, 0, 5, 0]⟩ ∧
      AttrTemplate.vector.getValue ⟨[1, 0, 5, 0]⟩ = .error .outOfRange ∧
      ¬ (AcceptsInBounds [1, 0, 5, 0] ∧ UsesInBounds [1, 0, 5, 0]) := by
  refine ⟨by decide, by decide, rfl, fun h => ?_⟩
  have hin := h.1.isValid .vector (by decide)
  exact absurd hin (by decide)

end Buffer

end Wificond
