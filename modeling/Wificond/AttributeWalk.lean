import Wificond.Packet

/-!
# The walkers on well-formed areas

An attribute object built from an id and a payload is one padded record, and the
area of a packet or nested attribute is a list of such records. The lemmas below
give the result of every walker on an area laid out this way, whatever bytes
stand before it.
-/
namespace Wificond

open LittleEndian PaddedTlv

/-- `InitHeaderAndResize` lays out the two header fields and zeros. -/
theorem initHeaderAndResize_eq (id len : ℕ) :
    initHeaderAndResize id len =
      (bytesOf 2 (4 + len) ++ bytesOf 2 id) ++ List.replicate (align4 len) 0 := by
  have hz : resize [] (4 + align4 len) =
      bytesOf 2 0 ++ (bytesOf 2 0 ++ List.replicate (align4 len) 0) := by
    simp [resize, bytesOf, List.replicate_add]
  have hs : setField (bytesOf 2 0 ++ (bytesOf 2 0 ++ List.replicate (align4 len) 0)) 2 2 id =
      bytesOf 2 0 ++ (bytesOf 2 id ++ List.replicate (align4 len) 0) := by
    have h := setField_append_right (bytesOf 2 0)
      (bytesOf 2 0 ++ List.replicate (align4 len) 0) 0 2 id
    rwa [length_bytesOf, Nat.add_zero, setField_bytesOf_append] at h
  rw [initHeaderAndResize]
  simp only [hz, hs, setField_bytesOf_append, List.append_assoc]

/-- Filling the payload of a fresh header. -/
theorem overwrite_initHeaderAndResize (id len : ℕ) (payload : List UInt8) :
    overwrite (initHeaderAndResize id len) nlaHdrlen payload =
      (bytesOf 2 (4 + len) ++ bytesOf 2 id) ++
        (payload ++ List.replicate (align4 len - payload.length) 0) := by
  have h := overwrite_append_right (bytesOf 2 (4 + len) ++ bytesOf 2 id)
    (List.replicate (align4 len) 0) 0 payload
  rw [overwrite_zero, List.drop_replicate] at h
  rw [initHeaderAndResize_eq, ← h]
  simp

/-- The constructor from a payload lays out exactly one record. -/
theorem ofPayload_eq_encode (id : ℕ) (payload : List UInt8) :
    BaseNL80211Attr.ofPayload id payload = ⟨(Item.mk id payload).encode⟩ := by
  simp only [BaseNL80211Attr.ofPayload, overwrite_initHeaderAndResize, Item.encode,
    Item.padding, List.append_assoc]

/-- The length field holds the total length only as far as it fits. -/
theorem nlaLen_ofPayload (id : ℕ) (payload : List UInt8) :
    nlaLen (BaseNL80211Attr.ofPayload id payload).data 0 = (4 + payload.length) % 2 ^ 16 := by
  rw [ofPayload_eq_encode, Item.encode, nlaLen, field_bytesOf_append]
  norm_num

section Record
variable {i : Item}

theorem nlaAlign_four_add (n : ℕ) : nlaAlign (4 + n) = 4 + align4 n := align4_four_add n

theorem nlaLen_at (h : i.Fits) (pre rest : List UInt8) :
    nlaLen (pre ++ (i.encode ++ rest)) pre.length = 4 + i.payload.length :=
  i.field_length h pre rest

theorem nlaType_at (h : i.Fits) (pre rest : List UInt8) :
    nlaType (pre ++ (i.encode ++ rest)) pre.length = i.tag :=
  i.field_tag h pre rest

/-- The stop after a record is the start of what follows it. -/
theorem next_at (h : i.Fits) (pre rest : List UInt8) :
    pre.length + nlaAlign (nlaLen (pre ++ (i.encode ++ rest)) pre.length) =
      (pre ++ i.encode).length := by
  rw [nlaLen_at h, nlaAlign_four_add, List.length_append, Item.length_encode]

theorem header_room (i : Item) (pre rest : List UInt8) :
    pre.length + 4 ≤ (pre ++ (i.encode ++ rest)).length := by
  simp only [List.length_append, Item.length_encode]
  omega

theorem record_room (i : Item) (pre rest : List UInt8) :
    (pre ++ i.encode).length ≤ (pre ++ (i.encode ++ rest)).length := by
  simp only [List.length_append]
  omega

theorem nlaLen_encode (h : i.Fits) : nlaLen i.encode 0 = 4 + i.payload.length := by
  simpa using nlaLen_at h [] []

theorem getAttributeId_encode (h : i.Fits) : BaseNL80211Attr.getAttributeId ⟨i.encode⟩ = i.tag := by
  simpa [BaseNL80211Attr.getAttributeId] using nlaType_at h [] []

theorem isValid_encode (h : i.Fits) : BaseNL80211Attr.isValid ⟨i.encode⟩ = true := by
  simp [BaseNL80211Attr.isValid, nlaLen_encode h, nlaAlign_four_add]

/-- The payload of an attribute lies between the header and `nla_len`. -/
theorem slice_encode (i : Item) : slice i.encode 4 (4 + i.payload.length) = i.payload := by
  simpa using i.slice_payload [] []

end Record

section Lookup
variable {id : ℕ} {i : Item} {items : List Item}

theorem getAttributeStep_of_ne (hi : i.Fits) (htag : i.tag ≠ id) (pre rest : List UInt8) :
    getAttributeStep (pre ++ (i.encode ++ rest)) id pre.length = .inl (pre ++ i.encode).length := by
  simp only [getAttributeStep, if_pos (header_room i pre rest), nlaType_at hi, if_neg htag,
    next_at hi]

theorem getAttributeStep_of_eq (hi : i.Fits) (pre rest : List UInt8) :
    getAttributeStep (pre ++ (i.encode ++ rest)) i.tag pre.length =
      .inr (.ok (some (pre.length, (pre ++ i.encode).length))) := by
  simp only [getAttributeStep, if_pos (header_room i pre rest), nlaType_at hi, if_true,
    next_at hi, if_neg (not_lt.mpr (record_room i pre rest))]

/-- Records of other ids are passed over, whatever bytes follow them. -/
theorem getAttributeImpl_skip (hfits : ∀ i ∈ items, i.Fits) (hother : ∀ i ∈ items, i.tag ≠ id)
    (pre rest : List UInt8) {result : Exec (Option (ℕ × ℕ))}
    (hleave : getAttributeStep (pre ++ (encodeAll items ++ rest)) id
      (pre ++ encodeAll items).length = .inr result) :
    getAttributeImpl (pre ++ (encodeAll items ++ rest)) pre.length id = result := by
  have hskip (items : List Item) (hfits : ∀ i ∈ items, i.Fits) (hother : ∀ i ∈ items, i.tag ≠ id)
      (pre : List UInt8) (hleave : getAttributeStep (pre ++ (encodeAll items ++ rest)) id
        (pre ++ encodeAll items).length = .inr result) (n : ℕ) (hn : items.length < n) :
      StepLoop.run (getAttributeStep (pre ++ (encodeAll items ++ rest)) id) n pre.length =
        some result := by
    induction items generalizing pre n with
    | nil =>
      obtain ⟨n, rfl⟩ : ∃ k, n = k + 1 := ⟨n - 1, by omega⟩
      exact StepLoop.run_succ_leave (by simpa using hleave) n
    | cons i items ih =>
      obtain ⟨n, rfl⟩ : ∃ k, n = k + 1 := ⟨n - 1, by omega⟩
      have hstep := getAttributeStep_of_ne (hfits i (by simp)) (hother i (by simp)) pre
        (encodeAll items ++ rest)
      have hrun := ih (fun k hk => hfits k (by simp [hk])) (fun k hk => hother k (by simp [hk]))
        (pre ++ i.encode) (by simpa using hleave) n (by simpa using hn)
      rw [encodeAll_cons, List.append_assoc, StepLoop.run_succ_continue hstep]
      simpa using hrun
  have hn : items.length < (pre ++ (encodeAll items ++ rest)).length + 1 := by
    have h := length_le_encodeAll items
    simp only [List.length_append]
    omega
  rw [getAttributeImpl, walk, hskip items hfits hother pre hleave _ hn]

theorem getAttributeImpl_append (hfits : ∀ k ∈ items, k.Fits) (hi : i.Fits)
    (hother : ∀ k ∈ items, k.tag ≠ i.tag) (pre rest : List UInt8) :
    getAttributeImpl (pre ++ (encodeAll items ++ (i.encode ++ rest))) pre.length i.tag =
      .ok (some ((pre ++ encodeAll items).length,
        (pre ++ encodeAll items ++ i.encode).length)) := by
  apply getAttributeImpl_skip hfits hother
  rw [← List.append_assoc]
  exact getAttributeStep_of_eq hi (pre ++ encodeAll items) rest

/-- An attribute behind records of other ids is found whatever bytes follow it. -/
theorem getAttributeFrom_append (pre : List UInt8) (valid : BaseNL80211Attr → Bool)
    (hfits : ∀ k ∈ items, k.Fits) (hi : i.Fits) (hother : ∀ k ∈ items, k.tag ≠ i.tag)
    (rest : List UInt8) :
    getAttributeFrom (pre ++ (encodeAll items ++ (i.encode ++ rest))) pre.length valid i.tag =
      .ok (if valid ⟨i.encode⟩ then some ⟨i.encode⟩ else none) := by
  have hslice : slice (pre ++ (encodeAll items ++ (i.encode ++ rest)))
      (pre ++ encodeAll items).length (pre ++ encodeAll items ++ i.encode).length = i.encode := by
    have hrecord := i.slice_record (pre ++ encodeAll items) rest
    rwa [List.append_assoc, ← List.length_append] at hrecord
  simp only [getAttributeFrom, getAttributeImpl_append hfits hi hother]
  simp only [bind, Except.bind, hslice]
  rfl

theorem getAttributeImpl_of_absent (hfits : ∀ i ∈ items, i.Fits)
    (habsent : ∀ i ∈ items, i.tag ≠ id) (pre : List UInt8) :
    getAttributeImpl (pre ++ encodeAll items) pre.length id = .ok none := by
  have hend : getAttributeStep (pre ++ (encodeAll items ++ [])) id (pre ++ encodeAll items).length =
      .inr (.ok none) := by
    simp [getAttributeStep]
  have hskip := getAttributeImpl_skip hfits habsent pre [] hend
  rwa [List.append_nil] at hskip

/-- The first record of an id stands behind records of other ids. -/
theorem find?_tag_eq_some (h : items.find? (·.tag = id) = some i) :
    ∃ before after, items = before ++ i :: after ∧ i.tag = id ∧ ∀ k ∈ before, k.tag ≠ i.tag := by
  obtain ⟨htag, before, after, hsplit, hbefore⟩ := List.find?_eq_some_iff_append.mp h
  obtain rfl : i.tag = id := by simpa using htag
  exact ⟨before, after, hsplit, rfl, fun k hk => by simpa using hbefore k hk⟩

theorem hasAttributeFrom_encodeAll (pre : List UInt8) (id : ℕ) (items : List Item)
    (hfits : ∀ i ∈ items, i.Fits) :
    hasAttributeFrom (pre ++ encodeAll items) pre.length id =
      .ok (items.find? (·.tag = id)).isSome := by
  cases hfind : items.find? (·.tag = id) with
  | none =>
    rw [hasAttributeFrom, getAttributeImpl_of_absent hfits (by simpa using hfind)]
    rfl
  | some i =>
    obtain ⟨before, after, rfl, rfl, hbefore⟩ := find?_tag_eq_some hfind
    have hfound := getAttributeImpl_append (fun k hk => hfits k (by simp [hk]))
      (hfits i (by simp)) hbefore pre (encodeAll after)
    rw [encodeAll_append, encodeAll_cons, hasAttributeFrom, hfound]
    rfl

theorem getAttributeFrom_encodeAll (pre : List UInt8) (valid : BaseNL80211Attr → Bool) (id : ℕ)
    (items : List Item) (hfits : ∀ i ∈ items, i.Fits) :
    getAttributeFrom (pre ++ encodeAll items) pre.length valid id =
      .ok ((items.find? (·.tag = id)).bind
        fun i => if valid ⟨i.encode⟩ then some ⟨i.encode⟩ else none) := by
  cases hfind : items.find? (·.tag = id) with
  | none =>
    rw [getAttributeFrom, getAttributeImpl_of_absent hfits (by simpa using hfind)]
    rfl
  | some i =>
    obtain ⟨before, after, rfl, rfl, hbefore⟩ := find?_tag_eq_some hfind
    rw [encodeAll_append, encodeAll_cons]
    exact getAttributeFrom_append pre valid (fun k hk => hfits k (by simp [hk]))
      (hfits i (by simp)) hbefore (encodeAll after)

end Lookup

/-- A list walk takes one element from every record when the reader accepts each. -/
theorem run_getListStep {α : Type} {element : BaseNL80211Attr → Exec (Option α)}
    {items : List Item} {values : List α} (hfits : ∀ i ∈ items, i.Fits)
    (helem : List.Forall₂ (fun i v => element ⟨i.encode⟩ = .ok (some v)) items values)
    (pre : List UInt8) (found : List α) (n : ℕ) (hn : items.length < n) :
    StepLoop.run (getListStep element (pre ++ encodeAll items)) n (pre.length, found) =
      some (.ok (some (found ++ values))) := by
  induction helem generalizing pre found n with
  | nil =>
    obtain ⟨n, rfl⟩ : ∃ k, n = k + 1 := ⟨n - 1, by omega⟩
    simp [StepLoop.run, getListStep]
  | @cons i v items values hiv _ ih =>
    obtain ⟨n, rfl⟩ : ∃ k, n = k + 1 := ⟨n - 1, by omega⟩
    have hi : i.Fits := hfits i (by simp)
    have hroom := record_room i pre (encodeAll items)
    have hhead := header_room i pre (encodeAll items)
    have hslice : slice (pre ++ (i.encode ++ encodeAll items)) pre.length
        (pre ++ i.encode).length = i.encode := by
      simpa using i.slice_record pre (encodeAll items)
    have hstep : getListStep element (pre ++ encodeAll (i :: items)) (pre.length, found) =
        .inl ((pre ++ i.encode).length, found ++ [v]) := by
      simp only [encodeAll_cons, getListStep, if_pos hhead, next_at hi,
        if_neg (not_lt.mpr hroom), hslice, hiv]
    rw [StepLoop.run_succ_continue hstep, encodeAll_cons, ← List.append_assoc,
      ih (fun k hk => hfits k (by simp [hk])) (pre ++ i.encode) _ n (by simpa using hn)]
    simp

theorem walk_getListStep {α : Type} {element : BaseNL80211Attr → Exec (Option α)}
    {items : List Item} {values : List α} (hfits : ∀ i ∈ items, i.Fits)
    (helem : List.Forall₂ (fun i v => element ⟨i.encode⟩ = .ok (some v)) items values)
    (pre : List UInt8) :
    walk (getListStep element (pre ++ encodeAll items)) (pre ++ encodeAll items).length
      (pre.length, []) = .ok (some values) := by
  have hn : items.length < (pre ++ encodeAll items).length + 1 := by
    have h := length_le_encodeAll items
    simp only [List.length_append]
    omega
  rw [walk, run_getListStep hfits helem pre [] _ hn, List.nil_append]

/-- Records in the payload of a nested attribute come back in order. -/
theorem getListOfNestedAttributes_encodeAll {id : ℕ} (items : List Item)
    (hitems : ∀ i ∈ items, i.Fits) :
    NL80211NestedAttr.getListOfNestedAttributes ⟨(Item.mk id (encodeAll items)).encode⟩ =
      .ok (some (items.map fun i => ⟨i.encode⟩)) := by
  let header := bytesOf 2 (4 + (encodeAll items).length) ++ bytesOf 2 id
  have hdata : (Item.mk id (encodeAll items)).encode = header ++ encodeAll items := by
    rw [Item.encode_of_dvd (four_dvd_length_encodeAll items), List.append_assoc]
  have hheader : header.length = nlaHdrlen := by simp [header]
  have helem : List.Forall₂ (fun (i : Item) v =>
      NL80211NestedAttr.attributeElement BaseNL80211Attr.isValid ⟨i.encode⟩ = .ok (some v))
      items (items.map fun i => ⟨i.encode⟩) := by
    rw [List.forall₂_map_right_iff, List.forall₂_same]
    intro i hi
    simp [NL80211NestedAttr.attributeElement, isValid_encode (hitems i hi)]
  have hwalk := walk_getListStep hitems helem header
  rw [hheader] at hwalk
  rw [NL80211NestedAttr.getListOfNestedAttributes]
  simp only [hdata]
  exact hwalk

theorem run_getAllStep (items : List Item) (hfits : ∀ i ∈ items, i.Fits) (pre : List UInt8)
    (found : List BaseNL80211Attr) (n : ℕ) (hn : items.length < n) :
    StepLoop.run (NL80211Packet.getAllStep (pre ++ encodeAll items)) n (pre.length, found) =
      some (.ok (true, found ++ items.map fun i => ⟨i.encode⟩)) := by
  induction items generalizing pre found n with
  | nil =>
    obtain ⟨n, rfl⟩ : ∃ k, n = k + 1 := ⟨n - 1, by omega⟩
    simp [StepLoop.run, NL80211Packet.getAllStep]
  | cons i items ih =>
    obtain ⟨n, rfl⟩ : ∃ k, n = k + 1 := ⟨n - 1, by omega⟩
    have hi : i.Fits := hfits i (by simp)
    have hroom := record_room i pre (encodeAll items)
    have hhead := header_room i pre (encodeAll items)
    have hbad : ¬ ((pre ++ i.encode).length > (pre ++ (i.encode ++ encodeAll items)).length ∨
        4 + i.payload.length = 0) := by
      rintro (h | h) <;> omega
    have hlen : ¬ 4 + i.payload.length < nlaHdrlen := Nat.not_lt.mpr (Nat.le_add_right 4 _)
    have hslice : slice (pre ++ (i.encode ++ encodeAll items)) (pre.length + 4)
        (pre.length + (4 + i.payload.length)) = i.payload :=
      i.slice_payload pre (encodeAll items)
    have hstep : NL80211Packet.getAllStep (pre ++ encodeAll (i :: items)) (pre.length, found) =
        .inl ((pre ++ i.encode).length, found ++ [⟨i.encode⟩]) := by
      have hnext := next_at hi pre (encodeAll items)
      rw [nlaLen_at hi] at hnext
      simp only [encodeAll_cons, NL80211Packet.getAllStep, if_pos hhead, nlaLen_at hi, hnext,
        if_neg hbad, if_neg hlen, nlaType_at hi, hslice, ofPayload_eq_encode]
    rw [StepLoop.run_succ_continue hstep, encodeAll_cons, ← List.append_assoc,
      ih (fun k hk => hfits k (by simp [hk])) (pre ++ i.encode) _ n (by simpa using hn)]
    simp

theorem getAllAttributes_encodeAll (pre : List UInt8) (hpre : pre.length = nlmsgHdrlen + genlHdrlen)
    (items : List Item)
    (hfits : ∀ i ∈ items, i.Fits) :
    NL80211Packet.getAllAttributes ⟨pre ++ encodeAll items⟩ =
      .ok (true, items.map fun i => ⟨i.encode⟩) := by
  have hn : items.length < (pre ++ encodeAll items).length + 1 := by
    have h := length_le_encodeAll items
    simp only [List.length_append]
    omega
  have hrun := run_getAllStep items hfits pre [] _ hn
  rw [hpre, List.nil_append] at hrun
  simp only [NL80211Packet.getAllAttributes, walk, NL80211Packet.attributeStart, hrun]

/-- What `GetAllAttributes` returns of any packet are records. -/
theorem records_of_getAllAttributes {packet : NL80211Packet} {complete : Bool}
    {attributes : List BaseNL80211Attr}
    (h : packet.getAllAttributes = .ok (complete, attributes)) :
    ∀ attr ∈ attributes, ∃ i : Item, i.Fits ∧ attr = ⟨i.encode⟩ := by
  rw [NL80211Packet.getAllAttributes, walk] at h
  cases hrun : StepLoop.run (NL80211Packet.getAllStep packet.data) (packet.data.length + 1)
      (NL80211Packet.attributeStart, []) with
  | none => simp [hrun] at h
  | some result =>
    obtain rfl : result = .ok (complete, attributes) := by simpa [hrun] using h
    obtain ⟨last, hvisits, hleave⟩ := StepLoop.exists_leave_of_run hrun
    have hpass (a b : ℕ × List BaseNL80211Attr)
        (hab : NL80211Packet.getAllStep packet.data a = .inl b)
        (ha : ∀ attr ∈ a.2, ∃ i : Item, i.Fits ∧ attr = ⟨i.encode⟩) :
        ∀ attr ∈ b.2, ∃ i : Item, i.Fits ∧ attr = ⟨i.encode⟩ := by
      obtain ⟨ptr, found⟩ := a
      simp only [NL80211Packet.getAllStep] at hab
      split_ifs at hab with hroom hbad hshort
      obtain rfl := Sum.inl.inj hab
      intro attr hattr
      rcases List.mem_append.mp hattr with hold | hnew
      · exact ha attr hold
      · obtain rfl := List.mem_singleton.mp hnew
        refine ⟨⟨_, _⟩, ⟨field_lt _ _ _, ?_⟩, ofPayload_eq_encode _ _⟩
        have hlen : nlaLen packet.data ptr < 2 ^ 16 := field_lt _ _ _
        have hslice : (slice packet.data (ptr + nlaHdrlen)
            (ptr + nlaLen packet.data ptr)).length ≤ nlaLen packet.data ptr - nlaHdrlen := by
          rw [slice, List.length_take]
          omega
        simp only [nlaHdrlen] at hslice hshort ⊢
        omega
    have hfound := hvisits.invariant hpass (by simp)
    obtain ⟨ptr, found⟩ := last
    obtain rfl : found = attributes := by
      simp only [NL80211Packet.getAllStep] at hleave
      split_ifs at hleave <;> simp at hleave <;> exact hleave.2
    exact hfound

end Wificond
