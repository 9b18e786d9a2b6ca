import Wificond.AttributeWalk

/-!
# What the constructors and the adders lay out

Every constructor produces one padded record, a typed leaf reads its value back,
and adding whole words to a nested attribute or a packet appends them to the
area and stores the new length modulo the width of the length field.
-/
namespace Wificond

open LittleEndian PaddedTlv

theorem IntType.length_toBytes (t : IntType) (v : ℤ) : (t.toBytes v).length = t.size := by
  simp [IntType.toBytes]

/-- An integer in the range of its type survives its object representation. -/
theorem IntType.ofBytes_toBytes {t : IntType} {v : ℤ} (h : t.InRange v) :
    t.ofBytes (t.toBytes v) = v := by
  rw [IntType.ofBytes, IntType.toBytes, valueOf_bytesOf]
  cases t <;> simp only [IntType.InRange, IntType.signed, IntType.size] at h ⊢ <;> norm_num at h ⊢
  all_goals omega

theorem ofInt_eq_encode (t : IntType) (id : ℕ) (v : ℤ) :
    NL80211Attr.ofInt t id v = ⟨(Item.mk id (t.toBytes v)).encode⟩ := by
  simp only [NL80211Attr.ofInt, overwrite_initHeaderAndResize, Item.encode, Item.padding,
    IntType.length_toBytes, List.append_assoc]

/-- The terminator is one of the zeros that the buffer starts with. -/
theorem ofString_eq_encode (id : ℕ) (str : List UInt8) :
    NL80211Attr.ofString id str = ⟨(Item.mk id (str ++ [0])).encode⟩ := by
  have hpad : align4 (str.length + 1) - str.length =
      align4 (str.length + 1) - (str.length + 1) + 1 := by
    have h := le_align4 (str.length + 1)
    omega
  simp only [NL80211Attr.ofString, overwrite_initHeaderAndResize, Item.encode, Item.padding,
    List.length_append, List.length_singleton, hpad, List.replicate_succ, List.append_assoc,
    List.singleton_append]

namespace AttrTemplate

variable {id : ℕ} {payload : List UInt8}

theorem int_isValid_encode {t : IntType} (hlen : payload.length = t.size)
    (hfits : (Item.mk id payload).Fits) :
    (int t).isValid ⟨(Item.mk id payload).encode⟩ = true := by
  simp [int, isValid_encode hfits, nlaLen_encode hfits, hlen, Nat.add_comm]

theorem int_getValue_encode (id : ℕ) {t : IntType} (hlen : payload.length = t.size) :
    (int t).getValue ⟨(Item.mk id payload).encode⟩ = .ok (t.ofBytes payload) := by
  have hslice := slice_encode (Item.mk id payload)
  have hroom : 4 + t.size ≤ (Item.mk id payload).encode.length := by
    rw [Item.length_encode, ← hlen]
    exact Nat.add_le_add_left (le_align4 _) 4
  simp only [hlen] at hslice
  simp only [int, if_pos hroom, hslice]

/-- The range from the header to `nla_len` lies inside the record. -/
theorem stop_encode (id : ℕ) (payload : List UInt8) :
    4 ≤ 4 + payload.length ∧ 4 + payload.length ≤ (Item.mk id payload).encode.length := by
  rw [Item.length_encode]
  exact ⟨Nat.le_add_right 4 _, Nat.add_le_add_left (le_align4 _) 4⟩

theorem vector_getValue_encode (hfits : (Item.mk id payload).Fits) :
    vector.getValue ⟨(Item.mk id payload).encode⟩ = .ok payload := by
  simp only [vector, nlaLen_encode hfits, if_pos (stop_encode id payload),
    slice_encode (Item.mk id payload)]

theorem array_getValue_encode {n : ℕ} (hlen : payload.length = n) :
    (array n).getValue ⟨(Item.mk id payload).encode⟩ = .ok payload := by
  subst hlen
  simp only [array, if_pos (stop_encode id payload).2, slice_encode (Item.mk id payload)]

theorem string_getValue_encode {str : List UInt8} (hstr : str.getLast? ≠ some 0)
    (hfits : (Item.mk id (str ++ [0])).Fits) :
    string.getValue ⟨(Item.mk id (str ++ [0])).encode⟩ = .ok str := by
  have htrim : (str ++ [0]).rdropWhile (· = (0 : UInt8)) = str := by
    rw [List.rdropWhile_concat_pos _ _ _ (by simp), List.rdropWhile_eq_self_iff]
    intro hne hlast
    exact hstr (by simpa [List.getLast?_eq_some_getLast hne] using hlast)
  simp only [string, nlaLen_encode hfits, if_pos (stop_encode id (str ++ [0])),
    slice_encode (Item.mk id (str ++ [0])), htrim]

end AttrTemplate

namespace ValueType

/-- The constructor for the type. -/
def construct : (k : ValueType) → ℕ → k.Value → BaseNL80211Attr
  | int t, id, v => NL80211Attr.ofInt t id v
  | vector, id, v => NL80211Attr.ofBytes id v
  | array _, id, v => NL80211Attr.ofBytes id v
  | string, id, v => NL80211Attr.ofString id v

/-- The payload that the constructor for the type lays out. -/
def bytes : (k : ValueType) → k.Value → List UInt8
  | int t, v => t.toBytes v
  | vector, v => v
  | array _, v => v
  | string, v => List.append v [0]

/-- The values that an attribute of the type can give back: an integer of its
type, an array of its length, a string without a trailing zero. -/
def Holds : (k : ValueType) → k.Value → Prop
  | int t, v => t.InRange v
  | vector, _ => True
  | array n, v => List.length v = n
  | string, v => List.getLast? v ≠ some (0 : UInt8)

instance : (k : ValueType) → (v : k.Value) → Decidable (k.Holds v)
  | int t, v => t.decidableInRange v
  | vector, _ => inferInstanceAs (Decidable True)
  | array n, v => inferInstanceAs (Decidable (List.length v = n))
  | string, v => inferInstanceAs (Decidable (List.getLast? v ≠ some (0 : UInt8)))

theorem construct_eq_encode (k : ValueType) (id : ℕ) (v : k.Value) :
    k.construct id v = ⟨(Item.mk id (k.bytes v)).encode⟩ := by
  cases k with
  | int t => exact ofInt_eq_encode t id v
  | vector => exact ofPayload_eq_encode id v
  | array n => exact ofPayload_eq_encode id v
  | string => exact ofString_eq_encode id v

variable {k : ValueType} {id : ℕ} {v : k.Value}

theorem isValid_encode (id : ℕ) {v : k.Value} (hfits : (Item.mk id (k.bytes v)).Fits) :
    k.template.isValid ⟨(Item.mk id (k.bytes v)).encode⟩ = true := by
  cases k with
  | int t => exact AttrTemplate.int_isValid_encode (IntType.length_toBytes t v) hfits
  | vector => exact Wificond.isValid_encode hfits
  | array n => exact Wificond.isValid_encode hfits
  | string => exact Wificond.isValid_encode hfits

/-- `GetValue` returns the value that the constructor was given. -/
theorem getValue_encode (id : ℕ) (hv : k.Holds v) (hfits : (Item.mk id (k.bytes v)).Fits) :
    k.template.getValue ⟨(Item.mk id (k.bytes v)).encode⟩ = .ok v := by
  cases k with
  | int t =>
    have h := AttrTemplate.int_getValue_encode id (IntType.length_toBytes t v)
    rw [IntType.ofBytes_toBytes hv] at h
    exact h
  | vector => exact AttrTemplate.vector_getValue_encode hfits
  | array n => exact AttrTemplate.array_getValue_encode hv
  | string => exact AttrTemplate.string_getValue_encode hv hfits

end ValueType

theorem ofId_eq_encode (id : ℕ) : NL80211NestedAttr.ofId id = ⟨(Item.mk id []).encode⟩ := by
  rw [NL80211NestedAttr.ofId, initHeaderAndResize_eq]
  simp [Item.encode, Item.padding]

/-- The four bytes of a flag are those of a header-only attribute. -/
theorem flag_tail (data : List UInt8) (id : ℕ) :
    setField (setField (resize data (data.length + nlaHdrlen)) (data.length + 2) 2 id)
      data.length 2 nlaHdrlen = data ++ (NL80211NestedAttr.ofId id).data := by
  have hr : resize data (data.length + nlaHdrlen) = data ++ resize [] nlaHdrlen := by
    simp [resize]
  have h0 := setField_append_right data (setField (resize [] nlaHdrlen) 2 2 id) 0 2 nlaHdrlen
  rw [Nat.add_zero] at h0
  rw [hr, setField_append_right, h0]
  rfl

theorem nested_addFlagAttribute_eq (nested : NL80211NestedAttr) (id : ℕ) :
    nested.addFlagAttribute id = nested.addAttribute (NL80211NestedAttr.ofId id) := by
  have hlen : (NL80211NestedAttr.ofId id).data.length = nlaHdrlen := by simp [ofId_eq_encode]
  simp only [NL80211NestedAttr.addFlagAttribute, NL80211NestedAttr.addAttribute, flag_tail, hlen]

/-- A record added to whole words of payload extends the payload. -/
theorem addAttribute_encode (id : ℕ) {payload : List UInt8} (hp : 4 ∣ payload.length)
    (i : Item) : NL80211NestedAttr.addAttribute ⟨(Item.mk id payload).encode⟩ ⟨i.encode⟩ =
      ⟨(Item.mk id (payload ++ i.encode)).encode⟩ := by
  have hpi : 4 ∣ (payload ++ i.encode).length := by
    rw [List.length_append]
    exact Nat.dvd_add hp i.four_dvd_length_encode
  have hlen (rest : List UInt8) : nlaLen (bytesOf 2 (4 + payload.length) ++ rest) 0 =
      (4 + payload.length) % 256 ^ 2 := field_bytesOf_append _ _ _
  simp only [NL80211NestedAttr.addAttribute, Item.encode_of_dvd hp, Item.encode_of_dvd hpi,
    List.append_assoc, hlen, setField_bytesOf_append, bytesOf_mod_add, List.length_append,
    Nat.add_assoc]

/-- Merging appends the payloads: the padding of the first is stripped and that of the
whole restored. The length of the whole may wrap. -/
theorem merge_encode_of_fits {id : ℕ} {p q : List UInt8} (hp : (Item.mk id p).Fits)
    (hq : (Item.mk id q).Fits) :
    BaseNL80211Attr.merge ⟨(Item.mk id p).encode⟩ ⟨(Item.mk id q).encode⟩ =
      .ok (true, ⟨(Item.mk id (p ++ q)).encode⟩) := by
  let total := 4 + p.length + (4 + q.length) - 4
  have hours : resize (setField (Item.mk id p).encode 0 2 total) (4 + p.length) =
      bytesOf 2 total ++ (bytesOf 2 id ++ p) := by
    have h := resize_append_left (bytesOf 2 total ++ (bytesOf 2 id ++ p))
      (List.replicate (Item.mk id p).padding 0)
    simp only [List.length_append, length_bytesOf, List.append_assoc, ← Nat.add_assoc] at h
    rw [Item.encode, setField_bytesOf_append]
    exact h
  have htotal : total = 4 + (p ++ q).length := by
    simp only [total, List.length_append]
    omega
  have hpad : resize (bytesOf 2 total ++ (bytesOf 2 id ++ p) ++ q) (nlaAlign total) =
      (Item.mk id (p ++ q)).encode := by
    have hbody : (bytesOf 2 total ++ (bytesOf 2 id ++ p) ++ q).length = total := by
      simp only [htotal, List.length_append, length_bytesOf]
      omega
    rw [resize_of_le (by rw [hbody]; exact le_align4 total), hbody, htotal, nlaAlign_four_add,
      Nat.add_sub_add_left]
    simp [Item.encode, Item.padding]
  have hheader : ¬ (Item.mk id p).encode.length < nlaHdrlen := by
    rw [Item.length_encode]
    exact Nat.not_lt.mpr (Nat.le_add_right nlaHdrlen _)
  simp only [BaseNL80211Attr.merge, isValid_encode hq, if_neg hheader, getAttributeId_encode hp,
    getAttributeId_encode hq, nlaLen_encode hp, nlaLen_encode hq, Bool.not_true,
    Bool.false_eq_true, if_false, ne_eq, not_true_eq_false, slice_encode (Item.mk id q),
    if_neg (Nat.not_lt.mpr (Nat.le_add_right nlaHdrlen q.length))]
  rw [hours, hpad]

theorem merge_encode {id : ℕ} {p q : List UInt8} (hfits : (Item.mk id (p ++ q)).Fits) :
    BaseNL80211Attr.merge ⟨(Item.mk id p).encode⟩ ⟨(Item.mk id q).encode⟩ =
      .ok (true, ⟨(Item.mk id (p ++ q)).encode⟩) := by
  obtain ⟨hid, hlen⟩ := hfits
  simp only [List.length_append] at hid hlen
  apply merge_encode_of_fits
  · exact ⟨hid, by simp only; omega⟩
  · exact ⟨hid, by simp only; omega⟩

/-- Merging leaves whole words. -/
theorem four_dvd_of_merge {attr other : BaseNL80211Attr} {result : Bool × BaseNL80211Attr}
    (h : attr.merge other = .ok result) (hattr : 4 ∣ attr.data.length) :
    4 ∣ result.2.data.length := by
  rw [BaseNL80211Attr.merge] at h
  dsimp only at h
  split_ifs at h
  · obtain rfl := Except.ok.inj h
    exact hattr
  · obtain rfl := Except.ok.inj h
    exact hattr
  · obtain rfl := Except.ok.inj h
    rw [length_resize]
    exact four_dvd_align4 _

/-- Merging goes wrong in one way. -/
theorem eq_outOfRange_of_merge {attr other : BaseNL80211Attr} {fault : Fault}
    (h : attr.merge other = .error fault) : fault = .outOfRange := by
  rw [BaseNL80211Attr.merge] at h
  dsimp only at h
  split_ifs at h <;> simpa [eq_comm] using h

/-- Nothing is merged into a vector without a header. -/
theorem merge_of_no_header {i : Item} (hi : i.Fits) :
    BaseNL80211Attr.merge ⟨[]⟩ ⟨i.encode⟩ = .error .outOfRange := by
  simp [BaseNL80211Attr.merge, isValid_encode hi]

namespace NL80211Packet

/-- The sixteen header bytes behind `nlmsg_len` of a fresh packet. -/
def headerTail (type : UInt16) (command : UInt8) (sequence pid : UInt32) : List UInt8 :=
  bytesOf 2 type.toNat ++ (bytesOf 2 nlmFRequest ++ (bytesOf 4 sequence.toNat ++
    (bytesOf 4 pid.toNat ++ (bytesOf 1 command.toNat ++ (bytesOf 1 1 ++ bytesOf 2 0)))))

/-- A packet with the given area behind a fresh header. -/
def ofArea (type : UInt16) (command : UInt8) (sequence pid : UInt32) (area : List UInt8) :
    NL80211Packet :=
  ⟨bytesOf 4 (20 + area.length) ++ (headerTail type command sequence pid ++ area)⟩

variable (type : UInt16) (command : UInt8) (sequence pid : UInt32)

theorem ofHeader_eq_ofArea :
    ofHeader type command sequence pid = ofArea type command sequence pid [] := by
  have hz : resize [] (nlmsgHdrlen + genlHdrlen) =
      [0, 0, 0, 0, 0, 0, 0, 0, 0, 0, 0, 0, 0, 0, 0, 0, 0, 0, 0, 0] := rfl
  simp only [ofHeader, hz]
  simp [ofArea, headerTail, setField, overwrite, bytesOf, field, valueOf]

theorem length_headerTail : (headerTail type command sequence pid).length = 16 := by
  simp [headerTail]

theorem length_ofArea (area : List UInt8) :
    (ofArea type command sequence pid area).data.length = 20 + area.length := by
  simp only [ofArea, List.length_append, length_bytesOf, length_headerTail]
  omega

theorem nlmsgLen_ofArea (area : List UInt8) :
    nlmsgLen (ofArea type command sequence pid area).data 0 = (20 + area.length) % 2 ^ 32 :=
  field_bytesOf_append _ _ _

theorem addAttribute_ofArea (area : List UInt8) (attr : BaseNL80211Attr) :
    (ofArea type command sequence pid area).addAttribute attr =
      ofArea type command sequence pid (area ++ attr.data) := by
  have hlen (rest : List UInt8) : nlmsgLen (bytesOf 4 (20 + area.length) ++ rest) 0 =
      (20 + area.length) % 256 ^ 4 := field_bytesOf_append _ _ _
  simp only [addAttribute, ofArea, List.append_assoc, hlen, setField_bytesOf_append,
    bytesOf_mod_add, List.length_append, Nat.add_assoc]

theorem foldl_addAttribute (area : List UInt8) (items : List Item) :
    items.foldl (fun packet i => packet.addAttribute ⟨i.encode⟩)
      (ofArea type command sequence pid area) =
      ofArea type command sequence pid (area ++ encodeAll items) := by
  induction items generalizing area with
  | nil => simp
  | cons i items ih =>
    rw [List.foldl_cons, addAttribute_ofArea, ih, encodeAll_cons, List.append_assoc]

/-- The header fields read back from a packet of less than `2 ^ 32` bytes. -/
theorem header_ofArea (area : List UInt8) (hsize : 20 + area.length < 2 ^ 32) :
    let packet := ofArea type command sequence pid area
    packet.isValid = true ∧ nlmsgLen packet.data 0 = packet.data.length ∧
      packet.getMessageType = type.toNat ∧ packet.getFlags = nlmFRequest ∧
      packet.getMessageSequence = sequence.toNat ∧ packet.getPortId = pid.toNat ∧
      packet.getCommand = .ok command.toNat := by
  intro packet
  have hlen : nlmsgLen packet.data 0 = packet.data.length := by
    rw [nlmsgLen_ofArea, length_ofArea, Nat.mod_eq_of_lt hsize]
  have hroom : 20 ≤ packet.data.length := by
    rw [length_ofArea]
    exact Nat.le_add_right 20 _
  have htype := type.toNat_lt
  have hcommand := command.toNat_lt
  have hsequence := sequence.toNat_lt
  have hpid := pid.toNat_lt
  let len := bytesOf 4 (20 + area.length)
  let t := bytesOf 2 type.toNat
  let f := bytesOf 2 nlmFRequest
  let s := bytesOf 4 sequence.toNat
  let p := bytesOf 4 pid.toNat
  let c := bytesOf 1 command.toNat
  let rest := bytesOf 1 1 ++ (bytesOf 2 0 ++ area)
  have hdata : packet.data = len ++ (t ++ (f ++ (s ++ (p ++ (c ++ rest))))) := by
    simp [packet, ofArea, headerTail, len, t, f, s, p, c, rest]
  refine ⟨?_, hlen, ?_, ?_, ?_, ?_, ?_⟩
  · simp [isValid, hlen, nlmsgHdrlen, genlHdrlen]
    omega
  · have h := field_bytesOf_middle len 2 type.toNat (f ++ (s ++ (p ++ (c ++ rest))))
    rw [getMessageType, hdata]
    simpa [len, Nat.mod_eq_of_lt htype] using h
  · have h := field_bytesOf_middle (len ++ t) 2 nlmFRequest (s ++ (p ++ (c ++ rest)))
    rw [getFlags, hdata]
    simpa [len, t] using h
  · have h := field_bytesOf_middle (len ++ (t ++ f)) 4 sequence.toNat (p ++ (c ++ rest))
    rw [getMessageSequence, hdata]
    simpa [len, t, f, Nat.mod_eq_of_lt hsequence] using h
  · have h := field_bytesOf_middle (len ++ (t ++ (f ++ s))) 4 pid.toNat (c ++ rest)
    rw [getPortId, hdata]
    simpa [len, t, f, s, Nat.mod_eq_of_lt hpid] using h
  · have h := field_bytesOf_middle (len ++ (t ++ (f ++ (s ++ p)))) 1 command.toNat rest
    rw [getCommand, if_pos (le_trans (by decide : nlmsgHdrlen + 1 ≤ 20) hroom), hdata]
    simpa [len, t, f, s, p, Nat.mod_eq_of_lt hcommand] using h

theorem addFlagAttribute_eq (packet : NL80211Packet) (id : ℕ) :
    packet.addFlagAttribute id = packet.addAttribute (NL80211NestedAttr.ofId id) := by
  have hlen : (NL80211NestedAttr.ofId id).data.length = nlaHdrlen := by simp [ofId_eq_encode]
  simp only [addFlagAttribute, addAttribute, flag_tail, hlen]

end NL80211Packet

end Wificond
