import Wificond.AttributeBuild

/-!
# Round trip of attribute trees

A caller builds a finite tree of attributes and adds the roots to a packet. The
encoding places one padded record for each node, nested in the payload of its
parent, and every reader lands on the same boundaries again.
-/
namespace Wificond

open LittleEndian PaddedTlv

/-- What a caller builds: typed leaves, flags and nested attributes. -/
inductive AttrTree
  | leaf (id : ℕ) (k : ValueType) (value : k.Value)
  | flag (id : ℕ)
  | nested (id : ℕ) (children : List AttrTree)

namespace AttrTree

def id : AttrTree → ℕ
  | leaf id _ _ => id
  | flag id => id
  | nested id _ => id

mutual

/-- Build the attribute and add it to a nested attribute. -/
def addTo (parent : NL80211NestedAttr) : AttrTree → NL80211NestedAttr
  | leaf id k value => parent.addAttribute (k.construct id value)
  | flag id => parent.addFlagAttribute id
  | nested id children => parent.addAttribute (addAllTo (NL80211NestedAttr.ofId id) children)

def addAllTo (parent : NL80211NestedAttr) : List AttrTree → NL80211NestedAttr
  | [] => parent
  | t :: ts => addAllTo (addTo parent t) ts

end

/-- The object whose bytes stand for the tree in its parent. -/
def attr : AttrTree → BaseNL80211Attr
  | leaf id k value => k.construct id value
  | flag id => NL80211NestedAttr.ofId id
  | nested id children => addAllTo (NL80211NestedAttr.ofId id) children

def addToPacket (packet : NL80211Packet) : AttrTree → NL80211Packet
  | leaf id k value => packet.addAttribute (k.construct id value)
  | flag id => packet.addFlagAttribute id
  | nested id children => packet.addAttribute (addAllTo (NL80211NestedAttr.ofId id) children)

def buildPacket (type : UInt16) (command : UInt8) (sequence pid : UInt32)
    (roots : List AttrTree) : NL80211Packet :=
  roots.foldl addToPacket (NL80211Packet.ofHeader type command sequence pid)

mutual

/-- The payload of a nested attribute is the area of its children. -/
def payload : AttrTree → List UInt8
  | leaf _ k value => k.bytes value
  | flag _ => []
  | nested _ children => area children

def area : List AttrTree → List UInt8
  | [] => []
  | t :: ts => (Item.mk t.id (payload t)).encode ++ area ts

end

def item (t : AttrTree) : Item := ⟨t.id, t.payload⟩

/-- Every id and every length fits its field, and every leaf holds a value that its
type can give back. -/
inductive WellFormed : AttrTree → Prop
  | leaf {id : ℕ} {k : ValueType} {value : k.Value} (hvalue : k.Holds value)
      (hfits : (leaf id k value).item.Fits) : WellFormed (leaf id k value)
  | flag {id : ℕ} (hfits : (flag id).item.Fits) : WellFormed (flag id)
  | nested {id : ℕ} {children : List AttrTree} (hchildren : ∀ c ∈ children, WellFormed c)
      (hfits : (nested id children).item.Fits) : WellFormed (nested id children)

/-- `s` is the tree `t` or stands somewhere below it. -/
inductive Within (s : AttrTree) : AttrTree → Prop
  | refl : Within s s
  | child {id : ℕ} {children : List AttrTree} {c : AttrTree} (hc : c ∈ children)
      (h : Within s c) : Within s (nested id children)

theorem area_eq_encodeAll (ts : List AttrTree) : area ts = encodeAll (ts.map item) := by
  induction ts with
  | nil => simp [area]
  | cons t ts ih => rw [area, ih]; rfl

theorem WellFormed.fits {t : AttrTree} (h : t.WellFormed) : t.item.Fits := by
  cases h <;> assumption

theorem WellFormed.within {s t : AttrTree} (ht : t.WellFormed) (h : Within s t) :
    s.WellFormed := by
  induction h with
  | refl => exact ht
  | child hc _ ih =>
    cases ht with
    | nested hchildren _ => exact ih (hchildren _ hc)

mutual

/-- Adding a tree to a nested attribute appends its record to the payload. -/
theorem addTo_encode (pid : ℕ) (pre : List UInt8) (hpre : 4 ∣ pre.length) (t : AttrTree) :
    addTo ⟨(Item.mk pid pre).encode⟩ t = ⟨(Item.mk pid (pre ++ t.item.encode)).encode⟩ := by
  cases t with
  | leaf id k value =>
    rw [addTo, k.construct_eq_encode, addAttribute_encode pid hpre ⟨id, k.bytes value⟩]
    simp only [item, AttrTree.id, payload]
  | flag id =>
    rw [addTo, nested_addFlagAttribute_eq, ofId_eq_encode, addAttribute_encode pid hpre ⟨id, []⟩]
    simp only [item, AttrTree.id, payload]
  | nested id children =>
    rw [addTo, ofId_eq_encode, addAllTo_encode id [] (by simp) children, List.nil_append,
      addAttribute_encode pid hpre ⟨id, area children⟩]
    simp only [item, AttrTree.id, payload]

theorem addAllTo_encode (pid : ℕ) (pre : List UInt8) (hpre : 4 ∣ pre.length)
    (ts : List AttrTree) :
    addAllTo ⟨(Item.mk pid pre).encode⟩ ts = ⟨(Item.mk pid (pre ++ area ts)).encode⟩ := by
  cases ts with
  | nil => simp only [addAllTo, area, List.append_nil]
  | cons t ts =>
    have hnext : 4 ∣ (pre ++ t.item.encode).length := by
      rw [List.length_append]
      exact Nat.dvd_add hpre (Item.four_dvd_length_encode _)
    rw [addAllTo, addTo_encode pid pre hpre t, addAllTo_encode pid _ hnext ts, area,
      List.append_assoc]
    rfl

end

theorem attr_eq_encode (t : AttrTree) : t.attr = ⟨t.item.encode⟩ := by
  cases t with
  | leaf id k value => simp only [attr, k.construct_eq_encode, item, AttrTree.id, payload]
  | flag id => simp only [attr, ofId_eq_encode, item, AttrTree.id, payload]
  | nested id children =>
    rw [attr, ofId_eq_encode, addAllTo_encode id [] (by simp)]
    simp only [item, AttrTree.id, payload, List.nil_append]

theorem addToPacket_eq (packet : NL80211Packet) (t : AttrTree) :
    addToPacket packet t = packet.addAttribute t.attr := by
  cases t with
  | leaf id k value => rfl
  | flag id => exact NL80211Packet.addFlagAttribute_eq packet id
  | nested id children => rfl

theorem foldl_addToPacket (type : UInt16) (command : UInt8) (sequence pid : UInt32)
    (pre : List UInt8) (ts : List AttrTree) :
    ts.foldl addToPacket (NL80211Packet.ofArea type command sequence pid pre) =
      NL80211Packet.ofArea type command sequence pid (pre ++ area ts) := by
  induction ts generalizing pre with
  | nil => simp [area]
  | cons t ts ih =>
    rw [List.foldl_cons, addToPacket_eq, attr_eq_encode, NL80211Packet.addAttribute_ofArea,
      ih, area, List.append_assoc]
    rfl

/-- Whatever the sizes, a built packet is a header and the area of its roots. -/
theorem buildPacket_eq (type : UInt16) (command : UInt8) (sequence pid : UInt32)
    (roots : List AttrTree) : buildPacket type command sequence pid roots =
      NL80211Packet.ofArea type command sequence pid (area roots) := by
  rw [buildPacket, NL80211Packet.ofHeader_eq_ofArea, foldl_addToPacket, List.nil_append]

/-- The lookups of a packet or a nested attribute see exactly the trees `ts` directly in
it, and of several with one id the first. -/
structure FindsFirst (has : ℕ → Exec Bool) (get : ℕ → Exec (Option NL80211NestedAttr))
    (getTyped : ValueType → ℕ → Exec (Option BaseNL80211Attr))
    (getValue : (k : ValueType) → ℕ → Exec (Option k.Value)) (ts : List AttrTree) : Prop where
  has_eq : ∀ id, has id = .ok (ts.find? (·.id = id)).isSome
  get_eq : ∀ id, get id = .ok ((ts.find? (·.id = id)).map attr)
  typed_eq : ∀ id k value, ts.find? (·.id = id) = some (leaf id k value) →
    getTyped k id = .ok (some (k.construct id value))
  value_eq : ∀ id k value, ts.find? (·.id = id) = some (leaf id k value) →
    getValue k id = .ok (some value)
  value_none : ∀ id k, ts.find? (·.id = id) = none → getValue k id = .ok none

theorem find?_item (ts : List AttrTree) (id : ℕ) :
    (ts.map item).find? (·.tag = id) = (ts.find? (·.id = id)).map item := by
  rw [List.find?_map]
  rfl

theorem fits_items {ts : List AttrTree} (hts : ∀ t ∈ ts, t.WellFormed) :
    ∀ i ∈ ts.map item, i.Fits := by
  intro i hi
  obtain ⟨t, ht, rfl⟩ := List.mem_map.mp hi
  exact (hts t ht).fits

theorem findsFirst_area (pre : List UInt8) {ts : List AttrTree}
    (hts : ∀ t ∈ ts, t.WellFormed) :
    FindsFirst (hasAttributeFrom (pre ++ area ts) pre.length)
      (getAttributeFrom (pre ++ area ts) pre.length BaseNL80211Attr.isValid)
      (fun k => getAttributeFrom (pre ++ area ts) pre.length k.template.isValid)
      (fun k => getAttributeValueFrom (pre ++ area ts) pre.length k.template) ts := by
  have hfits := fits_items hts
  have hhas (id : ℕ) := hasAttributeFrom_encodeAll pre id (ts.map item) hfits
  have hget (valid : BaseNL80211Attr → Bool) (id : ℕ) :=
    getAttributeFrom_encodeAll pre valid id (ts.map item) hfits
  simp only [← area_eq_encodeAll, find?_item] at hhas hget
  have htyped (id : ℕ) (k : ValueType) (value : k.Value)
      (hfind : ts.find? (·.id = id) = some (leaf id k value)) :
      getAttributeFrom (pre ++ area ts) pre.length k.template.isValid id =
        .ok (some (k.construct id value)) := by
    have hleaf := hts _ (List.mem_of_find?_eq_some hfind)
    have hvalid := ValueType.isValid_encode id (k := k) (v := value) hleaf.fits
    rw [hget, hfind, k.construct_eq_encode]
    simp only [Option.map_some, Option.bind_some, item, AttrTree.id, payload, hvalid, if_true]
  refine ⟨fun id => by rw [hhas, Option.isSome_map], fun id => ?_, htyped, ?_, ?_⟩
  · rw [hget]
    cases hfind : ts.find? (·.id = id) with
    | none => rfl
    | some t =>
      have hvalid := isValid_encode (hts _ (List.mem_of_find?_eq_some hfind)).fits
      simp only [Option.map_some, Option.bind_some, hvalid, if_true, attr_eq_encode]
  · intro id k value hfind
    have hleaf := hts _ (List.mem_of_find?_eq_some hfind)
    cases hleaf with
    | leaf hvalue hfits =>
      have hread := ValueType.getValue_encode id hvalue hfits
      simp only [getAttributeValueFrom, htyped id k value hfind, k.construct_eq_encode]
      simp only [bind, Except.bind, hread]
      rfl
  · intro id k hfind
    simp only [getAttributeValueFrom, hget, hfind]
    rfl

/-- The header of the record of a nested attribute. -/
def nestedHeader (id : ℕ) (children : List AttrTree) : List UInt8 :=
  bytesOf 2 (4 + (area children).length) ++ bytesOf 2 id

theorem length_nestedHeader (id : ℕ) (children : List AttrTree) :
    (nestedHeader id children).length = nlaHdrlen := by
  simp [nestedHeader]

theorem nested_data (id : ℕ) (children : List AttrTree) :
    (nested id children).attr.data = nestedHeader id children ++ area children := by
  have h4 : 4 ∣ (area children).length := by
    rw [area_eq_encodeAll]
    exact four_dvd_length_encodeAll _
  rw [attr_eq_encode, nestedHeader, List.append_assoc]
  exact Item.encode_of_dvd h4

/-- The walk over all children of a nested attribute takes them in order. -/
theorem walk_children {α : Type} {element : BaseNL80211Attr → Exec (Option α)} {id : ℕ}
    {children : List AttrTree} {values : List α} (hchildren : ∀ c ∈ children, c.WellFormed)
    (helem : List.Forall₂ (fun c v => element ⟨c.item.encode⟩ = .ok (some v)) children values) :
    walk (getListStep element (nested id children).attr.data) (nested id children).attr.data.length
      (nlaHdrlen, []) = .ok (some values) := by
  have hwalk := walk_getListStep (fits_items hchildren) (List.forall₂_map_left_iff.mpr helem)
    (nestedHeader id children)
  rwa [← area_eq_encodeAll, ← nested_data, length_nestedHeader] at hwalk

/-- What is read from a nested attribute with the given children. -/
structure ReadsChildren (nested : NL80211NestedAttr) (children : List AttrTree) : Prop where
  nested_eq : nested.getListOfNestedAttributes = .ok (some (children.map attr))
  values_eq : ∀ (k : ValueType) (leaves : List (ℕ × k.Value)),
    children = leaves.map (fun l => leaf l.1 k l.2) →
      nested.getListOfAttributeValues k.template = .ok (some (leaves.map Prod.snd))
  finds : FindsFirst nested.hasAttribute nested.getAttribute
    (fun k => nested.getTypedAttribute k.template) (fun k => nested.getAttributeValue k.template)
    children

theorem readsChildren {id : ℕ} {children : List AttrTree} (h : (nested id children).WellFormed) :
    ReadsChildren (nested id children).attr children := by
  have hchildren : ∀ c ∈ children, c.WellFormed := by
    cases h with
    | nested hchildren _ => exact hchildren
  refine ⟨?_, ?_, ?_⟩
  · apply walk_children hchildren
    rw [List.forall₂_map_right_iff, List.forall₂_same]
    intro c hc
    simp [NL80211NestedAttr.attributeElement, isValid_encode (hchildren c hc).fits, attr_eq_encode]
  · rintro k leaves rfl
    apply walk_children hchildren
    rw [List.forall₂_map_left_iff, List.forall₂_map_right_iff, List.forall₂_same]
    intro l hl
    cases hchildren _ (List.mem_map_of_mem hl) with
    | leaf hvalue hfits =>
      have hvalid := ValueType.isValid_encode l.1 (k := k) (v := l.2) hfits
      have hread := ValueType.getValue_encode l.1 hvalue hfits
      simp only [NL80211NestedAttr.valueElement, item, AttrTree.id, payload, hvalid, hread,
        Bool.not_true, Bool.false_eq_true, if_false]
      rfl
  · have hfind := findsFirst_area (nestedHeader id children) hchildren
    rw [length_nestedHeader, ← nested_data] at hfind
    exact hfind

/-- A tree of whole packets: the header fields are those of the construction, all
attributes come back in order, and at every depth the lookups find what was added
directly there. -/
theorem buildPacket_roundTrip (type : UInt16) (command : UInt8) (sequence pid : UInt32)
    (roots : List AttrTree) (hroots : ∀ t ∈ roots, t.WellFormed)
    (hsize : (buildPacket type command sequence pid roots).data.length < 2 ^ 32) :
    let packet := buildPacket type command sequence pid roots
    (packet.isValid = true ∧ nlmsgLen packet.data 0 = packet.data.length ∧
      packet.getMessageType = type.toNat ∧ packet.getFlags = nlmFRequest ∧
      packet.getMessageSequence = sequence.toNat ∧ packet.getPortId = pid.toNat ∧
      packet.getCommand = .ok command.toNat) ∧
    packet.getAllAttributes =
      .ok (true, roots.map fun t => BaseNL80211Attr.ofPayload t.id t.payload) ∧
    FindsFirst packet.hasAttribute packet.getAttribute
      (fun k => packet.getTypedAttribute k.template) (fun k => packet.getAttributeValue k.template)
      roots ∧
    ∀ root ∈ roots, ∀ id children, Within (nested id children) root →
      ReadsChildren (nested id children).attr children := by
  intro packet
  have hpacket : packet = NL80211Packet.ofArea type command sequence pid (area roots) :=
    buildPacket_eq type command sequence pid roots
  rw [buildPacket_eq, NL80211Packet.length_ofArea] at hsize
  let header := bytesOf 4 (20 + (area roots).length) ++
    NL80211Packet.headerTail type command sequence pid
  have hdata : packet.data = header ++ area roots := by
    rw [hpacket, NL80211Packet.ofArea, List.append_assoc]
  have hheader : header.length = 20 := by
    simp [header, NL80211Packet.length_headerTail]
  refine ⟨?_, ?_, ?_, ?_⟩
  · rw [hpacket]
    exact NL80211Packet.header_ofArea type command sequence pid (area roots) hsize
  · have hall := getAllAttributes_encodeAll header hheader (roots.map item) (fits_items hroots)
    rw [← area_eq_encodeAll, ← hdata, List.map_map] at hall
    simp only [ofPayload_eq_encode]
    exact hall
  · have hfind := findsFirst_area header hroots
    rw [hheader, ← hdata] at hfind
    exact hfind
  · intro root hroot id children hwithin
    exact readsChildren ((hroots root hroot).within hwithin)

/-- A nested attribute with a string and a byte vector, next to a flag. -/
theorem buildPacket_roundTrip_string_and_vector :
    let roots := [flag 5, nested 2 [leaf 1 .string [104, 105], leaf 2 .vector [7, 8, 9]]]
    let packet := buildPacket 0x13 1 4 0 roots
    packet.isValid = true ∧ packet.hasAttribute 1 = .ok false ∧
      packet.getAttribute 2 = .ok (some (nested 2 [leaf 1 .string [104, 105],
        leaf 2 .vector [7, 8, 9]]).attr) := by
  have hstring : (leaf 1 .string [104, 105]).WellFormed := .leaf (by decide) (by decide)
  have hvector : (leaf 2 .vector [7, 8, 9]).WellFormed := .leaf trivial (by decide)
  have hnested : (nested 2 [leaf 1 .string [104, 105], leaf 2 .vector [7, 8, 9]]).WellFormed :=
    .nested (by simp [hstring, hvector]) (by decide)
  have hflag : (flag 5).WellFormed := .flag (by decide)
  have h := buildPacket_roundTrip 0x13 1 4 0
    [flag 5, nested 2 [leaf 1 .string [104, 105], leaf 2 .vector [7, 8, 9]]]
    (by simp [hflag, hnested]) (by decide)
  exact ⟨h.1.1, h.2.2.1.has_eq 1, h.2.2.1.get_eq 2⟩

theorem length_area_replicate (n : ℕ) (t : AttrTree) :
    (area (List.replicate n t)).length = n * t.item.encode.length := by
  rw [area_eq_encodeAll, List.map_replicate]
  induction n with
  | zero => simp
  | succ n ih =>
    rw [List.replicate_succ, encodeAll_cons, List.length_append, ih]
    ring

theorem wellFormed_zeros {n : ℕ} (hn : 4 + n < 2 ^ 16) :
    (leaf 1 .vector (List.replicate n 0)).WellFormed := by
  refine .leaf trivial ⟨by simp [item, AttrTree.id], ?_⟩
  simpa [item, payload, ValueType.bytes] using hn

theorem length_zeros (n : ℕ) :
    (leaf 1 .vector (List.replicate n 0)).item.encode.length = 4 + align4 n := by
  rw [Item.length_encode]
  simp [item, payload, ValueType.bytes]

/-- `nlmsg_len` has 32 bits. A list of attributes that each fit `nla_len` can exceed it,
and the stored length then wraps. -/
theorem buildPacket_length_wraps :
    let roots := List.replicate (2 ^ 16) (leaf 1 .vector (List.replicate 65531 0))
    (∀ t ∈ roots, t.WellFormed) ∧
      (buildPacket 0x13 1 4 0 roots).data.length = 2 ^ 32 + 20 ∧
      nlmsgLen (buildPacket 0x13 1 4 0 roots).data 0 = 20 := by
  intro roots
  have hlen : (area roots).length = 2 ^ 32 := by
    rw [length_area_replicate, length_zeros]
    rfl
  refine ⟨?_, ?_, ?_⟩
  · intro t ht
    rw [List.eq_of_mem_replicate ht]
    exact wellFormed_zeros (by norm_num)
  · rw [buildPacket_eq, NL80211Packet.length_ofArea, hlen]
    norm_num
  · rw [buildPacket_eq, NL80211Packet.nlmsgLen_ofArea, hlen]
    norm_num

end AttrTree

end Wificond
