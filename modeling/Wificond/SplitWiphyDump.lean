import Wificond.AttributeBuild
import Wificond.Nl80211
import Wificond.OrderedMap

/-!
# Merging a split wiphy dump

The model of `NetlinkUtils::MergePacketsForSplitWiphyDump`. The attributes of
all packets are collected in a map from wiphy index and attribute id, pieces of
one attribute are merged on arrival, and one packet is generated for each wiphy
in the map.
-/
namespace Wificond

open LittleEndian PaddedTlv

/-- `map<int, BaseNL80211Attr>` -/
abbrev AttrById := Std.ExtTreeMap ℕ BaseNL80211Attr

/-- `map<uint32_t, map<int, BaseNL80211Attr>>` -/
abbrev AttrByWiphyAndId := Std.ExtTreeMap ℕ AttrById

/-- The attribute ids that are not used for filtering packets. -/
def IsMerged (id : ℕ) : Prop := id ≠ attrWiphy ∧ id ≠ attrIfindex ∧ id ≠ attrWdev

instance (id : ℕ) : Decidable (IsMerged id) := inferInstanceAs (Decidable (_ ∧ _))

/-- One pass of the loop over the attributes of a packet. The result of `Merge` is not
looked at. -/
def mergeAttribute (wiphyIndex : ℕ) (attrs : AttrByWiphyAndId) (attr : BaseNL80211Attr) :
    Exec AttrByWiphyAndId :=
  let attrId := attr.getAttributeId
  if IsMerged attrId then
    let ofWiphy := attrs[wiphyIndex]?.getD ∅
    match ofWiphy[attrId]? with
    | none => .ok (attrs.insert wiphyIndex (ofWiphy.insert attrId attr))
    | some stored => do
      let (_, merged) ← stored.merge attr
      return attrs.insert wiphyIndex (ofWiphy.insert attrId merged)
  else .ok attrs

/-- One pass of the loop over the packets; `none` is the early return with failure. -/
def mergePacket (attrs : AttrByWiphyAndId) (packet : NL80211Packet) :
    Exec (Option AttrByWiphyAndId) := do
  match ← packet.getAttributeValue (AttrTemplate.int .uint32) attrWiphy with
  | none => return none
  | some wiphyIndex =>
    let (complete, attributes) ← packet.getAllAttributes
    if complete then return some (← attributes.foldlM (mergeAttribute wiphyIndex.toNat) attrs)
    else return none

def collectAttributes (attrs : AttrByWiphyAndId) :
    List NL80211Packet → Exec (Option AttrByWiphyAndId)
  | [] => return some attrs
  | packet :: rest => do
    match ← mergePacket attrs packet with
    | none => return none
    | some attrs => collectAttributes attrs rest

/-- The output packet of one wiphy. -/
def generateWiphyPacket (wiphyIndex : ℕ) (attributes : AttrById) : NL80211Packet :=
  attributes.toList.foldl (fun packet entry => packet.addAttribute entry.2)
    ((NL80211Packet.ofHeader 0 cmdNewWiphy 0 0).addAttribute
      (NL80211Attr.ofInt .uint32 attrWiphy wiphyIndex))

/-- Returns the success flag and the packets that are appended to `packet_per_wiphy`. -/
def mergePacketsForSplitWiphyDump (splitDumpInfo : List NL80211Packet) :
    Exec (Bool × List NL80211Packet) := do
  match ← collectAttributes ∅ splitDumpInfo with
  | none => return (false, [])
  | some attrs =>
    return (true, attrs.toList.map fun entry => generateWiphyPacket entry.1 entry.2)

/-- A packet of a dump: well-formed attributes behind a header, among them the index of
its wiphy. -/
structure SplitPacket where
  header : List UInt8
  wiphy : ℕ
  items : List Item
  length_header : header.length = nlmsgHdrlen + genlHdrlen
  wiphy_lt : wiphy < 2 ^ 32
  fits : ∀ i ∈ items, i.Fits
  carries : items.find? (·.tag = attrWiphy) = some ⟨attrWiphy, bytesOf 4 wiphy⟩

def SplitPacket.packet (p : SplitPacket) : NL80211Packet := ⟨p.header ++ encodeAll p.items⟩

/-- What arrives of all wiphys: pieces of merged attributes in order, each with its wiphy. -/
def arrivals (packets : List SplitPacket) : List (ℕ × Item) :=
  packets.flatMap fun p => (p.items.filter fun i => IsMerged i.tag).map (Prod.mk p.wiphy)

/-- The payloads that arrive for one attribute of one wiphy. -/
def pieces (wiphy id : ℕ) (arrived : List (ℕ × Item)) : List (List UInt8) :=
  (arrived.filter fun e => e.1 = wiphy ∧ e.2.tag = id).map fun e => e.2.payload

/-- The packets carry the attributes of the wiphys in `dump`, cut and interleaved in any
way that keeps the pieces of one attribute in order. -/
structure IsSplitOf (packets : List SplitPacket) (dump : List (ℕ × List Item)) : Prop where
  wiphys_nodup : (dump.map Prod.fst).Nodup
  ids_nodup : ∀ d ∈ dump, (d.2.map Item.tag).Nodup
  merged : ∀ d ∈ dump, ∀ i ∈ d.2, IsMerged i.tag
  fits : ∀ d ∈ dump, ∀ i ∈ d.2, i.Fits
  complete : ∀ d ∈ dump, ∀ i ∈ d.2, pieces d.1 i.tag (arrivals packets) ≠ [] ∧
    (pieces d.1 i.tag (arrivals packets)).flatten = i.payload
  only : ∀ e ∈ arrivals packets, ∃ d ∈ dump, d.1 = e.1 ∧ ∃ i ∈ d.2, i.tag = e.2.tag

/-- What the map holds for an attribute of a wiphy. -/
def stored (attrs : AttrByWiphyAndId) (wiphy id : ℕ) : Option BaseNL80211Attr :=
  (attrs[wiphy]?.getD ∅)[id]?

/-- The attribute that the pieces add up to. -/
def reassembled (wiphy id : ℕ) (arrived : List (ℕ × Item)) : Option BaseNL80211Attr :=
  if pieces wiphy id arrived = [] then none
  else some ⟨(Item.mk id (pieces wiphy id arrived).flatten).encode⟩

/-- The map holds the reassembly of all that arrived, and no wiphy without attributes. -/
structure Collected (attrs : AttrByWiphyAndId) (arrived : List (ℕ × Item)) : Prop where
  stored_eq : ∀ wiphy id, stored attrs wiphy id = reassembled wiphy id arrived
  inhabited : ∀ wiphy ∈ attrs, ∃ id, stored attrs wiphy id ≠ none

theorem collected_empty : Collected ∅ [] := by
  refine ⟨fun wiphy id => by simp [stored, reassembled, pieces], ?_⟩
  simp

theorem pieces_append (wiphy id : ℕ) (arrived arrived' : List (ℕ × Item)) :
    pieces wiphy id (arrived ++ arrived') =
      pieces wiphy id arrived ++ pieces wiphy id arrived' := by
  simp [pieces]

theorem stored_insert (attrs : AttrByWiphyAndId) (wiphy id : ℕ) (attr : BaseNL80211Attr)
    (wiphy' id' : ℕ) :
    stored (attrs.insert wiphy ((attrs[wiphy]?.getD ∅).insert id attr)) wiphy' id' =
      if wiphy = wiphy' ∧ id = id' then some attr else stored attrs wiphy' id' := by
  simp only [stored, Std.ExtTreeMap.getElem?_insert, Std.LawfulEqCmp.compare_eq_iff_eq]
  by_cases hw : wiphy = wiphy'
  · subst hw
    simp [Std.ExtTreeMap.getElem?_insert]
  · simp [hw]

/-- Storing what one more piece adds up to keeps the map collected. -/
theorem Collected.insert {attrs : AttrByWiphyAndId} {arrived : List (ℕ × Item)}
    (h : Collected attrs arrived) (wiphy : ℕ) (i : Item) :
    Collected (attrs.insert wiphy ((attrs[wiphy]?.getD ∅).insert i.tag
      ⟨(Item.mk i.tag ((pieces wiphy i.tag arrived).flatten ++ i.payload)).encode⟩))
      (arrived ++ [(wiphy, i)]) := by
  constructor
  · intro wiphy' id'
    rw [stored_insert, h.stored_eq, reassembled, reassembled, pieces_append]
    by_cases hhit : wiphy = wiphy' ∧ i.tag = id'
    · obtain ⟨rfl, rfl⟩ := hhit
      simp [pieces]
    · have hmiss : pieces wiphy' id' [(wiphy, i)] = [] := by simp [pieces, hhit]
      rw [if_neg hhit, hmiss, List.append_nil]
  · intro wiphy' hmem
    by_cases hw : wiphy = wiphy'
    · refine ⟨i.tag, ?_⟩
      rw [stored_insert, if_pos ⟨hw, rfl⟩]
      simp
    · obtain ⟨id, hid⟩ := h.inhabited wiphy' (by simpa [hw] using hmem)
      refine ⟨id, ?_⟩
      rwa [stored_insert, if_neg (fun hc => hw hc.1)]

/-- One pass of the loop over attributes. -/
theorem mergeAttribute_collected {attrs : AttrByWiphyAndId} {arrived : List (ℕ × Item)}
    (h : Collected attrs arrived) {wiphy : ℕ} {i : Item} (hi : i.Fits) (hmerged : IsMerged i.tag)
    (hfits : (Item.mk i.tag (pieces wiphy i.tag (arrived ++ [(wiphy, i)])).flatten).Fits) :
    ∃ attrs', mergeAttribute wiphy attrs ⟨i.encode⟩ = .ok attrs' ∧
      Collected attrs' (arrived ++ [(wiphy, i)]) := by
  have hnext := h.insert wiphy i
  have hstored := h.stored_eq wiphy i.tag
  rw [stored, reassembled] at hstored
  by_cases hnone : pieces wiphy i.tag arrived = []
  · rw [if_pos hnone] at hstored
    rw [hnone, List.flatten_nil, List.nil_append] at hnext
    refine ⟨_, ?_, hnext⟩
    simp only [mergeAttribute, getAttributeId_encode hi, if_pos hmerged, hstored]
  · rw [if_neg hnone] at hstored
    have hlast : pieces wiphy i.tag [(wiphy, i)] = [i.payload] := by simp [pieces]
    rw [pieces_append, hlast, List.flatten_append, List.flatten_singleton] at hfits
    refine ⟨_, ?_, hnext⟩
    simp only [mergeAttribute, getAttributeId_encode hi, if_pos hmerged, hstored]
    rw [merge_encode hfits]
    rfl

/-- An attribute used for filtering leaves the map alone. -/
theorem mergeAttribute_filtered {attrs : AttrByWiphyAndId} {wiphy : ℕ} {i : Item} (hi : i.Fits)
    (hmerged : ¬ IsMerged i.tag) : mergeAttribute wiphy attrs ⟨i.encode⟩ = .ok attrs := by
  simp only [mergeAttribute, getAttributeId_encode hi, if_neg hmerged]

/-- Every attribute fits once all its pieces are put together. -/
def AllFit (arrived : List (ℕ × Item)) : Prop :=
  ∀ e ∈ arrived, (Item.mk e.2.tag (pieces e.1 e.2.tag arrived).flatten).Fits

theorem AllFit.mono {arrived total : List (ℕ × Item)} (h : AllFit total)
    (harrived : arrived <+: total) : AllFit arrived := by
  obtain ⟨rest, rfl⟩ := harrived
  intro e he
  obtain ⟨hid, hlen⟩ := h e (List.mem_append_left rest he)
  rw [pieces_append, List.flatten_append] at hlen
  simp only [List.length_append] at hlen
  exact ⟨hid, by simp only; omega⟩

/-- The loop over the attributes of one packet. -/
theorem foldlM_mergeAttribute {total : List (ℕ × Item)} (htotal : AllFit total) (wiphy : ℕ)
    (items : List Item) (hitems : ∀ i ∈ items, i.Fits) {attrs : AttrByWiphyAndId}
    {arrived : List (ℕ × Item)} (h : Collected attrs arrived)
    (harrived : arrived ++ (items.filter fun i => IsMerged i.tag).map (Prod.mk wiphy) <+: total) :
    ∃ attrs', (items.map fun i => ⟨i.encode⟩).foldlM (mergeAttribute wiphy) attrs = .ok attrs' ∧
      Collected attrs' (arrived ++ (items.filter fun i => IsMerged i.tag).map (Prod.mk wiphy)) := by
  induction items generalizing attrs arrived with
  | nil => exact ⟨attrs, rfl, by simpa using h⟩
  | cons i items ih =>
    have hi : i.Fits := hitems i (by simp)
    have hrest : ∀ k ∈ items, k.Fits := fun k hk => hitems k (by simp [hk])
    by_cases hmerged : IsMerged i.tag
    · have hsplit : arrived ++ ((i :: items).filter fun i => IsMerged i.tag).map (Prod.mk wiphy) =
          (arrived ++ [(wiphy, i)]) ++
            (items.filter fun i => IsMerged i.tag).map (Prod.mk wiphy) := by
        simp [hmerged]
      rw [hsplit] at harrived ⊢
      have hfits := (htotal.mono ((List.prefix_append _ _).trans harrived)) (wiphy, i)
        (by simp)
      obtain ⟨attrs', hstep, hcollected⟩ := mergeAttribute_collected h hi hmerged hfits
      obtain ⟨attrs'', hfold, hdone⟩ := ih hrest hcollected harrived
      refine ⟨attrs'', ?_, hdone⟩
      rw [List.map_cons, List.foldlM_cons, hstep]
      exact hfold
    · rw [List.filter_cons_of_neg (by simpa using hmerged)] at harrived ⊢
      obtain ⟨attrs', hfold, hdone⟩ := ih hrest h harrived
      refine ⟨attrs', ?_, hdone⟩
      rw [List.map_cons, List.foldlM_cons, mergeAttribute_filtered hi hmerged]
      exact hfold

/-- A number of 32 bits is read back from its bytes. -/
theorem uint32_getValue_encode (id : ℕ) {k : ℕ} (hk : k < 2 ^ 32) :
    (AttrTemplate.int .uint32).getValue ⟨(Item.mk id (bytesOf 4 k)).encode⟩ = .ok (k : ℤ) := by
  have hlen : (bytesOf 4 k).length = IntType.uint32.size := by simp [IntType.size]
  have hvalue : IntType.uint32.ofBytes (bytesOf 4 k) = k := by
    have hmod : k % 256 ^ 4 = k := Nat.mod_eq_of_lt hk
    rw [IntType.ofBytes, valueOf_bytesOf, hmod]
    simp [IntType.signed]
  have hread := AttrTemplate.int_getValue_encode id hlen
  rwa [hvalue] at hread

theorem ofInt_uint32_eq {id k : ℕ} (hk : k < 2 ^ 32) :
    NL80211Attr.ofInt .uint32 id k = ⟨(Item.mk id (bytesOf 4 k)).encode⟩ := by
  have hmod : ((k : ℤ) % 256 ^ 4).toNat = k := by omega
  rw [ofInt_eq_encode, IntType.toBytes]
  simp only [IntType.size, hmod]

namespace SplitPacket
variable (p : SplitPacket)

/-- The index of a packet's wiphy is read from its attribute. -/
theorem wiphy_value : p.packet.getAttributeValue (AttrTemplate.int .uint32) attrWiphy =
    .ok (some (p.wiphy : ℤ)) := by
  have hitem : (Item.mk attrWiphy (bytesOf 4 p.wiphy)).Fits := by simp [Item.Fits]
  have hlen : (bytesOf 4 p.wiphy).length = IntType.uint32.size := by simp [IntType.size]
  have hget := getAttributeFrom_encodeAll p.header (AttrTemplate.int .uint32).isValid attrWiphy
    p.items p.fits
  rw [p.carries, p.length_header] at hget
  simp only [Option.bind_some, AttrTemplate.int_isValid_encode hlen hitem, if_true] at hget
  have hread := uint32_getValue_encode attrWiphy p.wiphy_lt
  simp only [packet, NL80211Packet.getAttributeValue, getAttributeValueFrom, hget]
  simp only [bind, Except.bind, hread]
  rfl

theorem all_attributes : p.packet.getAllAttributes =
    .ok (true, p.items.map fun i => ⟨i.encode⟩) :=
  getAllAttributes_encodeAll p.header p.length_header p.items p.fits

end SplitPacket

theorem mergePacket_collected {total : List (ℕ × Item)} (htotal : AllFit total)
    (p : SplitPacket) {attrs : AttrByWiphyAndId} {arrived : List (ℕ × Item)}
    (h : Collected attrs arrived) (harrived : arrived ++ arrivals [p] <+: total) :
    ∃ attrs', mergePacket attrs p.packet = .ok (some attrs') ∧
      Collected attrs' (arrived ++ arrivals [p]) := by
  have hone : arrivals [p] =
      (p.items.filter fun i => IsMerged i.tag).map (Prod.mk p.wiphy) := by simp [arrivals]
  rw [hone] at harrived ⊢
  obtain ⟨attrs', hfold, hdone⟩ := foldlM_mergeAttribute htotal p.wiphy p.items p.fits h harrived
  refine ⟨attrs', ?_, hdone⟩
  simp only [mergePacket, p.wiphy_value, p.all_attributes]
  simp only [bind, Except.bind, Int.toNat_natCast, if_true]
  rw [hfold]
  rfl

/-- The loop over the packets. -/
theorem collectAttributes_collected {total : List (ℕ × Item)} (htotal : AllFit total)
    (packets : List SplitPacket) {attrs : AttrByWiphyAndId} {arrived : List (ℕ × Item)}
    (h : Collected attrs arrived) (harrived : arrived ++ arrivals packets <+: total) :
    ∃ attrs', collectAttributes attrs (packets.map SplitPacket.packet) = .ok (some attrs') ∧
      Collected attrs' (arrived ++ arrivals packets) := by
  induction packets generalizing attrs arrived with
  | nil => exact ⟨attrs, rfl, by simpa [arrivals] using h⟩
  | cons p packets ih =>
    have hsplit : arrivals (p :: packets) = arrivals [p] ++ arrivals packets := by
      simp [arrivals]
    rw [hsplit, ← List.append_assoc] at harrived ⊢
    obtain ⟨attrs', hpacket, hcollected⟩ := mergePacket_collected htotal p h
      ((List.prefix_append _ _).trans harrived)
    obtain ⟨attrs'', hcollect, hdone⟩ := ih hcollected harrived
    refine ⟨attrs'', ?_, hdone⟩
    rw [List.map_cons, collectAttributes, hpacket]
    exact hcollect

section Split
variable {packets : List SplitPacket} {dump : List (ℕ × List Item)}

theorem exists_arrival {wiphy id : ℕ} {arrived : List (ℕ × Item)}
    (h : pieces wiphy id arrived ≠ []) : ∃ e ∈ arrived, e.1 = wiphy ∧ e.2.tag = id := by
  obtain ⟨payload, hmem⟩ := List.exists_mem_of_ne_nil _ h
  obtain ⟨e, he, _⟩ := List.mem_map.mp hmem
  rw [List.mem_filter] at he
  exact ⟨e, he.1, by simpa using he.2⟩

/-- The pieces of a split add up to the attributes of the dump and to nothing else. -/
theorem IsSplitOf.reassembled_eq_some (h : IsSplitOf packets dump) {d : ℕ × List Item}
    (hd : d ∈ dump) (id : ℕ) (attr : BaseNL80211Attr) :
    reassembled d.1 id (arrivals packets) = some attr ↔
      ∃ i ∈ d.2, i.tag = id ∧ ⟨i.encode⟩ = attr := by
  constructor
  · intro hattr
    by_cases hnone : pieces d.1 id (arrivals packets) = []
    · simp [reassembled, hnone] at hattr
    · obtain ⟨e, he, hwiphy, htag⟩ := exists_arrival hnone
      obtain ⟨d', hd', hdd, i, hi, hitag⟩ := h.only e he
      obtain rfl : d' = d := List.inj_on_of_nodup_map h.wiphys_nodup hd' hd (hdd.trans hwiphy)
      obtain rfl : i.tag = id := hitag.trans htag
      refine ⟨i, hi, rfl, ?_⟩
      rw [reassembled, if_neg hnone, (h.complete d' hd' i hi).2, Option.some.injEq] at hattr
      exact hattr
  · rintro ⟨i, hi, rfl, rfl⟩
    obtain ⟨hne, hflat⟩ := h.complete d hd i hi
    rw [reassembled, if_neg hne, hflat]

theorem IsSplitOf.allFit (h : IsSplitOf packets dump) : AllFit (arrivals packets) := by
  intro e he
  obtain ⟨d, hd, hwiphy, i, hi, htag⟩ := h.only e he
  rw [← hwiphy, ← htag, (h.complete d hd i hi).2]
  exact h.fits d hd i hi

theorem IsSplitOf.wiphy_lt (h : IsSplitOf packets dump) {d : ℕ × List Item} (hd : d ∈ dump)
    (hne : d.2 ≠ []) : d.1 < 2 ^ 32 := by
  obtain ⟨i, hi⟩ := List.exists_mem_of_ne_nil _ hne
  obtain ⟨e, he, hwiphy, _⟩ := exists_arrival (h.complete d hd i hi).1
  obtain ⟨p, _, hp⟩ := List.mem_flatMap.mp he
  obtain ⟨_, _, rfl⟩ := List.mem_map.mp hp
  rw [← hwiphy]
  exact p.wiphy_lt

variable {attrs : AttrByWiphyAndId}

/-- The attributes of one wiphy, in the order of the map. -/
theorem Collected.toList_wiphy (hsplit : IsSplitOf packets dump)
    (h : Collected attrs (arrivals packets)) {d : ℕ × List Item} (hd : d ∈ dump) :
    ∃ items : List Item, items.Perm d.2 ∧
      (attrs[d.1]?.getD ∅).toList = items.map fun i => (i.tag, ⟨i.encode⟩) := by
  refine OrderedMap.exists_toList_eq_map _ d.2 Item.tag _ (hsplit.ids_nodup d hd) ?_
  intro id attr
  rw [← hsplit.reassembled_eq_some hd, ← h.stored_eq, stored]

/-- The wiphys of the map are those with at least one attribute. -/
theorem Collected.toList_perm (hsplit : IsSplitOf packets dump)
    (h : Collected attrs (arrivals packets)) :
    attrs.toList.Perm ((dump.filter (·.2 ≠ [])).map fun d => (d.1, attrs[d.1]?.getD ∅)) := by
  refine OrderedMap.toList_perm attrs _ Prod.fst (fun d => attrs[d.1]?.getD ∅)
    (hsplit.wiphys_nodup.sublist (List.filter_sublist.map _)) ?_
  intro wiphy attributes
  constructor
  · intro hget
    obtain ⟨id, hid⟩ := h.inhabited wiphy (OrderedMap.mem_iff_exists.mpr ⟨attributes, hget⟩)
    rw [h.stored_eq, reassembled, ite_ne_left_iff] at hid
    obtain ⟨e, he, rfl, _⟩ := exists_arrival hid.1
    obtain ⟨d, hd, hwiphy, i, hi, _⟩ := hsplit.only e he
    refine ⟨d, ?_, hwiphy, by rw [hwiphy, hget]; rfl⟩
    simpa using ⟨hd, List.ne_nil_of_mem hi⟩
  · rintro ⟨d, hd, rfl, rfl⟩
    obtain ⟨hd, hne⟩ : d ∈ dump ∧ d.2 ≠ [] := by simpa using hd
    obtain ⟨i, hi⟩ := List.exists_mem_of_ne_nil _ hne
    have hstored := h.stored_eq d.1 i.tag
    rw [(hsplit.reassembled_eq_some hd i.tag _).mpr ⟨i, hi, rfl, rfl⟩, stored] at hstored
    cases hget : attrs[d.1]? with
    | none => simp [hget] at hstored
    | some attributes => rfl

end Split

/-- The output packet of a wiphy: its index, then each of its attributes once. -/
structure IsMergedPacket (packet : NL80211Packet) (d : ℕ × List Item) : Prop where
  wiphy_eq : packet.getAttributeValue (AttrTemplate.int .uint32) attrWiphy =
    .ok (some (d.1 : ℤ))
  attributes_eq : ∃ items : List Item, items.Perm d.2 ∧ packet.getAllAttributes =
    .ok (true, BaseNL80211Attr.ofPayload attrWiphy (bytesOf 4 d.1) ::
      items.map fun i => BaseNL80211Attr.ofPayload i.tag i.payload)

/-- A generated packet is itself a packet of a dump, with all attributes of its wiphy. -/
theorem exists_splitPacket_of_generate {wiphy : ℕ} (hwiphy : wiphy < 2 ^ 32)
    {attributes : AttrById} {items attrs : List Item} (hperm : items.Perm attrs)
    (hfits : ∀ i ∈ attrs, i.Fits)
    (hlist : attributes.toList = items.map fun i => (i.tag, ⟨i.encode⟩)) :
    ∃ p : SplitPacket, generateWiphyPacket wiphy attributes = p.packet ∧ p.wiphy = wiphy ∧
      p.items = ⟨attrWiphy, bytesOf 4 wiphy⟩ :: items := by
  let index : Item := ⟨attrWiphy, bytesOf 4 wiphy⟩
  have hindex : NL80211Attr.ofInt .uint32 attrWiphy wiphy = ⟨index.encode⟩ :=
    ofInt_uint32_eq hwiphy
  let tail := NL80211Packet.headerTail 0 cmdNewWiphy 0 0
  let p : SplitPacket :=
    { header := bytesOf 4 (20 + (encodeAll (index :: items)).length) ++ tail
      wiphy := wiphy
      items := index :: items
      length_header := by simp [tail, NL80211Packet.length_headerTail, nlmsgHdrlen, genlHdrlen]
      wiphy_lt := hwiphy
      fits := by
        rintro i (_ | ⟨_, hi⟩)
        · simp [index, Item.Fits]
        · exact hfits i (hperm.mem_iff.mp hi)
      carries := by simp [index] }
  refine ⟨p, ?_, rfl, rfl⟩
  rw [generateWiphyPacket, hindex, hlist, List.foldl_map, NL80211Packet.ofHeader_eq_ofArea,
    NL80211Packet.addAttribute_ofArea, NL80211Packet.foldl_addAttribute]
  simp [p, SplitPacket.packet, NL80211Packet.ofArea, tail]

theorem generateWiphyPacket_isMergedPacket {wiphy : ℕ} (hwiphy : wiphy < 2 ^ 32)
    {attributes : AttrById} {items attrs : List Item} (hperm : items.Perm attrs)
    (hfits : ∀ i ∈ attrs, i.Fits)
    (hlist : attributes.toList = items.map fun i => (i.tag, ⟨i.encode⟩)) :
    IsMergedPacket (generateWiphyPacket wiphy attributes) (wiphy, attrs) := by
  obtain ⟨p, hpacket, hp, hitems⟩ := exists_splitPacket_of_generate hwiphy hperm hfits hlist
  rw [hpacket]
  refine ⟨by rw [p.wiphy_value, hp], items, hperm, ?_⟩
  rw [p.all_attributes, hitems]
  simp only [ofPayload_eq_encode, List.map_cons]

/-- Merging a split dump yields one packet for each wiphy with an attribute, and in it
the attributes of the wiphy. -/
theorem mergePacketsForSplitWiphyDump_of_split (packets : List SplitPacket)
    (dump : List (ℕ × List Item)) (h : IsSplitOf packets dump) :
    ∃ out, mergePacketsForSplitWiphyDump (packets.map SplitPacket.packet) = .ok (true, out) ∧
      ∃ packetOf : ℕ × List Item → NL80211Packet,
        out.Perm ((dump.filter (·.2 ≠ [])).map packetOf) ∧
        ∀ d ∈ dump, d.2 ≠ [] → IsMergedPacket (packetOf d) d := by
  obtain ⟨attrs, hcollect, hcollected⟩ := collectAttributes_collected h.allFit packets
    collected_empty (by simp)
  rw [List.nil_append] at hcollected
  refine ⟨attrs.toList.map fun entry => generateWiphyPacket entry.1 entry.2, ?_,
    fun d => generateWiphyPacket d.1 (attrs[d.1]?.getD ∅), ?_, ?_⟩
  · rw [mergePacketsForSplitWiphyDump, hcollect]
    rfl
  · have hperm := (hcollected.toList_perm h).map fun entry => generateWiphyPacket entry.1 entry.2
    rwa [List.map_map] at hperm
  · intro d hd hne
    obtain ⟨items, hitems, hlist⟩ := hcollected.toList_wiphy h hd
    exact generateWiphyPacket_isMergedPacket (h.wiphy_lt hd hne) hitems (h.fits d hd) hlist

/-- A payload of five bytes cut after the first, with a packet of another wiphy between
the pieces. -/
theorem mergePacketsForSplitWiphyDump_two_wiphys :
    let first : SplitPacket := ⟨List.replicate 20 0, 0,
      [⟨attrWiphy, bytesOf 4 0⟩, ⟨22, [1]⟩], by decide, by decide, by decide, by decide⟩
    let other : SplitPacket := ⟨List.replicate 20 0, 1,
      [⟨attrWiphy, bytesOf 4 1⟩, ⟨22, [9]⟩], by decide, by decide, by decide, by decide⟩
    let second : SplitPacket := ⟨List.replicate 20 0, 0,
      [⟨attrWiphy, bytesOf 4 0⟩, ⟨22, [2, 3, 4, 5]⟩, ⟨44, [7]⟩], by decide, by decide, by decide,
      by decide⟩
    ∃ out, mergePacketsForSplitWiphyDump [first.packet, other.packet, second.packet] =
      .ok (true, out) ∧ out.length = 2 := by
  intro first other second
  have hsplit : IsSplitOf [first, other, second]
      [(0, [⟨44, [7]⟩, ⟨22, [1, 2, 3, 4, 5]⟩]), (1, [⟨22, [9]⟩])] :=
    ⟨by decide, by decide, by decide, by decide, by decide, by decide⟩
  obtain ⟨out, hmerge, packetOf, hperm, _⟩ := mergePacketsForSplitWiphyDump_of_split _ _ hsplit
  exact ⟨out, hmerge, by rw [hperm.length_eq]; rfl⟩

end Wificond
