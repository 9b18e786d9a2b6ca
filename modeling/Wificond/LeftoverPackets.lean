import Wificond.WiphyRetry

/-!
# What a split dump leaves behind

Packets that an attempt leaves behind and that add to the attributes of the wiphy are
found out by some second attempt: a length field that wraps sends the walk of the second
attempt past its own attributes, into those that were left. A payload of another wiphy is
found out by pieces that make its length wrap, behind which a merge finds no header to read.
-/
namespace Wificond

open LittleEndian PaddedTlv

namespace NetlinkUtils

section Collecting
variable {attrs attrs' : AttrByWiphyAndId} {wiphy : ℕ} {wiphyIndex : UInt32}

/-- The attributes of a wiphy that were collected: whole words, under merged ids, and none
of them unspecified. -/
structure Leftover (wiphy : ℕ) (attrs : AttrByWiphyAndId) : Prop where
  padded : ∀ id attr, stored attrs wiphy id = some attr → 4 ∣ attr.data.length
  merged : ∀ id attr, stored attrs wiphy id = some attr →
    IsMerged id ∧ id ≠ attrUnspec ∧ id < 2 ^ 16
  inhabited : wiphy ∈ attrs → ∃ id attr, stored attrs wiphy id = some attr

theorem leftover_empty (wiphy : ℕ) : Leftover wiphy ∅ := by
  constructor <;> simp [stored]

theorem Leftover.congr (h : Leftover wiphy attrs) (hsame : attrs'[wiphy]? = attrs[wiphy]?) :
    Leftover wiphy attrs' := by
  have hstored (id : ℕ) : stored attrs' wiphy id = stored attrs wiphy id := by
    rw [stored, stored, hsame]
  refine ⟨?_, ?_, ?_⟩
  · intro id attr hattr
    exact h.padded id attr (hstored id ▸ hattr)
  · intro id attr hattr
    exact h.merged id attr (hstored id ▸ hattr)
  · intro hmem
    rw [OrderedMap.mem_iff_exists, hsame, ← OrderedMap.mem_iff_exists] at hmem
    simpa only [hstored] using h.inhabited hmem

theorem Leftover.store (h : Leftover wiphy attrs) {i : Item} (hi : i.Fits)
    {attr : BaseNL80211Attr} (hstoring : storing attrs wiphy i = .ok attr)
    (hmerged : IsMerged i.tag) (hunspec : i.tag ≠ attrUnspec) :
    Leftover wiphy (attrs.insert wiphy ((attrs[wiphy]?.getD ∅).insert i.tag attr)) := by
  have hpadded : 4 ∣ attr.data.length := by
    rw [storing] at hstoring
    cases hold : stored attrs wiphy i.tag with
    | none =>
      rw [hold] at hstoring
      obtain rfl := Except.ok.inj hstoring
      exact i.four_dvd_length_encode
    | some old =>
      rw [hold] at hstoring
      obtain ⟨merged, hmerge, rfl⟩ := Runs.exists_of_map_eq_ok hstoring
      exact four_dvd_of_merge hmerge (h.padded _ _ hold)
  refine ⟨?_, ?_, fun _ => ⟨i.tag, attr, by rw [stored_insert, if_pos ⟨rfl, rfl⟩]⟩⟩
  · intro id attr' hattr
    rw [stored_insert] at hattr
    split_ifs at hattr with hid
    · obtain rfl := Option.some.inj hattr
      exact hpadded
    · exact h.padded id attr' hattr
  · intro id attr' hattr
    rw [stored_insert] at hattr
    split_ifs at hattr with hid
    · exact hid.2 ▸ ⟨hmerged, hunspec, hi.1⟩
    · exact h.merged id attr' hattr

/-- The passes over the attributes of a packet of the wiphy. If nothing is collected for the
wiphy in the end, none of them was to be merged. -/
theorem foldlM_leftover {attributes : List BaseNL80211Attr}
    (hrecords : ∀ attr ∈ attributes, ∃ i : Item, i.Fits ∧ attr = ⟨i.encode⟩)
    (hunspec : ∀ attr ∈ attributes, attr.getAttributeId ≠ attrUnspec) (h : Leftover wiphy attrs)
    (hfold : attributes.foldlM (mergeAttribute wiphy) attrs = .ok attrs') :
    Leftover wiphy attrs' ∧ (wiphy ∈ attrs → wiphy ∈ attrs') ∧
      (wiphy ∉ attrs' → ∀ attr ∈ attributes, ¬ IsMerged attr.getAttributeId) := by
  induction attributes generalizing attrs with
  | nil =>
    obtain rfl := Except.ok.inj hfold
    exact ⟨h, id, by simp⟩
  | cons attr attributes ih =>
    obtain ⟨i, hi, rfl⟩ := hrecords attr (by simp)
    have hrest (attrs₁ : AttrByWiphyAndId) :=
      @ih attrs₁ (fun a ha => hrecords a (by simp [ha])) fun a ha => hunspec a (by simp [ha])
    have hid : BaseNL80211Attr.getAttributeId ⟨i.encode⟩ = i.tag := getAttributeId_encode hi
    rw [List.foldlM_cons] at hfold
    by_cases hmerged : IsMerged i.tag
    · rw [mergeAttribute_merged hi hmerged] at hfold
      obtain ⟨attrs₁, hstep, hfold⟩ := Runs.bind_eq_ok.mp hfold
      obtain ⟨attr, hstoring, rfl⟩ := Runs.exists_of_map_eq_ok hstep
      have htag : i.tag ≠ attrUnspec := hid ▸ hunspec ⟨i.encode⟩ (by simp)
      obtain ⟨hleftover, hkept, -⟩ := hrest _ (h.store hi hstoring hmerged htag) hfold
      have hmem : wiphy ∈ attrs' := hkept (by simp)
      exact ⟨hleftover, fun _ => hmem, fun hnot => absurd hmem hnot⟩
    · rw [mergeAttribute_filtered hi hmerged] at hfold
      obtain ⟨hleftover, hkept, hnone⟩ := hrest _ h hfold
      refine ⟨hleftover, hkept, fun hnot a ha => ?_⟩
      rcases List.mem_cons.mp ha with rfl | ha
      · rwa [hid]
      · exact hnone hnot a ha

/-- The packet is of the wiphy and carries an attribute that is unspecified. -/
def CarriesUnspec (wiphyIndex : UInt32) (packet : NL80211Packet) : Prop :=
  ∃ index attributes, Complete packet index attributes ∧ UInt32.ofInt index = wiphyIndex ∧
    ∃ attr ∈ attributes, attr.getAttributeId = attrUnspec

theorem collectAttributes_leftover {packets : List NL80211Packet}
    (hunspec : ∀ packet ∈ packets, ¬ CarriesUnspec wiphyIndex packet)
    (h : Leftover wiphyIndex.toNat attrs)
    (hcollect : collectAttributes attrs packets = .ok (some attrs')) :
    Leftover wiphyIndex.toNat attrs' ∧ (wiphyIndex.toNat ∈ attrs → wiphyIndex.toNat ∈ attrs') ∧
      (wiphyIndex.toNat ∉ attrs' → ∀ packet ∈ packets, AddsNothing wiphyIndex packet) := by
  induction packets generalizing attrs with
  | nil =>
    obtain rfl : attrs = attrs' := by
      simpa [collectAttributes, pure, Except.pure] using hcollect
    exact ⟨h, id, by simp⟩
  | cons packet packets ih =>
    obtain ⟨index, attributes, attrs₁, hcomplete, hfold, hcollect⟩ :=
      collectAttributes_cons_eq_some hcollect
    have hrest := @ih attrs₁ fun p hp => hunspec p (by simp [hp])
    by_cases hw : index.toNat = wiphyIndex.toNat
    · have hown : UInt32.ofInt index = wiphyIndex := (toNat_eq_iff hcomplete).mp hw
      have hnamed : ∀ attr ∈ attributes, attr.getAttributeId ≠ attrUnspec :=
        fun attr hattr hid => hunspec packet (by simp)
          ⟨index, attributes, hcomplete, hown, attr, hattr, hid⟩
      rw [hw] at hfold
      obtain ⟨hfirst, hkept, hnone⟩ :=
        foldlM_leftover (records_of_getAllAttributes hcomplete.attributes) hnamed h hfold
      obtain ⟨hleftover, hkept', hnone'⟩ := hrest hfirst hcollect
      refine ⟨hleftover, hkept' ∘ hkept, fun hnot p hp => ?_⟩
      rcases List.mem_cons.mp hp with rfl | hp
      · exact ⟨index, attributes, hcomplete, fun _ => hnone fun hmem => hnot (hkept' hmem)⟩
      · exact hnone' hnot p hp
    · have hsame := foldlM_mergeAttribute_other (Ne.symm hw) hfold
      obtain ⟨hleftover, hkept, hnone⟩ := hrest (h.congr hsame) hcollect
      refine ⟨hleftover, fun hmem => hkept ?_, fun hnot p hp => ?_⟩
      · rwa [OrderedMap.mem_iff_exists, hsame, ← OrderedMap.mem_iff_exists]
      · rcases List.mem_cons.mp hp with rfl | hp
        · exact ⟨index, attributes, hcomplete,
            fun hown => absurd ((toNat_eq_iff hcomplete).mpr hown) hw⟩
        · exact hnone hnot p hp

end Collecting

section Bands
variable {wiphyIndex : UInt32} {attributes : AttrById} {items : List Item} {rest : List UInt8}

/-- No bands are found in the index of the wiphy, which comes first. -/
theorem index_cons (wiphyIndex : UInt32) (hitems : ∀ i ∈ items, i.Fits)
    (hother : ∀ i ∈ items, i.tag ≠ attrWiphyBands) :
    ∀ i ∈ Item.mk attrWiphy (bytesOf 4 wiphyIndex.toNat) :: items,
      i.Fits ∧ i.tag ≠ attrWiphyBands := by
  intro i hi
  rcases List.mem_cons.mp hi with rfl | hi
  · simp [Item.Fits]
  · exact ⟨hitems i hi, hother i hi⟩

/-- Bands that stand behind other attributes are found, whatever bytes follow. -/
theorem parseBandInfo_of_bands {bands : List Item} (hdata : dataOf attributes =
      encodeAll items ++ ((Item.mk attrWiphyBands (encodeAll bands)).encode ++ rest))
    (hitems : ∀ i ∈ items, i.Fits) (hother : ∀ i ∈ items, i.tag ≠ attrWiphyBands)
    (hbands : ∀ b ∈ bands, b.Fits) (hfits : (Item.mk attrWiphyBands (encodeAll bands)).Fits) :
    parseBandInfo (generateWiphyPacket wiphyIndex.toNat attributes) ≠ .ok none := by
  obtain ⟨header, hheader, hpacket, -⟩ :=
    generateWiphyPacket_data wiphyIndex.toNat_lt attributes
  have hall := index_cons wiphyIndex hitems hother
  have hget := getAttributeFrom_append header BaseNL80211Attr.isValid (fun i hi => (hall i hi).1)
    hfits (fun i hi => (hall i hi).2) rest
  rw [isValid_encode hfits, if_pos rfl, hheader, encodeAll_cons, List.append_assoc, ← hdata,
    ← hpacket] at hget
  intro hnone
  rw [parseBandInfo, NL80211Packet.getAttribute, hget] at hnone
  simp only [bind, Except.bind, getListOfNestedAttributes_encodeAll bands hbands] at hnone
  cases hparse : List.foldlM parseBand WiphyBandInfo.construct
      (bands.map fun b => (⟨b.encode⟩ : BaseNL80211Attr)) with
  | error fault => simp [hparse] at hnone
  | ok bandInfo => simp [hparse, pure, Except.pure] at hnone

/-- Where the walk ends behind other attributes, no bands are found. -/
theorem parseBandInfo_of_no_bands (hdata : dataOf attributes = encodeAll items ++ rest)
    (hitems : ∀ i ∈ items, i.Fits) (hother : ∀ i ∈ items, i.tag ≠ attrWiphyBands)
    (hleave : ∀ pre : List UInt8, getAttributeStep (pre ++ rest) attrWiphyBands pre.length =
      .inr (.ok none)) :
    parseBandInfo (generateWiphyPacket wiphyIndex.toNat attributes) = .ok none := by
  obtain ⟨header, hheader, hpacket, -⟩ :=
    generateWiphyPacket_data wiphyIndex.toNat_lt attributes
  have hall := index_cons wiphyIndex hitems hother
  have hend := hleave (header ++ encodeAll (⟨attrWiphy, bytesOf 4 wiphyIndex.toNat⟩ :: items))
  rw [List.append_assoc] at hend
  have himpl := getAttributeImpl_skip (fun i hi => (hall i hi).1) (fun i hi => (hall i hi).2)
    header rest hend
  rw [hheader, encodeAll_cons, List.append_assoc, ← hdata, ← hpacket] at himpl
  rw [parseBandInfo, NL80211Packet.getAttribute, getAttributeFrom, himpl]
  rfl

end Bands

section Attempts
variable {wiphyIndex : UInt32} {packets left : List NL80211Packet}
  {attrs attrs' : AttrByWiphyAndId} {attributes : AttrById}

/-- The call fails and writes nothing, whatever the outputs were. -/
def Quiet (wiphyIndex : UInt32) (packets : List NL80211Packet) : Prop :=
  ∀ outs, packetPerWiphy true packets >>= findWiphyInfo wiphyIndex outs = .ok (false, outs)

theorem quiet_append_iff {header : RequestHeader}
    (h : ∀ second outs, RetryIndependent header true wiphyIndex left second outs)
    (second : List NL80211Packet) :
    Quiet wiphyIndex (left ++ second) ↔ Quiet wiphyIndex second := by
  apply forall_congr'
  intro outs
  have hsame := h second outs
  rw [RetryIndependent, getWiphyInfo_secondAttempt, getWiphyInfo_secondAttempt,
    List.nil_append] at hsame
  rw [hsame]

/-- A call is quiet if no bands are found among the attributes that are collected. -/
theorem quiet_iff (hcollect : collectAttributes ∅ packets = .ok (some attrs)) :
    Quiet wiphyIndex packets ↔ ∀ attributes, attrs[wiphyIndex.toNat]? = some attributes →
      parseBandInfo (generateWiphyPacket wiphyIndex.toNat attributes) = .ok none := by
  simp only [Quiet, split_of_collected hcollect]
  cases hattrs : attrs[wiphyIndex.toNat]? with
  | none => simp [findWiphyInfo, pure, Except.pure]
  | some attributes =>
    have hwiphy := wiphy_generateWiphyPacket wiphyIndex.toNat_lt attributes
    have hown : UInt32.ofInt (wiphyIndex.toNat : ℤ) = wiphyIndex :=
      (ofInt_eq_iff wiphyIndex.toNat_lt wiphyIndex).mpr rfl
    obtain ⟨_, _, _, hcommand⟩ := generateWiphyPacket_data wiphyIndex.toNat_lt attributes
    simp only [Option.toList_some, List.map_cons, List.map_nil, Option.some.injEq, forall_eq']
    constructor
    · intro hquiet
      obtain ⟨current, hcurrent, hrefused⟩ :=
        ignored_of_findWiphyInfo hquiet (generateWiphyPacket wiphyIndex.toNat attributes) (by simp)
      rw [hwiphy, Except.ok.injEq] at hcurrent
      subst hcurrent
      obtain ⟨command, hread, hbands⟩ := hrefused (by rw [Option.map_some, hown])
      rw [hcommand, Except.ok.injEq] at hread
      exact hbands hread.symm
    · intro hbands outs
      have hignored : Ignored wiphyIndex (generateWiphyPacket wiphyIndex.toNat attributes) :=
        ⟨_, hwiphy, fun _ => ⟨_, hcommand, fun _ => hbands⟩⟩
      rw [findWiphyInfo_of_ignored hignored]
      rfl

/-- A packet of a dump that carries one attribute. -/
def piece (wiphyIndex : UInt32) (i : Item) (hi : i.Fits) : SplitPacket where
  header := List.replicate 20 0
  wiphy := wiphyIndex.toNat
  items := [⟨attrWiphy, bytesOf 4 wiphyIndex.toNat⟩, i]
  length_header := rfl
  wiphy_lt := wiphyIndex.toNat_lt
  fits := by
    intro k hk
    rcases List.mem_pair.mp hk with rfl | rfl
    · simp [Item.Fits]
    · exact hi
  carries := by simp

/-- The packet adds its attribute, and its index is not merged. -/
theorem collectAttributes_piece {i : Item} (hi : i.Fits) :
    collectAttributes attrs ((piece wiphyIndex i hi).packet :: packets) =
      (mergeAttribute wiphyIndex.toNat attrs ⟨i.encode⟩).bind fun attrs =>
        collectAttributes attrs packets := by
  let p := piece wiphyIndex i hi
  have hcomplete : Complete p.packet p.wiphy (p.items.map fun i => ⟨i.encode⟩) :=
    ⟨p.wiphy_value, p.all_attributes⟩
  have hindex : mergeAttribute wiphyIndex.toNat attrs
      ⟨(Item.mk attrWiphy (bytesOf 4 wiphyIndex.toNat)).encode⟩ = .ok attrs :=
    mergeAttribute_filtered (by simp [Item.Fits]) (by simp [IsMerged])
  have hfold : (p.items.map fun i => (⟨i.encode⟩ : BaseNL80211Attr)).foldlM
      (mergeAttribute wiphyIndex.toNat) attrs =
        mergeAttribute wiphyIndex.toNat attrs ⟨i.encode⟩ := by
    simp only [p, piece, List.map_cons, List.map_nil, List.foldlM_cons, List.foldlM_nil, hindex]
    simp only [bind, Except.bind]
    cases mergeAttribute wiphyIndex.toNat attrs ⟨i.encode⟩ <;> rfl
  have hwiphy : (p.wiphy : ℤ).toNat = wiphyIndex.toNat := rfl
  change collectAttributes attrs (p.packet :: packets) = _
  rw [collectAttributes, mergePacket_of_complete hcomplete, hwiphy, hfold]
  cases mergeAttribute wiphyIndex.toNat attrs ⟨i.encode⟩ <;> rfl

/-- The packet changes what is stored for its attribute, whatever comes behind it. -/
theorem exists_behind_piece {id : ℕ} {payload : List UInt8} (hi : (Item.mk id payload).Fits)
    (hmerged : IsMerged id) {attr : BaseNL80211Attr}
    (hstoring : storing attrs wiphyIndex.toNat ⟨id, payload⟩ = .ok attr) : ∃ attrs',
      (∀ packets, collectAttributes attrs ((piece wiphyIndex ⟨id, payload⟩ hi).packet :: packets) =
        collectAttributes attrs' packets) ∧
      ∀ id', stored attrs' wiphyIndex.toNat id' =
        if id = id' then some attr else stored attrs wiphyIndex.toNat id' := by
  let next := attrs.insert wiphyIndex.toNat ((attrs[wiphyIndex.toNat]?.getD ∅).insert id attr)
  refine ⟨next, fun packets => ?_, fun id' => ?_⟩
  · rw [collectAttributes_piece hi, mergeAttribute_merged hi hmerged, hstoring]
    rfl
  · rw [stored_insert]
    simp

theorem storing_of_none {i : Item} {wiphy : ℕ} (h : stored attrs wiphy i.tag = none) :
    storing attrs wiphy i = .ok ⟨i.encode⟩ := by
  rw [storing, h]

theorem storing_of_some {i : Item} {wiphy : ℕ} {attr : BaseNL80211Attr}
    (h : stored attrs wiphy i.tag = some attr) :
    storing attrs wiphy i = (attr.merge ⟨i.encode⟩).map Prod.snd := by
  rw [storing, h]

theorem storing_of_merge {i : Item} {wiphy : ℕ} {attr merged : BaseNL80211Attr}
    (h : stored attrs wiphy i.tag = some attr)
    (hmerge : attr.merge ⟨i.encode⟩ = .ok (true, merged)) :
    storing attrs wiphy i = .ok merged := by
  rw [storing_of_some h, hmerge]
  rfl

/-- The lookups in the attributes of a wiphy are those of what is stored for it. -/
theorem getElem?_of_stored (h : attrs[wiphyIndex.toNat]? = some attributes) (id : ℕ) :
    attributes[id]? = stored attrs wiphyIndex.toNat id := by
  rw [stored, h, Option.getD_some]

theorem exists_attributes_of_stored {id : ℕ} {attr : BaseNL80211Attr}
    (h : stored attrs wiphyIndex.toNat id = some attr) :
    ∃ attributes, attrs[wiphyIndex.toNat]? = some attributes := by
  cases hattrs : attrs[wiphyIndex.toNat]? with
  | none => simp [stored, hattrs] at h
  | some attributes => exact ⟨attributes, rfl⟩

theorem stored_empty (wiphy id : ℕ) : stored ∅ wiphy id = none := by
  simp [stored]

/-- Where one attribute is all that was collected, its bytes are all there are. -/
theorem dataOf_of_single {id : ℕ} {attr : BaseNL80211Attr}
    (h : attrs[wiphyIndex.toNat]? = some attributes)
    (hstored : ∀ id', stored attrs wiphyIndex.toNat id' =
      if id = id' then some attr else stored ∅ wiphyIndex.toNat id') :
    dataOf attributes = attr.data := by
  rw [dataOf, OrderedMap.flatMap_toList_of_eq_nil _ id, getElem?_of_stored h, hstored, if_pos rfl]
  · simp
  · intro id' attr' hne hattr'
    rw [getElem?_of_stored h, hstored, if_neg hne.symm, stored_empty] at hattr'
    simp at hattr'

/-- Zeros for a record that leaves room for eight more bytes before a length wraps to that of
an empty attribute. -/
def filler : List UInt8 := List.replicate 65524 0

theorem length_filler : filler.length = 65524 := List.length_replicate

theorem fits_filler : (Item.mk attrUnspec filler).Fits := by
  refine ⟨by norm_num, ?_⟩
  simp only [length_filler]
  norm_num

theorem length_encode_filler : (Item.mk attrUnspec filler).encode.length = 65528 := by
  simp only [Item.length_encode, length_filler]
  rfl

/-- An attribute whose length wraps is an empty one, and the rest is attributes behind it. -/
theorem encode_wrapped (id : ℕ) {tail : List UInt8} (htail : tail.length = 8) :
    (Item.mk id ((Item.mk attrUnspec filler).encode ++ tail)).encode =
      encodeAll [⟨id, []⟩, ⟨attrUnspec, filler⟩] ++ tail := by
  have hlen : ((Item.mk attrUnspec filler).encode ++ tail).length = 256 ^ 2 := by
    rw [List.length_append, length_encode_filler, htail]
    norm_num
  have hempty : (Item.mk id []).encode = bytesOf 2 4 ++ bytesOf 2 id := by
    simp [Item.encode, Item.padding]
  have hwrap : bytesOf 2 (4 + 256 ^ 2) = bytesOf 2 4 := by
    rw [← bytesOf_mod, Nat.add_mod_right, bytesOf_mod]
  rw [Item.encode_of_dvd (by rw [hlen]; norm_num), hlen, hwrap, encodeAll_cons, encodeAll_cons,
    hempty]
  simp

section Wrapping
variable {id : ℕ} {tail : List UInt8}

theorem fits_first (hid : id < 2 ^ 16) : (Item.mk id (Item.mk attrUnspec filler).encode).Fits := by
  refine ⟨hid, ?_⟩
  simp only [length_encode_filler]
  norm_num

theorem fits_tail (hid : id < 2 ^ 16) (htail : tail.length = 8) : (Item.mk id tail).Fits := by
  refine ⟨hid, ?_⟩
  simp only [htail]
  norm_num

/-- Two packets with the pieces of an attribute whose length wraps. -/
def wrapping (wiphyIndex : UInt32) (hid : id < 2 ^ 16) (htail : tail.length = 8) :
    List NL80211Packet :=
  [(piece wiphyIndex ⟨id, (Item.mk attrUnspec filler).encode⟩ (fits_first hid)).packet,
    (piece wiphyIndex ⟨id, tail⟩ (fits_tail hid htail)).packet]

/-- Nothing but the attribute of the two pieces changes. -/
theorem collectAttributes_wrapping (hid : id < 2 ^ 16) (htail : tail.length = 8)
    (hmerged : IsMerged id) (hfresh : stored attrs wiphyIndex.toNat id = none) :
    ∃ attrs', collectAttributes attrs (wrapping wiphyIndex hid htail) = .ok (some attrs') ∧
      ∀ id', stored attrs' wiphyIndex.toNat id' =
        if id = id' then some ⟨encodeAll [⟨id, []⟩, ⟨attrUnspec, filler⟩] ++ tail⟩
        else stored attrs wiphyIndex.toNat id' := by
  obtain ⟨first, hcollect, hfirst⟩ :=
    exists_behind_piece (fits_first hid) hmerged (storing_of_none hfresh)
  have hmerge := merge_encode_of_fits (fits_first hid) (fits_tail hid htail)
  rw [encode_wrapped id htail] at hmerge
  obtain ⟨second, hcollect', hsecond⟩ := exists_behind_piece (fits_tail hid htail) hmerged
    (storing_of_merge (by rw [hfirst, if_pos rfl]) hmerge)
  refine ⟨second, ?_, fun id' => ?_⟩
  · rw [wrapping, hcollect, hcollect']
    rfl
  · rw [hsecond, hfirst]
    split_ifs <;> rfl

/-- What a second attempt with such packets alone collects. -/
theorem exists_wrapped (wiphyIndex : UInt32) (hid : id < 2 ^ 16) (htail : tail.length = 8)
    (hmerged : IsMerged id) :
    ∃ attrs attributes, collectAttributes ∅ (wrapping wiphyIndex hid htail) = .ok (some attrs) ∧
      attrs[wiphyIndex.toNat]? = some attributes ∧
      dataOf attributes = encodeAll [⟨id, []⟩, ⟨attrUnspec, filler⟩] ++ tail := by
  obtain ⟨attrs, hcollect, hstored⟩ :=
    collectAttributes_wrapping hid htail hmerged (stored_empty wiphyIndex.toNat id)
  obtain ⟨attributes, hattributes⟩ := exists_attributes_of_stored (by rw [hstored, if_pos rfl])
  exact ⟨attrs, attributes, hcollect, hattributes, dataOf_of_single hattributes hstored⟩

end Wrapping

/-- A packet without attributes. -/
def unreadable : NL80211Packet := ⟨List.replicate 20 0⟩

theorem mergePacket_unreadable (attrs : AttrByWiphyAndId) :
    mergePacket attrs unreadable = .ok none := by
  have hindex : unreadable.getAttributeValue (AttrTemplate.int .uint32) attrWiphy = .ok none := rfl
  rw [mergePacket, hindex]
  rfl

/-- Packets that can be merged alone can be merged behind those that were left: with a packet
behind them that ends the loop, the call could tell the two apart. -/
theorem ne_error_of_retryIndependent {header : RequestHeader}
    (h : ∀ second outs, RetryIndependent header true wiphyIndex left second outs)
    {second : List NL80211Packet} (hsecond : collectAttributes ∅ second = .ok (some attrs))
    (fault : Fault) : collectAttributes ∅ (left ++ second) ≠ .error fault := by
  intro hfault
  have hquiet : Quiet wiphyIndex (second ++ [unreadable]) := by
    intro outs
    rw [packetPerWiphy, if_pos rfl, mergePacketsForSplitWiphyDump,
      collectAttributes_append_of_collected hsecond, collectAttributes, mergePacket_unreadable]
    rfl
  let outs : WiphyInfo := ⟨.construct, ⟨0, 0, 0, 0, 0, 0⟩, .construct 0 []⟩
  have hloud := (quiet_append_iff h _).mpr hquiet outs
  rw [← List.append_assoc, packetPerWiphy, if_pos rfl, mergePacketsForSplitWiphyDump,
    collectAttributes_append, hfault] at hloud
  simp [bind, Except.bind, Except.map] at hloud

/-- What a failed attempt leaves behind can be merged, or a second attempt that finds bands
could not be told from one that does not. -/
theorem exists_collected {header : RequestHeader}
    (h : ∀ second outs, RetryIndependent header true wiphyIndex left second outs) :
    ∃ attrs, collectAttributes ∅ left = .ok (some attrs) := by
  have hfits : (Item.mk attrWiphyBands []).Fits := by decide
  let second := (piece wiphyIndex ⟨attrWiphyBands, []⟩ hfits).packet
  have hloud : ¬ Quiet wiphyIndex [second] := by
    obtain ⟨attrs, hcollect, hstored⟩ := exists_behind_piece hfits (by decide)
      (storing_of_none (stored_empty wiphyIndex.toNat attrWiphyBands))
    obtain ⟨attributes, hattributes⟩ := exists_attributes_of_stored (by rw [hstored, if_pos rfl])
    have hdata : dataOf attributes =
        encodeAll [] ++ ((Item.mk attrWiphyBands (encodeAll [])).encode ++ []) := by
      rw [dataOf_of_single hattributes hstored]
      simp
    rw [quiet_iff (hcollect [])]
    intro hquiet
    exact parseBandInfo_of_bands hdata (by simp) (by simp) (by simp) hfits
      (hquiet attributes hattributes)
  rw [← quiet_append_iff h] at hloud
  cases hleft : collectAttributes ∅ left with
  | error fault =>
    have halone : collectAttributes ∅ [] = .ok (some ∅) := rfl
    have hfault := ne_error_of_retryIndependent h halone fault
    rw [List.append_nil] at hfault
    exact absurd hleft hfault
  | ok result =>
    cases result with
    | none =>
      refine absurd (fun outs => ?_) hloud
      rw [packetPerWiphy, if_pos rfl, mergePacketsForSplitWiphyDump, collectAttributes_append,
        hleft]
      rfl
    | some attrs => exact ⟨attrs, rfl⟩

/-- The start of bands with a single one, four bytes of which are missing. -/
def cutBands : List UInt8 :=
  bytesOf 2 12 ++ (bytesOf 2 attrWiphyBands ++ (bytesOf 2 8 ++ bytesOf 2 attrUnspec))

theorem length_cutBands : cutBands.length = 8 := rfl

theorem cutBands_append {rest : List UInt8} (h : rest.length = 4) : cutBands ++ rest =
    (Item.mk attrWiphyBands (encodeAll [⟨attrUnspec, rest⟩])).encode := by
  have hband : encodeAll [⟨attrUnspec, rest⟩] = bytesOf 2 8 ++ (bytesOf 2 attrUnspec ++ rest) := by
    rw [encodeAll_cons, encodeAll_nil, List.append_nil, Item.encode_of_dvd (by rw [h]), h]
  rw [Item.encode_of_dvd (four_dvd_length_encodeAll _), hband]
  simp [cutBands, h]

/-- Without the missing bytes there are no bands. -/
theorem getAttributeStep_cutBands (pre : List UInt8) :
    getAttributeStep (pre ++ cutBands) attrWiphyBands pre.length = .inr (.ok none) := by
  have hlen : nlaLen (pre ++ cutBands) pre.length = 12 := field_append_right pre cutBands 0 2
  have htype : nlaType (pre ++ cutBands) pre.length = attrWiphyBands :=
    field_append_right pre cutBands 2 2
  have hend : (pre ++ cutBands).length = pre.length + 8 := by
    rw [List.length_append, length_cutBands]
  have halign : nlaAlign 12 = 12 := rfl
  have hroom : pre.length + nlaHdrlen ≤ pre.length + 8 := Nat.add_le_add_left (by decide) _
  rw [getAttributeStep, hlen, htype, hend, halign, if_pos hroom, if_pos rfl, if_pos (by omega)]

/-- Behind the attribute with the least id come the bytes of all others. -/
theorem exists_behind_least {attrs' : AttrByWiphyAndId} {attributes : AttrById}
    {first : List UInt8} {id : ℕ} {attr : BaseNL80211Attr}
    (hattributes : attrs'[wiphyIndex.toNat]? = some attributes)
    (hstored : ∀ id', stored attrs' wiphyIndex.toNat id' =
      if attrUnspec = id' then some ⟨first⟩ else stored attrs wiphyIndex.toNat id')
    (hleftover : Leftover wiphyIndex.toNat attrs) (hfirst : 4 ∣ first.length)
    (hattr : stored attrs wiphyIndex.toNat id = some attr) (hne : attr.data ≠ []) :
    ∃ rest, dataOf attributes = first ++ rest ∧ 4 ∣ rest.length ∧ rest ≠ [] := by
  have hleast : attributes[attrUnspec]? = some ⟨first⟩ := by
    rw [getElem?_of_stored hattributes, hstored, if_pos rfl]
  obtain ⟨entries, hentries⟩ := OrderedMap.exists_toList_eq_cons hleast
    fun _ hlt => Nat.not_lt_zero _ (Nat.compare_eq_lt.mp hlt)
  have hlookup : ∀ entry ∈ entries, stored attrs' wiphyIndex.toNat entry.1 = some entry.2 := by
    intro entry hentry
    have hget := Std.ExtTreeMap.mem_toList_iff_getElem?_eq_some.mp
      (hentries ▸ List.mem_cons_of_mem _ hentry)
    rwa [getElem?_of_stored hattributes] at hget
  refine ⟨entries.flatMap fun entry => entry.2.data, ?_, ?_, ?_⟩
  · rw [dataOf, hentries, List.flatMap_cons]
  · rw [List.length_flatMap]
    apply List.dvd_sum
    intro n hn
    obtain ⟨entry, hentry, rfl⟩ := List.mem_map.mp hn
    have hentry' := hlookup entry hentry
    rw [hstored] at hentry'
    split_ifs at hentry'
    · rwa [← Option.some.inj hentry']
    · exact hleftover.padded _ _ hentry'
  · have hid : attrUnspec ≠ id := (hleftover.merged id attr hattr).2.1.symm
    have hmem : (id, attr) ∈ attributes.toList := by
      rw [Std.ExtTreeMap.mem_toList_iff_getElem?_eq_some, getElem?_of_stored hattributes, hstored,
        if_neg hid]
      exact hattr
    rw [hentries, List.mem_cons, Prod.mk.injEq] at hmem
    intro hnil
    rcases hmem with hhead | hmem
    · exact hid hhead.1.symm
    · exact hne (List.flatMap_eq_nil_iff.mp hnil _ hmem)

section Left
variable (h : ∀ second, Quiet wiphyIndex (left ++ second) ↔ Quiet wiphyIndex second)
  (hleft : collectAttributes ∅ left = .ok (some attrs))
  (hleftover : Leftover wiphyIndex.toNat attrs)
include h hleft hleftover

/-- A second attempt has a walk that goes past its own attributes into those that were left,
and takes for bands what is complete only with them; so these hold no bytes. -/
theorem data_eq_nil (id : ℕ) (attr : BaseNL80211Attr)
    (hattr : stored attrs wiphyIndex.toNat id = some attr) : attr.data = [] := by
  by_contra hne
  have hfresh : stored attrs wiphyIndex.toNat attrUnspec = none := by
    by_contra hsome
    obtain ⟨attr', hattr'⟩ := Option.ne_none_iff_exists'.mp hsome
    exact (hleftover.merged attrUnspec attr' hattr').2.1 rfl
  have hunspec : attrUnspec < 2 ^ 16 := by norm_num
  have hmerged : IsMerged attrUnspec := by decide
  let second := wrapping wiphyIndex hunspec length_cutBands
  let items : List Item := [⟨attrUnspec, []⟩, ⟨attrUnspec, filler⟩]
  have hitems : ∀ i ∈ items, i.Fits := by
    intro i hi
    rcases List.mem_pair.mp hi with rfl | rfl
    · decide
    · exact fits_filler
  have hother : ∀ i ∈ items, i.tag ≠ attrWiphyBands := by simp [items]
  have hquiet : Quiet wiphyIndex second := by
    obtain ⟨attrs', attributes, hcollect, hattributes, hdata⟩ :=
      exists_wrapped wiphyIndex hunspec length_cutBands hmerged
    rw [quiet_iff hcollect]
    intro attributes' hattributes'
    rw [hattributes, Option.some.injEq] at hattributes'
    subst hattributes'
    exact parseBandInfo_of_no_bands hdata hitems hother getAttributeStep_cutBands
  obtain ⟨attrs', hcollect, hstored⟩ :=
    collectAttributes_wrapping hunspec length_cutBands hmerged hfresh
  rw [← collectAttributes_append_of_collected hleft] at hcollect
  obtain ⟨attributes, hattributes⟩ := exists_attributes_of_stored (by rw [hstored, if_pos rfl])
  have hpadded : 4 ∣ (encodeAll items ++ cutBands).length := by
    rw [List.length_append, length_cutBands]
    exact Nat.dvd_add (four_dvd_length_encodeAll _) (by norm_num)
  obtain ⟨rest, hdata, hdvd, hne'⟩ :=
    exists_behind_least hattributes hstored hleftover hpadded hattr hne
  have hrest : (rest.take 4).length = 4 := by
    have hpos := List.length_pos_iff.mpr hne'
    rw [List.length_take]
    omega
  have hfound : dataOf attributes = encodeAll items ++ ((Item.mk attrWiphyBands
      (encodeAll [⟨attrUnspec, rest.take 4⟩])).encode ++ rest.drop 4) := by
    rw [← cutBands_append hrest, List.append_assoc, List.take_append_drop, hdata, List.append_assoc]
  have hbands := (quiet_iff hcollect).mp ((h second).mpr hquiet) attributes hattributes
  refine parseBandInfo_of_bands hfound hitems hother ?_ ?_ hbands
  · intro band hband
    obtain rfl := List.mem_singleton.mp hband
    simp [Item.Fits, hrest]
  · simp only [Item.Fits, encodeAll_cons, encodeAll_nil, List.append_nil, Item.length_encode, hrest]
    decide

end Left

/-- An attribute whose length has wrapped to zero loses its header to an empty piece. -/
theorem merge_wrapped {id : ℕ} (hid : id < 2 ^ 16) {payload : List UInt8}
    (hlen : payload.length = 65532) :
    BaseNL80211Attr.merge ⟨(Item.mk id payload).encode⟩ ⟨(Item.mk id []).encode⟩ =
      .ok (true, ⟨[]⟩) := by
  have hempty : (Item.mk id []).Fits := ⟨hid, by norm_num⟩
  have hheader : ¬ (Item.mk id payload).encode.length < nlaHdrlen := by
    rw [Item.length_encode]
    exact Nat.not_lt.mpr (Nat.le_add_right nlaHdrlen _)
  have hzero : nlaLen (Item.mk id payload).encode 0 = 0 := by
    have hfield : nlaLen (Item.mk id payload).encode 0 = (4 + payload.length) % 256 ^ 2 :=
      field_bytesOf_append _ _ _
    rw [hfield, hlen]
    norm_num
  have htype : BaseNL80211Attr.getAttributeId ⟨(Item.mk id payload).encode⟩ = id := by
    have hfield : BaseNL80211Attr.getAttributeId ⟨(Item.mk id payload).encode⟩ = id % 256 ^ 2 :=
      field_bytesOf_middle (bytesOf 2 (4 + payload.length)) 2 id _
    rw [hfield, Nat.mod_eq_of_lt (by omega)]
  have hlast : nlaLen (Item.mk id []).encode 0 = nlaHdrlen := nlaLen_encode hempty
  simp only [BaseNL80211Attr.merge, isValid_encode hempty, if_neg hheader, htype,
    getAttributeId_encode hempty, hzero, hlast, Bool.not_true, Bool.false_eq_true, if_false, ne_eq,
    not_true_eq_false, lt_irrefl]
  simp [resize, slice]

section Independent
variable {header : RequestHeader}
  (h : ∀ second outs, RetryIndependent header true wiphyIndex left second outs)
include h

/-- No attribute is left without a header, or a piece of it would lead a merge out of range. -/
theorem data_ne_nil (hleft : collectAttributes ∅ left = .ok (some attrs)) {wiphy : UInt32} {id : ℕ}
    (hid : id < 2 ^ 16) (hmerged : IsMerged id) {attr : BaseNL80211Attr}
    (hattr : stored attrs wiphy.toNat id = some attr) : attr.data ≠ [] := by
  intro hnil
  have hfits : (Item.mk id []).Fits := ⟨hid, by norm_num⟩
  have hfresh : storing ∅ wiphy.toNat ⟨id, []⟩ = .ok ⟨(Item.mk id []).encode⟩ :=
    storing_of_none (stored_empty wiphy.toNat id)
  obtain ⟨alone, halone, -⟩ := exists_behind_piece hfits hmerged hfresh
  refine ne_error_of_retryIndependent h (halone []) .outOfRange ?_
  rw [collectAttributes_append_of_collected hleft, collectAttributes_piece hfits,
    mergeAttribute_merged hfits hmerged, storing_of_some hattr,
    show attr = ⟨[]⟩ by rw [← hnil], merge_of_no_header hfits]
  rfl

/-- What was left of an attribute has no payload, or two empty pieces behind one that makes the
length wrap to zero would leave it without a header. -/
theorem payload_eq_nil (hleft : collectAttributes ∅ left = .ok (some attrs)) {wiphy : UInt32}
    {id : ℕ} {payload : List UInt8} (hfits : (Item.mk id payload).Fits) (hmerged : IsMerged id)
    (hattr : stored attrs wiphy.toNat id = some ⟨(Item.mk id payload).encode⟩) :
    payload = [] := by
  by_contra hne
  have hpos := List.length_pos_iff.mpr hne
  obtain ⟨hid, hlen⟩ := hfits
  dsimp only at hid hlen
  let rest : List UInt8 := List.replicate (65532 - payload.length) 0
  have hrestlen : rest.length = 65532 - payload.length := List.length_replicate
  have hrest : (Item.mk id rest).Fits := ⟨hid, by dsimp only; omega⟩
  have hempty : (Item.mk id []).Fits := ⟨hid, by norm_num⟩
  let second := [(piece wiphy ⟨id, rest⟩ hrest).packet, (piece wiphy ⟨id, []⟩ hempty).packet,
    (piece wiphy ⟨id, []⟩ hempty).packet]
  -- alone, the pieces add up to the first of them
  obtain ⟨alone, halone⟩ : ∃ alone, collectAttributes ∅ second = .ok (some alone) := by
    have hmerge := merge_encode_of_fits hrest hempty
    rw [List.append_nil] at hmerge
    have hfresh : storing ∅ wiphy.toNat ⟨id, rest⟩ = .ok ⟨(Item.mk id rest).encode⟩ :=
      storing_of_none (stored_empty wiphy.toNat id)
    obtain ⟨one, hone, hstored⟩ := exists_behind_piece hrest hmerged hfresh
    obtain ⟨two, htwo, hstored'⟩ := exists_behind_piece hempty hmerged
      (storing_of_merge (by rw [hstored, if_pos rfl]) hmerge)
    obtain ⟨three, hthree, -⟩ := exists_behind_piece hempty hmerged
      (storing_of_merge (by rw [hstored', if_pos rfl]) hmerge)
    exact ⟨three, by rw [hone, htwo, hthree]; rfl⟩
  refine ne_error_of_retryIndependent h halone .outOfRange ?_
  have hwhole : (payload ++ rest).length = 65532 := by
    rw [List.length_append]
    omega
  obtain ⟨one, hone, hstored⟩ := exists_behind_piece hrest hmerged
    (storing_of_merge hattr (merge_encode_of_fits ⟨hid, hlen⟩ hrest))
  obtain ⟨two, htwo, hstored'⟩ := exists_behind_piece hempty hmerged
    (storing_of_merge (by rw [hstored, if_pos rfl]) (merge_wrapped hid hwhole))
  have hfault := storing_of_some (i := ⟨id, []⟩) (by rw [hstored', if_pos rfl])
  rw [merge_of_no_header hempty] at hfault
  rw [collectAttributes_append_of_collected hleft, hone, htwo, collectAttributes_piece hempty,
    mergeAttribute_merged hempty hmerged, hfault]
  rfl

/-- With split dumps nothing that is left behind may add to the attributes of the wiphy. -/
theorem addsNothing_of_retryIndependent
    (hunspec : ∀ packet ∈ left, ¬ CarriesUnspec wiphyIndex packet) :
    ∀ packet ∈ left, AddsNothing wiphyIndex packet := by
  obtain ⟨attrs, hleft⟩ := exists_collected h
  obtain ⟨hleftover, -, hnothing⟩ :=
    collectAttributes_leftover hunspec (leftover_empty wiphyIndex.toNat) hleft
  apply hnothing
  intro hmem
  obtain ⟨id, attr, hattr⟩ := hleftover.inhabited hmem
  obtain ⟨hmerged, -, hid⟩ := hleftover.merged id attr hattr
  exact data_ne_nil h hleft hid hmerged hattr
    (data_eq_nil (quiet_append_iff h) hleft hleftover id attr hattr)

end Independent

end Attempts

/-- Where no length wraps in what was left, nothing of it may have a payload. -/
theorem addsNoPayload_of_retryIndependent {header : RequestHeader} {wiphyIndex : UInt32}
    {sent : List SplitPacket} (hfit : AllFit (arrivals sent))
    (hunspec : ∀ p ∈ sent, ¬ CarriesUnspec wiphyIndex p.packet)
    (h : ∀ second outs,
      RetryIndependent header true wiphyIndex (sent.map SplitPacket.packet) second outs)
    {p : SplitPacket} (hp : p ∈ sent) : AddsNoPayload wiphyIndex p.packet := by
  obtain ⟨attrs, hleft, hcollected⟩ :=
    collectAttributes_collected hfit sent collected_empty List.prefix_rfl
  have hcomplete : Complete p.packet p.wiphy (p.items.map fun i => ⟨i.encode⟩) :=
    ⟨p.wiphy_value, p.all_attributes⟩
  refine ⟨_, _, hcomplete, fun attr hattr hmerged => ?_⟩
  obtain ⟨i, hi, rfl⟩ := List.mem_map.mp hattr
  have hfits := p.fits i hi
  rw [getAttributeId_encode hfits] at hmerged
  constructor
  · obtain ⟨index, attributes, hsame, hnothing⟩ :=
      addsNothing_of_retryIndependent h (by simpa using hunspec) p.packet
        (List.mem_map_of_mem hp)
    obtain ⟨rfl, rfl⟩ := hcomplete.eq hsame
    intro hown
    exact hnothing hown _ hattr (by rwa [getAttributeId_encode hfits])
  · have harrived : (p.wiphy, i) ∈ arrivals sent :=
      List.mem_flatMap.mpr ⟨p, hp, List.mem_map.mpr ⟨i, by simpa using ⟨hi, hmerged⟩, rfl⟩⟩
    have hpiece : i.payload ∈ pieces p.wiphy i.tag (arrivals sent) :=
      List.mem_map.mpr ⟨(p.wiphy, i), by simp [harrived], rfl⟩
    have hstored := hcollected.stored_eq p.wiphy i.tag
    rw [List.nil_append, reassembled, if_neg (List.ne_nil_of_mem hpiece)] at hstored
    have hwiphy : (UInt32.ofNat p.wiphy).toNat = p.wiphy := UInt32.toNat_ofNat_of_lt' p.wiphy_lt
    have hattr : stored attrs (UInt32.ofNat p.wiphy).toNat i.tag =
        some ⟨(Item.mk i.tag (pieces p.wiphy i.tag (arrivals sent)).flatten).encode⟩ := by
      rw [hwiphy, hstored]
    have hnil := payload_eq_nil h hleft (hfit _ harrived) hmerged hattr
    rw [nlaLen_encode hfits, List.flatten_eq_nil_iff.mp hnil _ hpiece]
    rfl

/-- A second attempt ends as if there had been no first exactly if what the first left behind
does not concern the wiphy; that of other wiphys can only lead a merge out of range. -/
theorem retry_independence (header : RequestHeader) (wiphyIndex : UInt32)
    (left : List NL80211Packet) :
    ((∀ second outs, RetryIndependent header false wiphyIndex left second outs) ↔
      ∀ packet ∈ left, Ignored wiphyIndex packet) ∧
    ((∀ packet ∈ left, AddsNothing wiphyIndex packet) →
      ∀ second outs, MergesInRange (left ++ second) → MergesInRange second →
        RetryIndependent header true wiphyIndex left second outs) ∧
    ((∀ packet ∈ left, AddsNoPayload wiphyIndex packet) →
      ∀ second outs, RetryIndependent header true wiphyIndex left second outs) ∧
    ((∀ packet ∈ left, ¬ CarriesUnspec wiphyIndex packet) →
      (∀ second outs, RetryIndependent header true wiphyIndex left second outs) →
      (∀ packet ∈ left, AddsNothing wiphyIndex packet) ∧
        ∀ sent, left = sent.map SplitPacket.packet → AllFit (arrivals sent) →
          ∀ packet ∈ left, AddsNoPayload wiphyIndex packet) := by
  refine ⟨retryIndependent_whole_iff header, fun h second outs hboth hsecond => ?_,
    retryIndependent_of_addsNoPayload header, fun hunspec h => ?_⟩
  · exact retryIndependent_of_addsNothing header h hboth hsecond outs
  · refine ⟨addsNothing_of_retryIndependent h hunspec, ?_⟩
    rintro sent rfl hfit packet hpacket
    obtain ⟨p, hp, rfl⟩ := List.mem_map.mp hpacket
    exact addsNoPayload_of_retryIndependent hfit (by simpa using hunspec) h hp

/-- What has to be read of a wiphy. -/
def wiphyItems (wiphyIndex featureFlags : ℕ) : List Item :=
  [⟨attrWiphy, bytesOf 4 wiphyIndex⟩, ⟨attrWiphyBands, []⟩, ⟨attrMaxNumScanSsids, [1]⟩,
    ⟨attrMaxNumSchedScanSsids, [1]⟩, ⟨attrMaxMatchSets, [1]⟩,
    ⟨attrFeatureFlags, bytesOf 4 featureFlags⟩]

def wiphyPacket (wiphyIndex featureFlags : ℕ) : NL80211Packet :=
  NL80211Packet.ofArea 0 cmdNewWiphy 0 0 (encodeAll (wiphyItems wiphyIndex featureFlags))

/-- The packet of another wiphy may be left behind. -/
theorem retryIndependent_of_other_wiphy :
    let outs : WiphyInfo := ⟨.construct, ⟨0, 0, 0, 0, 0, 0⟩, .construct 0 []⟩
    RetryIndependent ⟨0, 0, 0⟩ false 0 [wiphyPacket 1 0] [wiphyPacket 0 0] outs ∧
      RetryIndependent ⟨0, 0, 0⟩ true 0 [wiphyPacket 1 0] [wiphyPacket 0 0] outs := by
  intro outs
  have hcomplete : Complete (wiphyPacket 1 0) 1 ((wiphyItems 1 0).map fun i => ⟨i.encode⟩) :=
    ⟨by decide +kernel, by decide +kernel⟩
  have hother : UInt32.ofInt 1 ≠ 0 := by decide
  obtain ⟨hwhole, hsplit, -⟩ := retry_independence ⟨0, 0, 0⟩ 0 [wiphyPacket 1 0]
  constructor
  · refine hwhole.mpr (fun packet hpacket => ?_) _ _
    obtain rfl := List.mem_singleton.mp hpacket
    exact ⟨_, hcomplete.index, fun hown => absurd (Option.some.inj hown) hother⟩
  · refine hsplit (fun packet hpacket => ?_) _ _ ?_ ?_
    · obtain rfl := List.mem_singleton.mp hpacket
      exact ⟨1, _, hcomplete, fun hown => absurd hown hother⟩
    · rw [MergesInRange]
      decide +kernel
    · rw [MergesInRange]
      decide +kernel

/-- A dump that comes again, as its end was lost the first time, is not what it is alone.
Without split dumps it is the packet of the first attempt that is read. -/
theorem getWiphyInfo_after_lost_end :
    let outs : WiphyInfo := ⟨.construct, ⟨0, 0, 0, 0, 0, 0⟩, .construct 0 []⟩
    let older := wiphyPacket 0 featureScanRandomMacAddr.toNat
    ¬ RetryIndependent ⟨0, 0, 0⟩ true 0 [wiphyPacket 0 0] [wiphyPacket 0 0] outs ∧
      ¬ RetryIndependent ⟨0, 0, 0⟩ false 0 [older] [wiphyPacket 0 0] outs := by
  intro outs older
  let call (split : Bool) (left : List NL80211Packet) :=
    getWiphyInfo ⟨0, 0, 0⟩ (secondAttempt left [wiphyPacket 0 0]) split 0 outs
  constructor
  · intro h
    have hsame : call true [wiphyPacket 0 0] = call true [] := h
    have halone : (call true []).map Prod.fst = .ok true := by decide +kernel
    have htwice : (call true [wiphyPacket 0 0]).map Prod.fst = .ok false := by decide +kernel
    rw [hsame, halone] at htwice
    simp at htwice
  · intro h
    have hsame : call false [older] = call false [] := h
    let oneshot (result : Bool × WiphyInfo) := result.2.wiphyFeatures.supportsRandomMacOneshotScan
    have halone : (call false []).map oneshot = .ok false := by decide +kernel
    have holder : (call false [older]).map oneshot = .ok true := by decide +kernel
    rw [hsame, halone] at holder
    simp at holder

end NetlinkUtils

end Wificond
