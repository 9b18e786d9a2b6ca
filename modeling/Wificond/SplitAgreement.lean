import Wificond.AttributeLookup
import Wificond.BandComposition
import Wificond.RequestLengths
import Wificond.WiphyRetry

/-!
# Split and whole dumps agree

A kernel that supports it sends the attributes of a wiphy in many messages. The function that
asks for a wiphy puts them together first, and ends as it does for a kernel that sends each
wiphy in a single message.
-/
namespace Wificond

open LittleEndian PaddedTlv

namespace NetlinkUtils

/-- The attributes that `GetWiphyInfo` may read. -/
def IsRead (id : ℕ) : Prop := id = attrWiphy ∨ IsMerged id

instance (id : ℕ) : Decidable (IsRead id) := inferInstanceAs (Decidable (_ ∨ _))

/-- A look for such an attribute ends in both packets in the same way. -/
structure SameReads (packet packet' : NL80211Packet) : Prop where
  command : packet.getCommand = packet'.getCommand
  attributes : ∀ id, IsRead id → ∀ valid,
    getAttributeFrom packet.data NL80211Packet.attributeStart valid id =
      getAttributeFrom packet'.data NL80211Packet.attributeStart valid id

section SameReads
variable {packet packet' : NL80211Packet} {id : ℕ}

theorem SameReads.getAttribute (h : SameReads packet packet') (hid : IsRead id) :
    packet.getAttribute id = packet'.getAttribute id :=
  h.attributes id hid BaseNL80211Attr.isValid

theorem SameReads.getAttributeValue {α : Type} (h : SameReads packet packet') (hid : IsRead id)
    (t : AttrTemplate α) : packet.getAttributeValue t id = packet'.getAttributeValue t id := by
  rw [NL80211Packet.getAttributeValue, NL80211Packet.getAttributeValue, getAttributeValueFrom_eq,
    getAttributeValueFrom_eq, h.attributes id hid]

theorem SameReads.scanPlanCapability (h : SameReads packet packet') (hid : IsRead id) :
    scanPlanCapability packet id = NetlinkUtils.scanPlanCapability packet' id := by
  rw [NetlinkUtils.scanPlanCapability, NetlinkUtils.scanPlanCapability, h.getAttributeValue hid]

theorem SameReads.parseBandInfo (h : SameReads packet packet') :
    parseBandInfo packet = NetlinkUtils.parseBandInfo packet' := by
  rw [NetlinkUtils.parseBandInfo, NetlinkUtils.parseBandInfo, h.getAttribute (by decide)]

theorem SameReads.parseScanCapabilities (h : SameReads packet packet') :
    parseScanCapabilities packet = NetlinkUtils.parseScanCapabilities packet' := by
  have hids : IsRead attrMaxNumScanSsids ∧ IsRead attrMaxNumSchedScanSsids ∧
      IsRead attrMaxNumSchedScanPlans ∧ IsRead attrMaxScanPlanInterval ∧
      IsRead attrMaxScanPlanIterations ∧ IsRead attrMaxMatchSets := by decide
  obtain ⟨hscan, hsched, hplans, hinterval, hiterations, hsets⟩ := hids
  rw [NetlinkUtils.parseScanCapabilities, NetlinkUtils.parseScanCapabilities,
    h.getAttributeValue hscan, h.getAttributeValue hsched, h.scanPlanCapability hplans,
    h.scanPlanCapability hinterval, h.scanPlanCapability hiterations, h.getAttributeValue hsets]

theorem SameReads.parseWiphyInfoFromPacket (h : SameReads packet packet') (outs : WiphyInfo) :
    parseWiphyInfoFromPacket packet outs = NetlinkUtils.parseWiphyInfoFromPacket packet' outs := by
  have hids : IsRead attrFeatureFlags ∧ IsRead attrExtFeatures := by decide
  rw [NetlinkUtils.parseWiphyInfoFromPacket, NetlinkUtils.parseWiphyInfoFromPacket, h.command,
    h.parseBandInfo, h.parseScanCapabilities, h.getAttributeValue hids.1,
    h.getAttributeValue hids.2]

theorem SameReads.findWiphyInfo (h : SameReads packet packet') (wiphyIndex : UInt32)
    (outs : WiphyInfo) : findWiphyInfo wiphyIndex outs [packet] =
      NetlinkUtils.findWiphyInfo wiphyIndex outs [packet'] := by
  have hid : IsRead attrWiphy := by decide
  simp only [NetlinkUtils.findWiphyInfo, h.getAttributeValue hid, h.parseWiphyInfoFromPacket]

/-- Two packets whose areas have the same first attribute of each id. -/
theorem sameReads_of_find {items items' : List Item} (harea : packet.HasArea (encodeAll items))
    (harea' : packet'.HasArea (encodeAll items')) (hfits : ∀ i ∈ items, i.Fits)
    (hfits' : ∀ i ∈ items', i.Fits) (hcommand : packet.getCommand = packet'.getCommand)
    (hfind : ∀ id, IsRead id → items.find? (·.tag = id) = items'.find? (·.tag = id)) :
    SameReads packet packet' := by
  obtain ⟨header, hlen, hdata⟩ := harea
  obtain ⟨header', hlen', hdata'⟩ := harea'
  refine ⟨hcommand, fun id hid valid => ?_⟩
  have hread := getAttributeFrom_encodeAll header valid id items hfits
  have hread' := getAttributeFrom_encodeAll header' valid id items' hfits'
  rw [hlen] at hread
  rw [hlen'] at hread'
  rw [hdata, hdata', hread, hread', hfind id hid]

end SameReads

/-- The message of a kernel that does not split: the index of the wiphy and its attributes in
any order, and attributes that only tell messages apart. -/
structure IsWholePacket (d : ℕ × List Item) (packet : NL80211Packet) : Prop where
  wiphy_lt : d.1 < 2 ^ 32
  command : packet.getCommand = .ok cmdNewWiphy.toNat
  attributes : ∃ items, packet.HasArea (encodeAll items) ∧ (∀ i ∈ items, i.Fits) ∧
    ∀ id, IsRead id → items.find? (·.tag = id) =
      (⟨attrWiphy, bytesOf 4 d.1⟩ :: d.2).find? (·.tag = id)

section Whole
variable {d : ℕ × List Item} {packet : NL80211Packet} {wiphyIndex : UInt32}
  {shown : List (ℕ × List Item)} {wholes : List NL80211Packet}

theorem IsWholePacket.wiphy_value (h : IsWholePacket d packet) :
    packet.getAttributeValue (AttrTemplate.int .uint32) attrWiphy = .ok (some (d.1 : ℤ)) := by
  obtain ⟨items, harea, hfits, hfind⟩ := h.attributes
  obtain ⟨header, hlen, hdata⟩ := harea
  have hitem : (Item.mk attrWiphy (bytesOf 4 d.1)).Fits := by simp [Item.Fits]
  have hsize : (bytesOf 4 d.1).length = IntType.uint32.size := by simp [IntType.size]
  have hindex : items.find? (·.tag = attrWiphy) = some ⟨attrWiphy, bytesOf 4 d.1⟩ := by
    rw [hfind attrWiphy (by decide), List.find?_cons_of_pos (by simp)]
  rw [NL80211Packet.getAttributeValue, getAttributeValueFrom_eq, hdata, ← hlen,
    getAttributeFrom_encodeAll header _ attrWiphy items hfits, hindex]
  simp only [Option.bind_some, AttrTemplate.int_isValid_encode hsize hitem, if_true, Except.bind,
    uint32_getValue_encode attrWiphy h.wiphy_lt, Except.map]

/-- A packet of another wiphy is passed over. -/
theorem IsWholePacket.ignored (h : IsWholePacket d packet) (hother : d.1 ≠ wiphyIndex.toNat) :
    Ignored wiphyIndex packet := by
  refine ⟨_, h.wiphy_value, fun heq => absurd ?_ hother⟩
  exact (ofInt_eq_iff h.wiphy_lt wiphyIndex).mp (Option.some.inj heq)

/-- Only the packets of the wiphy are looked at. -/
theorem exists_findWiphyInfo_filter (h : List.Forall₂ IsWholePacket shown wholes) :
    ∃ own, List.Forall₂ IsWholePacket (shown.filter (·.1 = wiphyIndex.toNat)) own ∧
      ∀ outs, findWiphyInfo wiphyIndex outs wholes = findWiphyInfo wiphyIndex outs own := by
  induction h with
  | nil => exact ⟨[], .nil, fun _ => rfl⟩
  | @cons d packet shown wholes hpacket _ ih =>
    obtain ⟨own, hown, hfind⟩ := ih
    by_cases hsame : d.1 = wiphyIndex.toNat
    · rw [List.filter_cons_of_pos (by simpa using hsame)]
      exact ⟨packet :: own, .cons hpacket hown, findWiphyInfo_cons_congr hfind⟩
    · rw [List.filter_cons_of_neg (by simpa using hsame)]
      refine ⟨own, hown, fun outs => ?_⟩
      rw [findWiphyInfo_of_ignored (hpacket.ignored hsame), hfind]

/-- A wiphy without attributes is refused. -/
theorem IsWholePacket.findWiphyInfo_of_nil (h : IsWholePacket d packet) (hnone : d.2 = [])
    (outs : WiphyInfo) : findWiphyInfo wiphyIndex outs [packet] = .ok (false, outs) := by
  obtain ⟨items, harea, hfits, hfind⟩ := h.attributes
  obtain ⟨header, hlen, hdata⟩ := harea
  have hbands : packet.getAttribute attrWiphyBands = .ok none := by
    have habsent : items.find? (·.tag = attrWiphyBands) = none := by
      rw [hfind attrWiphyBands (by decide), hnone]
      rfl
    rw [NL80211Packet.getAttribute, hdata, ← hlen,
      getAttributeFrom_encodeAll header _ attrWiphyBands items hfits, habsent]
    rfl
  have hrefused : Ignored wiphyIndex packet := by
    refine ⟨_, h.wiphy_value, fun _ => ⟨_, h.command, fun _ => ?_⟩⟩
    rw [parseBandInfo, hbands]
    rfl
  exact findWiphyInfo_of_ignored hrefused outs

end Whole

section Agreement
variable {packets : List SplitPacket} {dump : List (ℕ × List Item)} {attrs : AttrByWiphyAndId}
  {d : ℕ × List Item} {packet : NL80211Packet} {wiphyIndex : UInt32}

theorem filter_wiphy_cases (hnodup : (dump.map Prod.fst).Nodup) (wiphy : ℕ) :
    dump.filter (·.1 = wiphy) = [] ∧ (∀ d ∈ dump, d.1 ≠ wiphy) ∨
      ∃ d ∈ dump, d.1 = wiphy ∧ dump.filter (·.1 = wiphy) = [d] := by
  induction dump with
  | nil => simp
  | cons first dump ih =>
    rw [List.map_cons, List.nodup_cons] at hnodup
    by_cases hsame : first.1 = wiphy
    · refine .inr ⟨first, by simp, hsame, ?_⟩
      rw [List.filter_cons_of_pos (by simpa using hsame), List.cons.injEq, and_iff_right rfl,
        List.filter_eq_nil_iff]
      intro d hd
      have hmem : d.1 ∈ dump.map Prod.fst := List.mem_map_of_mem hd
      simpa using fun heq : d.1 = wiphy => hnodup.1 (hsame.trans heq.symm ▸ hmem)
    · rw [List.filter_cons_of_neg (by simpa using hsame)]
      rcases ih hnodup.2 with ⟨hnil, hnone⟩ | ⟨d, hd, hown, hfilter⟩
      · exact .inl ⟨hnil, List.forall_mem_cons.mpr ⟨hsame, hnone⟩⟩
      · exact .inr ⟨d, by simp [hd], hown, hfilter⟩

/-- Nothing is collected for a wiphy that the dump has no attributes of. -/
theorem getElem?_collected_eq_none (hsplit : IsSplitOf packets dump)
    (h : Collected attrs (arrivals packets)) {wiphy : ℕ}
    (hnone : ∀ d ∈ dump, d.1 = wiphy → d.2 = []) : attrs[wiphy]? = none := by
  rw [← OrderedMap.notMem_iff]
  intro hmem
  obtain ⟨id, hid⟩ := h.inhabited wiphy hmem
  rw [h.stored_eq, reassembled, ite_ne_left_iff] at hid
  obtain ⟨e, he, rfl, -⟩ := exists_arrival hid.1
  obtain ⟨d, hd, hwiphy, i, hi, -⟩ := hsplit.only e he
  rw [hnone d hd hwiphy] at hi
  simp at hi

theorem exists_wiphy_collected (hsplit : IsSplitOf packets dump)
    (h : Collected attrs (arrivals packets)) (hd : d ∈ dump) (hne : d.2 ≠ []) :
    ∃ attributes, attrs[d.1]? = some attributes := by
  obtain ⟨i, hi⟩ := List.exists_mem_of_ne_nil _ hne
  have hstored := h.stored_eq d.1 i.tag
  rw [(hsplit.reassembled_eq_some hd i.tag _).mpr ⟨i, hi, rfl, rfl⟩, stored] at hstored
  cases hget : attrs[d.1]? with
  | none => simp [hget] at hstored
  | some attributes => exact ⟨attributes, rfl⟩

theorem find?_eq_some_iff_of_nodup {items : List Item} (h : (items.map Item.tag).Nodup) {id : ℕ}
    {i : Item} : items.find? (·.tag = id) = some i ↔ i ∈ items ∧ i.tag = id := by
  constructor
  · intro hfind
    exact ⟨List.mem_of_find?_eq_some hfind, by simpa using List.find?_some hfind⟩
  · intro hmem
    obtain ⟨hi, rfl⟩ := hmem
    exact find?_tag_of_mem h hi

/-- With distinct ids it makes no difference in which order the attributes stand. -/
theorem find?_perm_of_nodup {items items' : List Item} (hperm : items.Perm items')
    (hnodup : (items'.map Item.tag).Nodup) (id : ℕ) :
    items.find? (·.tag = id) = items'.find? (·.tag = id) := by
  have hnodup' : (items.map Item.tag).Nodup := (hperm.map Item.tag).nodup_iff.mpr hnodup
  ext i
  rw [find?_eq_some_iff_of_nodup hnodup', find?_eq_some_iff_of_nodup hnodup, hperm.mem_iff]

/-- The packet that is generated for a wiphy is read like a whole one. -/
theorem sameReads_generated (hsplit : IsSplitOf packets dump)
    (h : Collected attrs (arrivals packets)) (hd : d ∈ dump) {attributes : AttrById}
    (hget : attrs[d.1]? = some attributes) (hpacket : IsWholePacket d packet) :
    SameReads (generateWiphyPacket d.1 attributes) packet := by
  obtain ⟨items, hperm, hlist⟩ := h.toList_wiphy hsplit hd
  rw [hget, Option.getD_some] at hlist
  obtain ⟨p, hgenerated, -, hitems⟩ :=
    exists_splitPacket_of_generate hpacket.wiphy_lt hperm (hsplit.fits d hd) hlist
  obtain ⟨-, -, -, hcommand⟩ := generateWiphyPacket_data hpacket.wiphy_lt attributes
  obtain ⟨others, harea, hfits, hfind⟩ := hpacket.attributes
  have hown : (generateWiphyPacket d.1 attributes).HasArea (encodeAll p.items) := by
    rw [hgenerated]
    exact ⟨p.header, p.length_header, rfl⟩
  refine sameReads_of_find hown harea p.fits hfits (hcommand.trans hpacket.command.symm) ?_
  intro id hid
  rw [hfind id hid, hitems, List.find?_cons, List.find?_cons,
    find?_perm_of_nodup hperm (hsplit.ids_nodup d hd)]

/-- What the packets are put together to is searched like the whole packets. -/
theorem findWiphyInfo_of_split {shown : List (ℕ × List Item)} {wholes : List NL80211Packet}
    (hsplit : IsSplitOf packets dump) (hwholes : List.Forall₂ IsWholePacket shown wholes)
    (hshown : shown.filter (·.1 = wiphyIndex.toNat) = dump.filter (·.1 = wiphyIndex.toNat))
    (outs : WiphyInfo) :
    packetPerWiphy true (packets.map SplitPacket.packet) >>= findWiphyInfo wiphyIndex outs =
      findWiphyInfo wiphyIndex outs wholes := by
  obtain ⟨attrs, hcollect, hcollected⟩ := collectAttributes_collected hsplit.allFit packets
    collected_empty (by simp)
  rw [List.nil_append] at hcollected
  obtain ⟨own, hown, hfind⟩ := exists_findWiphyInfo_filter hwholes
  have hgenerated := @split_of_collected wiphyIndex _ _ hcollect outs
  rw [hgenerated, hfind]
  rw [hshown] at hown
  rcases filter_wiphy_cases hsplit.wiphys_nodup wiphyIndex.toNat with ⟨hnil, hnone⟩ |
    ⟨d, hd, hwiphy, hfilter⟩
  · rw [hnil, List.forall₂_nil_left_iff] at hown
    rw [getElem?_collected_eq_none hsplit hcollected fun d hd heq => absurd heq (hnone d hd), hown]
    rfl
  · rw [hfilter] at hown
    obtain ⟨packet, rest, hpacket, hrest, rfl⟩ := List.forall₂_cons_left_iff.mp hown
    obtain rfl := List.forall₂_nil_left_iff.mp hrest
    rw [← hwiphy]
    by_cases hempty : d.2 = []
    · rw [getElem?_collected_eq_none hsplit hcollected, hpacket.findWiphyInfo_of_nil hempty]
      · rfl
      · intro d' hd' heq
        obtain rfl : d' = d := List.inj_on_of_nodup_map hsplit.wiphys_nodup hd' hd heq
        exact hempty
    · obtain ⟨attributes, hget⟩ := exists_wiphy_collected hsplit hcollected hd hempty
      rw [hget, Option.toList_some, List.map_singleton]
      exact (sameReads_generated hsplit hcollected hd hget hpacket).findWiphyInfo wiphyIndex outs

/-- For any way of cutting the attributes of any wiphys and interleaving the pieces, and any whole
packets about this wiphy among others, the split dump is answered like the whole one, with the
same outputs in success and in failure. -/
theorem getWiphyInfo_split_eq_whole (header : RequestHeader) (packets : List SplitPacket)
    (dump shown : List (ℕ × List Item)) (wholes : List NL80211Packet) (wiphyIndex : UInt32)
    (outs : WiphyInfo) (hsplit : IsSplitOf packets dump)
    (hwholes : List.Forall₂ IsWholePacket shown wholes)
    (hshown : shown.filter (·.1 = wiphyIndex.toNat) = dump.filter (·.1 = wiphyIndex.toNat)) :
    getWiphyInfo header (fun _ _ => (true, packets.map SplitPacket.packet)) true wiphyIndex outs =
      getWiphyInfo header (fun _ _ => (true, wholes)) false wiphyIndex outs := by
  exact findWiphyInfo_of_split hsplit hwholes hshown outs

/-- A payload of five bytes cut after the first, with a packet of another wiphy in between,
against the one packet of a kernel that is asked for the wiphy only. -/
theorem getWiphyInfo_split_eq_whole_cut_bands :
    let first : SplitPacket := ⟨List.replicate 20 0, 0,
      [⟨attrWiphy, bytesOf 4 0⟩, ⟨22, [1]⟩], by decide, by decide, by decide, by decide⟩
    let other : SplitPacket := ⟨List.replicate 20 0, 1,
      [⟨attrWiphy, bytesOf 4 1⟩, ⟨22, [9]⟩], by decide, by decide, by decide, by decide⟩
    let second : SplitPacket := ⟨List.replicate 20 0, 0,
      [⟨attrWiphy, bytesOf 4 0⟩, ⟨22, [2, 3, 4, 5]⟩, ⟨43, [7]⟩], by decide, by decide, by decide,
      by decide⟩
    let whole : NL80211Packet := ⟨List.replicate 16 0 ++ [3, 1, 0, 0] ++
      encodeAll [⟨attrWiphy, bytesOf 4 0⟩, ⟨22, [1, 2, 3, 4, 5]⟩, ⟨43, [7]⟩]⟩
    let outs : WiphyInfo := ⟨.construct, ⟨0, 0, 0, 0, 0, 0⟩, .construct 0 []⟩
    getWiphyInfo ⟨24, 1, 1⟩ (fun _ _ => (true, [first, other, second].map SplitPacket.packet)) true
        0 outs =
      getWiphyInfo ⟨24, 1, 1⟩ (fun _ _ => (true, [whole])) false 0 outs := by
  intro first other second whole outs
  have hsplit : IsSplitOf [first, other, second]
      [(0, [⟨43, [7]⟩, ⟨22, [1, 2, 3, 4, 5]⟩]), (1, [⟨22, [9]⟩])] :=
    ⟨by decide, by decide, by decide, by decide, by decide, by decide⟩
  have hwhole : IsWholePacket (0, [⟨43, [7]⟩, ⟨22, [1, 2, 3, 4, 5]⟩]) whole := by
    refine ⟨by decide, by decide, ?_⟩
    refine ⟨[⟨attrWiphy, bytesOf 4 0⟩, ⟨22, [1, 2, 3, 4, 5]⟩, ⟨43, [7]⟩],
      ⟨List.replicate 16 0 ++ [3, 1, 0, 0], by decide, rfl⟩, by decide, fun id _ => ?_⟩
    have hnodup : ([⟨attrWiphy, bytesOf 4 0⟩, ⟨43, [7]⟩, ⟨22, [1, 2, 3, 4, 5]⟩].map
      Item.tag).Nodup := by decide
    exact find?_perm_of_nodup (.cons _ (.swap _ _ _)) hnodup id
  exact getWiphyInfo_split_eq_whole ⟨24, 1, 1⟩ [first, other, second] _ _ [whole] 0 outs hsplit
    (.cons hwhole .nil) (by decide)

end Agreement

end NetlinkUtils

end Wificond
