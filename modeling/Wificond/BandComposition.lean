import Wificond.BandContributions

/-!
# Bands that are listed together or cut apart

`ParseBandInfo` is compositional: what it reports of two lists of bands is combined from what it
reports of each, and a band whose sub-attributes are distributed over several consecutive bands is
reported as if it had come in one piece, also where the pieces come in several messages.
-/
namespace Wificond

open LittleEndian PaddedTlv Accumulation

/-- `NL80211_ATTR_WIPHY_BANDS` of the packet holds the bands. -/
def CarriesBands (packet : NL80211Packet) (bands : List Band) : Prop :=
  packet.getAttribute attrWiphyBands =
    .ok (some ⟨(nestedOf attrWiphyBands (bands.map Band.item)).encode⟩)

instance (packet : NL80211Packet) (bands : List Band) : Decidable (CarriesBands packet bands) :=
  inferInstanceAs (Decidable (_ = _))

/-- `NL80211_BAND_ATTR_FREQS` -/
def IsFreqs (i : Item) : Bool := i.tag = bandAttrFreqs

/-- The sub-attributes of the band, which have distinct ids, are distributed over the parts. Each
goes to one part, but for the frequency entries, which may be cut into several lists. -/
structure Distributed (whole : Band) (parts : List Band) : Prop where
  distinct : (whole.children.map Item.tag).Nodup
  parts_distinct : ∀ part ∈ parts, (part.children.map Item.tag).Nodup
  others : ((parts.flatMap Band.children).filter fun i => !IsFreqs i).Perm
    (whole.children.filter fun i => !IsFreqs i)
  freqs : ∃ pieces entries : List (List Table),
    (parts.flatMap Band.children).filter IsFreqs = pieces.map (tablesOf bandAttrFreqs) ∧
      whole.children.filter IsFreqs = entries.map (tablesOf bandAttrFreqs) ∧
      pieces.flatten = entries.flatten

namespace NetlinkUtils

open Wificond.WiphyBandInfo (capabilities mem_capabilities central_of_mem construct_mem
  construct_add_construct)

/-- What a sub-attribute adds, as it would alone in a band. -/
def contribution (i : Item) : WiphyBandInfo := readBand [i]

theorem capability_mem (band : Band) : ∀ r ∈ capabilityReaders, ∀ i ∈ band.children,
    i.tag = r.1 → r.2 i ∈ capabilities := by
  intro r hr i hi htag
  simp only [capabilityReaders, List.mem_cons, List.not_mem_nil, or_false] at hr
  rcases hr with rfl | rfl | rfl | rfl | rfl | rfl
  · exact mem_capabilities rfl
  · exact mem_capabilities rfl
  · obtain ⟨tables, htables⟩ := band.tables i hi (.inr htag)
    show iftypeAmount i ∈ capabilities
    rw [iftypeAmount, htables]
    exact (parseIfTypeDataAttributes_addsIn i.tag tables).yield_mem
  · exact parseHtMcsSetAttribute_adds.valueAmount_mem i
  · exact parseVhtMcsSetAttribute_adds.valueAmount_mem i
  · exact parseVhtCapAttribute_adds.valueAmount_mem i

/-- A band with distinct ids adds the sum of what its sub-attributes add. -/
theorem readBand_eq_sum {band : Band} (h : (band.children.map Item.tag).Nodup) :
    readBand band.children = (band.children.map contribution).sum :=
  readAll_eq_sum h fun r hr i hi htag => central_of_mem (capability_mem band r hr i hi htag)

/-- Only the frequencies depend on their order. -/
theorem central_contribution {band : Band} {i : Item} (hi : i ∈ band.children)
    (hother : ¬ IsFreqs i) : Central (contribution i) := by
  apply central_readAll
  intro r hr k hk htag
  obtain rfl := List.mem_singleton.mp hk
  rcases List.mem_cons.mp hr with rfl | hr
  · simp [IsFreqs, htag] at hother
  · exact central_of_mem (capability_mem band r hr k hi htag)

theorem contribution_freqs (tables : List Table) :
    contribution (tablesOf bandAttrFreqs tables) = (tables.map frequencyAmount).sum := by
  have hfreqs : freqsAmount (tablesOf bandAttrFreqs tables) = (tables.map frequencyAmount).sum :=
    (handleBandFreqAttributes_adds bandAttrFreqs tables).yield_eq
  rw [contribution, readBand_eq, ← hfreqs]
  simp [readFirst, tablesOf, nestedOf]

/-- The frequency entries may be cut anywhere. -/
theorem sum_contribution_freqs (pieces : List (List Table)) :
    ((pieces.map (tablesOf bandAttrFreqs)).map contribution).sum =
      (pieces.flatten.map frequencyAmount).sum := by
  rw [List.map_flatten, List.sum_flatten, List.map_map, List.map_map]
  congr 1
  apply List.map_congr_left
  intro tables _
  exact contribution_freqs tables

/-- The parts together add what the whole adds. -/
theorem sum_readBand_of_distributed {whole : Band} {parts : List Band}
    (h : Distributed whole parts) :
    (parts.map fun part => readBand part.children).sum = readBand whole.children := by
  obtain ⟨pieces, entries, hpieces, hentries, hcut⟩ := h.freqs
  have hcentral (i : Item) (hi : i ∈ parts.flatMap Band.children) (hother : ¬ IsFreqs i) :
      Central (contribution i) := by
    obtain ⟨part, -, hi⟩ := List.mem_flatMap.mp hi
    exact central_contribution hi hother
  have hfreqs : (((parts.flatMap Band.children).filter IsFreqs).map contribution).sum =
      ((whole.children.filter IsFreqs).map contribution).sum := by
    rw [hpieces, hentries, sum_contribution_freqs, sum_contribution_freqs, hcut]
  calc (parts.map fun part => readBand part.children).sum
      = (parts.map fun part => (part.children.map contribution).sum).sum := by
        congr 1
        apply List.map_congr_left
        intro part hpart
        exact readBand_eq_sum (h.parts_distinct part hpart)
    _ = ((parts.flatMap Band.children).map contribution).sum := by
        rw [List.map_flatMap, List.flatMap_def, List.sum_flatten, List.map_map]
        rfl
    _ = (whole.children.map contribution).sum := sum_eq_of_perm IsFreqs hcentral h.others hfreqs
    _ = readBand whole.children := (readBand_eq_sum h.distinct).symm

variable {packet : NL80211Packet} {bands : List Band}

theorem band_items_fit (bands : List Band) : ∀ i ∈ bands.map Band.item, i.Fits := by
  intro i hi
  obtain ⟨band, -, rfl⟩ := List.mem_map.mp hi
  exact band.fits

/-- The band information starts from one stream and adds up what the bands add. -/
theorem parseBandInfo_of_carries (h : CarriesBands packet bands) :
    parseBandInfo packet = .ok (some (WiphyBandInfo.construct +
      (bands.map fun band => readBand band.children).sum)) := by
  have hall : Adds (fun total => bands.foldlM
      (fun total band => parseBand total ⟨band.item.encode⟩) total)
      (bands.map fun band => readBand band.children).sum :=
    Adds.foldlM fun band _ => parseBand_adds band
  have hlist : NL80211NestedAttr.getListOfNestedAttributes
      ⟨(nestedOf attrWiphyBands (bands.map Band.item)).encode⟩ =
      .ok (some ((bands.map Band.item).map fun i => ⟨i.encode⟩)) :=
    getListOfNestedAttributes_encodeAll _ (band_items_fit bands)
  have hfold : ((bands.map Band.item).map fun i => (⟨i.encode⟩ : NL80211NestedAttr)).foldlM
      parseBand WiphyBandInfo.construct = .ok (WiphyBandInfo.construct +
        (bands.map fun band => readBand band.children).sum) := by
    rw [← hall, List.map_map]
    exact List.foldlM_map
  rw [parseBandInfo, h]
  simp only [bind, Except.bind, hlist, hfold]
  rfl

theorem construct_add_combine (a b : WiphyBandInfo) :
    WiphyBandInfo.construct + (a + b) =
      (WiphyBandInfo.construct + a) + (WiphyBandInfo.construct + b) := by
  have hcomm := central_of_mem construct_mem a
  calc WiphyBandInfo.construct + (a + b)
      = (WiphyBandInfo.construct + WiphyBandInfo.construct) + (a + b) := by
        rw [construct_add_construct]
    _ = (WiphyBandInfo.construct + a) + (WiphyBandInfo.construct + b) :=
        hcomm.add_add_add_comm _ _

theorem parseBandInfo_append {x y : List Band} {packetX packetY : NL80211Packet}
    (hx : CarriesBands packetX x) (hy : CarriesBands packetY y)
    (h : CarriesBands packet (x ++ y)) : ∃ infoX infoY, parseBandInfo packetX = .ok (some infoX) ∧
      parseBandInfo packetY = .ok (some infoY) ∧
      parseBandInfo packet = .ok (some (infoX.combine infoY)) := by
  refine ⟨_, _, parseBandInfo_of_carries hx, parseBandInfo_of_carries hy, ?_⟩
  rw [parseBandInfo_of_carries h, List.map_append, List.sum_append, construct_add_combine]
  rfl

theorem parseBandInfo_distributed {before after : List Band} {whole : Band} {parts : List Band}
    {packet' : NL80211Packet} (hparts : Distributed whole parts)
    (h : CarriesBands packet (before ++ whole :: after))
    (h' : CarriesBands packet' (before ++ parts ++ after)) :
    parseBandInfo packet' = parseBandInfo packet := by
  have hsum : ((before ++ parts ++ after).map fun band => readBand band.children).sum =
      ((before ++ whole :: after).map fun band => readBand band.children).sum := by
    simp only [List.map_append, List.map_cons, List.sum_append, List.sum_cons,
      sum_readBand_of_distributed hparts, add_assoc]
  rw [parseBandInfo_of_carries h, parseBandInfo_of_carries h', hsum]

theorem carriesBands_of_items {header : List UInt8} {items : List Item}
    (hheader : header.length = nlmsgHdrlen + genlHdrlen) (hfits : ∀ i ∈ items, i.Fits)
    (hfind : items.find? (·.tag = attrWiphyBands) =
      some (nestedOf attrWiphyBands (bands.map Band.item))) :
    CarriesBands ⟨header ++ encodeAll items⟩ bands := by
  have hget := getAttributeFrom_encodeAll header BaseNL80211Attr.isValid attrWiphyBands items hfits
  have hvalid := isValid_encode (hfits _ (List.mem_of_find?_eq_some hfind))
  rw [CarriesBands, NL80211Packet.getAttribute, NL80211Packet.attributeStart, ← hheader, hget,
    hfind, Option.bind_some, if_pos hvalid]

theorem find?_tag_of_mem {items : List Item} {i : Item} (h : (items.map Item.tag).Nodup)
    (hi : i ∈ items) : items.find? (·.tag = i.tag) = some i := by
  cases hfind : items.find? (·.tag = i.tag) with
  | none =>
    have hother := List.find?_eq_none.mp hfind i hi
    simp at hother
  | some k =>
    have htag : k.tag = i.tag := by simpa using List.find?_some hfind
    rw [List.inj_on_of_nodup_map h (List.mem_of_find?_eq_some hfind) hi htag]

/-- Merging a split dump puts the bands of a wiphy together again. -/
theorem exists_merged_carries {packets : List SplitPacket} {dump : List (ℕ × List Item)}
    (h : IsSplitOf packets dump) {d : ℕ × List Item} (hd : d ∈ dump)
    (hbands : nestedOf attrWiphyBands (bands.map Band.item) ∈ d.2) :
    ∃ out, mergePacketsForSplitWiphyDump (packets.map SplitPacket.packet) = .ok (true, out) ∧
      ∃ merged ∈ out, merged.getAttributeValue (AttrTemplate.int .uint32) attrWiphy =
        .ok (some (d.1 : ℤ)) ∧ CarriesBands merged bands := by
  obtain ⟨attrs, hcollect, hcollected⟩ := collectAttributes_collected h.allFit packets
    collected_empty (by simp)
  rw [List.nil_append] at hcollected
  have hne : d.2 ≠ [] := List.ne_nil_of_mem hbands
  obtain ⟨items, hitems, hlist⟩ := hcollected.toList_wiphy h hd
  obtain ⟨p, hpacket, hwiphy, hp⟩ := exists_splitPacket_of_generate (h.wiphy_lt hd hne) hitems
    (h.fits d hd) hlist
  refine ⟨attrs.toList.map fun entry => generateWiphyPacket entry.1 entry.2, ?_, p.packet, ?_,
    by rw [p.wiphy_value, hwiphy], ?_⟩
  · rw [mergePacketsForSplitWiphyDump, hcollect]
    rfl
  · rw [← hpacket]
    have hentry : (d.1, attrs[d.1]?.getD ∅) ∈ attrs.toList := by
      rw [(hcollected.toList_perm h).mem_iff]
      exact List.mem_map.mpr ⟨d, List.mem_filter.mpr ⟨hd, by simpa using hne⟩, rfl⟩
    exact List.mem_map.mpr ⟨_, hentry, rfl⟩
  · have hnodup : (items.map Item.tag).Nodup :=
      (hitems.map Item.tag).nodup_iff.mpr (h.ids_nodup d hd)
    have hfind := find?_tag_of_mem hnodup (hitems.mem_iff.mpr hbands)
    apply carriesBands_of_items p.length_header p.fits
    rw [hp, List.find?_cons_of_neg (by simp)]
    exact hfind

/-- `ParseBandInfo` is compositional: in the list of bands, in the sub-attributes of a band, and
in the messages that the list comes in. -/
theorem parseBandInfo_compositional :
    (∀ (x y : List Band) (packetX packetY packet : NL80211Packet), CarriesBands packetX x →
      CarriesBands packetY y → CarriesBands packet (x ++ y) →
      ∃ infoX infoY, parseBandInfo packetX = .ok (some infoX) ∧
        parseBandInfo packetY = .ok (some infoY) ∧
        parseBandInfo packet = .ok (some (infoX.combine infoY))) ∧
    ∀ (before after parts : List Band) (whole : Band) (packet : NL80211Packet),
      Distributed whole parts → CarriesBands packet (before ++ whole :: after) →
      (∀ packet', CarriesBands packet' (before ++ parts ++ after) →
        parseBandInfo packet' = parseBandInfo packet) ∧
      ∀ packets dump, IsSplitOf packets dump → ∀ d ∈ dump,
        nestedOf attrWiphyBands ((before ++ parts ++ after).map Band.item) ∈ d.2 →
        ∃ out, mergePacketsForSplitWiphyDump (packets.map SplitPacket.packet) = .ok (true, out) ∧
          ∃ merged ∈ out, merged.getAttributeValue (AttrTemplate.int .uint32) attrWiphy =
            .ok (some (d.1 : ℤ)) ∧ parseBandInfo merged = parseBandInfo packet := by
  refine ⟨fun x y packetX packetY packet hx hy h => parseBandInfo_append hx hy h, ?_⟩
  intro before after parts whole packet hparts h
  constructor
  · intro packet' h'
    exact parseBandInfo_distributed hparts h h'
  · intro packets dump hsplit d hd hbands
    obtain ⟨out, hmerge, merged, hmem, hwiphy, hcarries⟩ := exists_merged_carries hsplit hd hbands
    exact ⟨out, hmerge, merged, hmem, hwiphy, parseBandInfo_distributed hparts h hcarries⟩

/-! A band of two frequencies, cut between them. -/

def channel (frequency : ℕ) : Table where
  tag := 0
  attributes := [⟨frequencyAttrFreq, bytesOf 4 frequency⟩]
  fits := by simp [Item.Fits, nestedOf, align4]
  attributes_fit := by simp [Item.Fits]

def htCapa : Item := ⟨bandAttrHtCapa, [0, 0]⟩

def wholeBand : Band where
  index := 0
  children := [tablesOf bandAttrFreqs [channel 2412, channel 2437], htCapa]
  fits := by decide
  children_fit := by decide
  tables := by
    intro i hi htag
    rcases List.mem_cons.mp hi with rfl | hi
    · exact ⟨_, rfl⟩
    · obtain rfl := List.mem_singleton.mp hi
      simp [htCapa] at htag

def firstPart : Band where
  index := 0
  children := [tablesOf bandAttrFreqs [channel 2412]]
  fits := by decide
  children_fit := by decide
  tables := by
    intro i hi _
    obtain rfl := List.mem_singleton.mp hi
    exact ⟨_, rfl⟩

def secondPart : Band where
  index := 0
  children := [htCapa, tablesOf bandAttrFreqs [channel 2437]]
  fits := by decide
  children_fit := by decide
  tables := by
    intro i hi htag
    rcases List.mem_cons.mp hi with rfl | hi
    · simp [htCapa] at htag
    · obtain rfl := List.mem_singleton.mp hi
      exact ⟨_, rfl⟩

def bandsPacket (bands : List Band) : NL80211Packet :=
  ⟨List.replicate 20 0 ++ encodeAll [nestedOf attrWiphyBands (bands.map Band.item)]⟩

theorem parseBandInfo_two_parts :
    parseBandInfo (bandsPacket [firstPart, secondPart]) = parseBandInfo (bandsPacket [wholeBand]) ∧
      parseBandInfo (bandsPacket [wholeBand]) = .ok (some { WiphyBandInfo.construct with
        band2g := [2412, 2437], is80211nSupported := true }) := by
  have hparts : Distributed wholeBand [firstPart, secondPart] :=
    ⟨by decide, by decide, by decide, [[channel 2412], [channel 2437]],
      [[channel 2412, channel 2437]], rfl, rfl, rfl⟩
  have hwhole : CarriesBands (bandsPacket [wholeBand]) ([] ++ wholeBand :: []) := by
    decide +kernel
  have hsplit : CarriesBands (bandsPacket [firstPart, secondPart])
      ([] ++ [firstPart, secondPart] ++ []) := by
    decide +kernel
  refine ⟨?_, by decide +kernel⟩
  exact (parseBandInfo_compositional.2 [] [] _ wholeBand _ hparts hwhole).1 _ hsplit

end NetlinkUtils

end Wificond
