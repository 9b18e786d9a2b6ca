import Wificond.Runs
import Wificond.WiphyInfo

/-!
# Packets left behind by an attempt

Both attempts at a wiphy dump append to one vector. What a failed attempt leaves behind is
looked at in front of the packets of the second, or merged with them. Where it concerns
other wiphys it is harmless, as long as no merge with it is led out of range.
-/
namespace Wificond

open LittleEndian PaddedTlv

namespace NetlinkUtils

/-- The first attempt fails after some packets, the second brings all of its own. -/
def secondAttempt (left second : List NL80211Packet) : Responses
  | 0, _ => (false, left)
  | _ + 1, _ => (true, second)

/-- The call ends as if nothing had been left behind. -/
def RetryIndependent (header : RequestHeader) (supportsSplitWiphyDump : Bool)
    (wiphyIndex : UInt32) (left second : List NL80211Packet) (outs : WiphyInfo) : Prop :=
  getWiphyInfo header (secondAttempt left second) supportsSplitWiphyDump wiphyIndex outs =
    getWiphyInfo header (secondAttempt [] second) supportsSplitWiphyDump wiphyIndex outs

theorem getWiphyInfo_secondAttempt (header : RequestHeader) (left second : List NL80211Packet)
    (split : Bool) (wiphyIndex : UInt32) (outs : WiphyInfo) :
    getWiphyInfo header (secondAttempt left second) split wiphyIndex outs =
      packetPerWiphy split (left ++ second) >>= findWiphyInfo wiphyIndex outs := rfl

/-- A packet that is not of the wiphy, or is refused before an output is written. -/
def Ignored (wiphyIndex : UInt32) (packet : NL80211Packet) : Prop :=
  ∃ current, packet.getAttributeValue (AttrTemplate.int .uint32) attrWiphy = .ok current ∧
    (current.map UInt32.ofInt = some wiphyIndex →
      ∃ command, packet.getCommand = .ok command ∧
        (command = cmdNewWiphy.toNat → parseBandInfo packet = .ok none))

section Whole
variable {wiphyIndex : UInt32} {packet : NL80211Packet} {rest left : List NL80211Packet}

theorem findWiphyInfo_of_ignored (h : Ignored wiphyIndex packet) (outs : WiphyInfo) :
    findWiphyInfo wiphyIndex outs (packet :: rest) = findWiphyInfo wiphyIndex outs rest := by
  obtain ⟨current, hcurrent, hrefused⟩ := h
  rw [findWiphyInfo, hcurrent]
  simp only [bind, Except.bind]
  by_cases hw : current.map UInt32.ofInt = some wiphyIndex
  · obtain ⟨command, hcommand, hbands⟩ := hrefused hw
    rw [if_neg (not_not.mpr hw)]
    by_cases hnew : command = cmdNewWiphy.toNat
    · simp [parseWiphyInfoFromPacket, hcommand, hnew, hbands hnew, bind, Except.bind, pure,
        Except.pure]
    · simp [parseWiphyInfoFromPacket, hcommand, hnew, bind, Except.bind, pure, Except.pure]
  · rw [if_pos hw]

/-- A packet that is not ignored is the same for all band information there was before: it
is written over, or the walk through the packet does not come to an end. -/
theorem findWiphyInfo_of_not_ignored (h : ¬ Ignored wiphyIndex packet) (outs : WiphyInfo)
    (bandInfo : WiphyBandInfo) :
    findWiphyInfo wiphyIndex { outs with bandInfo := bandInfo } (packet :: rest) =
      findWiphyInfo wiphyIndex outs (packet :: rest) := by
  rw [findWiphyInfo, findWiphyInfo]
  cases hcurrent : packet.getAttributeValue (AttrTemplate.int .uint32) attrWiphy with
  | error fault => rfl
  | ok current =>
    simp only [bind, Except.bind]
    by_cases hw : current.map UInt32.ofInt = some wiphyIndex
    · rw [if_neg (not_not.mpr hw), if_neg (not_not.mpr hw)]
      have hparse : parseWiphyInfoFromPacket packet { outs with bandInfo := bandInfo } =
          parseWiphyInfoFromPacket packet outs := by
        rw [parseWiphyInfoFromPacket, parseWiphyInfoFromPacket]
        cases hcommand : packet.getCommand with
        | error fault => rfl
        | ok command =>
          by_cases hnew : command = cmdNewWiphy.toNat
          · cases hbands : parseBandInfo packet with
            | error fault => simp [hnew, bind, Except.bind]
            | ok bands =>
              cases bands with
              | none =>
                exact absurd
                  ⟨current, hcurrent, fun _ => ⟨command, hcommand, fun _ => hbands⟩⟩ h
              | some bands => simp [hnew, bind, Except.bind]
          · exact absurd
              ⟨current, hcurrent, fun _ => ⟨command, hcommand, fun heq => absurd heq hnew⟩⟩ h
      rw [hparse]
    · exact absurd ⟨current, hcurrent, fun heq => absurd heq hw⟩ h

theorem findWiphyInfo_append_of_ignored (h : ∀ packet ∈ left, Ignored wiphyIndex packet)
    (outs : WiphyInfo) :
    findWiphyInfo wiphyIndex outs (left ++ rest) = findWiphyInfo wiphyIndex outs rest := by
  induction left with
  | nil => rfl
  | cons packet left ih =>
    rw [List.cons_append, findWiphyInfo_of_ignored (h packet (by simp))]
    exact ih fun p hp => h p (by simp [hp])

/-- What fails and leaves all outputs alone, whatever they were, consists of packets that
are ignored. -/
theorem ignored_of_findWiphyInfo
    (h : ∀ outs, findWiphyInfo wiphyIndex outs left = .ok (false, outs)) :
    ∀ packet ∈ left, Ignored wiphyIndex packet := by
  induction left with
  | nil => simp
  | cons packet left ih =>
    by_cases hpacket : Ignored wiphyIndex packet
    · simp only [findWiphyInfo_of_ignored hpacket] at h
      intro p hp
      rcases List.mem_cons.mp hp with rfl | hp
      · exact hpacket
      · exact ih h p hp
    · let outs : WiphyInfo := ⟨.construct, ⟨0, 0, 0, 0, 0, 0⟩, .construct 0 []⟩
      let other : WiphyBandInfo := { WiphyBandInfo.construct with maxTxStreams := 2 }
      have hsame : findWiphyInfo wiphyIndex { outs with bandInfo := other } (packet :: left) =
        findWiphyInfo wiphyIndex outs (packet :: left) :=
        findWiphyInfo_of_not_ignored hpacket outs other
      rw [h, h] at hsame
      simp only [Except.ok.injEq, Prod.mk.injEq, true_and] at hsame
      have hbands : other = outs.bandInfo := congrArg WiphyInfo.bandInfo hsame
      simp [other, outs, WiphyBandInfo.construct] at hbands

/-- Without a split dump nothing that is left behind may get to the outputs. -/
theorem retryIndependent_whole_iff (header : RequestHeader) :
    (∀ second outs, RetryIndependent header false wiphyIndex left second outs) ↔
      ∀ packet ∈ left, Ignored wiphyIndex packet := by
  constructor
  · intro h
    apply ignored_of_findWiphyInfo
    intro outs
    have hnone := h [] outs
    rw [RetryIndependent, getWiphyInfo_secondAttempt, getWiphyInfo_secondAttempt] at hnone
    rw [List.append_nil] at hnone
    exact hnone
  · intro h second outs
    rw [RetryIndependent, getWiphyInfo_secondAttempt, getWiphyInfo_secondAttempt]
    exact findWiphyInfo_append_of_ignored h outs

end Whole

theorem ofInt_eq_iff {k : ℕ} (hk : k < 2 ^ 32) (wiphyIndex : UInt32) :
    UInt32.ofInt k = wiphyIndex ↔ k = wiphyIndex.toNat := by
  have hcast : UInt32.ofInt k = UInt32.ofNat k := by
    rw [UInt32.ofInt]
    apply congrArg
    omega
  rw [hcast, ← UInt32.toNat_inj, UInt32.toNat_ofNat_of_lt' hk]

/-- A value that is read as an unsigned number of 32 bits is one. -/
theorem uint32_of_getAttributeValue {packet : NL80211Packet} {id : ℕ} {value : ℤ}
    (h : packet.getAttributeValue (AttrTemplate.int .uint32) id = .ok (some value)) :
    0 ≤ value ∧ value < 2 ^ 32 := by
  rw [NL80211Packet.getAttributeValue, getAttributeValueFrom] at h
  cases hattr : getAttributeFrom packet.data NL80211Packet.attributeStart
      (AttrTemplate.int .uint32).isValid id with
  | error fault => simp [hattr, bind, Except.bind] at h
  | ok found =>
    cases found with
    | none => simp [hattr, bind, Except.bind, pure, Except.pure] at h
    | some attr =>
      simp only [hattr, bind, Except.bind] at h
      cases hvalue : (AttrTemplate.int .uint32).getValue attr with
      | error fault => simp [hvalue] at h
      | ok read =>
        obtain rfl : read = value := by simpa [hvalue, pure, Except.pure] using h
        simp only [AttrTemplate.int] at hvalue
        split_ifs at hvalue
        have hbytes := valueOf_lt (slice attr.data nlaHdrlen (nlaHdrlen + IntType.uint32.size))
        have hlen : (slice attr.data nlaHdrlen (nlaHdrlen + IntType.uint32.size)).length ≤ 4 := by
          simp [slice, IntType.size]
        have hbound := lt_of_lt_of_le hbytes (Nat.pow_le_pow_right (by omega : 0 < 256) hlen)
        obtain rfl : ((valueOf (slice attr.data nlaHdrlen
            (nlaHdrlen + IntType.uint32.size)) : ℕ) : ℤ) = read := by
          simpa [IntType.ofBytes, IntType.signed] using hvalue
        omega

section Collecting
variable {wiphyIndex : UInt32} {wiphy k : ℕ} {attrs attrs' : AttrByWiphyAndId}
  {packet : NL80211Packet} {packets : List NL80211Packet}

/-- What a pass over a record stores: the record, or its merge with what is stored. -/
def storing (attrs : AttrByWiphyAndId) (wiphy : ℕ) (i : Item) : Exec BaseNL80211Attr :=
  match stored attrs wiphy i.tag with
  | none => .ok ⟨i.encode⟩
  | some attr => (attr.merge ⟨i.encode⟩).map Prod.snd

theorem mergeAttribute_merged {i : Item} (hi : i.Fits) (hmerged : IsMerged i.tag) :
    mergeAttribute wiphy attrs ⟨i.encode⟩ = (storing attrs wiphy i).map fun attr =>
      attrs.insert wiphy ((attrs[wiphy]?.getD ∅).insert i.tag attr) := by
  simp only [mergeAttribute, getAttributeId_encode hi, if_pos hmerged, storing, stored]
  cases (attrs[wiphy]?.getD ∅)[i.tag]? with
  | none => rfl
  | some attr =>
    dsimp only
    cases attr.merge ⟨i.encode⟩ <;> rfl

/-- A pass over a record changes the attributes of its wiphy. -/
theorem mergeAttribute_other {attr : BaseNL80211Attr} (hk : k ≠ wiphy)
    (h : mergeAttribute wiphy attrs attr = .ok attrs') : attrs'[k]? = attrs[k]? := by
  have hinsert (ofWiphy : AttrById) : (attrs.insert wiphy ofWiphy)[k]? = attrs[k]? := by
    simp [Std.ExtTreeMap.getElem?_insert, hk.symm]
  rw [mergeAttribute] at h
  dsimp only at h
  split_ifs at h
  · cases hget : (attrs[wiphy]?.getD ∅)[attr.getAttributeId]? with
    | none =>
      rw [hget] at h
      obtain rfl := Except.ok.inj h
      exact hinsert _
    | some stored =>
      rw [hget] at h
      obtain ⟨merged, -, h⟩ := Runs.bind_eq_ok.mp h
      obtain rfl := Except.ok.inj h
      exact hinsert _
  · rw [Except.ok.inj h]

theorem foldlM_mergeAttribute_other {attributes : List BaseNL80211Attr} (hk : k ≠ wiphy)
    (h : attributes.foldlM (mergeAttribute wiphy) attrs = .ok attrs') :
    attrs'[k]? = attrs[k]? :=
  Runs.foldlM_keeps (fun a => a[k]? = attrs[k]?)
    (fun _ _ _ _ hkept hstep => (mergeAttribute_other hk hstep).trans hkept) rfl h

/-- The packet has the index of a wiphy, and all its attributes can be read. -/
structure Complete (packet : NL80211Packet) (index : ℤ) (attributes : List BaseNL80211Attr) :
    Prop where
  index : packet.getAttributeValue (AttrTemplate.int .uint32) attrWiphy = .ok (some index)
  attributes : packet.getAllAttributes = .ok (true, attributes)

theorem Complete.eq {index index' : ℤ} {attributes attributes' : List BaseNL80211Attr}
    (h : Complete packet index attributes) (h' : Complete packet index' attributes') :
    index = index' ∧ attributes = attributes' := by
  have hindex := h.index.symm.trans h'.index
  have hattributes := h.attributes.symm.trans h'.attributes
  simpa using And.intro hindex hattributes

theorem mergePacket_of_complete {index : ℤ} {attributes : List BaseNL80211Attr}
    (h : Complete packet index attributes) (attrs : AttrByWiphyAndId) :
    mergePacket attrs packet =
      (attributes.foldlM (mergeAttribute index.toNat) attrs).map some := by
  rw [mergePacket, h.index, h.attributes]
  simp only [bind, Except.bind, if_true]
  cases attributes.foldlM (mergeAttribute index.toNat) attrs <;> rfl

/-- What a packet can do: it ends the loop, or it is complete. -/
theorem mergePacket_cases (packet : NL80211Packet) :
    (∃ result, (∀ merged, result ≠ .ok (some merged)) ∧
      ∀ attrs, mergePacket attrs packet = result) ∨
      ∃ index attributes, Complete packet index attributes := by
  cases hindex : packet.getAttributeValue (AttrTemplate.int .uint32) attrWiphy with
  | error fault =>
    exact .inl ⟨.error fault, by simp, fun attrs => by
      simp [mergePacket, hindex, bind, Except.bind]⟩
  | ok index =>
    cases index with
    | none =>
      exact .inl ⟨.ok none, by simp, fun attrs => by
        simp [mergePacket, hindex, bind, Except.bind, pure, Except.pure]⟩
    | some index =>
      cases hall : packet.getAllAttributes with
      | error fault =>
        exact .inl ⟨.error fault, by simp, fun attrs => by
          simp [mergePacket, hindex, hall, bind, Except.bind]⟩
      | ok result =>
        obtain ⟨complete, attributes⟩ := result
        cases complete with
        | false =>
          exact .inl ⟨.ok none, by simp, fun attrs => by
            simp [mergePacket, hindex, hall, bind, Except.bind, pure, Except.pure]⟩
        | true => exact .inr ⟨index, attributes, hindex, hall⟩

theorem collectAttributes_cons_eq_some
    (h : collectAttributes attrs (packet :: packets) = .ok (some attrs')) :
    ∃ index attributes attrs₁, Complete packet index attributes ∧
      attributes.foldlM (mergeAttribute index.toNat) attrs = .ok attrs₁ ∧
      collectAttributes attrs₁ packets = .ok (some attrs') := by
  rw [collectAttributes] at h
  obtain ⟨merged, hmerge, h⟩ := Runs.bind_eq_ok.mp h
  cases merged with
  | none => simp [pure, Except.pure] at h
  | some attrs₁ =>
    rcases mergePacket_cases packet with ⟨result, hnone, hresult⟩ | ⟨index, attributes, hcomplete⟩
    · exact absurd ((hresult attrs).symm.trans hmerge) (hnone attrs₁)
    · rw [mergePacket_of_complete hcomplete] at hmerge
      cases hfold : attributes.foldlM (mergeAttribute index.toNat) attrs with
      | error fault => simp [hfold, Except.map] at hmerge
      | ok attrs₂ =>
        obtain rfl : attrs₂ = attrs₁ := by simpa [hfold, Except.map] using hmerge
        exact ⟨index, attributes, attrs₂, hcomplete, hfold, h⟩

theorem collectAttributes_append (attrs : AttrByWiphyAndId) (left second : List NL80211Packet) :
    collectAttributes attrs (left ++ second) = (do
      match ← collectAttributes attrs left with
      | none => return none
      | some attrs => collectAttributes attrs second) := by
  induction left generalizing attrs with
  | nil => rfl
  | cons packet left ih =>
    rw [List.cons_append, collectAttributes, collectAttributes]
    cases hmerge : mergePacket attrs packet with
    | error fault => rfl
    | ok result =>
      cases result with
      | none => rfl
      | some attrs' => exact ih attrs'

theorem collectAttributes_append_of_collected {left : List NL80211Packet}
    (h : collectAttributes attrs left = .ok (some attrs')) (second : List NL80211Packet) :
    collectAttributes attrs (left ++ second) = collectAttributes attrs' second := by
  rw [collectAttributes_append, h]
  rfl

/-- Where the passes over records end alike, so do those over packets. -/
theorem collectAttributes_alike {excused : Fault → Prop}
    {R : AttrByWiphyAndId → AttrByWiphyAndId → Prop}
    (hstep : ∀ wiphy (i : Item), i.Fits → ∀ a b, R a b → Runs.EndsAlike excused R
      (mergeAttribute wiphy a ⟨i.encode⟩) (mergeAttribute wiphy b ⟨i.encode⟩))
    (packets : List NL80211Packet) (h : R attrs attrs') :
    Runs.EndsAlike excused (Option.Rel R) (collectAttributes attrs packets)
      (collectAttributes attrs' packets) := by
  induction packets generalizing attrs attrs' with
  | nil => exact .ok (.some h)
  | cons packet packets ih =>
    have hpacket : Runs.EndsAlike excused (Option.Rel R) (mergePacket attrs packet)
        (mergePacket attrs' packet) := by
      rcases mergePacket_cases packet with ⟨result, hnone, hresult⟩ | ⟨index, attributes, hcomplete⟩
      · rw [hresult attrs, hresult attrs']
        cases result with
        | error fault => exact .error fault
        | ok merged =>
          cases merged with
          | none => exact .ok .none
          | some merged => exact absurd rfl (hnone merged)
      · rw [mergePacket_of_complete hcomplete, mergePacket_of_complete hcomplete]
        have hfold : Runs.EndsAlike excused R (attributes.foldlM (mergeAttribute index.toNat) attrs)
            (attributes.foldlM (mergeAttribute index.toNat) attrs') := by
          refine .foldlM (fun attr hattr a b hab => ?_) h
          obtain ⟨i, hi, rfl⟩ := records_of_getAllAttributes hcomplete.attributes attr hattr
          exact hstep index.toNat i hi a b hab
        exact hfold.bind fun a b hab => .ok (.some hab)
    rw [collectAttributes, collectAttributes]
    refine hpacket.bind fun a b hab => ?_
    cases hab with
    | none => exact .ok .none
    | some hab => exact ih hab

/-- The wiphys that are collected are named by a number of 32 bits. -/
theorem keys_collectAttributes (packets : List NL80211Packet)
    (h : collectAttributes attrs packets = .ok (some attrs'))
    (hkeys : ∀ k ∈ attrs, k < 2 ^ 32) : ∀ k ∈ attrs', k < 2 ^ 32 := by
  induction packets generalizing attrs with
  | nil =>
    obtain rfl : attrs = attrs' := by
      simpa [collectAttributes, pure, Except.pure] using h
    exact hkeys
  | cons packet packets ih =>
    obtain ⟨index, _, attrs₁, hcomplete, hfold, hcollect⟩ := collectAttributes_cons_eq_some h
    refine ih hcollect fun k hk => ?_
    by_cases heq : k = index.toNat
    · have hrange := uint32_of_getAttributeValue hcomplete.index
      omega
    · refine hkeys k ?_
      rw [OrderedMap.mem_iff_exists] at hk ⊢
      rwa [foldlM_mergeAttribute_other heq hfold] at hk

/-- A packet of a dump that adds nothing to the attributes of the wiphy. -/
def AddsNothing (wiphyIndex : UInt32) (packet : NL80211Packet) : Prop :=
  ∃ index attributes, Complete packet index attributes ∧
    (UInt32.ofInt index = wiphyIndex → ∀ attr ∈ attributes, ¬ IsMerged attr.getAttributeId)

/-- A packet of a dump that adds nothing to the attributes of the wiphy, and no payload to
those of others. -/
def AddsNoPayload (wiphyIndex : UInt32) (packet : NL80211Packet) : Prop :=
  ∃ index attributes, Complete packet index attributes ∧
    ∀ attr ∈ attributes, IsMerged attr.getAttributeId →
      UInt32.ofInt index ≠ wiphyIndex ∧ nlaLen attr.data 0 = nlaHdrlen

theorem foldlM_mergeAttribute_of_not_merged (wiphy : ℕ) {attributes : List BaseNL80211Attr}
    (h : ∀ attr ∈ attributes, ¬ IsMerged attr.getAttributeId) (attrs : AttrByWiphyAndId) :
    attributes.foldlM (mergeAttribute wiphy) attrs = .ok attrs := by
  induction attributes with
  | nil => rfl
  | cons attr attributes ih =>
    have hstep : mergeAttribute wiphy attrs attr = .ok attrs := by
      simp only [mergeAttribute, if_neg (h attr (by simp))]
    rw [List.foldlM_cons, hstep]
    exact ih fun a ha => h a (by simp [ha])

/-- The index that a packet is filed under is that of its wiphy. -/
theorem toNat_eq_iff {index : ℤ} {attributes : List BaseNL80211Attr}
    (h : Complete packet index attributes) :
    index.toNat = wiphyIndex.toNat ↔ UInt32.ofInt index = wiphyIndex := by
  obtain ⟨hnonneg, hlt⟩ := uint32_of_getAttributeValue h.index
  obtain ⟨k, rfl⟩ := Int.eq_ofNat_of_zero_le hnonneg
  rw [ofInt_eq_iff (by omega), Int.toNat_natCast]

theorem mergeAttribute_error {attr : BaseNL80211Attr} {fault : Fault}
    (h : mergeAttribute wiphy attrs attr = .error fault) : fault = .outOfRange := by
  rw [mergeAttribute] at h
  dsimp only at h
  split_ifs at h
  cases hget : (attrs[wiphy]?.getD ∅)[attr.getAttributeId]? with
  | none => simp [hget] at h
  | some stored =>
    cases hmerge : stored.merge attr with
    | error fault' =>
      obtain rfl : fault' = fault := by simpa [hget, hmerge, bind, Except.bind] using h
      exact eq_outOfRange_of_merge hmerge
    | ok merged => simp [hget, hmerge, bind, Except.bind, pure, Except.pure] at h

theorem foldlM_mergeAttribute_error {attributes : List BaseNL80211Attr} {fault : Fault}
    (h : attributes.foldlM (mergeAttribute wiphy) attrs = .error fault) : fault = .outOfRange := by
  induction attributes generalizing attrs with
  | nil => cases h
  | cons attr attributes ih =>
    rw [List.foldlM_cons] at h
    cases hstep : mergeAttribute wiphy attrs attr with
    | error fault' =>
      obtain rfl : fault' = fault := by simpa [hstep, bind, Except.bind] using h
      exact mergeAttribute_error hstep
    | ok attrs₁ => exact ih (by simpa [hstep, bind, Except.bind] using h)

/-- What was collected for the wiphy is the same. -/
def SameOf (wiphyIndex : UInt32) (attrs attrs' : AttrByWiphyAndId) : Prop :=
  attrs[wiphyIndex.toNat]? = attrs'[wiphyIndex.toNat]?

/-- The same, and what was collected for others differs by attributes without payload. -/
structure SameButEmpty (wiphyIndex : UInt32) (attrs attrs' : AttrByWiphyAndId) : Prop where
  same : SameOf wiphyIndex attrs attrs'
  others : ∀ wiphy id, stored attrs' wiphy id = stored attrs wiphy id ∨
    stored attrs wiphy id = none ∧ stored attrs' wiphy id = some ⟨(Item.mk id []).encode⟩

theorem sameOf_insert (h : SameOf wiphyIndex attrs attrs') (wiphy id : ℕ)
    (attr : BaseNL80211Attr) :
    SameOf wiphyIndex (attrs.insert wiphy ((attrs[wiphy]?.getD ∅).insert id attr))
      (attrs'.insert wiphy ((attrs'[wiphy]?.getD ∅).insert id attr)) := by
  rw [SameOf] at h ⊢
  by_cases hw : wiphy = wiphyIndex.toNat
  · subst hw
    simp [h]
  · simpa [Std.ExtTreeMap.getElem?_insert, hw] using h

/-- A pass keeps what is the same of the wiphy, unless a merge reads out of range. -/
theorem sameOf_mergeAttribute (wiphy : ℕ) {i : Item} (hi : i.Fits)
    (h : SameOf wiphyIndex attrs attrs') :
    Runs.EndsAlike (· = .outOfRange) (SameOf wiphyIndex) (mergeAttribute wiphy attrs ⟨i.encode⟩)
      (mergeAttribute wiphy attrs' ⟨i.encode⟩) := by
  by_cases hw : wiphyIndex.toNat = wiphy
  · by_cases hmerged : IsMerged i.tag
    · have hstoring : storing attrs wiphy i = storing attrs' wiphy i := by
        rw [storing, storing, stored, stored, ← hw, h]
      rw [mergeAttribute_merged hi hmerged, mergeAttribute_merged hi hmerged, hstoring]
      cases storing attrs' wiphy i with
      | error fault => exact .error fault
      | ok attr => exact .ok (sameOf_insert h wiphy i.tag attr)
    · rw [mergeAttribute_filtered hi hmerged, mergeAttribute_filtered hi hmerged]
      exact .ok h
  · cases hfirst : mergeAttribute wiphy attrs ⟨i.encode⟩ with
    | error fault =>
      obtain rfl := mergeAttribute_error hfirst
      exact .left (by rfl) _
    | ok first =>
      cases hsecond : mergeAttribute wiphy attrs' ⟨i.encode⟩ with
      | error fault =>
        obtain rfl := mergeAttribute_error hsecond
        exact .right (by rfl) _
      | ok second =>
        exact .ok ((mergeAttribute_other hw hfirst).trans (h.trans
          (mergeAttribute_other hw hsecond).symm))

theorem merge_empty {i : Item} (hi : i.Fits) :
    BaseNL80211Attr.merge ⟨(Item.mk i.tag []).encode⟩ ⟨i.encode⟩ = .ok (true, ⟨i.encode⟩) :=
  merge_encode_of_fits ⟨hi.1, by norm_num⟩ hi

/-- A pass makes the same of an attribute without payload as of none. -/
theorem storing_eq {i : Item} (hi : i.Fits) (h : SameButEmpty wiphyIndex attrs attrs')
    (wiphy : ℕ) : storing attrs wiphy i = storing attrs' wiphy i := by
  rcases h.others wiphy i.tag with heq | ⟨hnone, hempty⟩
  · rw [storing, storing, heq]
  · simp only [storing, hnone, hempty, merge_empty hi, Except.map]

theorem sameButEmpty_mergeAttribute (wiphy : ℕ) {i : Item} (hi : i.Fits)
    (h : SameButEmpty wiphyIndex attrs attrs') :
    Runs.EndsAlike (fun _ => False) (SameButEmpty wiphyIndex)
      (mergeAttribute wiphy attrs ⟨i.encode⟩) (mergeAttribute wiphy attrs' ⟨i.encode⟩) := by
  by_cases hmerged : IsMerged i.tag
  · rw [mergeAttribute_merged hi hmerged, mergeAttribute_merged hi hmerged, storing_eq hi h]
    cases storing attrs' wiphy i with
    | error fault => exact .error fault
    | ok attr =>
      refine .ok ⟨sameOf_insert h.same wiphy i.tag attr, fun wiphy' id => ?_⟩
      rw [stored_insert, stored_insert]
      split_ifs with hhit
      · exact .inl rfl
      · exact h.others wiphy' id
  · rw [mergeAttribute_filtered hi hmerged, mergeAttribute_filtered hi hmerged]
    exact .ok h

end Collecting

section Split
variable {wiphyIndex : UInt32} {k : ℕ} {attrs : AttrByWiphyAndId}

/-- The attributes of a wiphy laid end to end. -/
def dataOf (attributes : AttrById) : List UInt8 :=
  attributes.toList.flatMap fun entry => entry.2.data

/-- The generated packet is the index of the wiphy and then the attributes. -/
theorem generateWiphyPacket_data (hk : k < 2 ^ 32) (attributes : AttrById) :
    ∃ header, header.length = NL80211Packet.attributeStart ∧
      (generateWiphyPacket k attributes).data =
        header ++ ((Item.mk attrWiphy (bytesOf 4 k)).encode ++ dataOf attributes) ∧
      (generateWiphyPacket k attributes).getCommand = .ok cmdNewWiphy.toNat := by
  have hfold (entries : List (ℕ × BaseNL80211Attr)) (area : List UInt8) :
      entries.foldl (fun packet entry => packet.addAttribute entry.2)
          (NL80211Packet.ofArea 0 cmdNewWiphy 0 0 area) =
        NL80211Packet.ofArea 0 cmdNewWiphy 0 0
          (area ++ entries.flatMap fun entry => entry.2.data) := by
    induction entries generalizing area with
    | nil => simp
    | cons entry entries ih =>
      rw [List.foldl_cons, NL80211Packet.addAttribute_ofArea, ih, List.append_assoc,
        List.flatMap_cons]
  let area := (Item.mk attrWiphy (bytesOf 4 k)).encode ++ dataOf attributes
  have hpacket : generateWiphyPacket k attributes =
      NL80211Packet.ofArea 0 cmdNewWiphy 0 0 area := by
    rw [generateWiphyPacket, ofInt_uint32_eq hk, NL80211Packet.ofHeader_eq_ofArea,
      NL80211Packet.addAttribute_ofArea, List.nil_append, hfold]
    rfl
  refine ⟨bytesOf 4 (20 + area.length) ++ NL80211Packet.headerTail 0 cmdNewWiphy 0 0, ?_, ?_, ?_⟩
  · simp [NL80211Packet.length_headerTail]
    rfl
  · rw [hpacket, NL80211Packet.ofArea, List.append_assoc]
  · rw [hpacket, NL80211Packet.getCommand, if_pos ?_]
    · rfl
    · rw [NL80211Packet.length_ofArea]
      simp only [nlmsgHdrlen]
      omega

/-- A generated packet is of the wiphy that it was generated for. -/
theorem wiphy_generateWiphyPacket (hk : k < 2 ^ 32) (attributes : AttrById) :
    (generateWiphyPacket k attributes).getAttributeValue (AttrTemplate.int .uint32) attrWiphy =
      .ok (some (k : ℤ)) := by
  obtain ⟨header, hheader, hdata, -⟩ := generateWiphyPacket_data hk attributes
  let index : Item := ⟨attrWiphy, bytesOf 4 k⟩
  have hitem : index.Fits := by simp [index, Item.Fits]
  have hget := getAttributeFrom_append header (AttrTemplate.int .uint32).isValid
    (List.forall_mem_nil Item.Fits) hitem (by simp) (dataOf attributes)
  rw [AttrTemplate.int_isValid_encode (by simp [IntType.size]) hitem, if_pos rfl] at hget
  rw [hheader, encodeAll_nil, List.nil_append] at hget
  simp only [NL80211Packet.getAttributeValue, getAttributeValueFrom, hdata]
  simp only [index] at hget
  simp only [hget, bind, Except.bind, uint32_getValue_encode attrWiphy hk]
  rfl

theorem findWiphyInfo_cons_congr {packet : NL80211Packet} {rest rest' : List NL80211Packet}
    (h : ∀ outs, findWiphyInfo wiphyIndex outs rest = findWiphyInfo wiphyIndex outs rest')
    (outs : WiphyInfo) : findWiphyInfo wiphyIndex outs (packet :: rest) =
      findWiphyInfo wiphyIndex outs (packet :: rest') := by
  simp only [findWiphyInfo, h]

/-- Of the generated packets only that of the wiphy is looked at. -/
theorem findWiphyInfo_generated (hkeys : ∀ k ∈ attrs, k < 2 ^ 32) (outs : WiphyInfo) :
    findWiphyInfo wiphyIndex outs
        (attrs.toList.map fun entry => generateWiphyPacket entry.1 entry.2) =
      findWiphyInfo wiphyIndex outs (attrs[wiphyIndex.toNat]?.toList.map fun attributes =>
        generateWiphyPacket wiphyIndex.toNat attributes) := by
  have hfilter (entries : List (ℕ × AttrById)) (h : ∀ entry ∈ entries, entry.1 < 2 ^ 32)
      (outs : WiphyInfo) : findWiphyInfo wiphyIndex outs
          (entries.map fun entry => generateWiphyPacket entry.1 entry.2) =
        findWiphyInfo wiphyIndex outs ((entries.filter fun entry =>
          entry.1 = wiphyIndex.toNat).map fun entry => generateWiphyPacket entry.1 entry.2) := by
    induction entries generalizing outs with
    | nil => rfl
    | cons entry entries ih =>
      have hrest := ih fun e he => h e (by simp [he])
      have hk := h entry (by simp)
      by_cases hw : entry.1 = wiphyIndex.toNat
      · rw [List.filter_cons_of_pos (by simpa using hw), List.map_cons, List.map_cons]
        exact findWiphyInfo_cons_congr hrest outs
      · have hignored : Ignored wiphyIndex (generateWiphyPacket entry.1 entry.2) := by
          refine ⟨_, wiphy_generateWiphyPacket hk entry.2, fun heq => absurd ?_ hw⟩
          exact (ofInt_eq_iff hk wiphyIndex).mp (Option.some.inj heq)
        rw [List.filter_cons_of_neg (by simpa using hw), List.map_cons,
          findWiphyInfo_of_ignored hignored]
        exact hrest outs
  rw [hfilter attrs.toList ?_ outs, OrderedMap.filter_toList, List.map_map]
  · rfl
  · intro entry hentry
    refine hkeys entry.1 (OrderedMap.mem_iff_exists.mpr ⟨entry.2, ?_⟩)
    exact Std.ExtTreeMap.mem_toList_iff_getElem?_eq_some.mp hentry

/-- Of what is collected the call looks at the attributes of the wiphy. -/
theorem split_of_collected {packets : List NL80211Packet}
    (h : collectAttributes ∅ packets = .ok (some attrs)) (outs : WiphyInfo) :
    packetPerWiphy true packets >>= findWiphyInfo wiphyIndex outs =
      findWiphyInfo wiphyIndex outs (attrs[wiphyIndex.toNat]?.toList.map fun attributes =>
        generateWiphyPacket wiphyIndex.toNat attributes) := by
  rw [← findWiphyInfo_generated (keys_collectAttributes packets h (by simp))]
  simp only [packetPerWiphy, mergePacketsForSplitWiphyDump, h]
  rfl

/-- What the call makes of a split dump depends on what is collected for the wiphy. -/
theorem split_congr {response response' : List NL80211Packet}
    (h : (collectAttributes ∅ response).map (Option.map fun a => a[wiphyIndex.toNat]?) =
      (collectAttributes ∅ response').map (Option.map fun a => a[wiphyIndex.toNat]?))
    (outs : WiphyInfo) :
    packetPerWiphy true response >>= findWiphyInfo wiphyIndex outs =
      packetPerWiphy true response' >>= findWiphyInfo wiphyIndex outs := by
  cases hfirst : collectAttributes ∅ response with
  | error fault =>
    cases hsecond : collectAttributes ∅ response' with
    | error fault' =>
      obtain rfl : fault = fault' := by simpa [hfirst, hsecond, Except.map] using h
      simp only [packetPerWiphy, mergePacketsForSplitWiphyDump, hfirst, hsecond, if_true]
    | ok result => simp [hfirst, hsecond, Except.map] at h
  | ok result =>
    cases hsecond : collectAttributes ∅ response' with
    | error fault => simp [hfirst, hsecond, Except.map] at h
    | ok result' =>
      have hsame : result.map (fun a => a[wiphyIndex.toNat]?) =
          result'.map (fun a => a[wiphyIndex.toNat]?) := by
        simpa [hfirst, hsecond, Except.map] using h
      cases result with
      | none =>
        obtain rfl : result' = none := by simpa using hsame.symm
        simp only [packetPerWiphy, mergePacketsForSplitWiphyDump, hfirst, hsecond, if_true]
      | some attrs =>
        obtain ⟨attrs', rfl, hattrs⟩ := Option.map_eq_some_iff.mp hsame.symm
        rw [split_of_collected hfirst, split_of_collected hsecond, hattrs]

/-- Packets that add nothing to the attributes of the wiphy can be merged, or lead a merge out
of range. -/
theorem exists_collected_of_addsNothing {left : List NL80211Packet}
    (h : ∀ packet ∈ left, AddsNothing wiphyIndex packet)
    (hrange : collectAttributes attrs left ≠ .error .outOfRange) :
    ∃ after, collectAttributes attrs left = .ok (some after) ∧ SameOf wiphyIndex after attrs := by
  induction left generalizing attrs with
  | nil => exact ⟨attrs, rfl, rfl⟩
  | cons packet left ih =>
    obtain ⟨index, attributes, hcomplete, hnothing⟩ := h packet (by simp)
    rw [collectAttributes, mergePacket_of_complete hcomplete] at hrange ⊢
    cases hfold : attributes.foldlM (mergeAttribute index.toNat) attrs with
    | error fault =>
      rw [hfold] at hrange
      exact absurd (foldlM_mergeAttribute_error hfold ▸ rfl) hrange
    | ok attrs₁ =>
      rw [hfold] at hrange
      obtain ⟨after, hcollect, hafter⟩ := ih (fun p hp => h p (by simp [hp])) hrange
      refine ⟨after, hcollect, hafter.trans ?_⟩
      by_cases hw : index.toNat = wiphyIndex.toNat
      · have hkeep := foldlM_mergeAttribute_of_not_merged index.toNat
          (hnothing ((toNat_eq_iff hcomplete).mp hw)) attrs
        rw [Except.ok.inj (hfold.symm.trans hkeep)]
      · exact foldlM_mergeAttribute_other (Ne.symm hw) hfold

/-- The packets are merged without a read out of range. -/
def MergesInRange (packets : List NL80211Packet) : Prop :=
  mergePacketsForSplitWiphyDump packets ≠ .error .outOfRange

theorem collectAttributes_ne_outOfRange {packets : List NL80211Packet}
    (h : MergesInRange packets) : collectAttributes ∅ packets ≠ .error .outOfRange := by
  intro hout
  rw [MergesInRange, mergePacketsForSplitWiphyDump, hout] at h
  exact h rfl

/-- What is left of other wiphys can only lead a merge out of range. -/
theorem retryIndependent_of_addsNothing (header : RequestHeader) {left second : List NL80211Packet}
    (h : ∀ packet ∈ left, AddsNothing wiphyIndex packet) (hboth : MergesInRange (left ++ second))
    (hsecond : MergesInRange second) (outs : WiphyInfo) :
    RetryIndependent header true wiphyIndex left second outs := by
  rw [RetryIndependent, getWiphyInfo_secondAttempt, getWiphyInfo_secondAttempt]
  apply split_congr
  rw [List.nil_append]
  have hrange := collectAttributes_ne_outOfRange hboth
  obtain ⟨after, hcollect, hafter⟩ := exists_collected_of_addsNothing h fun hout => hrange (by
    rw [collectAttributes_append, hout]
    rfl)
  rw [collectAttributes_append_of_collected hcollect] at hrange ⊢
  have halike := collectAttributes_alike
    (fun wiphy _ hi _ _ hab => sameOf_mergeAttribute wiphy hi hab) second hafter
  refine halike.map_eq ?_ ?_ ?_
  · rintro fault rfl
    exact hrange
  · rintro fault rfl
    exact collectAttributes_ne_outOfRange hsecond
  · intro a b hab
    cases hab with
    | none => rfl
    | some hab => exact congrArg some hab

/-- A record of another wiphy without payload adds nothing but that. -/
theorem exists_mergeAttribute_of_empty {i : Item} (hi : i.Fits)
    (hempty : IsMerged i.tag → wiphy ≠ wiphyIndex.toNat ∧ i.payload = [])
    (h : SameButEmpty wiphyIndex ∅ attrs) :
    ∃ attrs', mergeAttribute wiphy attrs ⟨i.encode⟩ = .ok attrs' ∧
      SameButEmpty wiphyIndex ∅ attrs' := by
  by_cases hmerged : IsMerged i.tag
  · obtain ⟨hother, hpayload⟩ := hempty hmerged
    have hstoring : storing attrs wiphy i = .ok ⟨i.encode⟩ := by
      rw [← storing_eq hi h]
      simp [storing, stored]
    refine ⟨_, by rw [mergeAttribute_merged hi hmerged, hstoring]; rfl, ?_, fun wiphy' id => ?_⟩
    · have hsame := h.same
      rw [SameOf] at hsame ⊢
      simpa [Std.ExtTreeMap.getElem?_insert, hother] using hsame
    · rw [stored_insert]
      split_ifs with hhit
      · obtain ⟨rfl, rfl⟩ := hhit
        exact .inr ⟨by simp [stored], by rw [← hpayload]⟩
      · exact h.others wiphy' id
  · exact ⟨attrs, mergeAttribute_filtered hi hmerged, h⟩

theorem exists_collected_of_addsNoPayload {left : List NL80211Packet}
    (h : ∀ packet ∈ left, AddsNoPayload wiphyIndex packet)
    (hattrs : SameButEmpty wiphyIndex ∅ attrs) :
    ∃ after, collectAttributes attrs left = .ok (some after) ∧ SameButEmpty wiphyIndex ∅ after := by
  induction left generalizing attrs with
  | nil => exact ⟨attrs, rfl, hattrs⟩
  | cons packet left ih =>
    obtain ⟨index, attributes, hcomplete, hempty⟩ := h packet (by simp)
    have hrecords := records_of_getAllAttributes hcomplete.attributes
    obtain ⟨attrs₁, hfold, hattrs₁⟩ : ∃ attrs₁,
        attributes.foldlM (mergeAttribute index.toNat) attrs = .ok attrs₁ ∧
          SameButEmpty wiphyIndex ∅ attrs₁ := by
      refine Runs.exists_foldlM (fun attr hattr a ha => ?_) hattrs
      obtain ⟨i, hi, rfl⟩ := hrecords attr hattr
      refine exists_mergeAttribute_of_empty hi (fun hmerged => ?_) ha
      obtain ⟨hother, hlen⟩ := hempty _ hattr (by rwa [getAttributeId_encode hi])
      refine ⟨fun hw => hother ((toNat_eq_iff hcomplete).mp hw), List.length_eq_zero_iff.mp ?_⟩
      rw [nlaLen_encode hi] at hlen
      exact Nat.add_left_cancel hlen
    rw [collectAttributes, mergePacket_of_complete hcomplete, hfold]
    exact ih (fun p hp => h p (by simp [hp])) hattrs₁

/-- What is left without payload is harmless throughout. -/
theorem retryIndependent_of_addsNoPayload (header : RequestHeader) {left : List NL80211Packet}
    (h : ∀ packet ∈ left, AddsNoPayload wiphyIndex packet) (second : List NL80211Packet)
    (outs : WiphyInfo) : RetryIndependent header true wiphyIndex left second outs := by
  rw [RetryIndependent, getWiphyInfo_secondAttempt, getWiphyInfo_secondAttempt]
  apply split_congr
  obtain ⟨after, hcollect, hafter⟩ := exists_collected_of_addsNoPayload h ⟨rfl, fun _ _ => .inl rfl⟩
  rw [List.nil_append, collectAttributes_append_of_collected hcollect]
  have halike := collectAttributes_alike
    (fun wiphy _ hi _ _ => sameButEmpty_mergeAttribute wiphy hi) second hafter
  refine (halike.map_eq (by simp) (by simp) ?_).symm
  intro a b hab
  cases hab with
  | none => rfl
  | some hab => exact congrArg some hab.same

end Split

end NetlinkUtils

end Wificond
