import Wificond.WiphyRetry
import Wificond.Runs

/-!
# The outputs of a wiphy request

Band information is written before the scan capabilities and the features are read. A packet
that lacks one of these is refused with its bands already written, and the loop goes on.
-/
namespace Wificond

open LittleEndian PaddedTlv

namespace NetlinkUtils

/-- `NL80211_ATTR_WIPHY` of the packet is the index. -/
def OfWiphy (wiphyIndex : UInt32) (packet : NL80211Packet) : Prop :=
  ∃ current, packet.getAttributeValue (AttrTemplate.int .uint32) attrWiphy = .ok (some current) ∧
    UInt32.ofInt current = wiphyIndex

/-- All three outputs are read from the packet. -/
structure Describes (packet : NL80211Packet) (info : WiphyInfo) : Prop where
  command_eq : packet.getCommand = .ok cmdNewWiphy.toNat
  bands_eq : parseBandInfo packet = .ok (some info.bandInfo)
  capabilities_eq : parseScanCapabilities packet = .ok (some info.scanCapabilities)
  features_eq : ∃ featureFlags extFeatureFlagsBytes,
    packet.getAttributeValue (AttrTemplate.int .uint32) attrFeatureFlags =
      .ok (some featureFlags) ∧
    packet.getAttributeValue AttrTemplate.vector attrExtFeatures = .ok extFeatureFlagsBytes ∧
    info.wiphyFeatures =
      .construct (UInt32.ofInt featureFlags) (extFeatureFlagsBytes.getD [])

/-- A packet of the wiphy with its bands, that lacks a scan capability or the feature flags. -/
structure HalfRead (wiphyIndex : UInt32) (packet : NL80211Packet) : Prop where
  own : OfWiphy wiphyIndex packet
  command_eq : packet.getCommand = .ok cmdNewWiphy.toNat
  bands : ∃ bandInfo, parseBandInfo packet = .ok (some bandInfo)
  missing : parseScanCapabilities packet = .ok none ∨
    (∃ scanCapabilities, parseScanCapabilities packet = .ok (some scanCapabilities)) ∧
      packet.getAttributeValue (AttrTemplate.int .uint32) attrFeatureFlags = .ok none

/-- The loop goes on behind the packet. -/
def Passed (wiphyIndex : UInt32) (packet : NL80211Packet) : Prop :=
  Ignored wiphyIndex packet ∨ HalfRead wiphyIndex packet

section Packets
variable {wiphyIndex : UInt32} {packet : NL80211Packet} {packets rest : List NL80211Packet}

theorem findWiphyInfo_of_ofWiphy (h : OfWiphy wiphyIndex packet) (outs : WiphyInfo) :
    findWiphyInfo wiphyIndex outs (packet :: rest) =
      (parseWiphyInfoFromPacket packet outs).bind fun result =>
        if result.1 then .ok (true, result.2) else findWiphyInfo wiphyIndex result.2 rest := by
  obtain ⟨current, hcurrent, hown⟩ := h
  rw [findWiphyInfo, hcurrent]
  simp only [bind, Except.bind, Option.map_some, hown, ne_eq, not_true_eq_false, if_false]
  rfl

/-- Of a half read packet its bands are written, and the scan capabilities if it has them. -/
theorem findWiphyInfo_of_halfRead (h : HalfRead wiphyIndex packet) :
    ∃ (bandInfo : WiphyBandInfo) (found : Option ScanCapabilities),
      (found.isSome ↔ ∃ scanCapabilities,
        parseScanCapabilities packet = .ok (some scanCapabilities)) ∧
      ∀ outs rest, findWiphyInfo wiphyIndex outs (packet :: rest) = findWiphyInfo wiphyIndex
        { outs with
          bandInfo := bandInfo
          scanCapabilities := found.getD outs.scanCapabilities } rest := by
  obtain ⟨hown, hcommand, ⟨bandInfo, hbands⟩, hmissing⟩ := h
  rcases hmissing with hnone | ⟨⟨scanCapabilities, hcapabilities⟩, hflags⟩
  · refine ⟨bandInfo, none, by simp [hnone], fun outs rest => ?_⟩
    rw [findWiphyInfo_of_ofWiphy hown]
    simp [parseWiphyInfoFromPacket, hcommand, hbands, hnone, bind, Except.bind, pure,
      Except.pure]
  · refine ⟨bandInfo, some scanCapabilities, by simp [hcapabilities], fun outs rest => ?_⟩
    rw [findWiphyInfo_of_ofWiphy hown]
    simp [parseWiphyInfoFromPacket, hcommand, hbands, hcapabilities, hflags, bind, Except.bind,
      pure, Except.pure]

/-- A packet that is not passed ends the loop in the same way for all outputs before. -/
theorem findWiphyInfo_of_not_passed (h : ¬ Passed wiphyIndex packet) :
    (∃ info, OfWiphy wiphyIndex packet ∧ Describes packet info ∧ ∀ outs rest,
        findWiphyInfo wiphyIndex outs (packet :: rest) = .ok (true, info)) ∨
      ∃ fault, ∀ outs rest,
        findWiphyInfo wiphyIndex outs (packet :: rest) = .error fault := by
  rw [Passed, not_or] at h
  obtain ⟨hignored, hhalf⟩ := h
  cases hcurrent : packet.getAttributeValue (AttrTemplate.int .uint32) attrWiphy with
  | error fault =>
    refine .inr ⟨fault, fun outs rest => ?_⟩
    rw [findWiphyInfo, hcurrent]
    rfl
  | ok current? =>
  by_cases hw : current?.map UInt32.ofInt = some wiphyIndex
  case neg => exact absurd ⟨current?, hcurrent, fun heq => absurd heq hw⟩ hignored
  obtain ⟨current, rfl, hindex⟩ := Option.map_eq_some_iff.mp hw
  have hown : OfWiphy wiphyIndex packet := ⟨current, hcurrent, hindex⟩
  have hignored' {command : ℕ} (hcommand : packet.getCommand = .ok command)
      (hbands : command = cmdNewWiphy.toNat → parseBandInfo packet = .ok none) : False :=
    hignored ⟨some current, hcurrent, fun _ => ⟨command, hcommand, hbands⟩⟩
  simp only [findWiphyInfo_of_ofWiphy hown, parseWiphyInfoFromPacket]
  cases hcommand : packet.getCommand with
  | error fault => exact .inr ⟨fault, fun outs rest => rfl⟩
  | ok command =>
  by_cases hnew : command = cmdNewWiphy.toNat
  case neg => exact absurd (hignored' hcommand fun heq => absurd heq hnew) id
  subst hnew
  cases hbands : parseBandInfo packet with
  | error fault => exact .inr ⟨fault, fun outs rest => rfl⟩
  | ok bandInfo? =>
  cases bandInfo? with
  | none => exact absurd (hignored' hcommand fun _ => hbands) id
  | some bandInfo =>
  cases hcapabilities : parseScanCapabilities packet with
  | error fault => exact .inr ⟨fault, fun outs rest => rfl⟩
  | ok scanCapabilities? =>
  cases scanCapabilities? with
  | none => exact absurd ⟨hown, hcommand, ⟨bandInfo, hbands⟩, .inl hcapabilities⟩ hhalf
  | some scanCapabilities =>
  cases hflags : packet.getAttributeValue (AttrTemplate.int .uint32) attrFeatureFlags with
  | error fault => exact .inr ⟨fault, fun outs rest => rfl⟩
  | ok featureFlags? =>
  cases featureFlags? with
  | none =>
    exact absurd ⟨hown, hcommand, ⟨bandInfo, hbands⟩,
      .inr ⟨⟨scanCapabilities, hcapabilities⟩, hflags⟩⟩ hhalf
  | some featureFlags =>
  cases hext : packet.getAttributeValue AttrTemplate.vector attrExtFeatures with
  | error fault => exact .inr ⟨fault, fun outs rest => rfl⟩
  | ok extFeatureFlagsBytes =>
    refine .inl ⟨⟨bandInfo, scanCapabilities, .construct (UInt32.ofInt featureFlags)
      (extFeatureFlagsBytes.getD [])⟩, hown, ⟨hcommand, hbands, hcapabilities,
      featureFlags, extFeatureFlagsBytes, hflags, hext, rfl⟩, fun outs rest => rfl⟩

theorem findWiphyInfo_of_passed (h : Passed wiphyIndex packet) (outs : WiphyInfo) :
    ∃ outs', ∀ rest, findWiphyInfo wiphyIndex outs (packet :: rest) =
      findWiphyInfo wiphyIndex outs' rest := by
  rcases h with hignored | hhalf
  · exact ⟨outs, fun rest => findWiphyInfo_of_ignored hignored outs⟩
  · obtain ⟨bandInfo, found, -, hnext⟩ := findWiphyInfo_of_halfRead hhalf
    exact ⟨_, hnext outs⟩

theorem findWiphyInfo_of_all_ignored (h : ∀ p ∈ packets, Ignored wiphyIndex p)
    (outs : WiphyInfo) : findWiphyInfo wiphyIndex outs packets = .ok (false, outs) := by
  have hnil := @findWiphyInfo_append_of_ignored wiphyIndex [] packets h outs
  rwa [List.append_nil] at hnil

/-- Where one packet is half read and all are passed, the bands in the end are those of the
last that is half read. -/
theorem findWiphyInfo_of_all_passed (h : ∀ p ∈ packets, Passed wiphyIndex p)
    (hhalf : ∃ p ∈ packets, HalfRead wiphyIndex p) :
    ∃ bandInfo, ∀ outs, ∃ outs', outs'.bandInfo = bandInfo ∧
      findWiphyInfo wiphyIndex outs packets = .ok (false, outs') := by
  induction packets with
  | nil => simp at hhalf
  | cons packet rest ih =>
    have hrest : ∀ p ∈ rest, Passed wiphyIndex p := fun p hp => h p (by simp [hp])
    by_cases hlater : ∃ p ∈ rest, HalfRead wiphyIndex p
    · obtain ⟨bandInfo, hends⟩ := ih hrest hlater
      refine ⟨bandInfo, fun outs => ?_⟩
      obtain ⟨next, hnext⟩ := findWiphyInfo_of_passed (h packet (by simp)) outs
      rw [hnext]
      exact hends next
    · have hpacket : HalfRead wiphyIndex packet := by
        obtain ⟨p, hp, hread⟩ := hhalf
        rcases List.mem_cons.mp hp with rfl | hp
        · exact hread
        · exact absurd ⟨p, hp, hread⟩ hlater
      have hignored : ∀ p ∈ rest, Ignored wiphyIndex p := fun p hp =>
        (hrest p hp).resolve_right fun hread => hlater ⟨p, hp, hread⟩
      obtain ⟨bandInfo, found, -, hnext⟩ := findWiphyInfo_of_halfRead hpacket
      refine ⟨bandInfo, fun outs => ?_⟩
      let written : WiphyInfo :=
        { outs with bandInfo := bandInfo, scanCapabilities := found.getD outs.scanCapabilities }
      have hend := findWiphyInfo_of_all_ignored hignored written
      exact ⟨written, rfl, (hnext outs rest).trans hend⟩

/-- The first packet that is not passed decides, whatever the outputs were before. -/
theorem findWiphyInfo_of_exists_not_passed (h : ∃ p ∈ packets, ¬ Passed wiphyIndex p) :
    (∃ info, (∃ p ∈ packets, OfWiphy wiphyIndex p ∧ Describes p info) ∧
        ∀ outs, findWiphyInfo wiphyIndex outs packets = .ok (true, info)) ∨
      ∃ fault, ∀ outs, findWiphyInfo wiphyIndex outs packets = .error fault := by
  induction packets with
  | nil => simp at h
  | cons packet rest ih =>
    by_cases hpacket : Passed wiphyIndex packet
    · have hrest : ∃ p ∈ rest, ¬ Passed wiphyIndex p := by
        obtain ⟨p, hp, hnot⟩ := h
        rcases List.mem_cons.mp hp with rfl | hp
        · exact absurd hpacket hnot
        · exact ⟨p, hp, hnot⟩
      have hnext (outs : WiphyInfo) := findWiphyInfo_of_passed hpacket outs
      rcases ih hrest with ⟨info, ⟨p, hp, hread⟩, hend⟩ | ⟨fault, hend⟩
      · refine .inl ⟨info, ⟨p, by simp [hp], hread⟩, fun outs => ?_⟩
        obtain ⟨outs', heq⟩ := hnext outs
        rw [heq, hend]
      · refine .inr ⟨fault, fun outs => ?_⟩
        obtain ⟨outs', heq⟩ := hnext outs
        rw [heq, hend]
    · rcases findWiphyInfo_of_not_passed hpacket with ⟨info, hown, hread, hend⟩ | ⟨fault, hend⟩
      · exact .inl ⟨info, ⟨packet, by simp, hown, hread⟩, fun outs => hend outs rest⟩
      · exact .inr ⟨fault, fun outs => hend outs rest⟩

/-- All outputs are kept on failure exactly if no packet is half read, or a packet that is not
passed decides. -/
theorem findWiphyInfo_keeps_iff :
    (∀ outs outs', findWiphyInfo wiphyIndex outs packets = .ok (false, outs') → outs' = outs) ↔
      ((∃ p ∈ packets, HalfRead wiphyIndex p) → ∃ p ∈ packets, ¬ Passed wiphyIndex p) := by
  constructor
  · intro h hhalf
    by_contra hall
    have hpassed : ∀ p ∈ packets, Passed wiphyIndex p := by simpa using hall
    obtain ⟨bandInfo, hends⟩ := findWiphyInfo_of_all_passed hpassed hhalf
    -- two contents of the bands before that cannot both be those written
    let outs (streams : UInt32) : WiphyInfo :=
      ⟨{ WiphyBandInfo.construct with maxTxStreams := streams }, ⟨0, 0, 0, 0, 0, 0⟩,
        .construct 0 []⟩
    have hkept (streams : UInt32) : bandInfo.maxTxStreams = streams := by
      obtain ⟨outs', hbands, hend⟩ := hends (outs streams)
      rw [← hbands, h _ _ hend]
    have hone := (hkept 0).symm.trans (hkept 1)
    exact absurd hone (by decide)
  · intro h outs outs' hend
    by_cases hsome : ∃ p ∈ packets, ¬ Passed wiphyIndex p
    · rcases findWiphyInfo_of_exists_not_passed hsome with ⟨info, -, hinfo⟩ | ⟨fault, hfault⟩
      · rw [hinfo] at hend
        simp at hend
      · rw [hfault] at hend
        simp at hend
    · have hpassed : ∀ p ∈ packets, Passed wiphyIndex p := by simpa using hsome
      have hignored : ∀ p ∈ packets, Ignored wiphyIndex p := fun p hp =>
        (hpassed p hp).resolve_right fun hread => hsome (h ⟨p, hp, hread⟩)
      have hfalse := findWiphyInfo_of_all_ignored hignored outs
      rw [hend] at hfalse
      exact (Prod.mk.inj (Except.ok.inj hfalse)).2

theorem findWiphyInfo_reads {outs info : WiphyInfo}
    (h : findWiphyInfo wiphyIndex outs packets = .ok (true, info)) :
    (∃ p ∈ packets, OfWiphy wiphyIndex p ∧ Describes p info) ∧
      ∀ other, findWiphyInfo wiphyIndex other packets = .ok (true, info) := by
  by_cases hsome : ∃ p ∈ packets, ¬ Passed wiphyIndex p
  · rcases findWiphyInfo_of_exists_not_passed hsome with ⟨found, hread, hend⟩ | ⟨fault, hend⟩
    · obtain rfl := (Prod.mk.inj (Except.ok.inj ((hend outs).symm.trans h))).2
      exact ⟨hread, hend⟩
    · rw [hend] at h
      simp at h
  · -- all are passed, and the loop ends without success
    exfalso
    have hpassed : ∀ p ∈ packets, Passed wiphyIndex p := by simpa using hsome
    by_cases hhalf : ∃ p ∈ packets, HalfRead wiphyIndex p
    · obtain ⟨bandInfo, hends⟩ := findWiphyInfo_of_all_passed hpassed hhalf
      obtain ⟨outs', -, hend⟩ := hends outs
      rw [hend] at h
      simp at h
    · have hignored : ∀ p ∈ packets, Ignored wiphyIndex p := fun p hp =>
        (hpassed p hp).resolve_right fun hread => hhalf ⟨p, hp, hread⟩
      have hfalse := findWiphyInfo_of_all_ignored hignored outs
      rw [h] at hfalse
      simp at hfalse

end Packets

section Call
variable {header : RequestHeader} {respond : Responses} {split : Bool} {wiphyIndex : UInt32}
  {packets : List NL80211Packet}

/-- The packets that the call looks at. -/
def LooksAt (header : RequestHeader) (respond : Responses) (split : Bool) (wiphyIndex : UInt32)
    (packets : List NL80211Packet) : Prop :=
  ∃ response, requestResponses respond (wiphyRequest header split wiphyIndex) 0
      nl80211CmdRetryCount [] = some response ∧ packetPerWiphy split response = .ok packets

/-- The outputs are as they were, or all read from one packet of the wiphy. -/
structure AllOrNothing (header : RequestHeader) (respond : Responses) (split : Bool)
    (wiphyIndex : UInt32) : Prop where
  failure : ∀ outs outs', getWiphyInfo header respond split wiphyIndex outs = .ok (false, outs') →
    outs' = outs
  success : ∀ outs outs', getWiphyInfo header respond split wiphyIndex outs = .ok (true, outs') →
    (∃ packets, LooksAt header respond split wiphyIndex packets ∧
      ∃ packet ∈ packets, OfWiphy wiphyIndex packet ∧ Describes packet outs') ∧
    ∀ other, getWiphyInfo header respond split wiphyIndex other = .ok (true, outs')

theorem getWiphyInfo_of_looksAt (h : LooksAt header respond split wiphyIndex packets)
    (outs : WiphyInfo) : getWiphyInfo header respond split wiphyIndex outs =
      findWiphyInfo wiphyIndex outs packets := by
  obtain ⟨response, hresponse, hpackets⟩ := h
  rw [getWiphyInfo, hresponse]
  simp only [hpackets, bind, Except.bind]

/-- No packets are looked at where the requests or the merge fail. -/
theorem getWiphyInfo_of_not_looksAt
    (h : ∀ packets, ¬ LooksAt header respond split wiphyIndex packets) :
    (∀ outs, getWiphyInfo header respond split wiphyIndex outs = .ok (false, outs)) ∨
      ∃ fault, ∀ outs, getWiphyInfo header respond split wiphyIndex outs = .error fault := by
  cases hresponse : requestResponses respond (wiphyRequest header split wiphyIndex) 0
      nl80211CmdRetryCount [] with
  | none =>
    refine .inl fun outs => ?_
    rw [getWiphyInfo, hresponse]
  | some response =>
    cases hpackets : packetPerWiphy split response with
    | error fault =>
      refine .inr ⟨fault, fun outs => ?_⟩
      rw [getWiphyInfo, hresponse]
      simp only [hpackets, bind, Except.bind]
    | ok packets => exact absurd ⟨response, hresponse, hpackets⟩ (h packets)

/-- A call is all or nothing exactly if a packet that is half read is not all that decides. -/
theorem allOrNothing_iff (header : RequestHeader) (respond : Responses) (split : Bool)
    (wiphyIndex : UInt32) :
    AllOrNothing header respond split wiphyIndex ↔
      ∀ packets, LooksAt header respond split wiphyIndex packets →
        (∃ packet ∈ packets, HalfRead wiphyIndex packet) →
        ∃ packet ∈ packets, ¬ Ignored wiphyIndex packet ∧ ¬ HalfRead wiphyIndex packet := by
  simp only [← not_or]
  by_cases hlooks : ∃ packets, LooksAt header respond split wiphyIndex packets
  · obtain ⟨packets, hpackets⟩ := hlooks
    have hcall := getWiphyInfo_of_looksAt hpackets
    constructor
    · intro h looked hlooked
      have hsame := getWiphyInfo_of_looksAt hlooked
      apply findWiphyInfo_keeps_iff.mp
      intro outs outs' hend
      exact h.failure outs outs' ((hsame outs).trans hend)
    · intro h
      refine ⟨fun outs outs' hend => ?_, fun outs outs' hend => ?_⟩
      · rw [hcall] at hend
        exact findWiphyInfo_keeps_iff.mpr (h packets hpackets) outs outs' hend
      · rw [hcall] at hend
        obtain ⟨hread, hother⟩ := findWiphyInfo_reads hend
        exact ⟨⟨packets, hpackets, hread⟩, fun other => (hcall other).trans (hother other)⟩
  · have hnone : ∀ packets, ¬ LooksAt header respond split wiphyIndex packets :=
      fun packets hpackets => hlooks ⟨packets, hpackets⟩
    refine iff_of_true ?_ fun packets hpackets => absurd hpackets (hnone packets)
    rcases getWiphyInfo_of_not_looksAt hnone with hfails | ⟨fault, hfaults⟩
    · refine ⟨fun outs outs' hend => ?_, fun outs outs' hend => ?_⟩
      · rw [hfails] at hend
        exact (Prod.mk.inj (Except.ok.inj hend)).2.symm
      · rw [hfails] at hend
        simp at hend
    · refine ⟨fun outs outs' hend => ?_, fun outs outs' hend => ?_⟩
      · rw [hfaults] at hend
        simp at hend
      · rw [hfaults] at hend
        simp at hend

/-- `ClientInterfaceImpl::UpdateBandInfo`: a failure is logged only. -/
def updateBandInfo (header : RequestHeader) (respond : Responses) (split : Bool)
    (wiphyIndex : UInt32) (info : WiphyInfo) : Exec WiphyInfo :=
  (getWiphyInfo header respond split wiphyIndex info).map Prod.snd

theorem updateBandInfo_of_allOrNothing (h : AllOrNothing header respond split wiphyIndex)
    {info info' : WiphyInfo}
    (hupdate : updateBandInfo header respond split wiphyIndex info = .ok info') :
    info' = info ∨ ∃ packet, OfWiphy wiphyIndex packet ∧ Describes packet info' := by
  rw [updateBandInfo] at hupdate
  cases hcall : getWiphyInfo header respond split wiphyIndex info with
  | error fault =>
    rw [hcall] at hupdate
    exact absurd hupdate (by simp [Except.map])
  | ok result =>
    rw [hcall] at hupdate
    obtain rfl := Except.ok.inj hupdate
    obtain ⟨success, outs⟩ := result
    cases success with
    | false => exact .inl (h.failure info outs hcall)
    | true =>
      obtain ⟨⟨packets, -, packet, -, hread⟩, -⟩ := h.success info outs hcall
      exact .inr ⟨packet, hread⟩

end Call

/-- The bands of a wiphy without its scan capabilities. -/
def bandsOnlyPacket : NL80211Packet :=
  NL80211Packet.ofArea 0 cmdNewWiphy 0 0
    (encodeAll [⟨attrWiphy, bytesOf 4 0⟩, ⟨attrWiphyBands, []⟩])

/-- An interface loses its channels to a packet that is refused, and keeps the rest. -/
theorem updateBandInfo_halfway :
    let respond : Responses := fun _ _ => (true, [bandsOnlyPacket])
    let info : WiphyInfo := ⟨{ WiphyBandInfo.construct with band2g := [2412] },
      ⟨4, 16, 16, 0, 0, 0⟩, .construct 0 []⟩
    ¬ AllOrNothing ⟨0, 0, 0⟩ respond false 0 ∧
      updateBandInfo ⟨0, 0, 0⟩ respond false 0 info =
        .ok { info with bandInfo := .construct } := by
  intro respond info
  have hcall : getWiphyInfo ⟨0, 0, 0⟩ respond false 0 info =
      .ok (false, { info with bandInfo := .construct }) := by
    decide +kernel
  refine ⟨fun h => ?_, ?_⟩
  · have hkept := h.failure _ _ hcall
    have hbands : ([] : List UInt32) = [2412] := congrArg (fun i => i.bandInfo.band2g) hkept
    simp at hbands
  · rw [updateBandInfo, hcall]
    rfl

end NetlinkUtils

end Wificond
