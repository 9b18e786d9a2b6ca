import Wificond.Parcel
import Wificond.ServerFailures
import Wificond.SocketAnswers
import Wificond.SplitAgreement
import Wificond.WiphyDescription

/-!
# Capabilities of a device

A caller of the server asks what the wiphy of an interface can do. The answer goes through the
kernel's messages, which a kernel may cut into pieces, and through a parcel. What arrives is what
the description of the wiphy says.
-/
namespace Wificond

open LittleEndian PaddedTlv NetlinkUtils

/-- The message holds the wiphy with its index. -/
structure CarriesWiphy (packet : NL80211Packet) (entry : UInt32 × KernelWiphy) : Prop where
  command : packet.getCommand = .ok cmdNewWiphy.toNat
  attributes : ∃ roots, packet.HasArea (AttrTree.area roots) ∧ (∀ t ∈ roots, t.WellFormed) ∧
    AttrTree.HasValue roots attrWiphy (.int .uint32) (some (entry.1.toNat : ℤ)) ∧
    entry.2.IsIn roots

/-- A kernel that splits cuts the attributes of the wiphys into pieces, and interleaves these. One
that does not sends a message for each. -/
inductive CarriesWiphys : Bool → List NL80211Packet → List (UInt32 × KernelWiphy) → Prop
  | whole {packets : List NL80211Packet} {wiphys : List (UInt32 × KernelWiphy)}
      (h : List.Forall₂ CarriesWiphy packets wiphys) : CarriesWiphys false packets wiphys
  | split {packets : List SplitPacket} {trees : List (UInt32 × List AttrTree)}
      {wiphys : List (UInt32 × KernelWiphy)}
      (hsplit : IsSplitOf packets (trees.map fun d => (d.1.toNat, d.2.map AttrTree.item)))
      (h : List.Forall₂ (fun d entry => d.1 = entry.1 ∧ (∀ t ∈ d.2, t.WellFormed) ∧
        entry.2.IsIn d.2) trees wiphys) :
      CarriesWiphys true (packets.map SplitPacket.packet) wiphys

section Messages
variable {packet : NL80211Packet} {packets : List NL80211Packet} {entry : UInt32 × KernelWiphy}
  {wiphys : List (UInt32 × KernelWiphy)} {wiphyIndex : UInt32} {outs : WiphyInfo}

/-- The result and the outputs of the request. -/
def answerAbout (wiphyIndex : UInt32) (outs : WiphyInfo) (wiphys : List (UInt32 × KernelWiphy)) :
    Bool × WiphyInfo :=
  match wiphys.find? (·.1 = wiphyIndex) with
  | none => (false, outs)
  | some entry => (true, entry.2.info)

theorem findWiphyInfo_of_carries (h : List.Forall₂ CarriesWiphy packets wiphys) :
    findWiphyInfo wiphyIndex outs packets = .ok (answerAbout wiphyIndex outs wiphys) := by
  induction h with
  | nil => rfl
  | @cons packet entry packets wiphys hfirst _ ih =>
    obtain ⟨roots, harea, hroots, hindex, hin⟩ := hfirst.attributes
    have hread := (harea.findsFirst hroots).getValue_of_hasValue hindex
    have hparse :=
      KernelWiphy.parseWiphyInfoFromPacket_eq hin harea hroots hfirst.command outs
    simp only [ValueType.template] at hread
    unfold findWiphyInfo
    rw [hread, hparse]
    simp only [bind, Except.bind, Option.map_some, uint32_ofInt_toNat]
    by_cases hsame : entry.1 = wiphyIndex
    · rw [if_neg (by simpa using hsame), answerAbout, List.find?_cons_of_pos (by simpa using hsame)]
      rfl
    · rw [if_pos (by simpa using hsame), ih, answerAbout, answerAbout,
        List.find?_cons_of_neg (by simpa using hsame)]

theorem getCommand_ofArea (type : UInt16) (command : UInt8) (sequence pid : UInt32)
    (area : List UInt8) :
    (NL80211Packet.ofArea type command sequence pid area).getCommand = .ok command.toNat := by
  rw [NL80211Packet.getCommand, if_pos ?_]
  · simp [NL80211Packet.ofArea, NL80211Packet.headerTail, bytesOf, nlmsgHdrlen, field, valueOf]
  · rw [NL80211Packet.length_ofArea]
    simp only [nlmsgHdrlen]
    omega

/-- The wiphy as it would be sent in one message. -/
def wholeWiphyPacket (d : UInt32 × List AttrTree) : NL80211Packet :=
  NL80211Packet.ofArea 0 cmdNewWiphy 0 0
    (AttrTree.area (.leaf attrWiphy (.int .uint32) (d.1.toNat : ℤ) :: d.2))

theorem item_wiphyIndex (wiphyIndex : UInt32) :
    (AttrTree.leaf attrWiphy (.int .uint32) (wiphyIndex.toNat : ℤ)).item =
      ⟨attrWiphy, bytesOf 4 wiphyIndex.toNat⟩ := by
  have hlt := wiphyIndex.toNat_lt
  have hmod : ((wiphyIndex.toNat : ℤ) % 256 ^ 4).toNat = wiphyIndex.toNat := by omega
  simp only [AttrTree.item, AttrTree.id, AttrTree.payload, ValueType.bytes, IntType.toBytes,
    IntType.size, hmod]

theorem wellFormed_wiphyIndex (wiphyIndex : UInt32) :
    (AttrTree.leaf attrWiphy (.int .uint32) (wiphyIndex.toNat : ℤ)).WellFormed := by
  apply AttrTree.WellFormed.leaf
  · exact AttrTree.holdsDeep_uint32 attrWiphy wiphyIndex
  · rw [item_wiphyIndex]
    simp [Item.Fits]

section Whole
variable {d : UInt32 × List AttrTree} (hroots : ∀ t ∈ d.2, t.WellFormed)

theorem hasArea_wholeWiphyPacket (d : UInt32 × List AttrTree) : (wholeWiphyPacket d).HasArea
    (AttrTree.area (.leaf attrWiphy (.int .uint32) (d.1.toNat : ℤ) :: d.2)) := by
  refine ⟨_, ?_, (List.append_assoc ..).symm⟩
  rw [List.length_append, length_bytesOf, NL80211Packet.length_headerTail]
  rfl

include hroots

theorem carriesWiphy_wholeWiphyPacket {wiphy : KernelWiphy} (hin : wiphy.IsIn d.2) :
    CarriesWiphy (wholeWiphyPacket d) (d.1, wiphy) := by
  refine ⟨getCommand_ofArea _ _ _ _ _, _, hasArea_wholeWiphyPacket d, ?_, ?_, hin.cons rfl⟩
  · exact List.forall_mem_cons.mpr ⟨wellFormed_wiphyIndex d.1, hroots⟩
  · exact List.find?_cons_of_pos (by simp [AttrTree.id])

theorem isWholePacket_wholeWiphyPacket :
    IsWholePacket (d.1.toNat, d.2.map AttrTree.item) (wholeWiphyPacket d) := by
  refine ⟨d.1.toNat_lt, getCommand_ofArea _ _ _ _ _, ?_⟩
  have harea := hasArea_wholeWiphyPacket d
  rw [AttrTree.area_eq_encodeAll] at harea
  refine ⟨_, harea, AttrTree.fits_items ?_, fun id _ => ?_⟩
  · exact List.forall_mem_cons.mpr ⟨wellFormed_wiphyIndex d.1, hroots⟩
  · rw [List.map_cons, item_wiphyIndex]

end Whole

/-- The trees of a split dump, each in one message. -/
theorem wholeWiphyPackets_of_trees {trees : List (UInt32 × List AttrTree)}
    (h : List.Forall₂ (fun d entry => d.1 = entry.1 ∧ (∀ t ∈ d.2, t.WellFormed) ∧
      entry.2.IsIn d.2) trees wiphys) :
    List.Forall₂ IsWholePacket (trees.map fun d => (d.1.toNat, d.2.map AttrTree.item))
        (trees.map wholeWiphyPacket) ∧
      List.Forall₂ CarriesWiphy (trees.map wholeWiphyPacket) wiphys := by
  induction h with
  | nil => exact ⟨.nil, .nil⟩
  | @cons d entry trees wiphys hfirst _ ih =>
    obtain ⟨hindex, hroots, hin⟩ := hfirst
    have hcarries := carriesWiphy_wholeWiphyPacket hroots hin
    rw [hindex] at hcarries
    exact ⟨.cons (isWholePacket_wholeWiphyPacket hroots) ih.1, .cons hcarries ih.2⟩

theorem CarriesWiphys.findWiphyInfo_eq {split : Bool} (h : CarriesWiphys split packets wiphys) :
    packetPerWiphy split packets >>= findWiphyInfo wiphyIndex outs =
      .ok (answerAbout wiphyIndex outs wiphys) := by
  cases h with
  | whole h => exact findWiphyInfo_of_carries h
  | split hsplit h =>
    obtain ⟨hwholes, hcarries⟩ := wholeWiphyPackets_of_trees h
    rw [findWiphyInfo_of_split hsplit hwholes rfl]
    exact findWiphyInfo_of_carries hcarries

end Messages

section Socket
variable {H : Type} {header : RequestHeader} {attempts : ℕ → Traffic H} {split : Bool}
  {parts : List Message} {last : Message} {wiphys : List (UInt32 × KernelWiphy)}
  {wiphyIndex : UInt32}

/-- Each attempt meets its own traffic. -/
def attemptResponses (attempts : ℕ → Traffic H) : Responses :=
  fun attempt => (attempts attempt).answer

theorem getWiphyInfo_of_brings
    (hbrings : (attempts 0).Brings (wiphyRequest header split wiphyIndex) parts last)
    (hcarries : CarriesWiphys split (parts.map Message.packet ++ lastPart last) wiphys)
    (outs : WiphyInfo) :
    getWiphyInfo header (attemptResponses attempts) split wiphyIndex outs =
      .ok (answerAbout wiphyIndex outs wiphys) := by
  have hanswer : attemptResponses attempts 0 (wiphyRequest header split wiphyIndex) =
      (true, parts.map Message.packet ++ lastPart last) := hbrings.answer_eq
  have hresponse : requestResponses (attemptResponses attempts)
      (wiphyRequest header split wiphyIndex) 0 nl80211CmdRetryCount [] =
      some (parts.map Message.packet ++ lastPart last) := by
    rw [requestResponses_eq_some_iff, hanswer]
    exact .inl ⟨rfl, rfl⟩
  rw [getWiphyInfo, hresponse]
  exact hcarries.findWiphyInfo_eq

end Socket

namespace DeviceWiphyCapabilities

section Code
variable {P : Type} (primitives : ParcelPrimitives P)

def writeToParcel (capabilities : DeviceWiphyCapabilities) : ParcelM P Unit := do
  primitives.write .bool capabilities.is80211nSupported
  primitives.write .bool capabilities.is80211acSupported
  primitives.write .bool capabilities.is80211axSupported
  primitives.write .bool capabilities.is80211beSupported
  primitives.write .bool capabilities.is160MhzSupported
  primitives.write .bool capabilities.is80p80MhzSupported
  primitives.write .bool capabilities.is320MhzSupported
  primitives.write .uint32 capabilities.maxTxStreams
  primitives.write .uint32 capabilities.maxRxStreams

def readFromParcel : ParcelM P DeviceWiphyCapabilities := do
  let is80211nSupported ← primitives.read .bool
  let is80211acSupported ← primitives.read .bool
  let is80211axSupported ← primitives.read .bool
  let is80211beSupported ← primitives.read .bool
  let is160MhzSupported ← primitives.read .bool
  let is80p80MhzSupported ← primitives.read .bool
  let is320MhzSupported ← primitives.read .bool
  let maxTxStreams ← primitives.read .uint32
  let maxRxStreams ← primitives.read .uint32
  return ⟨is80211nSupported, is80211acSupported, is80211axSupported, is80211beSupported,
    is160MhzSupported, is80p80MhzSupported, is320MhzSupported, maxTxStreams, maxRxStreams⟩

end Code

def entries (capabilities : DeviceWiphyCapabilities) : List ParcelEntry :=
  [⟨.bool, capabilities.is80211nSupported⟩, ⟨.bool, capabilities.is80211acSupported⟩,
    ⟨.bool, capabilities.is80211axSupported⟩, ⟨.bool, capabilities.is80211beSupported⟩,
    ⟨.bool, capabilities.is160MhzSupported⟩, ⟨.bool, capabilities.is80p80MhzSupported⟩,
    ⟨.bool, capabilities.is320MhzSupported⟩, ⟨.uint32, capabilities.maxTxStreams⟩,
    ⟨.uint32, capabilities.maxRxStreams⟩]

section RoundTrip
variable {P : Type} {primitives : ParcelPrimitives P} {unread : P → List ParcelEntry}

theorem writes (hqueue : IsQueue primitives unread) (capabilities : DeviceWiphyCapabilities) :
    Writes unread (capabilities.writeToParcel primitives) capabilities.entries := by
  have hbool (b : Bool) := hqueue.write .bool b trivial
  have huint32 (v : UInt32) := hqueue.write .uint32 v trivial
  exact (hbool _).bind <| (hbool _).bind <| (hbool _).bind <| (hbool _).bind <| (hbool _).bind <|
    (hbool _).bind <| (hbool _).bind <| (huint32 _).bind (huint32 _)

theorem reads (hqueue : IsQueue primitives unread) (capabilities : DeviceWiphyCapabilities) :
    Reads unread (readFromParcel primitives) capabilities.entries capabilities := by
  have hbool (b : Bool) := hqueue.read .bool b
  have huint32 (v : UInt32) := hqueue.read .uint32 v
  exact (hbool _).bind <| (hbool _).bind <| (hbool _).bind <| (hbool _).bind <| (hbool _).bind <|
    (hbool _).bind <| (hbool _).bind <| (huint32 _).bind <| (huint32 _).bind_pure _

end RoundTrip

end DeviceWiphyCapabilities

/-- `getDeviceWiphyCapabilities` with the kernel that it asks. -/
def Server.askDeviceWiphyCapabilities (header : RequestHeader) (respond : Responses)
    (supportsSplitWiphyDump : Bool) (outs : WiphyInfo) (ifaceName : IfaceName) (s : Server) :
    Exec (Option DeviceWiphyCapabilities) := do
  if s.findWiphyIndex ifaceName = -1 then return none
  let (success, outs) ← getWiphyInfo header respond supportsSplitWiphyDump
    (s.findWiphyIndex ifaceName).toUInt32 outs
  return s.getDeviceWiphyCapabilities (fun _ => if success then some outs.bandInfo else none)
    ifaceName

/-- What is to be answered about the wiphy. -/
def KernelWiphy.deviceWiphyCapabilities (wiphy : KernelWiphy) : DeviceWiphyCapabilities where
  is80211nSupported := wiphy.bands.any (·.ht)
  is80211acSupported := wiphy.bands.any (·.vht.isSome)
  is80211axSupported := wiphy.bands.any (·.he.isSome)
  is80211beSupported := wiphy.bands.any (·.eht.isSome)
  is160MhzSupported := wiphy.bands.any (·.allows (·.is160Mhz))
  is80p80MhzSupported := wiphy.bands.any (·.allows (·.is80p80Mhz))
  is320MhzSupported := wiphy.bands.any (·.eht.getD false)
  maxTxStreams := wiphy.bands.foldr (fun band most => max band.txStreams most) 1
  maxRxStreams := wiphy.bands.foldr (fun band most => max band.rxStreams most) 1

section Server
variable {H P : Type} {header : RequestHeader} {attempts : ℕ → Traffic H} {split : Bool}
  {parts : List Message} {last : Message} {wiphys : List (UInt32 × KernelWiphy)}
  {wiphyIndex : UInt32} {s : Server} {ifaceName : IfaceName}
  {primitives : ParcelPrimitives P} {unread : P → List ParcelEntry}

theorem Server.findWiphyIndex_eq (h : s.ifaceToWiphyIndexMap[ifaceName]? = some wiphyIndex) :
    s.findWiphyIndex ifaceName = wiphyIndex.toInt32 := by
  have hfind : s.ifaceToWiphyIndexMap.toList.find? (fun entry => entry.1 == ifaceName) =
      some (ifaceName, wiphyIndex) := by
    have hmem := Std.ExtTreeMap.mem_toList_iff_getElem?_eq_some.mpr h
    cases hfound : s.ifaceToWiphyIndexMap.toList.find? (fun entry => entry.1 == ifaceName) with
    | none => simpa using List.find?_eq_none.mp hfound _ hmem
    | some entry =>
      obtain ⟨name, index⟩ := entry
      obtain rfl : name = ifaceName := by simpa using List.find?_some hfound
      have hentry :=
        Std.ExtTreeMap.mem_toList_iff_getElem?_eq_some.mp (List.mem_of_find?_eq_some hfound)
      rw [h, Option.some.injEq] at hentry
      rw [hentry]
  rw [findWiphyIndex, hfind]

/-- What the kernel has for the wiphys of a device is what its callers are told: all outputs of
the request are those of the description, however the kernel cuts its messages, and the answer of
the server about an interface survives its parcel. -/
theorem device_capabilities_of_kernel
    (hbrings : (attempts 0).Brings (wiphyRequest header split wiphyIndex) parts last)
    (hcarries : CarriesWiphys split (parts.map Message.packet ++ lastPart last) wiphys)
    (hqueue : IsQueue primitives unread) (outs : WiphyInfo) :
    getWiphyInfo header (attemptResponses attempts) split wiphyIndex outs =
        .ok (answerAbout wiphyIndex outs wiphys) ∧
      ∀ (s : Server) (ifaceName : IfaceName),
        s.ifaceToWiphyIndexMap[ifaceName]? = some wiphyIndex → wiphyIndex.toInt32 ≠ -1 →
        ∃ answer, s.askDeviceWiphyCapabilities header (attemptResponses attempts) split outs
            ifaceName = .ok answer ∧
          answer = (wiphys.find? (·.1 = wiphyIndex)).map (·.2.deviceWiphyCapabilities) ∧
          ∀ capabilities ∈ answer, RoundTrips unread (capabilities.writeToParcel primitives)
            (DeviceWiphyCapabilities.readFromParcel primitives) capabilities := by
  have hinfo := getWiphyInfo_of_brings hbrings hcarries outs
  refine ⟨hinfo, fun s ifaceName hindex hknown => ⟨_, ?_, rfl, fun capabilities _ => ?_⟩⟩
  · have hfind := Server.findWiphyIndex_eq hindex
    have hback : (wiphyIndex.toInt32).toUInt32 = wiphyIndex := UInt32.toUInt32_toInt32 wiphyIndex
    unfold Server.askDeviceWiphyCapabilities
    rw [hfind, if_neg hknown, hback, hinfo, answerAbout]
    simp only [Server.getDeviceWiphyCapabilities, hfind, if_neg hknown]
    cases wiphys.find? (·.1 = wiphyIndex) with
    | none => rfl
    | some entry => rfl
  · exact ⟨_, capabilities.writes hqueue, capabilities.reads hqueue⟩

end Server

/-- A band with a channel of 2437 MHz, one on which radars have to be looked for and one that is
disabled, and with sets for two streams and for three. -/
theorem device_capabilities_of_kernel_three_streams :
    let header : RequestHeader := ⟨28, 5, 0⟩
    let answer : Message := ⟨⟨[208, 0, 0, 0, 28, 0, 0, 0, 5, 0, 0, 0, 0, 0, 0, 0, 3, 1, 0, 0,
      8, 0, 1, 0, 0, 0, 0, 0, 140, 0, 22, 0, 136, 0, 0, 0,
      52, 0, 1, 0, 12, 0, 0, 0, 8, 0, 1, 0, 133, 9, 0, 0,
      20, 0, 1, 0, 8, 0, 1, 0, 140, 20, 0, 0, 8, 0, 7, 0, 0, 0, 0, 0,
      16, 0, 2, 0, 8, 0, 1, 0, 60, 20, 0, 0, 4, 0, 2, 0, 6, 0, 4, 0, 0, 0, 0, 0,
      20, 0, 3, 0, 255, 255, 0, 0, 0, 0, 0, 0, 0, 0, 0, 0, 0, 0, 0, 0, 8, 0, 8, 0, 0, 0, 0, 0,
      12, 0, 7, 0, 250, 255, 0, 0, 250, 255, 0, 0,
      32, 0, 9, 0, 28, 0, 1, 0, 13, 0, 3, 0, 8, 0, 0, 0, 0, 0, 0, 0, 0, 0, 0, 0,
      8, 0, 4, 0, 234, 255, 250, 255,
      5, 0, 43, 0, 10, 0, 0, 0, 5, 0, 123, 0, 16, 0, 0, 0, 5, 0, 133, 0, 8, 0, 0, 0,
      8, 0, 143, 0, 0, 0, 0, 32, 6, 0, 217, 0, 0, 16, 0, 0]⟩, by decide +kernel, by decide +kernel⟩
    let traffic : Traffic Unit := ⟨(), fun _ => [.datagram [answer] 3], ⟨fun _ => 0, ∅, []⟩⟩
    let outs : WiphyInfo := ⟨.construct, ⟨0, 0, 0, 0, 0, 0⟩, .construct 0 []⟩
    let s : Server := { Server.fresh with
      ifaceToWiphyIndexMap := Server.fresh.ifaceToWiphyIndexMap.insert [119] 0 }
    let capabilities : DeviceWiphyCapabilities :=
      ⟨true, true, true, false, true, false, false, 2, 3⟩
    getWiphyInfo header (attemptResponses fun _ => traffic) false 0 outs =
        .ok (true, ⟨⟨⟨[2437], [], [5260], [], []⟩, true, true, true, false, true, false, false, 2,
          3⟩, ⟨10, 16, 8, 0, 0, 0⟩, ⟨true, false, false, false, false, false, true⟩⟩) ∧
      s.askDeviceWiphyCapabilities header (attemptResponses fun _ => traffic) false outs [119] =
        .ok (some capabilities) ∧
      RoundTrips (fun p : List ParcelEntry => p) (capabilities.writeToParcel listPrimitives)
        (DeviceWiphyCapabilities.readFromParcel listPrimitives) capabilities := by
  intro header answer traffic outs s capabilities
  let twoStreams : McsMap := #v[some 2, some 2, none, none, none, none, none, none]
  let threeStreams : McsMap := #v[some 2, some 2, some 2, none, none, none, none, none]
  let band : KernelBand := ⟨[⟨some 2437, false, false, none⟩, ⟨some 5260, false, false, some 0⟩,
    ⟨some 5180, true, false, none⟩], true, some ⟨#v[true, true, false, false], none⟩,
    some ⟨false, false⟩, some ⟨twoStreams, twoStreams⟩,
    [⟨some ⟨true, false⟩, some ⟨threeStreams, twoStreams⟩, none⟩]⟩
  let wiphy : KernelWiphy := ⟨[band], 10, 16, 8, none, none, none, {29}, some {12}⟩
  let channels : List AttrTree := [.nested 0 [.leaf 1 (.int .uint32) 2437],
    .nested 1 [.leaf 1 (.int .uint32) 5260, .leaf 7 (.int .uint32) 0],
    .nested 2 [.leaf 1 (.int .uint32) 5180, .flag 2]]
  let ifType : List AttrTree := [.leaf 3 .vector [8, 0, 0, 0, 0, 0, 0, 0, 0],
    .leaf 4 .vector [234, 255, 250, 255]]
  let ts : List AttrTree := [.nested 1 channels, .leaf 4 .vector [0, 0],
    .leaf 3 .vector [255, 255, 0, 0, 0, 0, 0, 0, 0, 0, 0, 0, 0, 0, 0, 0], .leaf 8 (.int .uint32) 0,
    .leaf 7 .vector [250, 255, 0, 0, 250, 255, 0, 0], .nested 9 [.nested 1 ifType]]
  let roots : List AttrTree := [.leaf 1 (.int .uint32) 0, .nested 22 [.nested 0 ts],
    .leaf 43 (.int .uint8) 10, .leaf 123 (.int .uint8) 16, .leaf 133 (.int .uint8) 8,
    .leaf 143 (.int .uint32) 0x20000000, .leaf 217 .vector [0, 16]]
  have hchannels : AttrTree.Lists KernelChannel.IsIn channels band.channels :=
    .cons ⟨_, _, rfl, rfl, rfl, rfl, rfl⟩ (.cons ⟨_, _, rfl, rfl, rfl, rfl, rfl⟩
      (.cons ⟨_, _, rfl, rfl, rfl, rfl, rfl⟩ .nil))
  have hifType : AttrTree.Lists KernelIfType.IsIn [.nested 1 ifType] band.ifTypes :=
    .cons ⟨_, _, rfl, ⟨_, rfl, by decide, by decide, by decide⟩,
      ⟨_, rfl, by decide, by decide, by decide⟩, rfl⟩ .nil
  have hband : band.IsIn ts := by
    refine ⟨.inr ⟨_, rfl, hchannels⟩, rfl, ⟨_, rfl, by decide, by decide, by decide, by decide⟩,
      ⟨_, rfl, by decide, by decide⟩, ⟨_, rfl, by decide, by decide, by decide⟩,
      .inr ⟨_, rfl, hifType⟩⟩
  have hext : ∀ k, (([0, 16] : List UInt8).getD (k / 8) 0).toNat.testBit (k % 8) = true ↔
      k ∈ ({12} : Finset ℕ) := by
    intro k
    by_cases hk : k < 16
    · interval_cases k <;> decide
    · rw [List.getD_eq_default _ _ (by simp; omega), Finset.mem_singleton]
      simp
      omega
  have hwiphy : wiphy.IsIn roots :=
    ⟨⟨_, rfl, .cons ⟨_, _, rfl, hband⟩ .nil⟩, rfl, rfl, rfl, rfl, rfl, rfl, ⟨_, rfl, by decide⟩,
      ⟨_, rfl, hext⟩⟩
  have hcarries : CarriesWiphys false [answer.packet] [(0, wiphy)] := by
    refine .whole (.cons ⟨by decide +kernel, roots, ?_, ?_, rfl, hwiphy⟩ .nil)
    · exact ⟨answer.packet.data.take 20, by decide +kernel, by decide +kernel⟩
    · apply AttrTree.allWellFormed_of_fits
      · simp only [roots, ts, channels, ifType, AttrTree.AllFit, AttrTree.FitsDeep, and_true]
        decide +kernel
      · simp only [roots, ts, channels, ifType, AttrTree.AllHold, AttrTree.HoldsDeep, and_true]
        decide +kernel
  have hanswer : lastPart answer = [answer.packet] := by
    rw [lastPart, if_neg (by decide +kernel)]
  have hbrings : traffic.Brings (wiphyRequest header false 0) [] answer := by
    have hsequence : (wiphyRequest header false 0).getMessageSequence = 5 := by decide +kernel
    have hanswerSequence : answer.sequence = 5 := by decide +kernel
    refine ⟨_, [], (List.append_nil _).symm, ?_⟩
    rw [hsequence]
    refine ⟨by decide, by simp, ⟨hanswerSequence, .inr (by decide +kernel)⟩, ?_, ?_,
      ⟨3997, by decide, by decide⟩, by decide +kernel⟩
    · simp [messagesOf, Arrival.messages, traffic, hanswerSequence]
    · simp [messagesOf, Arrival.messages, traffic, hanswerSequence]
  have hall := @device_capabilities_of_kernel Unit _ header (fun _ => traffic) _ _ _ _ _ _ _ hbrings
    (by rw [hanswer]; exact hcarries) isQueue_listPrimitives outs
  have hindex : s.ifaceToWiphyIndexMap[([119] : IfaceName)]? = some 0 := by simp [s]
  obtain ⟨result, hask, hresult, hparcel⟩ := hall.2 s [119] hindex (by decide)
  have hcapabilities : result = some capabilities := hresult.trans (by decide +kernel)
  refine ⟨hall.1.trans (congrArg Except.ok (by decide +kernel)), ?_, ?_⟩
  · rw [hask, hcapabilities]
  · exact hparcel capabilities hcapabilities

end Wificond
