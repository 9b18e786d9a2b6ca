import Wificond.AttributeLookup
import Wificond.RequestContents
import Wificond.ScanParcelables
import Wificond.SocketAnswers
import Wificond.WiphyRetry

/-!
# Dumps of wiphys and interfaces

The model of `NetlinkUtils::GetWiphyIndex` and `GetInterfaces`. Both check the packets of
the response one by one and write what they read as they go, so that a packet that is
refused leaves behind what the packets before it brought.
-/
namespace Wificond

open LittleEndian PaddedTlv

/-- `NL80211_CMD_GET_INTERFACE` -/
abbrev cmdGetInterface : UInt8 := 5

abbrev cmdNewInterface : ℕ := 7

/-- `NL80211_ATTR_IFNAME` -/
abbrev attrIfname : ℕ := 4

namespace NetlinkUtils

/-- The checks that both functions make of a packet of the response. -/
def checkReply (header : RequestHeader) (command : ℕ) (packet : NL80211Packet) : Exec Bool := do
  if packet.getMessageType = nlmsgError then
    let _ ← packet.getErrorCode
    return false
  if packet.getMessageType ≠ header.familyId.toNat then return false
  return (← packet.getCommand) = command

def wiphyIndexRequest (header : RequestHeader) (ifindex : Option UInt32) : NL80211Packet :=
  let packet := (header.request cmdGetWiphy).addFlag nlmFDump
  match ifindex with
  | none => packet
  | some ifindex => packet.addAttribute (NL80211Attr.ofInt .uint32 attrIfindex ifindex.toNat)

/-- The loop of `GetWiphyIndex`: each packet overwrites the output. -/
def readWiphyIndex (header : RequestHeader) (out : UInt32) :
    List NL80211Packet → Exec (Bool × UInt32)
  | [] => return (true, out)
  | packet :: rest => do
    if !(← checkReply header cmdNewWiphy.toNat packet) then return (false, out)
    match ← packet.getAttributeValue (AttrTemplate.int .uint32) attrWiphy with
    | none => return (false, out)
    | some index => readWiphyIndex header (UInt32.ofInt index) rest

/-- `if_nametoindex` gives zero for a name that is not known. The empty name stands for no
interface in particular. -/
def getWiphyIndex (header : RequestHeader) (ifNametoindex : IfaceName → UInt32)
    (respond : Responses) (ifaceName : IfaceName) (out : UInt32) : Exec (Bool × UInt32) :=
  let ifindex := if ifaceName = [] then none else some (ifNametoindex ifaceName)
  if ifindex = some 0 then .ok (false, out)
  else
    match requestResponses respond (wiphyIndexRequest header ifindex) 0 nl80211CmdRetryCount [] with
    | none => .ok (false, out)
    | some response =>
      if response = [] then .ok (false, out) else readWiphyIndex header out response

def interfacesRequest (header : RequestHeader) (wiphyIndex : UInt32) : NL80211Packet :=
  ((header.request cmdGetInterface).addFlag nlmFDump).addAttribute
    (NL80211Attr.ofInt .uint32 attrWiphy wiphyIndex.toNat)

/-- Pseudo interfaces, which have no name or no index, are skipped. -/
def readInterface (wiphyIndex : UInt32) (packet : NL80211Packet) : Exec (Option InterfaceInfo) := do
  let some ifIndex ← packet.getAttributeValue (AttrTemplate.int .uint32) attrIfindex | return none
  let some ifName ← packet.getAttributeValue AttrTemplate.string attrIfname | return none
  let some ifMacAddr ← packet.getAttributeValue (AttrTemplate.array 6) attrMac | return none
  return some ⟨UInt32.ofInt ifIndex, wiphyIndex, ifName, MacAddress.ofBytes ifMacAddr⟩

/-- The loop of `GetInterfaces`, behind the interfaces found so far. -/
def readInterfaces (header : RequestHeader) (wiphyIndex : UInt32)
    (interfaceInfo : List InterfaceInfo) : List NL80211Packet → Exec (Bool × List InterfaceInfo)
  | [] => return (true, interfaceInfo)
  | packet :: rest => do
    if !(← checkReply header cmdNewInterface packet) then return (false, interfaceInfo)
    let iface ← readInterface wiphyIndex packet
    readInterfaces header wiphyIndex (interfaceInfo ++ iface.toList) rest

/-- There is no second attempt. -/
def getInterfaces (header : RequestHeader) (respond : Responses) (wiphyIndex : UInt32) :
    Exec (Bool × List InterfaceInfo) :=
  let result := respond 0 (interfacesRequest header wiphyIndex)
  if !result.1 then .ok (false, [])
  else if result.2 = [] then .ok (false, [])
  else readInterfaces header wiphyIndex [] result.2

section Loops
variable {header : RequestHeader} {wiphyIndex out index : UInt32}
  {interfaceInfo infos : List InterfaceInfo} {packet : NL80211Packet}
  {packets : List NL80211Packet}

/-- A packet that passes the checks and has the index of a wiphy. -/
def GivesWiphy (header : RequestHeader) (packet : NL80211Packet) (index : UInt32) : Prop :=
  checkReply header cmdNewWiphy.toNat packet = .ok true ∧
    ∃ value, packet.getAttributeValue (AttrTemplate.int .uint32) attrWiphy = .ok (some value) ∧
      index = UInt32.ofInt value

/-- A packet that passes the checks and has an interface, or is to be skipped. -/
def GivesInterface (header : RequestHeader) (wiphyIndex : UInt32) (packet : NL80211Packet)
    (iface : Option InterfaceInfo) : Prop :=
  checkReply header cmdNewInterface packet = .ok true ∧
    readInterface wiphyIndex packet = .ok iface

theorem readWiphyIndex_cons : readWiphyIndex header out (packet :: packets) = .ok (true, index) ↔
    ∃ current, GivesWiphy header packet current ∧
      readWiphyIndex header current packets = .ok (true, index) := by
  unfold GivesWiphy
  rw [readWiphyIndex]
  cases hcheck : checkReply header cmdNewWiphy.toNat packet with
  | error fault => simp [bind, Except.bind]
  | ok passed =>
    cases passed with
    | false => simp [bind, Except.bind, pure, Except.pure]
    | true =>
      cases hvalue : packet.getAttributeValue (AttrTemplate.int .uint32) attrWiphy with
      | error fault => simp [bind, Except.bind]
      | ok value =>
        cases value with
        | none => simp [bind, Except.bind, pure, Except.pure]
        | some value => simp [bind, Except.bind]

/-- The loop succeeds where every packet gives an index, with the index of the last one. -/
theorem readWiphyIndex_append {last : NL80211Packet} :
    readWiphyIndex header out (packets ++ [last]) = .ok (true, index) ↔
      (∀ packet ∈ packets, ∃ current, GivesWiphy header packet current) ∧
        GivesWiphy header last index := by
  induction packets generalizing out with
  | nil =>
    rw [List.nil_append, readWiphyIndex_cons]
    constructor
    · intro h
      obtain ⟨current, hgives, hend⟩ := h
      obtain rfl : current = index := by simpa [readWiphyIndex, pure, Except.pure] using hend
      exact ⟨by simp, hgives⟩
    · intro h
      exact ⟨index, h.2, rfl⟩
  | cons packet packets ih =>
    rw [List.cons_append, readWiphyIndex_cons]
    constructor
    · intro h
      obtain ⟨current, hgives, hrest⟩ := h
      obtain ⟨hothers, hlast⟩ := ih.mp hrest
      refine ⟨fun other hother => ?_, hlast⟩
      rcases List.mem_cons.mp hother with rfl | hother
      · exact ⟨current, hgives⟩
      · exact hothers other hother
    · intro h
      obtain ⟨current, hgives⟩ := h.1 packet (by simp)
      exact ⟨current, hgives, ih.mpr ⟨fun other hother => h.1 other (by simp [hother]), h.2⟩⟩

theorem readInterfaces_cons : readInterfaces header wiphyIndex interfaceInfo (packet :: packets) =
      .ok (true, infos) ↔
    ∃ iface, GivesInterface header wiphyIndex packet iface ∧
      readInterfaces header wiphyIndex (interfaceInfo ++ iface.toList) packets =
        .ok (true, infos) := by
  unfold GivesInterface
  rw [readInterfaces]
  cases hcheck : checkReply header cmdNewInterface packet with
  | error fault => simp [bind, Except.bind]
  | ok passed =>
    cases passed with
    | false => simp [bind, Except.bind, pure, Except.pure]
    | true =>
      cases hiface : readInterface wiphyIndex packet with
      | error fault => simp [bind, Except.bind]
      | ok iface => simp [bind, Except.bind]

/-- The loop succeeds where no packet is refused, with what the packets give in order. -/
theorem readInterfaces_iff : readInterfaces header wiphyIndex interfaceInfo packets =
      .ok (true, infos) ↔
    ∃ ifaces, List.Forall₂ (GivesInterface header wiphyIndex) packets ifaces ∧
      infos = interfaceInfo ++ ifaces.flatMap Option.toList := by
  induction packets generalizing interfaceInfo with
  | nil =>
    rw [readInterfaces]
    constructor
    · intro h
      refine ⟨[], .nil, ?_⟩
      simpa [pure, Except.pure, eq_comm] using h
    · intro h
      obtain ⟨ifaces, hgives, rfl⟩ := h
      obtain rfl := List.forall₂_nil_left_iff.mp hgives
      simp [pure, Except.pure]
  | cons packet packets ih =>
    rw [readInterfaces_cons]
    constructor
    · intro h
      obtain ⟨iface, hgives, hrest⟩ := h
      obtain ⟨ifaces, hothers, rfl⟩ := ih.mp hrest
      exact ⟨iface :: ifaces, .cons hgives hothers, by simp⟩
    · intro h
      obtain ⟨ifaces, hgives, rfl⟩ := h
      obtain ⟨iface, others, hfirst, hothers, rfl⟩ := List.forall₂_cons_left_iff.mp hgives
      exact ⟨iface, hfirst, ih.mpr ⟨others, hothers, by simp⟩⟩

theorem requestResponses_eq_some_iff {respond : Responses} {response : List NL80211Packet} :
    requestResponses respond packet 0 nl80211CmdRetryCount [] = some response ↔
      (respond 0 packet).1 = true ∧ response = (respond 0 packet).2 ∨
        (respond 0 packet).1 = false ∧ (respond 1 packet).1 = true ∧
          response = (respond 0 packet).2 ++ (respond 1 packet).2 := by
  rw [requestResponses]
  cases hfirst : (respond 0 packet).1 with
  | true =>
    simp only [if_true, List.nil_append, Option.some.injEq, true_and, Bool.true_eq_false,
      false_and, or_false]
    exact eq_comm
  | false =>
    rw [requestResponses]
    cases hsecond : (respond 1 packet).1 with
    | true =>
      simp only [if_true, List.nil_append, Option.some.injEq, true_and, Bool.false_eq_true,
        if_false, false_and, false_or, Nat.zero_add]
      exact eq_comm
    | false => simp

/-- The index is that of the last packet of the response. The response is that of the first
attempt, or where this fails all that both attempts bring; each of its packets has to give an
index, also those that the failed attempt left. -/
theorem getWiphyIndex_eq_true_iff (ifNametoindex : IfaceName → UInt32) (respond : Responses)
    (ifaceName : IfaceName) :
    let request := wiphyIndexRequest header
      (if ifaceName = [] then none else some (ifNametoindex ifaceName))
    getWiphyIndex header ifNametoindex respond ifaceName out = .ok (true, index) ↔
      (ifaceName ≠ [] → ifNametoindex ifaceName ≠ 0) ∧ ∃ packets last,
        ((respond 0 request).1 = true ∧ packets ++ [last] = (respond 0 request).2 ∨
          (respond 0 request).1 = false ∧ (respond 1 request).1 = true ∧
            packets ++ [last] = (respond 0 request).2 ++ (respond 1 request).2) ∧
        (∀ packet ∈ packets, ∃ current, GivesWiphy header packet current) ∧
        GivesWiphy header last index := by
  intro request
  have hknown : (if ifaceName = [] then none else some (ifNametoindex ifaceName)) = some 0 ↔
      ¬ (ifaceName ≠ [] → ifNametoindex ifaceName ≠ 0) := by
    split_ifs with hempty
    · simp [hempty]
    · simp [hempty]
  rw [getWiphyIndex]
  by_cases hzero : (if ifaceName = [] then none else some (ifNametoindex ifaceName)) = some 0
  · rw [if_pos hzero]
    constructor
    · intro h
      simp at h
    · intro h
      exact absurd h.1 (hknown.mp hzero)
  rw [if_neg hzero]
  have hname : ifaceName ≠ [] → ifNametoindex ifaceName ≠ 0 := by
    by_contra hnot
    exact hzero (hknown.mpr hnot)
  rw [and_iff_right hname]
  show (match requestResponses respond request 0 nl80211CmdRetryCount [] with
    | none => Except.ok (false, out)
    | some response => if response = [] then .ok (false, out)
      else readWiphyIndex header out response) = .ok (true, index) ↔ _
  constructor
  · intro h
    cases hresponse : requestResponses respond request 0 nl80211CmdRetryCount [] with
    | none => simp [hresponse] at h
    | some response =>
      simp only [hresponse] at h
      split_ifs at h with hempty
      · simp at h
      obtain ⟨packets, last, rfl⟩ := (List.eq_nil_or_concat' response).resolve_left hempty
      exact ⟨packets, last, requestResponses_eq_some_iff.mp hresponse,
        readWiphyIndex_append.mp h⟩
  · intro h
    obtain ⟨packets, last, hresponse, hgives⟩ := h
    rw [requestResponses_eq_some_iff.mpr hresponse]
    simp only
    rw [if_neg (by simp)]
    exact readWiphyIndex_append.mpr hgives

end Loops

end NetlinkUtils

section Area
variable {packet : NL80211Packet} {items : List Item} {id : ℕ}

/-- A typed read of a packet whose attributes have, under this id, the value or nothing. -/
theorem getAttributeValue_of_find {k : ValueType} {value : Option k.Value}
    (harea : packet.HasArea (encodeAll items)) (hfits : ∀ i ∈ items, i.Fits)
    (hfind : items.find? (·.tag = id) = value.map fun v => ⟨id, k.bytes v⟩)
    (hvalue : ∀ v ∈ value, k.Holds v) :
    packet.getAttributeValue k.template id = .ok value := by
  obtain ⟨header, hlen, hdata⟩ := harea
  rw [NL80211Packet.getAttributeValue, getAttributeValueFrom_eq, hdata, ← hlen,
    getAttributeFrom_encodeAll header _ id items hfits, hfind]
  cases value with
  | none => rfl
  | some v =>
    have hmem : (Item.mk id (k.bytes v)).Fits := by
      apply hfits
      exact List.mem_of_find?_eq_some hfind
    simp only [Option.map_some, Option.bind_some, ValueType.isValid_encode id hmem, if_true,
      Except.bind, ValueType.getValue_encode id (hvalue v rfl) hmem, Except.map]

end Area

/-- A wireless device of the kernel. One that is no network interface lacks an attribute. -/
structure WirelessDevice where
  ifIndex : Option UInt32
  name : Option IfaceName
  macAddress : Option MacAddress

def WirelessDevice.interfaceInfo (wiphyIndex : UInt32) (device : WirelessDevice) :
    Option InterfaceInfo := do
  return ⟨← device.ifIndex, wiphyIndex, ← device.name, ← device.macAddress⟩

/-- The kernel's message about a device, with these and any other attributes in any order. -/
structure Describes (familyId : UInt16) (m : Message) (device : WirelessDevice) : Prop where
  type : m.type = familyId.toNat
  command : m.packet.getCommand = .ok cmdNewInterface
  attributes : ∃ items, m.packet.HasArea (encodeAll items) ∧ (∀ i ∈ items, i.Fits) ∧
    items.find? (·.tag = attrIfindex) = device.ifIndex.map (fun index =>
      ⟨attrIfindex, (ValueType.int .uint32).bytes (index.toNat : ℤ)⟩) ∧
    items.find? (·.tag = attrIfname) = device.name.map (fun name =>
      ⟨attrIfname, ValueType.string.bytes name⟩) ∧
    items.find? (·.tag = attrMac) = device.macAddress.map (fun macAddress =>
      ⟨attrMac, (ValueType.array 6).bytes macAddress.toList⟩)
  name_trimmed : ∀ name ∈ device.name, name.getLast? ≠ some 0

section Dump
variable {familyId : UInt16} {m : Message} {device : WirelessDevice} {header : RequestHeader}

theorem Describes.readInterface (h : Describes familyId m device) (wiphyIndex : UInt32) :
    NetlinkUtils.readInterface wiphyIndex m.packet =
      .ok (device.interfaceInfo wiphyIndex) := by
  obtain ⟨items, harea, hfits, hindex, hname, hmac⟩ := h.attributes
  have hindexRead : m.packet.getAttributeValue (AttrTemplate.int .uint32) attrIfindex =
      .ok (device.ifIndex.map fun index => (index.toNat : ℤ)) := by
    apply getAttributeValue_of_find (k := .int .uint32) harea hfits
    · rw [hindex, Option.map_map]
      rfl
    · intro value hvalue
      obtain ⟨index, -, rfl⟩ := Option.map_eq_some_iff.mp hvalue
      exact AttrTree.holdsDeep_uint32 attrIfindex index
  have hnameRead : m.packet.getAttributeValue AttrTemplate.string attrIfname =
      .ok device.name :=
    getAttributeValue_of_find (k := .string) harea hfits hname h.name_trimmed
  have hmacRead : m.packet.getAttributeValue (AttrTemplate.array 6) attrMac =
      .ok (device.macAddress.map fun macAddress => macAddress.toList) := by
    apply getAttributeValue_of_find (k := .array 6) harea hfits
    · rw [hmac, Option.map_map]
      rfl
    · intro value hvalue
      obtain ⟨macAddress, -, rfl⟩ := Option.map_eq_some_iff.mp hvalue
      exact macAddress.length_toList
  unfold NetlinkUtils.readInterface WirelessDevice.interfaceInfo
  rw [hindexRead, hnameRead, hmacRead]
  cases device.ifIndex with
  | none => rfl
  | some index =>
    cases device.name with
    | none => rfl
    | some name =>
      cases device.macAddress with
      | none => rfl
      | some macAddress =>
        have hread : UInt32.ofInt (index.toNat : ℤ) = index :=
          (NetlinkUtils.ofInt_eq_iff index.toNat_lt index).mpr rfl
        simp only [Option.map_some, bind, Except.bind, hread, MacAddress.ofBytes_toList]
        rfl

theorem Describes.checkReply (h : Describes header.familyId m device)
    (hfamily : nlmsgMinType ≤ header.familyId.toNat) :
    NetlinkUtils.checkReply header cmdNewInterface m.packet = .ok true := by
  have htype : m.packet.getMessageType = header.familyId.toNat := h.type
  have herror : header.familyId.toNat ≠ nlmsgError := by
    unfold nlmsgError
    unfold nlmsgMinType at hfamily
    omega
  rw [NetlinkUtils.checkReply, htype, if_neg herror, if_neg (not_not.mpr rfl), h.command]
  rfl

/-- Messages that describe devices give their interfaces in order. -/
theorem readInterfaces_of_describes {parts : List Message} {devices : List WirelessDevice}
    (hfamily : nlmsgMinType ≤ header.familyId.toNat)
    (hdescribe : List.Forall₂ (Describes header.familyId) parts devices) (wiphyIndex : UInt32) :
    NetlinkUtils.readInterfaces header wiphyIndex [] (parts.map Message.packet) =
      .ok (true, devices.filterMap (WirelessDevice.interfaceInfo wiphyIndex)) := by
  apply NetlinkUtils.readInterfaces_iff.mpr
  refine ⟨devices.map (WirelessDevice.interfaceInfo wiphyIndex), ?_, ?_⟩
  · rw [List.forall₂_map_left_iff, List.forall₂_map_right_iff]
    exact hdescribe.imp fun m device h => ⟨h.checkReply hfamily, h.readInterface wiphyIndex⟩
  · rw [List.nil_append, List.flatMap_map, List.filterMap_eq_flatMap_toList]

/-- The interfaces that the kernel dumps are read back: exactly the devices that have an index,
a name and an address, in order, whatever broadcasts they arrive with and however they are spread
over datagrams that the receive buffer has room for. An empty dump counts as a failure. -/
theorem getInterfaces_of_dump {H : Type} {traffic : Traffic H} {wiphyIndex : UInt32}
    {parts : List Message} {done : Message} {devices : List WirelessDevice}
    (hfamily : nlmsgMinType ≤ header.familyId.toNat)
    (hdescribe : List.Forall₂ (Describes header.familyId) parts devices)
    (hdone : done.type = nlmsgDone)
    (hbrings : traffic.Brings (NetlinkUtils.interfacesRequest header wiphyIndex) parts done) :
    NetlinkUtils.getInterfaces header (fun _ => traffic.answer) wiphyIndex =
      .ok (devices ≠ [], devices.filterMap (WirelessDevice.interfaceInfo wiphyIndex)) := by
  have hanswer := hbrings.answer_eq
  rw [lastPart, if_pos (.inl hdone), List.append_nil] at hanswer
  rw [NetlinkUtils.getInterfaces, hanswer]
  cases hdescribe with
  | nil => simp
  | cons hfirst hothers =>
    have hread := readInterfaces_of_describes hfamily (.cons hfirst hothers) wiphyIndex
    simpa using hread

end Dump

/-- A dump of one interface and of a device that has none, in two datagrams with a broadcast
between. -/
theorem getInterfaces_of_dump_with_pseudo_interface :
    let header : RequestHeader := ⟨28, 5, 0⟩
    let wlan : Message := ⟨⟨[48, 0, 0, 0, 28, 0, 2, 0, 5, 0, 0, 0, 0, 0, 0, 0, 7, 1, 0, 0,
      8, 0, 3, 0, 3, 0, 0, 0, 7, 0, 4, 0, 119, 48, 0, 0,
      10, 0, 6, 0, 2, 0, 0, 0, 0, 1, 0, 0]⟩, by decide, by decide⟩
    let wdev : Message := ⟨⟨[32, 0, 0, 0, 28, 0, 2, 0, 5, 0, 0, 0, 0, 0, 0, 0, 7, 1, 0, 0,
      12, 0, 153, 0, 1, 0, 0, 0, 0, 0, 0, 0]⟩, by decide, by decide⟩
    let done : Message := ⟨⟨[20, 0, 0, 0, 3, 0, 2, 0, 5, 0, 0, 0, 0, 0, 0, 0, 0, 0, 0, 0]⟩,
      by decide, by decide⟩
    let broadcast : Message := ⟨⟨[20, 0, 0, 0, 28, 0, 0, 0, 0, 0, 0, 0, 0, 0, 0, 0, 34, 1, 0, 0]⟩,
      by decide, by decide⟩
    let traffic : Traffic Unit :=
      ⟨(), fun _ => [.datagram [wlan, broadcast] 3, .datagram [wdev, done] 4], ⟨fun _ => 0, ∅, []⟩⟩
    NetlinkUtils.getInterfaces header (fun _ => traffic.answer) 0 =
      .ok (true, [⟨3, 0, [119, 48], #v[2, 0, 0, 0, 0, 1]⟩]) := by
  intro header wlan wdev done broadcast traffic
  have hwlan : Describes header.familyId wlan ⟨some 3, some [119, 48],
      some #v[2, 0, 0, 0, 0, 1]⟩ := by
    refine ⟨by decide, by decide, ?_, by decide⟩
    exact ⟨[⟨3, [3, 0, 0, 0]⟩, ⟨4, [119, 48, 0]⟩, ⟨6, [2, 0, 0, 0, 0, 1]⟩],
      ⟨wlan.packet.data.take 20, by decide, by decide⟩, by decide, by decide, by decide, by decide⟩
  have hwdev : Describes header.familyId wdev ⟨none, none, none⟩ := by
    refine ⟨by decide, by decide, ?_, by decide⟩
    exact ⟨[⟨153, [1, 0, 0, 0, 0, 0, 0, 0]⟩], ⟨wdev.packet.data.take 20, by decide, by decide⟩,
      by decide, by decide, by decide, by decide⟩
  have harrives : Arrives (NetlinkUtils.interfacesRequest header 0).getMessageSequence
      maximumNetlinkMessageWait [wlan, wdev] done
      [.datagram [wlan, broadcast] 3, .datagram [wdev, done] 4] := by
    have hsequence : (NetlinkUtils.interfacesRequest header 0).getMessageSequence = 5 := by decide
    have hwlanSequence : wlan.sequence = 5 := by decide
    have hwdevSequence : wdev.sequence = 5 := by decide
    have hdoneSequence : done.sequence = 5 := by decide
    have hbroadcastSequence : broadcast.sequence = 0 := by decide
    rw [hsequence]
    refine ⟨by decide, by decide, ⟨by decide, .inl (by decide)⟩, ?_, ?_,
      ⟨3993, by decide, by decide⟩, by decide⟩
    · simp [messagesOf, Arrival.messages, hwlanSequence, hwdevSequence, hdoneSequence,
        hbroadcastSequence]
    · simp [messagesOf, Arrival.messages, hwlanSequence, hwdevSequence, hdoneSequence,
        hbroadcastSequence]
  exact getInterfaces_of_dump (by decide) (.cons hwlan (.cons hwdev .nil)) (by decide)
    ⟨_, [], (List.append_nil _).symm, harrives⟩

end Wificond
