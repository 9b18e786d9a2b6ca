import Wificond.FamilyDiscovery
import Wificond.PacketReads
import Wificond.PaddedDatagrams
import Wificond.WiphyOutputs

/-!
# Short responses to synchronous requests

`IsValid` asks for a generic netlink header only from type `NLMSG_MIN_TYPE` on. The receive
loop drops three of the types below, and of the callers most exclude one more. The others
are read as if they had the header. Each caller is given with the reads of the packets that
the kernel answers with.
-/
namespace Wificond

/-- `CTRL_CMD_GETFAMILY` -/
abbrev ctrlCmdGetFamily : UInt8 := 3

/-- A message that the receive loop hands to the handler of a request. -/
structure Response where
  packet : NL80211Packet
  valid : packet.isValid = true
  delivered : ¬ IsControl packet.getMessageType

/-- What the kernel answers on the synchronous socket, for the number of the attempt and the
request. -/
abbrev Answers := ℕ → NL80211Packet → Bool × List Response

def Answers.responses (answers : Answers) : NetlinkUtils.Responses := fun attempt request =>
  ((answers attempt request).1, (answers attempt request).2.map Response.packet)

/-- What `SendMessageAndGetResponses` appends, unless it fails. -/
def answered (respond : NetlinkUtils.Responses) (request : NL80211Packet) :
    Option (List NL80211Packet) :=
  let result := respond 0 request
  if result.1 then some result.2 else none

namespace NetlinkReads

open NetlinkUtils

/-- `SendMessageAndGetSingleResponse` -/
def singleResponse (responses : Option (List NL80211Packet)) : Reading (Option NL80211Packet) := do
  let some [response] := responses | return none
  if response.getMessageType = nlmsgError then
    let _ ← response.readErrorCode
    return none
  return some response

def getProtocolFeatures (header : RequestHeader) (respond : Responses) :
    Reading (Option UInt32) := do
  let some response ← singleResponse (answered respond (header.request cmdGetProtocolFeatures))
    | return none
  let features ← response.readAttributeValue (AttrTemplate.int .uint32) attrProtocolFeatures
  return features.map UInt32.ofInt

def getCountryCode (header : RequestHeader) (respond : Responses) :
    Reading (Option (List UInt8)) := do
  let some response ← singleResponse (answered respond (header.request cmdGetReg)) | return none
  response.readAttributeValue AttrTemplate.string attrRegAlpha2

def sendMgmtFrame (header : RequestHeader) (respond : Responses) (interfaceIndex : UInt32)
    (frame : List UInt8) : Reading (Option UInt64) := do
  let request := mgmtFrameRequest header interfaceIndex frame
  let some response ← singleResponse (answered respond request) | return none
  let cookie ← response.readAttributeValue (AttrTemplate.int .uint64) attrCookie
  return cookie.map UInt64.ofInt

def readStationInfo (response : NL80211Packet) : Reading (Option StationInfo) := do
  if (← response.readCommand) ≠ cmdNewStation then return none
  let some staInfo ← response.readAttribute attrStaInfo | return none
  Logged.lift do
    let some txGood ← staInfo.getAttributeValue (AttrTemplate.int .int32) staInfoTxPackets
      | return none
    let some txBad ← staInfo.getAttributeValue (AttrTemplate.int .int32) staInfoTxFailed
      | return none
    let some currentRssi ← staInfo.getAttributeValue (AttrTemplate.int .int8) staInfoSignal
      | return none
    let txBitrate ← stationBitrate staInfo staInfoTxBitrate
    let rxBitrate ← stationBitrate staInfo staInfoRxBitrate
    return some
      ⟨Int32.ofInt txGood, Int32.ofInt txBad, txBitrate, Int8.ofInt currentRssi, rxBitrate⟩

def getStationInfo (header : RequestHeader) (respond : Responses) (interfaceIndex : UInt32)
    (macAddress : MacAddress) : Reading (Option StationInfo) := do
  let request := stationRequest header interfaceIndex macAddress
  let some response ← singleResponse (answered respond request) | return none
  readStationInfo response

def parseBandInfo (packet : NL80211Packet) : Reading (Option WiphyBandInfo) := do
  let some bandsAttr ← packet.readAttribute attrWiphyBands | return none
  Logged.lift do
    let some bands ← bandsAttr.getListOfNestedAttributes | return none
    return some (← bands.foldlM parseBand WiphyBandInfo.construct)

def scanPlanCapability (packet : NL80211Packet) (id : ℕ) : Reading UInt32 := do
  let value ← packet.readAttributeValue (AttrTemplate.int .uint32) id
  return (value.map UInt32.ofInt).getD 0

def parseScanCapabilities (packet : NL80211Packet) : Reading (Option ScanCapabilities) := do
  let some maxNumScanSsids ← packet.readAttributeValue (AttrTemplate.int .uint8) attrMaxNumScanSsids
    | return none
  let some maxNumSchedScanSsids ←
    packet.readAttributeValue (AttrTemplate.int .uint8) attrMaxNumSchedScanSsids | return none
  let maxNumScanPlans ← scanPlanCapability packet attrMaxNumSchedScanPlans
  let maxScanPlanInterval ← scanPlanCapability packet attrMaxScanPlanInterval
  let maxScanPlanIterations ← scanPlanCapability packet attrMaxScanPlanIterations
  let some maxMatchSets ← packet.readAttributeValue (AttrTemplate.int .uint8) attrMaxMatchSets
    | return none
  return some ⟨UInt8.ofInt maxNumScanSsids, UInt8.ofInt maxNumSchedScanSsids,
    UInt8.ofInt maxMatchSets, maxNumScanPlans, maxScanPlanInterval, maxScanPlanIterations⟩

def parseWiphyInfoFromPacket (packet : NL80211Packet) (outs : WiphyInfo) :
    Reading (Bool × WiphyInfo) := do
  if (← packet.readCommand) ≠ cmdNewWiphy.toNat then return (false, outs)
  let some bandInfo ← parseBandInfo packet | return (false, outs)
  let outs := { outs with bandInfo := bandInfo }
  let some scanCapabilities ← parseScanCapabilities packet | return (false, outs)
  let outs := { outs with scanCapabilities := scanCapabilities }
  let some featureFlags ← packet.readAttributeValue (AttrTemplate.int .uint32) attrFeatureFlags
    | return (false, outs)
  let extFeatureFlagsBytes ← packet.readAttributeValue AttrTemplate.vector attrExtFeatures
  return (true, { outs with
    wiphyFeatures :=
      WiphyFeatures.construct (UInt32.ofInt featureFlags) (extFeatureFlagsBytes.getD []) })

def findWiphyInfo (wiphyIndex : UInt32) (outs : WiphyInfo) :
    List NL80211Packet → Reading (Bool × WiphyInfo)
  | [] => return (false, outs)
  | packet :: rest => do
    let current ← packet.readAttributeValue (AttrTemplate.int .uint32) attrWiphy
    if current.map UInt32.ofInt ≠ some wiphyIndex then findWiphyInfo wiphyIndex outs rest
    else
      let result ← parseWiphyInfoFromPacket packet outs
      if result.1 then return (true, result.2) else findWiphyInfo wiphyIndex result.2 rest

def mergePacket (attrs : AttrByWiphyAndId) (packet : NL80211Packet) :
    Reading (Option AttrByWiphyAndId) := do
  match ← packet.readAttributeValue (AttrTemplate.int .uint32) attrWiphy with
  | none => return none
  | some wiphyIndex =>
    let result ← packet.readAllAttributes
    if result.1 then
      return some (← Logged.lift (result.2.foldlM (mergeAttribute wiphyIndex.toNat) attrs))
    else return none

def collectAttributes (attrs : AttrByWiphyAndId) :
    List NL80211Packet → Reading (Option AttrByWiphyAndId)
  | [] => return some attrs
  | packet :: rest => do
    match ← mergePacket attrs packet with
    | none => return none
    | some attrs => collectAttributes attrs rest

def packetPerWiphy (supportsSplitWiphyDump : Bool) (response : List NL80211Packet) :
    Reading (List NL80211Packet) := do
  if supportsSplitWiphyDump then
    match ← collectAttributes ∅ response with
    | none => return []
    | some attrs => return attrs.toList.map fun entry => generateWiphyPacket entry.1 entry.2
  else return response

def getWiphyInfo (header : RequestHeader) (respond : Responses) (supportsSplitWiphyDump : Bool)
    (wiphyIndex : UInt32) (outs : WiphyInfo) : Reading (Bool × WiphyInfo) := do
  let request := wiphyRequest header supportsSplitWiphyDump wiphyIndex
  let some response := requestResponses respond request 0 nl80211CmdRetryCount []
    | return (false, outs)
  findWiphyInfo wiphyIndex outs (← packetPerWiphy supportsSplitWiphyDump response)

/-- `OnNewFamily` looks at the type first. -/
def onNewFamily (packet : NL80211Packet) (manager : FamilyManager) : Reading FamilyManager := do
  let manager := { manager with received := manager.received ++ [packet] }
  if packet.getMessageType ≠ genlIdCtrl then return manager
  if (← packet.readCommand) ≠ ctrlCmdNewFamily then return manager
  let some familyId ← packet.readAttributeValue (AttrTemplate.int .uint16) ctrlAttrFamilyId
    | return manager
  let some familyName ← packet.readAttributeValue AttrTemplate.string ctrlAttrFamilyName
    | return manager
  let manager := { manager with
    messageTypes := manager.messageTypes.insert familyName ⟨some (UInt16.ofInt familyId), ∅⟩ }
  let some multicastGroups ← packet.readAttribute ctrlAttrMcastGroups | return manager
  Logged.lift do
    let some groups ← multicastGroups.getListOfNestedAttributes | return manager
    groups.foldlM (FamilyManager.addGroup familyName) manager

def familyRequest (sequence pid : UInt32) : NL80211Packet :=
  (NL80211Packet.ofHeader (UInt16.ofNat genlIdCtrl) ctrlCmdGetFamily sequence pid).addAttribute
    (NL80211Attr.ofString ctrlAttrFamilyName nl80211GenlName)

def discoverFamilyId (sequence pid : UInt32) (respond : Responses) (handledBroadcast : Bool)
    (manager : FamilyManager) : Reading (Bool × FamilyManager) := do
  let manager := manager.afterBroadcast handledBroadcast
  let some response ← singleResponse (answered respond (familyRequest sequence pid))
    | return (false, manager)
  let manager ← onNewFamily response manager
  return (manager.messageTypes.contains nl80211GenlName, manager)

section Results
variable {packet : NL80211Packet} {respond : Responses}

@[simp] theorem result_singleResponse (responses : Option (List NL80211Packet)) :
    (singleResponse responses).result = FamilyManager.singleResponse responses := by
  rcases responses with - | (- | ⟨response, - | ⟨_, _⟩⟩)
  · rfl
  · rfl
  · rw [singleResponse, FamilyManager.singleResponse, Logged.result_ite]
    split_ifs
    · exact Logged.result_bind_congr rfl fun _ => rfl
    · rfl
  · rfl

theorem result_readStationInfo :
    (readStationInfo packet).result = NetlinkUtils.readStationInfo packet := by
  refine Logged.result_bind_congr rfl fun command => ?_
  rw [Logged.result_ite]
  split_ifs
  · rfl
  · exact Logged.result_bind_congr rfl fun staInfo => by cases staInfo <;> rfl

theorem result_parseBandInfo :
    (parseBandInfo packet).result = NetlinkUtils.parseBandInfo packet :=
  Logged.result_bind_congr rfl fun bandsAttr => by cases bandsAttr <;> rfl

theorem result_scanPlanCapability (id : ℕ) :
    (scanPlanCapability packet id).result = NetlinkUtils.scanPlanCapability packet id :=
  Logged.result_bind_congr (NL80211Packet.result_readAttributeValue _ _) fun _ => rfl

theorem result_parseScanCapabilities :
    (parseScanCapabilities packet).result = NetlinkUtils.parseScanCapabilities packet := by
  refine Logged.result_bind_congr (NL80211Packet.result_readAttributeValue _ _) fun scanSsids => ?_
  cases scanSsids with
  | none => rfl
  | some scanSsids =>
  refine Logged.result_bind_congr (NL80211Packet.result_readAttributeValue _ _) fun sched => ?_
  cases sched with
  | none => rfl
  | some sched =>
  refine Logged.result_bind_congr (result_scanPlanCapability _) fun plans => ?_
  refine Logged.result_bind_congr (result_scanPlanCapability _) fun interval => ?_
  refine Logged.result_bind_congr (result_scanPlanCapability _) fun iterations => ?_
  refine Logged.result_bind_congr (NL80211Packet.result_readAttributeValue _ _) fun matchSets => ?_
  cases matchSets <;> rfl

theorem result_parseWiphyInfoFromPacket (outs : WiphyInfo) :
    (parseWiphyInfoFromPacket packet outs).result =
      NetlinkUtils.parseWiphyInfoFromPacket packet outs := by
  refine Logged.result_bind_congr rfl fun command => ?_
  rw [Logged.result_ite]
  split_ifs
  · rfl
  refine Logged.result_bind_congr result_parseBandInfo fun bandInfo => ?_
  cases bandInfo with
  | none => rfl
  | some bandInfo =>
  refine Logged.result_bind_congr result_parseScanCapabilities fun scanCapabilities => ?_
  cases scanCapabilities with
  | none => rfl
  | some scanCapabilities =>
  refine Logged.result_bind_congr (NL80211Packet.result_readAttributeValue _ _) fun flags => ?_
  cases flags with
  | none => rfl
  | some flags =>
  exact Logged.result_bind_congr (NL80211Packet.result_readAttributeValue _ _) fun _ => rfl

theorem result_findWiphyInfo (wiphyIndex : UInt32) (packets : List NL80211Packet)
    (outs : WiphyInfo) : (findWiphyInfo wiphyIndex outs packets).result =
      NetlinkUtils.findWiphyInfo wiphyIndex outs packets := by
  induction packets generalizing outs with
  | nil => rfl
  | cons packet rest ih =>
    refine Logged.result_bind_congr (NL80211Packet.result_readAttributeValue _ _) fun current => ?_
    rw [Logged.result_ite]
    split_ifs
    · exact ih outs
    refine Logged.result_bind_congr (result_parseWiphyInfoFromPacket outs) fun result => ?_
    obtain ⟨success, outs⟩ := result
    rw [Logged.result_ite]
    dsimp only
    split_ifs
    · rfl
    · exact ih outs

theorem result_mergePacket (attrs : AttrByWiphyAndId) :
    (mergePacket attrs packet).result = Wificond.mergePacket attrs packet := by
  refine Logged.result_bind_congr (NL80211Packet.result_readAttributeValue _ _) fun index => ?_
  cases index with
  | none => rfl
  | some index =>
  refine Logged.result_bind_congr rfl fun result => ?_
  obtain ⟨complete, attributes⟩ := result
  rw [Logged.result_ite]
  dsimp only
  split_ifs
  · exact Logged.result_bind_congr rfl fun _ => rfl
  · rfl

theorem result_collectAttributes (packets : List NL80211Packet) (attrs : AttrByWiphyAndId) :
    (collectAttributes attrs packets).result =
      Wificond.collectAttributes attrs packets := by
  induction packets generalizing attrs with
  | nil => rfl
  | cons packet rest ih =>
    refine Logged.result_bind_congr (result_mergePacket attrs) fun attrs => ?_
    cases attrs with
    | none => rfl
    | some attrs => exact ih attrs

theorem result_packetPerWiphy (split : Bool) (response : List NL80211Packet) :
    (packetPerWiphy split response).result = NetlinkUtils.packetPerWiphy split response := by
  cases split with
  | false => rfl
  | true =>
    have hcollect := result_collectAttributes response ∅
    simp only [packetPerWiphy, NetlinkUtils.packetPerWiphy, mergePacketsForSplitWiphyDump, if_true,
      Logged.result_bind, hcollect]
    cases Wificond.collectAttributes ∅ response with
    | error fault => rfl
    | ok attrs => cases attrs <;> rfl

theorem result_getWiphyInfo (header : RequestHeader) (split : Bool) (wiphyIndex : UInt32)
    (outs : WiphyInfo) : (getWiphyInfo header respond split wiphyIndex outs).result =
      NetlinkUtils.getWiphyInfo header respond split wiphyIndex outs := by
  rw [getWiphyInfo, NetlinkUtils.getWiphyInfo]
  cases requestResponses respond (wiphyRequest header split wiphyIndex) 0 nl80211CmdRetryCount []
    with
  | none => rfl
  | some response =>
    exact Logged.result_bind_congr (result_packetPerWiphy split response) fun packets =>
      result_findWiphyInfo wiphyIndex packets outs

theorem result_getStationInfo (header : RequestHeader) (interfaceIndex : UInt32)
    (macAddress : MacAddress) : (getStationInfo header respond interfaceIndex macAddress).result =
      (FamilyManager.singleResponse
        (answered respond (stationRequest header interfaceIndex macAddress))).bind fun response =>
          NetlinkUtils.getStationInfo header (fun _ => response) interfaceIndex macAddress := by
  refine Logged.result_bind_congr (result_singleResponse _) fun response => ?_
  cases response with
  | none => rfl
  | some response => exact result_readStationInfo

theorem result_sendMgmtFrame (header : RequestHeader) (interfaceIndex : UInt32)
    (frame : List UInt8) : (sendMgmtFrame header respond interfaceIndex frame).result =
      (FamilyManager.singleResponse
        (answered respond (mgmtFrameRequest header interfaceIndex frame))).bind fun response =>
          NetlinkUtils.sendMgmtFrame header (fun _ => response) interfaceIndex frame := by
  refine Logged.result_bind_congr (result_singleResponse _) fun response => ?_
  cases response with
  | none => rfl
  | some response =>
    exact Logged.result_bind_congr (NL80211Packet.result_readAttributeValue _ _) fun _ => rfl

theorem result_onNewFamily (manager : FamilyManager) :
    (onNewFamily packet manager).result = manager.onNewFamily packet := by
  simp only [onNewFamily, FamilyManager.onNewFamily, FamilyManager.readFamily, Logged.result_ite]
  split_ifs
  · rfl
  refine Logged.result_bind_congr rfl fun command => ?_
  rw [Logged.result_ite]
  split_ifs
  · rfl
  refine Logged.result_bind_congr (NL80211Packet.result_readAttributeValue _ _) fun familyId => ?_
  cases familyId with
  | none => rfl
  | some familyId =>
  refine Logged.result_bind_congr (NL80211Packet.result_readAttributeValue _ _) fun name => ?_
  cases name with
  | none => rfl
  | some name =>
  exact Logged.result_bind_congr rfl fun groups => by cases groups <;> rfl

theorem result_discoverFamilyId (sequence pid : UInt32) (handledBroadcast : Bool)
    (manager : FamilyManager) :
    (discoverFamilyId sequence pid respond handledBroadcast manager).result =
      manager.discoverFamilyId
        ⟨handledBroadcast, answered respond (familyRequest sequence pid)⟩ := by
  refine Logged.result_bind_congr (result_singleResponse _) fun response => ?_
  cases response with
  | none => rfl
  | some response => exact Logged.result_bind_congr (result_onNewFamily _) fun _ => rfl

end Results

end NetlinkReads

namespace NL80211Packet

variable {packet : NL80211Packet}

theorem HasHeaders.command (h : packet.HasHeaders) : nlmsgHdrlen + 1 ≤ packet.data.length := by
  unfold HasHeaders attributeStart genlHdrlen at h
  omega

/-- A message of a family has both headers, and so has an error. -/
theorem hasHeaders_of_isValid (hvalid : packet.isValid = true)
    (htype : nlmsgMinType ≤ packet.getMessageType ∨ packet.getMessageType = nlmsgError) :
    packet.HasHeaders := by
  by_contra hshort
  have hlt : packet.data.length < nlmsgHdrlen + genlHdrlen := not_le.mp hshort
  simp only [isValid] at hvalid
  split_ifs at hvalid with hnone hfamily herror
  rcases htype with htype | htype
  · exact hfamily ⟨htype, .inl hlt⟩
  · exact herror ⟨htype, .inl hlt⟩

theorem HasHeaders.addAttribute (h : packet.HasHeaders) (attr : BaseNL80211Attr) :
    (packet.addAttribute attr).HasHeaders := by
  unfold HasHeaders at h ⊢
  simp only [NL80211Packet.addAttribute, LittleEndian.setField, LittleEndian.overwrite,
    List.length_append, List.length_take, List.length_drop]
  omega

theorem hasHeaders_ofHeader (type : UInt16) (command : UInt8) (sequence pid : UInt32) :
    (ofHeader type command sequence pid).HasHeaders := by
  have hlen := length_ofArea type command sequence pid []
  rw [HasHeaders, ofHeader_eq_ofArea, hlen]
  exact Nat.le_add_right _ _

end NL80211Packet

/-- What is short and still handed to a handler: type zero, or five to fifteen. -/
theorem Response.type_of_short (r : Response) (h : ¬ r.packet.HasHeaders) :
    r.packet.getMessageType < nlmsgMinType ∧
      r.packet.getMessageType ∉ [nlmsgNoop, nlmsgError, nlmsgDone, nlmsgOverrun] := by
  have hlow : ¬ (nlmsgMinType ≤ r.packet.getMessageType ∨
      r.packet.getMessageType = nlmsgError) :=
    fun htype => h (NL80211Packet.hasHeaders_of_isValid r.valid htype)
  have hcontrol := r.delivered
  simp only [IsControl, not_or] at hlow hcontrol
  simp [hlow, hcontrol]
  omega

/-- The caller reads this response: it is the only one, and no error. -/
def ReadsResponse (respond : NetlinkUtils.Responses) (request response : NL80211Packet) : Prop :=
  answered respond request = some [response] ∧ response.getMessageType ≠ nlmsgError

namespace NetlinkReads

open NetlinkUtils

section Single
variable {answers : Answers} {request : NL80211Packet} {α : Type}

theorem isValid_of_answered {packets : List NL80211Packet} {packet : NL80211Packet}
    (h : answered answers.responses request = some packets) (hmem : packet ∈ packets) :
    packet.isValid = true := by
  rw [answered] at h
  split_ifs at h
  obtain rfl := Option.some.inj h
  obtain ⟨r, -, rfl⟩ := List.mem_map.mp hmem
  exact r.valid

theorem singleResponse_inside :
    (singleResponse (answered answers.responses request)).All PacketAccess.Inside := by
  rcases hpackets : answered answers.responses request with - | (- | ⟨response, - | ⟨_, _⟩⟩)
  · exact Logged.all_pure _
  · exact Logged.all_pure _
  · rw [singleResponse]
    split_ifs with herror
    · have hlong : response.HasHeaders := NL80211Packet.hasHeaders_of_isValid
        (isValid_of_answered hpackets (by simp)) (.inr herror)
      exact (Logged.all_bind_iff _ _).mpr
        ⟨NL80211Packet.readErrorCode_inside_iff.mpr hlong, fun _ _ => Logged.all_pure _⟩
    · exact Logged.all_pure _
  · exact Logged.all_pure _

theorem singleResponse_eq_some_iff {responses : Option (List NL80211Packet)}
    {response : NL80211Packet} :
    (singleResponse responses).result = .ok (some response) ↔
      responses = some [response] ∧ response.getMessageType ≠ nlmsgError := by
  rcases responses with - | (- | ⟨only, - | ⟨_, _⟩⟩)
  · simp [singleResponse]
  · simp [singleResponse]
  · rw [singleResponse, Logged.result_ite]
    split_ifs with herror
    · refine iff_of_false ?_ ?_
      · rw [Logged.result_bind, NL80211Packet.result_readErrorCode]
        cases only.getErrorCode <;> simp [bind, Except.bind]
      · intro h
        obtain ⟨heq, htype⟩ := h
        obtain rfl : only = response := by simpa using heq
        exact htype herror
    · constructor
      · intro h
        obtain rfl : only = response := by simpa using h
        exact ⟨rfl, herror⟩
      · intro h
        simpa using h.1
  · simp [singleResponse]

/-- A caller that returns where there is no response. -/
theorem caller_inside_iff {rest : Option NL80211Packet → Reading α}
    (hnone : (rest none).All PacketAccess.Inside) :
    (singleResponse (answered answers.responses request) >>= rest).All PacketAccess.Inside ↔
      ∀ response, ReadsResponse answers.responses request response →
        (rest (some response)).All PacketAccess.Inside := by
  rw [Logged.all_bind_iff, and_iff_right singleResponse_inside]
  simp only [ReadsResponse, ← singleResponse_eq_some_iff]
  constructor
  · exact fun h response hresponse => h (some response) hresponse
  · intro h response hresponse
    cases response with
    | none => exact hnone
    | some response => exact h response hresponse

end Single

section Packets
variable {packet : NL80211Packet} {packets : List NL80211Packet} {wiphyIndex : UInt32}

theorem readStationInfo_inside_iff : (readStationInfo packet).All PacketAccess.Inside ↔
    nlmsgHdrlen + 1 ≤ packet.data.length ∧
      (packet.getCommand = .ok cmdNewStation → packet.HasHeaders) := by
  rw [readStationInfo, Logged.all_bind_iff, NL80211Packet.readCommand_inside_iff,
    NL80211Packet.result_readCommand]
  refine and_congr_right fun hcommand => ?_
  rw [NL80211Packet.getCommand, if_pos hcommand]
  constructor
  · intro h heq
    have hread := h _ heq
    rw [if_neg (by simp), Logged.all_bind_iff, NL80211Packet.readAttribute_inside_iff] at hread
    exact hread.1
  · intro h command heq
    split_ifs with hnew
    · exact Logged.all_pure _
    · obtain rfl := not_not.mp hnew
      rw [Logged.all_bind_iff, NL80211Packet.readAttribute_inside_iff]
      refine ⟨h heq, fun staInfo _ => ?_⟩
      cases staInfo <;> exact Logged.all_lift _

theorem parseScanCapabilities_inside (h : packet.HasHeaders) :
    (parseScanCapabilities packet).All PacketAccess.Inside := by
  have hvalue {α : Type} (t : AttrTemplate α) (id : ℕ) :
      (packet.readAttributeValue t id).All PacketAccess.Inside :=
    (NL80211Packet.readAttributeValue_inside_iff t id).mpr h
  have hplan (id : ℕ) : (scanPlanCapability packet id).All PacketAccess.Inside :=
    (Logged.all_bind_iff _ _).mpr ⟨hvalue _ _, fun _ _ => Logged.all_pure _⟩
  refine (Logged.all_bind_iff _ _).mpr ⟨hvalue _ _, fun scanSsids _ => ?_⟩
  cases scanSsids with
  | none => exact Logged.all_pure _
  | some scanSsids =>
  refine (Logged.all_bind_iff _ _).mpr ⟨hvalue _ _, fun schedScanSsids _ => ?_⟩
  cases schedScanSsids with
  | none => exact Logged.all_pure _
  | some schedScanSsids =>
  refine (Logged.all_bind_iff _ _).mpr ⟨hplan _, fun plans _ => ?_⟩
  refine (Logged.all_bind_iff _ _).mpr ⟨hplan _, fun interval _ => ?_⟩
  refine (Logged.all_bind_iff _ _).mpr ⟨hplan _, fun iterations _ => ?_⟩
  refine (Logged.all_bind_iff _ _).mpr ⟨hvalue _ _, fun matchSets _ => ?_⟩
  cases matchSets <;> exact Logged.all_pure _

theorem parseWiphyInfoFromPacket_inside (h : packet.HasHeaders) (outs : WiphyInfo) :
    (parseWiphyInfoFromPacket packet outs).All PacketAccess.Inside := by
  have hvalue {α : Type} (t : AttrTemplate α) (id : ℕ) :
      (packet.readAttributeValue t id).All PacketAccess.Inside :=
    (NL80211Packet.readAttributeValue_inside_iff t id).mpr h
  refine (Logged.all_bind_iff _ _).mpr
    ⟨NL80211Packet.readCommand_inside_iff.mpr h.command, fun command _ => ?_⟩
  split_ifs
  · exact Logged.all_pure _
  have hbands : (parseBandInfo packet).All PacketAccess.Inside := by
    refine (Logged.all_bind_iff _ _).mpr
      ⟨(NL80211Packet.readAttribute_inside_iff _).mpr h, fun bandsAttr _ => ?_⟩
    cases bandsAttr <;> exact Logged.all_lift _
  refine (Logged.all_bind_iff _ _).mpr ⟨hbands, fun bandInfo _ => ?_⟩
  cases bandInfo with
  | none => exact Logged.all_pure _
  | some bandInfo =>
  refine (Logged.all_bind_iff _ _).mpr
    ⟨parseScanCapabilities_inside h, fun scanCapabilities _ => ?_⟩
  cases scanCapabilities with
  | none => exact Logged.all_pure _
  | some scanCapabilities =>
  refine (Logged.all_bind_iff _ _).mpr ⟨hvalue _ _, fun featureFlags _ => ?_⟩
  cases featureFlags with
  | none => exact Logged.all_pure _
  | some featureFlags =>
  exact (Logged.all_bind_iff _ _).mpr ⟨hvalue _ _, fun _ _ => Logged.all_pure _⟩

/-- The loop goes on behind a packet exactly if the packet is passed. -/
theorem exists_next_iff (outs : WiphyInfo) :
    (∃ outs', NetlinkUtils.findWiphyInfo wiphyIndex outs [packet] = .ok (false, outs')) ↔
      Passed wiphyIndex packet := by
  constructor
  · intro h
    obtain ⟨outs', hnext⟩ := h
    by_contra hstops
    rcases findWiphyInfo_of_not_passed hstops with ⟨info, -, -, hend⟩ | ⟨fault, hend⟩
    · rw [hend] at hnext
      simp at hnext
    · rw [hend] at hnext
      simp at hnext
  · intro h
    obtain ⟨outs', hnext⟩ := findWiphyInfo_of_passed h outs
    exact ⟨outs', hnext []⟩

/-- With room for its headers, a packet of another wiphy is left at once, and all reads of
one of the wiphy are inside. -/
theorem findWiphyInfo_cons_inside_iff (h : packet.HasHeaders) (outs : WiphyInfo) :
    (findWiphyInfo wiphyIndex outs (packet :: packets)).All PacketAccess.Inside ↔
      ∀ outs', NetlinkUtils.findWiphyInfo wiphyIndex outs [packet] = .ok (false, outs') →
        (findWiphyInfo wiphyIndex outs' packets).All PacketAccess.Inside := by
  have hparse := @result_parseWiphyInfoFromPacket packet outs
  rw [findWiphyInfo, Logged.all_bind_iff, NL80211Packet.readAttributeValue_inside_iff,
    NL80211Packet.result_readAttributeValue, and_iff_right h, NetlinkUtils.findWiphyInfo]
  cases hcurrent : packet.getAttributeValue (AttrTemplate.int .uint32) attrWiphy with
  | error fault => simp [bind, Except.bind]
  | ok current =>
  simp only [Except.ok.injEq, forall_eq', bind, Except.bind]
  by_cases hown : current.map UInt32.ofInt = some wiphyIndex
  · have hinside := parseWiphyInfoFromPacket_inside h outs
    rw [if_neg (not_not_intro hown), if_neg (not_not_intro hown)]
    refine (Logged.all_bind_iff _ _).trans ?_
    rw [and_iff_right hinside, hparse]
    cases hresult : NetlinkUtils.parseWiphyInfoFromPacket packet outs with
    | error fault => simp
    | ok result =>
      obtain ⟨success, next⟩ := result
      cases success <;> simp [NetlinkUtils.findWiphyInfo, pure, Except.pure]
  · simp [hown, NetlinkUtils.findWiphyInfo, pure, Except.pure]

/-- All packets that the loop comes to must have both headers. -/
theorem findWiphyInfo_inside_iff (outs : WiphyInfo) :
    (findWiphyInfo wiphyIndex outs packets).All PacketAccess.Inside ↔
      ∀ before packet after, packets = before ++ packet :: after →
        (∀ p ∈ before, Passed wiphyIndex p) → packet.HasHeaders := by
  induction packets generalizing outs with
  | nil => simp [findWiphyInfo]
  | cons packet rest ih =>
    rw [Runs.forall_split_cons_iff]
    by_cases hlong : packet.HasHeaders
    · rw [findWiphyInfo_cons_inside_iff hlong]
      simp only [List.not_mem_nil, false_imp_iff, implies_true, hlong, true_and,
        List.forall_mem_cons]
      constructor
      · intro h before p after hsplit hpassed
        obtain ⟨outs', hnext⟩ := (exists_next_iff outs).mpr hpassed.1
        exact (ih outs').mp (h outs' hnext) before p after hsplit hpassed.2
      · intro h outs' hnext
        have hpassed := (exists_next_iff outs).mp ⟨outs', hnext⟩
        exact (ih outs').mpr fun before p after hsplit hbefore =>
          h before p after hsplit ⟨hpassed, hbefore⟩
    · refine iff_of_false ?_ fun h => hlong (h.1 (by simp))
      intro h
      rw [findWiphyInfo, Logged.all_bind_iff, NL80211Packet.readAttributeValue_inside_iff] at h
      exact hlong h.1

theorem mergePacket_inside_iff (attrs : AttrByWiphyAndId) :
    (mergePacket attrs packet).All PacketAccess.Inside ↔ packet.HasHeaders := by
  rw [mergePacket, Logged.all_bind_iff, NL80211Packet.readAttributeValue_inside_iff]
  refine and_iff_left_of_imp fun _ index _ => ?_
  cases index with
  | none => exact Logged.all_pure _
  | some index =>
  refine (Logged.all_bind_iff _ _).mpr
    ⟨NL80211Packet.readAllAttributes_inside, fun result _ => ?_⟩
  split_ifs
  · exact (Logged.all_bind_iff _ _).mpr ⟨Logged.all_lift _, fun _ _ => Logged.all_pure _⟩
  · exact Logged.all_pure _

/-- All packets up to the first that cannot be merged must have both headers. -/
theorem collectAttributes_inside_iff (attrs : AttrByWiphyAndId) :
    (collectAttributes attrs packets).All PacketAccess.Inside ↔
      ∀ before packet after, packets = before ++ packet :: after →
        (∃ collected, Wificond.collectAttributes attrs before = .ok (some collected)) →
          packet.HasHeaders := by
  induction packets generalizing attrs with
  | nil => simp [collectAttributes]
  | cons packet rest ih =>
    rw [Runs.forall_split_cons_iff, collectAttributes, Logged.all_bind_iff, mergePacket_inside_iff,
      result_mergePacket]
    refine and_congr ⟨fun h _ => h, fun h => h ⟨attrs, rfl⟩⟩ ?_
    simp only [Wificond.collectAttributes]
    cases hmerge : Wificond.mergePacket attrs packet with
    | error fault => simp [bind, Except.bind]
    | ok merged =>
      cases merged with
      | none => simp [bind, Except.bind, pure, Except.pure]
      | some merged => simpa [bind, Except.bind] using ih merged

theorem hasHeaders_generateWiphyPacket (wiphyIndex : ℕ) (attributes : AttrById) :
    (generateWiphyPacket wiphyIndex attributes).HasHeaders := by
  rw [generateWiphyPacket]
  generalize hstart : (NL80211Packet.ofHeader 0 cmdNewWiphy 0 0).addAttribute
    (NL80211Attr.ofInt .uint32 attrWiphy wiphyIndex) = start
  have hlong : start.HasHeaders :=
    hstart ▸ (NL80211Packet.hasHeaders_ofHeader 0 cmdNewWiphy 0 0).addAttribute _
  clear hstart
  induction attributes.toList generalizing start with
  | nil => exact hlong
  | cons entry entries ih => exact ih _ (hlong.addAttribute entry.2)

theorem getWiphyInfo_inside_iff (header : RequestHeader) (respond : Responses) (split : Bool)
    (outs : WiphyInfo) :
    (getWiphyInfo header respond split wiphyIndex outs).All PacketAccess.Inside ↔
      ∀ response, requestResponses respond (wiphyRequest header split wiphyIndex) 0
          nl80211CmdRetryCount [] = some response →
        ∀ before packet after, response = before ++ packet :: after →
          (if split then ∃ collected, Wificond.collectAttributes ∅ before = .ok (some collected)
            else ∀ p ∈ before, Passed wiphyIndex p) → packet.HasHeaders := by
  rw [getWiphyInfo]
  cases requestResponses respond (wiphyRequest header split wiphyIndex) 0 nl80211CmdRetryCount []
    with
  | none => simp
  | some response =>
  simp only [Option.some.injEq, forall_eq']
  cases split with
  | false =>
    refine (Logged.all_bind_iff _ _).trans ?_
    simpa [packetPerWiphy] using findWiphyInfo_inside_iff outs
  | true =>
    refine (Logged.all_bind_iff _ _).trans ?_
    -- the packets that are generated have both headers
    have hgenerated (packets : List NL80211Packet)
        (h : (packetPerWiphy true response).result = .ok packets) :
        (findWiphyInfo wiphyIndex outs packets).All PacketAccess.Inside := by
      refine (findWiphyInfo_inside_iff outs).mpr fun before packet after hsplit _ => ?_
      have hmem : packet ∈ packets := by simp [hsplit]
      simp only [packetPerWiphy, if_true, Logged.result_bind] at h
      obtain ⟨collected, -, hpackets⟩ := Runs.bind_eq_ok.mp h
      cases collected with
      | none =>
        obtain rfl : [] = packets := Except.ok.inj hpackets
        simp at hmem
      | some attrs =>
        obtain rfl := Except.ok.inj hpackets
        obtain ⟨entry, -, rfl⟩ := List.mem_map.mp hmem
        exact hasHeaders_generateWiphyPacket entry.1 entry.2
    rw [and_iff_left hgenerated, packetPerWiphy, if_pos rfl, Logged.all_bind_iff,
      collectAttributes_inside_iff]
    simp only [if_true]
    refine and_iff_left_of_imp fun _ attrs _ => ?_
    cases attrs <;> exact Logged.all_pure _

theorem onNewFamily_inside (hvalid : packet.isValid = true) (manager : FamilyManager) :
    (onNewFamily packet manager).All PacketAccess.Inside := by
  rw [onNewFamily]
  split_ifs with htype
  · exact Logged.all_pure _
  have hlong : packet.HasHeaders :=
    NL80211Packet.hasHeaders_of_isValid hvalid (.inl (not_not.mp htype).ge)
  refine (Logged.all_bind_iff _ _).mpr
    ⟨NL80211Packet.readCommand_inside_iff.mpr hlong.command, fun command _ => ?_⟩
  split_ifs
  · exact Logged.all_pure _
  refine (Logged.all_bind_iff _ _).mpr
    ⟨(NL80211Packet.readAttributeValue_inside_iff _ _).mpr hlong, fun familyId _ => ?_⟩
  cases familyId with
  | none => exact Logged.all_pure _
  | some familyId =>
  refine (Logged.all_bind_iff _ _).mpr
    ⟨(NL80211Packet.readAttributeValue_inside_iff _ _).mpr hlong, fun familyName _ => ?_⟩
  cases familyName with
  | none => exact Logged.all_pure _
  | some familyName =>
  refine (Logged.all_bind_iff _ _).mpr
    ⟨(NL80211Packet.readAttribute_inside_iff _).mpr hlong, fun groups _ => ?_⟩
  cases groups <;> first | exact Logged.all_pure _ | exact Logged.all_lift _

end Packets

end NetlinkReads

/-- Every packet that went to the handler of a request is valid and no control message. -/
def HandsOver {H : Type} (deliveries : List (Delivery H)) : Prop :=
  ∀ handler packet, .handler handler packet ∈ deliveries → ∃ r : Response, r.packet = packet

section HandsOver
variable {H : Type} {s s' t : NetlinkState H (List (Delivery H))} {len ptr ptr' : ℕ}

theorem exists_response_packetAt {buffer : ReceiveBuffer} (haccepted : Accepted buffer ptr)
    (hcontrol : ¬ IsControl (messageType buffer ptr)) :
    ∃ r : Response, r.packet = packetAt buffer ptr := by
  have htype : (packetAt buffer ptr).getMessageType = messageType buffer ptr :=
    field_packetAt haccepted.1 (by norm_num)
  exact ⟨⟨_, (isValid_packetAt buffer ptr).mpr haccepted, htype ▸ hcontrol⟩, rfl⟩

theorem handsOver_receiveStep (h : HandsOver s.store)
    (hstep : receiveStep recording len (ptr, s) = .inl (ptr', s')) : HandsOver s'.store := by
  obtain ⟨hadmitted, -, hcase⟩ := receiveStep_eq_inl.mp hstep
  rcases hcase with ⟨-, hreturns⟩ | ⟨known, -, -, hcontrol, hreturns⟩
  · obtain rfl := Except.ok.inj hreturns
    intro handler packet hmem
    exact h handler packet (by simpa using hmem)
  · intro handler packet hmem
    have hstore : s'.store = s.store ++ [.handler known (packetAt s.receiveBuffer ptr)] := by
      rw [← Except.ok.inj hreturns]
      split_ifs <;> rfl
    rw [hstore, List.mem_append, List.mem_singleton, Delivery.handler.injEq] at hmem
    rcases hmem with hmem | ⟨-, rfl⟩
    · exact h handler packet hmem
    · exact exists_response_packetAt hadmitted.2.2 hcontrol

theorem handsOver_receive (h : HandsOver s.store) {read : Option (List UInt8)}
    (hreceive : receivePacketAndRunHandler recording read s = .ok t) : HandsOver t.store := by
  cases read with
  | none =>
    obtain rfl := Except.ok.inj hreceive
    exact h
  | some datagram =>
    let bytes := datagram.take receiveBufferSize
    have hread : HandsOver (s.read bytes).store := h
    obtain ⟨last, hvisits, hleave⟩ :=
      StepLoop.exists_leave_of_run (walk_eq_ok_iff.mp hreceive)
    let Holds (a : ℕ × NetlinkState H (List (Delivery H))) : Prop := HandsOver a.2.store
    have hpass (a b : ℕ × NetlinkState H (List (Delivery H)))
        (hstep : receiveStep recording bytes.length a = .inl b) (ha : Holds a) : Holds b :=
      @handsOver_receiveStep H a.2 b.2 bytes.length a.1 b.1 ha hstep
    have hlast : Holds last := hvisits.invariant hpass hread
    rw [store_of_leave hleave]
    exact hlast

theorem handsOver_responseLoop (h : HandsOver s.store) {sequence : ℕ} {time : ℤ}
    {polls rest : List Poll} {success : Bool}
    (hloop : responseLoop recording sequence time polls s = .ok (success, t, rest)) :
    HandsOver t.store := by
  induction polls generalizing s time with
  | nil =>
    rw [responseLoop] at hloop
    split_ifs at hloop <;> (obtain ⟨-, rfl, -⟩ := Except.ok.inj hloop; exact h)
  | cons poll polls ih =>
    cases poll with
    | timeout | error =>
      rw [responseLoop] at hloop
      split_ifs at hloop <;> (obtain ⟨-, rfl, -⟩ := Except.ok.inj hloop; exact h)
    | ready read elapsed =>
      rw [responseLoop] at hloop
      split_ifs at hloop
      · obtain ⟨-, rfl, -⟩ := Except.ok.inj hloop
        exact h
      · obtain ⟨next, hreceive, hlater⟩ := Runs.bind_eq_ok.mp hloop
        exact ih (handsOver_receive h hreceive) hlater
      · obtain ⟨-, rfl, -⟩ := Except.ok.inj hloop
        exact h

/-- Whatever arrives on the socket while a request waits, each packet that its handler is
called with is a response. -/
theorem handsOver_sendMessageAndGetResponses (h : HandsOver s.store) {sent success : Bool}
    {request : NL80211Packet} {handler : H} {polls rest : List Poll}
    (hsend : sendMessageAndGetResponses recording sent request handler polls s =
      .ok (success, t, rest)) : HandsOver t.store := by
  rw [sendMessageAndGetResponses] at hsend
  cases sent with
  | false =>
    obtain ⟨-, rfl, -⟩ := Except.ok.inj hsend
    exact h
  | true =>
    exact handsOver_responseLoop (s := { s with
      messageHandlers := s.messageHandlers.insert request.getMessageSequence handler }) h hsend

end HandsOver

inductive SyncCaller
  | getProtocolFeatures (header : RequestHeader)
  | getStationInfo (header : RequestHeader) (interfaceIndex : UInt32) (macAddress : MacAddress)
  | getCountryCode (header : RequestHeader)
  | sendMgmtFrame (header : RequestHeader) (interfaceIndex : UInt32) (frame : List UInt8)
  | getWiphyInfo (header : RequestHeader) (supportsSplitWiphyDump : Bool) (wiphyIndex : UInt32)
      (outs : WiphyInfo)
  | discoverFamilyId (sequence pid : UInt32) (handledBroadcast : Bool) (manager : FamilyManager)

namespace SyncCaller

open NetlinkUtils

def accesses (respond : Responses) : SyncCaller → List PacketAccess
  | getProtocolFeatures header => (NetlinkReads.getProtocolFeatures header respond).accesses
  | getStationInfo header interfaceIndex macAddress =>
    (NetlinkReads.getStationInfo header respond interfaceIndex macAddress).accesses
  | getCountryCode header => (NetlinkReads.getCountryCode header respond).accesses
  | sendMgmtFrame header interfaceIndex frame =>
    (NetlinkReads.sendMgmtFrame header respond interfaceIndex frame).accesses
  | getWiphyInfo header split wiphyIndex outs =>
    (NetlinkReads.getWiphyInfo header respond split wiphyIndex outs).accesses
  | discoverFamilyId sequence pid handledBroadcast manager =>
    (NetlinkReads.discoverFamilyId sequence pid respond handledBroadcast manager).accesses

/-- The call reads no byte outside a packet, and no length of an attribute area wraps. -/
def ReadsInside (respond : Responses) (caller : SyncCaller) : Prop :=
  ∀ a ∈ caller.accesses respond, a.Inside

/-- The packets that the call comes to are long enough for it: both headers, or no more than
the command where a station is asked for and the command is another. The packets of a wiphy
request are looked at up to the first that is not passed, and those of a split dump up to
the first that cannot be merged. -/
def LongEnough (respond : Responses) : SyncCaller → Prop
  | getProtocolFeatures header =>
    ∀ response, ReadsResponse respond (header.request cmdGetProtocolFeatures) response →
      response.HasHeaders
  | getStationInfo header interfaceIndex macAddress =>
    ∀ response, ReadsResponse respond (stationRequest header interfaceIndex macAddress) response →
      nlmsgHdrlen + 1 ≤ response.data.length ∧
        (response.getCommand = .ok cmdNewStation → response.HasHeaders)
  | getCountryCode header =>
    ∀ response, ReadsResponse respond (header.request cmdGetReg) response → response.HasHeaders
  | sendMgmtFrame header interfaceIndex frame =>
    ∀ response, ReadsResponse respond (mgmtFrameRequest header interfaceIndex frame) response →
      response.HasHeaders
  | getWiphyInfo header split wiphyIndex _ =>
    ∀ response, requestResponses respond (wiphyRequest header split wiphyIndex) 0
        nl80211CmdRetryCount [] = some response →
      ∀ before packet after, response = before ++ packet :: after →
        (if split then ∃ collected, collectAttributes ∅ before = .ok (some collected)
          else ∀ p ∈ before, Passed wiphyIndex p) → packet.HasHeaders
  | discoverFamilyId .. => True

/-- On every answer of the kernel, a call reads inside exactly when the packets it comes to are
long enough for it. -/
theorem readsInside_iff (answers : Answers) (caller : SyncCaller) :
    caller.ReadsInside answers.responses ↔ caller.LongEnough answers.responses := by
  cases caller with
  | getProtocolFeatures header =>
    show (NetlinkReads.getProtocolFeatures header _).All PacketAccess.Inside ↔ _
    rw [NetlinkReads.getProtocolFeatures]
    refine (NetlinkReads.caller_inside_iff ?_).trans ?_
    · exact Logged.all_pure _
    refine forall₂_congr fun response _ => ?_
    rw [Logged.all_bind_iff, NL80211Packet.readAttributeValue_inside_iff]
    exact and_iff_left fun _ _ => Logged.all_pure _
  | getStationInfo header interfaceIndex macAddress =>
    show (NetlinkReads.getStationInfo header _ interfaceIndex macAddress).All _ ↔ _
    rw [NetlinkReads.getStationInfo]
    refine (NetlinkReads.caller_inside_iff ?_).trans ?_
    · exact Logged.all_pure _
    exact forall₂_congr fun response _ => NetlinkReads.readStationInfo_inside_iff
  | getCountryCode header =>
    show (NetlinkReads.getCountryCode header _).All PacketAccess.Inside ↔ _
    rw [NetlinkReads.getCountryCode]
    refine (NetlinkReads.caller_inside_iff ?_).trans ?_
    · exact Logged.all_pure _
    exact forall₂_congr fun response _ => NL80211Packet.readAttributeValue_inside_iff _ _
  | sendMgmtFrame header interfaceIndex frame =>
    show (NetlinkReads.sendMgmtFrame header _ interfaceIndex frame).All PacketAccess.Inside ↔ _
    rw [NetlinkReads.sendMgmtFrame]
    refine (NetlinkReads.caller_inside_iff ?_).trans ?_
    · exact Logged.all_pure _
    refine forall₂_congr fun response _ => ?_
    rw [Logged.all_bind_iff, NL80211Packet.readAttributeValue_inside_iff]
    exact and_iff_left fun _ _ => Logged.all_pure _
  | getWiphyInfo header split wiphyIndex outs =>
    exact NetlinkReads.getWiphyInfo_inside_iff header answers.responses split outs
  | discoverFamilyId sequence pid handledBroadcast manager =>
    refine iff_of_true ?_ trivial
    show (NetlinkReads.discoverFamilyId sequence pid _ handledBroadcast manager).All _
    rw [NetlinkReads.discoverFamilyId]
    refine (NetlinkReads.caller_inside_iff ?_).mpr fun response hresponse => ?_
    · exact Logged.all_pure _
    have hvalid := NetlinkReads.isValid_of_answered hresponse.1 (List.mem_singleton_self response)
    exact (Logged.all_bind_iff _ _).mpr
      ⟨NetlinkReads.onNewFamily_inside hvalid _, fun _ _ => Logged.all_pure _⟩

/-- Sixteen bytes of type zero are handed over. `GetStationInfo` reads the command behind their
end, and the length that `GetCountryCode` computes wraps. -/
theorem short_response_read_outside :
    let header : RequestHeader := ⟨19, 5, 77⟩
    let short : List UInt8 := [16, 0, 0, 0, 0, 0, 0, 0, 5, 0, 0, 0, 0, 0, 0, 0]
    let request := header.request cmdGetReg
    (sendMessageAndGetResponses recording true request () [.ready (some short) 1]
        ⟨fun _ => 0, ∅, []⟩).map (fun result => result.2.1.store) =
        .ok [Delivery.handler () ⟨short⟩] ∧
      ∃ answers : Answers, answers.responses 0 request = (true, [⟨short⟩]) ∧
        ¬ (getStationInfo header 3 (.ofBytes [])).ReadsInside answers.responses ∧
        ¬ (getCountryCode header).ReadsInside answers.responses := by
  intro header short request
  let r : Response := ⟨⟨short⟩, by decide, by decide⟩
  refine ⟨by decide, fun _ _ => (true, [r]), rfl, fun h => ?_, fun h => ?_⟩
  · have hcommand := h (.bytes ⟨short⟩ 16 17) (by decide)
    exact absurd (hcommand (by decide)) (by decide)
  · have harea : NL80211Packet.HasHeaders ⟨short⟩ := h (.areaLength ⟨short⟩) (by decide)
    exact absurd harea (by decide)

end SyncCaller

end Wificond
