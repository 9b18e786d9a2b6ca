import Wificond.Acknowledgements
import Wificond.ClientMemory
import Wificond.FamilyDiscovery
import Wificond.ScanDump

/-!
# Signals that are polled

A poll answers with the signal and the rates that the kernel has for the station, and with the
frequency that the interface was told last: by a switch of the channel, or by the scan results
that it asks for when it associates. Both come from the kernel as attributes in datagrams.
-/
namespace Wificond

open NetlinkUtils ScanUtils

/-- What the kernel has for a station. -/
structure KernelStation where
  txPackets : Option Int32
  txFailed : Option Int32
  signal : Option Int8
  txBitrate : Option UInt32
  rxBitrate : Option UInt32

namespace KernelStation

/-- A rate that is missing counts as zero, anything else has to be there. -/
def info (station : KernelStation) : Option StationInfo := do
  let txPackets ← station.txPackets
  let txFailed ← station.txFailed
  let signal ← station.signal
  return ⟨txPackets, txFailed, station.txBitrate.getD 0, signal, station.rxBitrate.getD 0⟩

/-- There is no attribute for the rate, or one that has the rate or lacks it. -/
def HasRate (ts : List AttrTree) (id : ℕ) (rate : Option UInt32) : Prop :=
  ts.find? (·.id = id) = none ∧ rate = none ∨
    ∃ children, ts.find? (·.id = id) = some (.nested id children) ∧
      AttrTree.HasValue children rateInfoBitrate32 (.int .uint32)
        (rate.map fun v => (v.toNat : ℤ))

/-- The attributes of the station, among any others and in any order. -/
structure IsIn (station : KernelStation) (ts : List AttrTree) : Prop where
  txPackets : AttrTree.HasValue ts staInfoTxPackets (.int .int32)
    (station.txPackets.map Int32.toInt)
  txFailed : AttrTree.HasValue ts staInfoTxFailed (.int .int32) (station.txFailed.map Int32.toInt)
  signal : AttrTree.HasValue ts staInfoSignal (.int .int8) (station.signal.map Int8.toInt)
  txBitrate : HasRate ts staInfoTxBitrate station.txBitrate
  rxBitrate : HasRate ts staInfoRxBitrate station.rxBitrate

section Reads
variable {station : KernelStation} {ts : List AttrTree}
  (hwf : (AttrTree.nested attrStaInfo ts).WellFormed)
include hwf

theorem stationBitrate_of_hasRate {id : ℕ} {rate : Option UInt32} (h : HasRate ts id rate) :
    stationBitrate (AttrTree.nested attrStaInfo ts).attr id = .ok (rate.getD 0) := by
  have hget := (AttrTree.readsChildren hwf).finds.get_eq id
  rw [stationBitrate, hget]
  rcases h with ⟨hfind, rfl⟩ | ⟨children, hfind, hrate⟩
  · rw [hfind]
    rfl
  · have hchild : (AttrTree.nested id children).WellFormed := by
      cases hwf with
      | nested hchildren _ => exact hchildren _ (List.mem_of_find?_eq_some hfind)
    have hread := (AttrTree.readsChildren hchild).finds.getValue_of_hasValue hrate
    rw [hfind]
    show Except.bind (NL80211NestedAttr.getAttributeValue _ (ValueType.int .uint32).template _) _ =
      _
    rw [hread]
    cases rate with
    | none => rfl
    | some v => simp [Except.bind, pure, Except.pure, uint32_ofInt_toNat]

theorem readStationInfo_of_isIn (h : station.IsIn ts) {packet : NL80211Packet}
    (hcommand : packet.getCommand = .ok cmdNewStation)
    (hget : packet.getAttribute attrStaInfo = .ok (some (AttrTree.nested attrStaInfo ts).attr)) :
    readStationInfo packet = .ok station.info := by
  have hfinds := (AttrTree.readsChildren hwf).finds
  rw [readStationInfo, hcommand, hget]
  simp only [bind, Except.bind, ne_eq, not_true_eq_false, if_false]
  refine Runs.bind_eq_ok_of_map (hfinds.getValue_of_hasValue h.txPackets) rfl fun txPackets => ?_
  refine Runs.bind_eq_ok_of_map (hfinds.getValue_of_hasValue h.txFailed) rfl fun txFailed => ?_
  refine Runs.bind_eq_ok_of_map (hfinds.getValue_of_hasValue h.signal) rfl fun signal => ?_
  simp only [stationBitrate_of_hasRate hwf h.txBitrate, stationBitrate_of_hasRate hwf h.rxBitrate,
    pure, Except.pure, Int32.ofInt_toInt, Int8.ofInt_toInt]

end Reads

end KernelStation

/-- The kernel's answer to a query for a station. -/
structure DescribesStation (familyId : UInt16) (m : Message) (station : KernelStation) : Prop where
  type : m.type = familyId.toNat
  command : m.packet.getCommand = .ok cmdNewStation
  attributes : ∃ roots ts, m.packet.HasArea (AttrTree.area roots) ∧
    (∀ t ∈ roots, t.WellFormed) ∧
    roots.find? (·.id = attrStaInfo) = some (.nested attrStaInfo ts) ∧ station.IsIn ts

theorem sequence_stationRequest (header : RequestHeader) (interfaceIndex : UInt32)
    (macAddress : MacAddress) :
    (stationRequest header interfaceIndex macAddress).getMessageSequence =
      header.sequence.toNat :=
  (((NL80211Packet.HasSequence.request header cmdGetStation).addAttribute _).addAttribute _).2

/-- `GetStationInfo` on the socket. -/
def stationFrom {H : Type} (header : RequestHeader) (traffic : Traffic H) (interfaceIndex : UInt32)
    (macAddress : MacAddress) : Exec (Option StationInfo) := do
  let response ← FamilyManager.singleResponse
    (traffic.responses (stationRequest header interfaceIndex macAddress))
  getStationInfo header (fun _ => response) interfaceIndex macAddress

theorem stationFrom_of_brings {H : Type} {header : RequestHeader} {traffic : Traffic H}
    {interfaceIndex : UInt32} {macAddress : MacAddress} {m : Message} {station : KernelStation}
    (hfamily : nlmsgMinType ≤ header.familyId.toNat)
    (hbrings : traffic.Brings (stationRequest header interfaceIndex macAddress) [] m)
    (h : DescribesStation header.familyId m station) :
    stationFrom header traffic interfaceIndex macAddress = .ok station.info := by
  obtain ⟨roots, ts, harea, hroots, hsta, hin⟩ := h.attributes
  have hget := (harea.findsFirst hroots).get_eq attrStaInfo
  rw [hsta] at hget
  have hread := KernelStation.readStationInfo_of_isIn
    (hroots _ (List.mem_of_find?_eq_some hsta)) hin h.command hget
  have htype : m.packet.getMessageType = header.familyId.toNat := h.type
  have hcontrol : ¬ IsControl m.type := by
    have hfamilyType := h.type
    unfold IsControl nlmsgDone nlmsgNoop nlmsgOverrun
    unfold nlmsgMinType at hfamily
    omega
  have herror : ¬ m.packet.getMessageType = nlmsgError := by
    unfold nlmsgError
    unfold nlmsgMinType at hfamily
    omega
  have hresponses := hbrings.responses_eq
  rw [lastPart, if_neg hcontrol, List.map_nil, List.nil_append] at hresponses
  rw [stationFrom, hresponses, FamilyManager.singleResponse, if_neg herror]
  exact hread

namespace ClientCall

def event? : ClientCall → Option MlmeEvent
  | mlmeEvent _ event _ => some event
  | _ => none

/-- The frequency that a call assigns. -/
def toldFrequency : ClientCall → Option UInt32
  | mlmeEvent _ event scanResults =>
    if event.Succeeds then associatedFrequency scanResults else none
  | channelSwitch frequency => if frequency = 0 then none else some frequency
  | _ => none

end ClientCall

/-- The event that came last. -/
def latestOutcome (calls : List ClientCall) : Option MlmeEvent :=
  calls.reverse.findSome? ClientCall.event?

/-- The fields of the association after these calls. -/
structure Association.Reflects (calls : List ClientCall) (memory : Memory) (a : Association) :
    Prop where
  isAssociated_iff : a.isAssociated = true ↔ ∃ event, latestOutcome calls = some event ∧
    event.Succeeds
  bssid_eq : ∀ event, latestOutcome calls = some event → event.Succeeds →
    a.bssid = event.getBSSID
  associateFreq_eq : a.associateFreq =
    (calls.reverse.findSome? ClientCall.toldFrequency).getD memory.associateFreq

theorem SingleScanner.interfaceIndex_of_scanRequest {scanner : SingleScanner}
    {header : RequestHeader} {ack : AckOrError} {associated : Bool} {settings : SingleScanSettings}
    {result : ScanStatus × SingleScanner}
    (h : scanner.scanRequest header ack associated settings = some result) :
    result.2.interfaceIndex = scanner.interfaceIndex := by
  by_cases hvalid : scanner.valid = true
  · rw [scanRequest_eq ack hvalid] at h
    obtain ⟨packet, -, hfinish⟩ := Option.bind_eq_some_iff.mp h
    unfold finishScan at hfinish
    dsimp only at hfinish
    split_ifs at hfinish <;> cases hfinish <;> rfl
  · rw [scanRequest, if_pos (by simpa using hvalid)] at h
    cases h
    rfl

namespace ScanClient
variable {client client' : ScanClient} {call : ClientCall}

theorem interfaceIndex_of_finishPnoScan {packet : NL80211Packet} {result : Bool × ℤ}
    (h : (client.finishPnoScan packet result).2 = some client') :
    client'.scanner.interfaceIndex = client.scanner.interfaceIndex := by
  unfold finishPnoScan at h
  dsimp only at h
  split_ifs at h <;> cases h <;> rfl

/-- No call changes the index, and only an event or a switch changes the association. -/
theorem keeps_of_react (h : (client.react call).2 = some client') :
    client'.scanner.interfaceIndex = client.scanner.interfaceIndex ∧
      client'.association = match call with
        | .mlmeEvent _ event scanResults => client.association.onEvent scanResults event
        | .channelSwitch frequency =>
          if frequency = 0 then client.association
          else { client.association with associateFreq := frequency }
        | _ => client.association := by
  cases call with
  | scanRequest header ack settings =>
    obtain ⟨result, hresult, rfl⟩ := Option.map_eq_some_iff.mp h
    exact ⟨SingleScanner.interfaceIndex_of_scanRequest hresult, rfl⟩
  | startPnoScan header ack settings =>
    have hstart : (client.startPnoScan header ack settings).2 = some client' := h
    rw [startPnoScan] at hstart
    split_ifs at hstart with hvalid
    · cases hstart
      exact ⟨rfl, rfl⟩
    · exact ⟨interfaceIndex_of_finishPnoScan hstart, (keeps_of_finishPnoScan hstart).2⟩
  | getMaxSsidsPerScan =>
    cases h
    exact ⟨rfl, rfl⟩
  | signalPoll header station =>
    cases h
    exact ⟨rfl, rfl⟩
  | mlmeEvent header event scanResults =>
    cases h
    exact ⟨rfl, rfl⟩
  | channelSwitch frequency =>
    cases h
    unfold onChannelSwitchEvent
    dsimp only
    split_ifs
    · exact ⟨rfl, rfl⟩
    · exact ⟨rfl, rfl⟩

end ScanClient

section History
variable {calls : List ClientCall} {call : ClientCall} {memory : Memory}
  {client client' : ScanClient}

theorem latestOutcome_append :
    latestOutcome (calls ++ [call]) = call.event?.or (latestOutcome calls) := by
  rw [latestOutcome, List.reverse_append, List.reverse_singleton, List.singleton_append,
    List.findSome?_cons]
  cases call.event? <;> rfl

theorem toldFrequency_append (frequency : UInt32) :
    ((calls ++ [call]).reverse.findSome? ClientCall.toldFrequency).getD frequency =
      call.toldFrequency.getD
        ((calls.reverse.findSome? ClientCall.toldFrequency).getD frequency) := by
  rw [List.reverse_append, List.reverse_singleton, List.singleton_append, List.findSome?_cons]
  cases call.toldFrequency <;> rfl

/-- Without an event, only the frequency may change. -/
theorem Association.Reflects.of_not_event {a a' : Association} (h : a.Reflects calls memory)
    (hevent : call.event? = none) (hassociated : a'.isAssociated = a.isAssociated)
    (hbssid : a'.bssid = a.bssid)
    (hfreq : a'.associateFreq = call.toldFrequency.getD a.associateFreq) :
    a'.Reflects (calls ++ [call]) memory := by
  have hlatest : latestOutcome (calls ++ [call]) = latestOutcome calls := by
    rw [latestOutcome_append, hevent, Option.none_or]
  constructor
  · rw [hlatest, hassociated]
    exact h.isAssociated_iff
  · rw [hlatest, hbssid]
    exact h.bssid_eq
  · rw [toldFrequency_append, hfreq, h.associateFreq_eq]

theorem Association.Reflects.react (h : client.association.Reflects calls memory)
    (hreact : (client.react call).2 = some client') :
    client'.association.Reflects (calls ++ [call]) memory := by
  have hassociation := (ScanClient.keeps_of_react hreact).2
  cases call with
  | mlmeEvent header event scanResults =>
    have hlatest : latestOutcome (calls ++ [.mlmeEvent header event scanResults]) = some event := by
      rw [latestOutcome_append]
      rfl
    simp only [Association.onEvent_eq] at hassociation
    constructor
    · rw [hlatest, hassociation]
      by_cases hs : event.Succeeds
      · simp [hs, Association.isAssociated_associate]
      · simp [hs, Association.dissociate]
    · intro latest hevent hs
      obtain rfl := Option.some.inj (hlatest.symm.trans hevent)
      rw [hassociation, if_pos hs, Association.bssid_associate]
    · rw [toldFrequency_append, ← h.associateFreq_eq, hassociation, ClientCall.toldFrequency]
      by_cases hs : event.Succeeds
      · simp [hs, Association.associate, Association.refreshAssociateFreq_eq]
      · simp [hs, Association.dissociate]
  | channelSwitch frequency =>
    simp only at hassociation
    rw [hassociation]
    by_cases hzero : frequency = 0
    · exact h.of_not_event rfl (by simp [hzero]) (by simp [hzero])
        (by simp [hzero, ClientCall.toldFrequency])
    · exact h.of_not_event rfl (by simp [hzero]) (by simp [hzero])
        (by simp [hzero, ClientCall.toldFrequency])
  | _ =>
    simp only at hassociation
    rw [hassociation]
    exact h.of_not_event rfl rfl rfl rfl

/-- In every run the fields are as the calls made them. -/
theorem reflects_foldl (c : Construction) (memory : Memory) (calls : List ClientCall) :
    ∀ client, calls.foldl ScanClient.step (ScanClient.start c memory) = some client →
      client.scanner.interfaceIndex = c.interfaceIndex ∧
        client.association.Reflects calls memory := by
  induction calls using List.reverseRecOn with
  | nil =>
    intro client hstart
    have hconstruct : (ScanClient.construct c memory).toOption = some client := hstart
    unfold ScanClient.construct at hconstruct
    cases hinfo : getWiphyInfo c.header c.respond c.supportsSplitWiphyDump c.wiphyIndex
      memory.outs with
    | error fault => simp [hinfo, bind, Except.bind, Except.toOption] at hconstruct
    | ok info =>
      rw [hinfo] at hconstruct
      cases hconstruct
      exact ⟨rfl, ⟨by simp [latestOutcome, Association.construct], by simp [latestOutcome], rfl⟩⟩
  | append_singleton calls call ih =>
    intro client hrun
    rw [List.foldl_concat] at hrun
    obtain ⟨before, hbefore, hreact⟩ := Option.bind_eq_some_iff.mp hrun
    obtain ⟨hindex, hreflects⟩ := ih before hbefore
    exact ⟨(ScanClient.keeps_of_react hreact).1.trans hindex, hreflects.react hreact⟩

end History

/-- The scan results of a dump, as `RefreshAssociateFreq` goes through them. -/
def scanResultsFrom {H : Type} (header : RequestHeader) (traffic : Traffic H)
    (interfaceIndex : UInt32) (declared : ℕ → NativeScanResult) :
    Exec (Option (List (Bool × UInt32))) := do
  let (success, results) ← getScanResult header traffic.responses interfaceIndex declared []
  return if success then some (results.map fun result => (result.associated, result.frequency))
    else none

/-- The frequency of the last BSS of a dump that the interface is associated with. -/
def associatedChannel (interfaceIndex : UInt32) (entries : List (Option UInt32 × ScannedBss)) :
    Option UInt32 :=
  (((entries.filterMap (scanResultFor interfaceIndex)).filter (·.associated)).getLast?).map
    (·.frequency)

/-- What comes of the request for a dump: the entries, or none where it fails. -/
inductive Dumps {H : Type} (header : RequestHeader) (traffic : Traffic H)
    (interfaceIndex : UInt32) : Option (List (Option UInt32 × ScannedBss)) → Prop
  | arrives {entries : List (Option UInt32 × ScannedBss)} {parts : List Message} {done : Message}
      (hfamily : nlmsgMinType ≤ header.familyId.toNat)
      (hdescribe : List.Forall₂ (DescribesBss header.familyId) parts entries)
      (hdone : done.type = nlmsgDone)
      (hbrings : traffic.Brings (scanResultRequest header interfaceIndex) parts done) :
      Dumps header traffic interfaceIndex (some entries)
  | fails {packets : List NL80211Packet}
      (h : traffic.call (scanResultRequest header interfaceIndex) = .ok (false, packets)) :
      Dumps header traffic interfaceIndex none

/-- What a call tells of the frequency, if its scan results are those of a dump. -/
def TellsFrequency (H : Type) (interfaceIndex : UInt32) (told : Option UInt32) : ClientCall → Prop
  | .mlmeEvent header event scanResults =>
    if event.Succeeds then ∃ (traffic : Traffic H) (declared : ℕ → NativeScanResult)
      (entries : Option (List (Option UInt32 × ScannedBss))),
      scanResultsFrom header traffic interfaceIndex declared = .ok scanResults ∧
      Dumps header traffic interfaceIndex entries ∧
      told = entries.bind (associatedChannel interfaceIndex)
    else told = none
  | .channelSwitch frequency => told = if frequency = 0 then none else some frequency
  | _ => told = none

/-- `SignalPoll` on the socket, which is asked only where the interface is associated. -/
def ScanClient.signalPollFrom {H : Type} (header : RequestHeader) (traffic : Traffic H)
    (client : ScanClient) : Exec (Option Returned) := do
  let station ←
    if client.association.isAssociated then
      stationFrom header traffic client.scanner.interfaceIndex client.association.bssid
    else pure none
  return (client.signalPoll header fun _ => station).returned

/-- The rates in Mbps. -/
def KernelStation.polled (station : KernelStation) (frequency : UInt32) : List Int32 :=
  match station.info with
  | none => []
  | some info => [info.currentRssi.toInt32, (info.stationTxBitrate / 10).toInt32,
      frequency.toInt32, (info.stationRxBitrate / 10).toInt32]

/-- The answer to a poll: that of the station of the last event, if this was a success. -/
def polledSignal (stations : MacAddress → KernelStation) (frequency : UInt32) :
    Option MlmeEvent → List Int32
  | none => []
  | some event => if event.Succeeds then (stations event.getBSSID).polled frequency else []

section Polls
variable {H : Type} {header : RequestHeader} {interfaceIndex : UInt32} {call : ClientCall}
  {calls : List ClientCall}

theorem Dumps.associatedFrequency_eq {traffic : Traffic H}
    {entries : Option (List (Option UInt32 × ScannedBss))} {declared : ℕ → NativeScanResult}
    {scanResults : Option (List (Bool × UInt32))}
    (h : Dumps header traffic interfaceIndex entries)
    (hresults : scanResultsFrom header traffic interfaceIndex declared = .ok scanResults) :
    associatedFrequency scanResults = entries.bind (associatedChannel interfaceIndex) := by
  cases h with
  | arrives hfamily hdescribe hdone hbrings =>
    rw [scanResultsFrom, getScanResult_of_describes hfamily hdescribe
      (hbrings.responses_of_done hdone)] at hresults
    obtain rfl := Except.ok.inj hresults
    show ((List.filter Prod.fst (List.map _ ([] ++ _))).getLast?).map Prod.snd =
      associatedChannel interfaceIndex _
    rw [List.nil_append, List.filter_map, List.getLast?_map, Option.map_map]
    rfl
  | fails hfails =>
    have hnone : traffic.responses (scanResultRequest header interfaceIndex) = none := by
      rw [Traffic.responses, Traffic.answer, hfails]
      rfl
    rw [scanResultsFrom, getScanResult, hnone] at hresults
    obtain rfl := Except.ok.inj hresults
    rfl

theorem TellsFrequency.toldFrequency_eq {told : Option UInt32}
    (h : TellsFrequency H interfaceIndex told call) : call.toldFrequency = told := by
  cases call with
  | mlmeEvent header event scanResults =>
    rw [ClientCall.toldFrequency]
    by_cases hs : event.Succeeds
    · rw [TellsFrequency, if_pos hs] at h
      obtain ⟨traffic, declared, entries, hresults, hdumps, rfl⟩ := h
      rw [if_pos hs]
      exact hdumps.associatedFrequency_eq hresults
    · rw [TellsFrequency, if_neg hs] at h
      rw [if_neg hs, h]
  | channelSwitch frequency => exact h.symm
  | _ => exact h.symm

/-- What was told last is the last of what the calls tell. -/
theorem findSome?_toldFrequency {told : List (Option UInt32)}
    (h : List.Forall₂ (fun call frequency => TellsFrequency H interfaceIndex frequency call)
      calls told) :
    calls.reverse.findSome? ClientCall.toldFrequency = told.reverse.findSome? id := by
  have hmap : calls.map ClientCall.toldFrequency = told := by
    rw [← List.forall₂_eq_eq_eq, List.forall₂_map_left_iff]
    exact h.imp fun call frequency htells => htells.toldFrequency_eq
  rw [← hmap, ← List.map_reverse, List.findSome?_map]
  rfl

/-- In every run, a poll gives what the kernel has for the station of the last association and
the frequency that the run was told last, by a switch or by the dump after an association; it
gives nothing while the interface is not associated. -/
theorem signal_poll_reports (c : Construction) (memory : Memory) {told : List (Option UInt32)}
    {client : ScanClient} {traffic : Traffic H} {stations : MacAddress → KernelStation}
    (hrun : calls.foldl ScanClient.step (ScanClient.start c memory) = some client)
    (htold : List.Forall₂ (fun call frequency => TellsFrequency H c.interfaceIndex frequency call)
      calls told)
    (hfamily : nlmsgMinType ≤ header.familyId.toNat)
    (hstations : ∀ mac, ∃ m, DescribesStation header.familyId m (stations mac) ∧
      traffic.Brings (stationRequest header c.interfaceIndex mac) [] m) :
    client.signalPollFrom header traffic = .ok (some (.signalPoll (polledSignal stations
      ((told.reverse.findSome? id).getD memory.associateFreq) (latestOutcome calls)))) := by
  obtain ⟨hindex, hreflects⟩ := reflects_foldl c memory calls client hrun
  have hfreq := hreflects.associateFreq_eq
  rw [findSome?_toldFrequency htold] at hfreq
  rw [ScanClient.signalPollFrom, hindex]
  by_cases hassociated : client.association.isAssociated = true
  · obtain ⟨event, hlatest, hs⟩ := hreflects.isAssociated_iff.mp hassociated
    have hbssid := hreflects.bssid_eq event hlatest hs
    obtain ⟨m, hdescribes, hbrings⟩ := hstations event.getBSSID
    have hstation := stationFrom_of_brings hfamily hbrings hdescribes
    rw [if_pos hassociated, hbssid, hstation, hlatest, polledSignal, if_pos hs]
    have hanswer : client.association.signalPoll (fun _ => (stations event.getBSSID).info) =
        ⟨some event.getBSSID, (stations event.getBSSID).polled
          ((told.reverse.findSome? id).getD memory.associateFreq)⟩ := by
      rw [Association.signalPoll, if_neg (by simp [hassociated]), hbssid, hfreq]
      rfl
    show Except.ok _ = Except.ok _
    rw [ScanClient.signalPoll, hanswer]
  · have hnone : polledSignal stations ((told.reverse.findSome? id).getD memory.associateFreq)
        (latestOutcome calls) = [] := by
      cases hlatest : latestOutcome calls with
      | none => rfl
      | some event =>
        have hfails : ¬ event.Succeeds :=
          fun hs => hassociated (hreflects.isAssociated_iff.mpr ⟨event, hlatest, hs⟩)
        rw [polledSignal, if_neg hfails]
    rw [if_neg hassociated, hnone]
    simp [ScanClient.signalPoll, Association.signalPoll, hassociated, bind, Except.bind, pure,
      Except.pure]

end Polls

/-- An association whose dump is empty, a switch to 5180 MHz, and a poll. -/
theorem signal_poll_reports_switched :
    let header : RequestHeader := ⟨28, 5, 0⟩
    let station : Message := ⟨⟨[72, 0, 0, 0, 28, 0, 0, 0, 5, 0, 0, 0, 0, 0, 0, 0, 19, 1, 0, 0,
      52, 0, 21, 0, 8, 0, 10, 0, 7, 0, 0, 0, 8, 0, 12, 0, 1, 0, 0, 0, 5, 0, 7, 0, 214, 0, 0, 0,
      12, 0, 8, 0, 8, 0, 5, 0, 44, 1, 0, 0, 12, 0, 14, 0, 8, 0, 5, 0, 240, 0, 0, 0]⟩,
      by decide, by decide⟩
    let c : Construction := ⟨header, fun _ _ => (false, []), false, 0, 3⟩
    let peer : MacAddress := #v[2, 0, 0, 0, 0, 1]
    let calls := [.mlmeEvent header (.connect (some peer) 0 false) (some []), .channelSwitch 5180]
    let traffic : Traffic Unit := ⟨(), fun _ => [.datagram [station] 4], ⟨fun _ => 0, ∅, []⟩⟩
    (calls.foldl ScanClient.step (ScanClient.start c .zero)).map
        (fun client => client.signalPollFrom header traffic) =
      some (.ok (some (.signalPoll [-42, 30, 5180, 24]))) := by
  intro header station c peer calls traffic
  obtain ⟨client, hrun⟩ : ∃ client,
      calls.foldl ScanClient.step (ScanClient.start c .zero) = some client := ⟨_, rfl⟩
  let done : Message := ⟨⟨[20, 0, 0, 0, 3, 0, 2, 0, 5, 0, 0, 0, 0, 0, 0, 0, 0, 0, 0, 0]⟩,
    by decide, by decide⟩
  let dump : Traffic Unit := ⟨(), fun _ => [.datagram [done] 4], ⟨fun _ => 0, ∅, []⟩⟩
  have hdump : dump.Brings (scanResultRequest header 3) [] done := by
    have hsequence : (scanResultRequest header 3).getMessageSequence = 5 := by decide
    have hdoneSequence : done.sequence = 5 := by decide
    refine ⟨[.datagram [done] 4], [], rfl, ?_⟩
    rw [hsequence]
    refine ⟨by decide, by simp, ⟨by decide, .inl (by decide)⟩, ?_, ?_,
      ⟨3996, by decide, by decide⟩, by decide⟩
    · simp [messagesOf, Arrival.messages, hdoneSequence]
    · simp [messagesOf, Arrival.messages, hdoneSequence]
  have htold : List.Forall₂ (fun call frequency => TellsFrequency Unit c.interfaceIndex frequency
      call) calls [none, some 5180] := by
    refine .cons ?_ (.cons rfl .nil)
    rw [TellsFrequency, if_pos (by decide)]
    refine ⟨dump, fun _ => ⟨[], peer, [], 0, 0, 0, 0, false, []⟩, some [], ?_,
      .arrives (by decide) .nil (by decide) hdump, rfl⟩
    rw [scanResultsFrom, getScanResult_of_describes (by decide) .nil
      (hdump.responses_of_done (by decide))]
    rfl
  have hdescribes : DescribesStation header.familyId station ⟨some 7, some 1, some (-42), some 300,
      some 240⟩ := by
    let ts : List AttrTree := [.leaf 10 (.int .int32) 7, .leaf 12 (.int .int32) 1,
      .leaf 7 (.int .int8) (-42), .nested 8 [.leaf 5 (.int .uint32) 300],
      .nested 14 [.leaf 5 (.int .uint32) 240]]
    refine ⟨by decide, by decide, [.nested 21 ts], ts, ?_, ?_, rfl, rfl, rfl, rfl,
      .inr ⟨_, rfl, rfl⟩, .inr ⟨_, rfl, rfl⟩⟩
    · exact ⟨station.packet.data.take 20, by decide, by decide⟩
    · apply AttrTree.allWellFormed_of_fits
      · simp only [ts, AttrTree.AllFit, AttrTree.FitsDeep, and_true]
        decide
      · simp only [ts, AttrTree.AllHold, AttrTree.HoldsDeep, and_true]
        decide
  have harrives : Arrives 5 maximumNetlinkMessageWait [] station [.datagram [station] 4] := by
    have hsequence : station.sequence = 5 := by decide
    refine ⟨by decide, by simp, ⟨hsequence, .inr (by decide)⟩, ?_, ?_,
      ⟨3996, by decide, by decide⟩, by decide⟩
    · simp [messagesOf, Arrival.messages, hsequence]
    · simp [messagesOf, Arrival.messages, hsequence]
  have hstations (mac : MacAddress) : ∃ m, DescribesStation header.familyId m ⟨some 7, some 1,
      some (-42), some 300, some 240⟩ ∧
      traffic.Brings (stationRequest header c.interfaceIndex mac) [] m := by
    refine ⟨station, hdescribes, [.datagram [station] 4], [], rfl, ?_⟩
    rw [sequence_stationRequest]
    exact harrives
  have hpoll : client.signalPollFrom header traffic = _ :=
    signal_poll_reports c .zero hrun htold (by decide) hstations
  rw [hrun, Option.map_some, hpoll]
  decide

end Wificond
