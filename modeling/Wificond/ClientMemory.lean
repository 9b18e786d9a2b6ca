import Wificond.MlmeEvents
import Wificond.PnoRequests
import Wificond.WiphyAssignments

/-!
# Fields that no constructor initializes

The scan capabilities, one of the wiphy features, and the address and frequency of the
association hold what was in memory when a client interface is constructed. A call that reads
one of them before it has been assigned is answered by what was there.
-/
namespace Wificond

open NetlinkUtils PaddedTlv ScanUtils

/-- What these fields hold. -/
structure Memory where
  scanCapabilities : ScanCapabilities
  supportsExtSchedScanRelativeRssi : Bool
  bssid : MacAddress
  associateFreq : UInt32

def Memory.zero : Memory := ⟨⟨0, 0, 0, 0, 0, 0⟩, false, zeroMac, 0⟩

/-- The outputs that `GetWiphyInfo` is called with. The default constructor of `WiphyFeatures`
initializes all fields but one, that of `ScanCapabilities` none. -/
def Memory.outs (memory : Memory) : WiphyInfo where
  bandInfo := .construct
  scanCapabilities := memory.scanCapabilities
  wiphyFeatures :=
    ⟨false, false, false, false, false, false, memory.supportsExtSchedScanRelativeRssi⟩

/-- A client interface and its scanner: the fields that requests and answers are made of. -/
structure ScanClient where
  scanner : SingleScanner
  pnoScanStarted : Bool
  bandInfo : WiphyBandInfo
  association : Association

/-- The indices that a client interface is constructed with, and what comes of its request for
the wiphy. -/
structure Construction where
  header : RequestHeader
  respond : Responses
  supportsSplitWiphyDump : Bool
  wiphyIndex : UInt32
  interfaceIndex : UInt32

/-- What a call returns. -/
inductive Returned
  | status (status : ScanStatus)
  | success (success : Bool)
  | maxSsidsPerScan (count : Int32)
  | signalPoll (results : List Int32)
  | done
  deriving DecidableEq

/-- The requests that a call sends, and what it returns, unless the process is aborted. -/
structure Reaction where
  requests : List NL80211Packet
  returned : Option Returned

/-- A call of the scanner or of the client interface, or an event for it, with what the kernel
answers to each request. -/
inductive ClientCall
  | scanRequest (header : RequestHeader) (ack : AckOrError) (settings : SingleScanSettings)
  | startPnoScan (header : RequestHeader) (ack : AckOrError) (settings : PnoSettings)
  | getMaxSsidsPerScan
  | signalPoll (header : RequestHeader) (station : MacAddress → Option StationInfo)
  | mlmeEvent (header : RequestHeader) (event : MlmeEvent)
    (scanResults : Option (List (Bool × UInt32)))
  | channelSwitch (frequency : UInt32)

namespace ScanClient

/-- Copies of the capabilities and features go to the scanner, whether or not `GetWiphyInfo`
succeeded. -/
def construct (c : Construction) (memory : Memory) : Exec ScanClient := do
  let (_, info) ←
    getWiphyInfo c.header c.respond c.supportsSplitWiphyDump c.wiphyIndex memory.outs
  return {
    scanner := ⟨true, false, 0, c.interfaceIndex, info.scanCapabilities, info.wiphyFeatures⟩
    pnoScanStarted := false
    bandInfo := info.bandInfo
    association := .construct memory.bssid memory.associateFreq }

def scanRequest (header : RequestHeader) (ack : AckOrError) (settings : SingleScanSettings)
    (client : ScanClient) : Reaction × Option ScanClient :=
  let packet := client.scanner.requestPacket header client.association.isAssociated settings
  let result := client.scanner.scanRequest header ack client.association.isAssociated settings
  (⟨if client.scanner.valid then packet.toList else [], result.map fun r => .status r.1⟩,
    result.map fun r => { client with scanner := r.2 })

/-- The request of `StartPnoScanDefault`. -/
def pnoPacket (header : RequestHeader) (settings : PnoSettings) (client : ScanClient) :
    NL80211Packet :=
  schedScanRequest header client.scanner.interfaceIndex
    (pnoScanArguments client.scanner.scanCapabilities client.scanner.wiphyFeatures
      client.association.isAssociated client.bandInfo.toBandInfo settings)

/-- The end of `StartPnoScanDefault`, with the result of `StartScheduledScan`. -/
def finishPnoScan (packet : NL80211Packet) (result : Bool × ℤ) (client : ScanClient) :
    Reaction × Option ScanClient :=
  if result.1 then
    (⟨[packet], some (.success true)⟩,
      some { client with
        scanner := { client.scanner with nodevCounter := 0 }
        pnoScanStarted := true })
  else
    let scanner :=
      if result.2 = enodev then
        { client.scanner with nodevCounter := client.scanner.nodevCounter + 1 }
      else client.scanner
    if result.2 ≠ enodev ∨ scanner.nodevCounter ≤ 3 then
      (⟨[packet], some (.success false)⟩, some { client with scanner := scanner })
    else (⟨[packet], none⟩, none)

def startPnoScan (header : RequestHeader) (ack : AckOrError) (settings : PnoSettings)
    (client : ScanClient) : Reaction × Option ScanClient :=
  if !client.scanner.valid then (⟨[], some (.success false)⟩, some client)
  else
    let packet := client.pnoPacket header settings
    client.finishPnoScan packet (scanResult (ack packet))

def getMaxSsidsPerScan (client : ScanClient) : Int32 :=
  if !client.scanner.valid then 0
  else .ofNat client.scanner.scanCapabilities.maxNumScanSsids.toNat

def signalPoll (header : RequestHeader) (station : MacAddress → Option StationInfo)
    (client : ScanClient) : Reaction :=
  let answer := client.association.signalPoll station
  ⟨answer.sent.toList.map (stationRequest header client.scanner.interfaceIndex),
    some (.signalPoll answer.result)⟩

/-- Scan results are asked for where the event is a success. -/
def onMlmeEvent (header : RequestHeader) (event : MlmeEvent)
    (scanResults : Option (List (Bool × UInt32))) (client : ScanClient) : Reaction × ScanClient :=
  (⟨if event.Succeeds then [scanResultRequest header client.scanner.interfaceIndex] else [],
      some .done⟩,
    { client with association := client.association.onEvent scanResults event })

def onChannelSwitchEvent (frequency : UInt32) (client : ScanClient) : Bool × ScanClient :=
  if frequency = 0 then (false, client)
  else (true, { client with
    association := { client.association with associateFreq := frequency } })

/-- What a call sends and returns, and the objects behind it, unless the process is aborted. -/
def react (client : ScanClient) : ClientCall → Reaction × Option ScanClient
  | .scanRequest header ack settings => client.scanRequest header ack settings
  | .startPnoScan header ack settings => client.startPnoScan header ack settings
  | .getMaxSsidsPerScan =>
    (⟨[], some (.maxSsidsPerScan client.getMaxSsidsPerScan)⟩, some client)
  | .signalPoll header station => (client.signalPoll header station, some client)
  | .mlmeEvent header event scanResults =>
    let result := client.onMlmeEvent header event scanResults
    (result.1, some result.2)
  | .channelSwitch frequency =>
    let result := client.onChannelSwitchEvent frequency
    (⟨[], some (.success result.1)⟩, some result.2)

/-- There are no objects if the constructor reads out of bounds, or the process is aborted. -/
def start (c : Construction) (memory : Memory) : Option ScanClient := (construct c memory).toOption

def step (client? : Option ScanClient) (call : ClientCall) : Option ScanClient :=
  client?.bind fun client => (client.react call).2

end ScanClient

namespace SingleScanner
variable {memory memory' : Memory} {scanner scanner' : SingleScanner} {header : RequestHeader}
  {associated : Bool} {settings : SingleScanSettings} {status : ScanStatus}

def withMemory (memory : Memory) (scanner : SingleScanner) : SingleScanner :=
  { scanner with
    scanCapabilities := memory.scanCapabilities
    wiphyFeatures := { scanner.wiphyFeatures with
      supportsExtSchedScanRelativeRssi := memory.supportsExtSchedScanRelativeRssi } }

/-- The end of `scanRequest`, behind the answer to its request. -/
def finishScan (result : Bool × ℤ) (scanner : SingleScanner) :
    Option (ScanStatus × SingleScanner) :=
  if result.1 then some (.success, { scanner with nodevCounter := 0, scanStarted := true })
  else
    let scanner :=
      if result.2 = enodev then { scanner with nodevCounter := scanner.nodevCounter + 1 }
      else scanner
    if result.2 ≠ enodev ∨ scanner.nodevCounter ≤ 3 then
      some (convertStdErrNumToScanStatus result.2, scanner)
    else none

theorem scanRequest_eq (ack : AckOrError) (hvalid : scanner.valid = true) :
    scanner.scanRequest header ack associated settings =
      (scanner.requestPacket header associated settings).bind fun packet =>
        scanner.finishScan (scanResult (ack packet)) := by
  have hnot : ¬ (!scanner.valid) = true := by simp [hvalid]
  rw [scanRequest, if_neg hnot]
  rfl

end SingleScanner

namespace ScanClient
variable {memory memory' : Memory} {client client' : ScanClient} {header : RequestHeader}

def withMemory (memory : Memory) (client : ScanClient) : ScanClient :=
  { client with
    scanner := client.scanner.withMemory memory
    association := { client.association with
      bssid := memory.bssid
      associateFreq := memory.associateFreq } }

theorem keeps_of_finishPnoScan {packet : NL80211Packet} {result : Bool × ℤ}
    (h : (client.finishPnoScan packet result).2 = some client') :
    client'.scanner.valid = client.scanner.valid ∧ client'.association = client.association := by
  unfold finishPnoScan at h
  dsimp only at h
  split_ifs at h <;> cases h <;> exact ⟨rfl, rfl⟩

end ScanClient

/-- The frequency that is taken from scan results, which is that of the last one of the access
point. -/
def associatedFrequency (scanResults : Option (List (Bool × UInt32))) : Option UInt32 :=
  (((scanResults.getD []).filter Prod.fst).getLast?).map Prod.snd

theorem Association.refreshAssociateFreq_eq (scanResults : Option (List (Bool × UInt32)))
    (a : Association) : a.refreshAssociateFreq scanResults =
      { a with associateFreq := (associatedFrequency scanResults).getD a.associateFreq } := by
  rw [Association.refreshAssociateFreq, associatedFrequency]
  induction scanResults.getD [] using List.reverseRecOn with
  | nil => rfl
  | append_singleton results result ih =>
    rw [List.foldl_append, ih]
    cases hfound : result.1 <;> simp [List.filter_append, hfound]

/-- What memory holds behind a call. -/
def Memory.after (call : ClientCall) (memory : Memory) : Memory :=
  match call with
  | .mlmeEvent _ event scanResults =>
    if event.Succeeds then
      { memory with
        bssid := event.getBSSID
        associateFreq := (associatedFrequency scanResults).getD memory.associateFreq }
    else { memory with bssid := zeroMac }
  | .channelSwitch frequency =>
    if frequency = 0 then memory else { memory with associateFreq := frequency }
  | _ => memory

namespace Memory
variable (call : ClientCall) (memory : Memory)

variable {call}

end Memory

namespace ScanClient
variable {memory memory' : Memory} {client client' : ScanClient} {header : RequestHeader}

end ScanClient

end Wificond
