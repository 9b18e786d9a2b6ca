import Wificond.Nl80211
import Wificond.Packet

/-!
# Requests

Requests of `NetlinkUtils` and `ScanUtils` and what they read from the response. The
exchange itself is a parameter: it gives the single response that is no error, if there
is one.
-/
namespace Wificond

/-- What `NetlinkManager` supplies for a request. -/
structure RequestHeader where
  familyId : UInt16
  sequence : UInt32
  pid : UInt32

def RequestHeader.request (header : RequestHeader) (command : UInt8) : NL80211Packet :=
  .ofHeader header.familyId command header.sequence header.pid

/-- `SendMessageAndGetSingleResponse` -/
abbrev SingleResponse := NL80211Packet → Option NL80211Packet

namespace NetlinkUtils

/-- The request of `SendMgmtFrame`. Nothing is added for the MCS rate. -/
def mgmtFrameRequest (header : RequestHeader) (interfaceIndex : UInt32) (frame : List UInt8) :
    NL80211Packet :=
  let packet := header.request cmdFrame
  let packet := packet.addAttribute (NL80211Attr.ofInt .uint32 attrIfindex interfaceIndex.toNat)
  packet.addAttribute (NL80211Attr.ofBytes attrFrame frame)

/-- Returns the cookie of the transmission, if the kernel takes the frame. -/
def sendMgmtFrame (header : RequestHeader) (respond : SingleResponse) (interfaceIndex : UInt32)
    (frame : List UInt8) : Exec (Option UInt64) :=
  match respond (mgmtFrameRequest header interfaceIndex frame) with
  | none => .ok none
  | some response => do
    let cookie ← response.getAttributeValue (AttrTemplate.int .uint64) attrCookie
    return cookie.map UInt64.ofInt

end NetlinkUtils

/-- `array<uint8_t, ETH_ALEN>` -/
abbrev MacAddress := Vector UInt8 6

def MacAddress.ofBytes (bytes : List UInt8) : MacAddress := Vector.ofFn fun i => bytes.getD i 0

structure StationInfo where
  stationTxPackets : Int32
  stationTxFailed : Int32
  stationTxBitrate : UInt32
  currentRssi : Int8
  stationRxBitrate : UInt32
  deriving DecidableEq

namespace NetlinkUtils

def stationRequest (header : RequestHeader) (interfaceIndex : UInt32) (macAddress : MacAddress) :
    NL80211Packet :=
  let packet := header.request cmdGetStation
  let packet := packet.addAttribute (NL80211Attr.ofInt .uint32 attrIfindex interfaceIndex.toNat)
  packet.addAttribute (NL80211Attr.ofBytes attrMac macAddress.toList)

/-- A bit rate that is missing counts as zero. -/
def stationBitrate (staInfo : NL80211NestedAttr) (id : ℕ) : Exec UInt32 := do
  match ← staInfo.getAttribute id with
  | none => return 0
  | some bitrateAttr =>
    let bitrate ← bitrateAttr.getAttributeValue (AttrTemplate.int .uint32) rateInfoBitrate32
    return (bitrate.map UInt32.ofInt).getD 0

/-- What `GetStationInfo` reads from the response. -/
def readStationInfo (response : NL80211Packet) : Exec (Option StationInfo) := do
  if (← response.getCommand) ≠ cmdNewStation then return none
  let some staInfo ← response.getAttribute attrStaInfo | return none
  let some txGood ← staInfo.getAttributeValue (AttrTemplate.int .int32) staInfoTxPackets
    | return none
  let some txBad ← staInfo.getAttributeValue (AttrTemplate.int .int32) staInfoTxFailed
    | return none
  let some currentRssi ← staInfo.getAttributeValue (AttrTemplate.int .int8) staInfoSignal
    | return none
  let txBitrate ← stationBitrate staInfo staInfoTxBitrate
  let rxBitrate ← stationBitrate staInfo staInfoRxBitrate
  return some ⟨Int32.ofInt txGood, Int32.ofInt txBad, txBitrate, Int8.ofInt currentRssi, rxBitrate⟩

def getStationInfo (header : RequestHeader) (respond : SingleResponse) (interfaceIndex : UInt32)
    (macAddress : MacAddress) : Exec (Option StationInfo) :=
  match respond (stationRequest header interfaceIndex macAddress) with
  | none => .ok none
  | some response => readStationInfo response

end NetlinkUtils

namespace ScanUtils

/-- The request of `GetScanResult`. -/
def scanResultRequest (header : RequestHeader) (interfaceIndex : UInt32) : NL80211Packet :=
  let packet := (header.request cmdGetScan).addFlag nlmFDump
  packet.addAttribute (NL80211Attr.ofInt .uint32 attrIfindex interfaceIndex.toNat)

abbrev scanTypeDefault : ℤ := -1
abbrev scanTypeLowSpan : ℤ := 0
abbrev scanTypeLowPower : ℤ := 1
abbrev scanTypeHighAccuracy : ℤ := 2

/-- The flag of a scan type. The process is aborted at any other type. -/
def scanTypeFlag (scanType : ℤ) : Option UInt32 :=
  if scanType = scanTypeLowSpan then some scanFlagLowSpan
  else if scanType = scanTypeLowPower then some scanFlagLowPower
  else if scanType = scanTypeHighAccuracy then some scanFlagHighAccuracy
  else if scanType = scanTypeDefault then some 0
  else none

def scanFlags (requestRandomMac : Bool) (scanType : ℤ) (enable6ghzRnr : Bool) : Option UInt32 := do
  let flags : UInt32 := if requestRandomMac then scanFlagRandomAddr else 0
  let flags := flags ||| (← scanTypeFlag scanType)
  return if enable6ghzRnr then flags ||| scanFlagColocated6ghz else flags

/-- The loop that adds the elements of a list under their indices. -/
def nestedList {α : Type} (id : ℕ) (construct : ℕ → α → BaseNL80211Attr) (values : List α) :
    NL80211NestedAttr :=
  values.zipIdx.foldl (fun attr entry => attr.addAttribute (construct entry.2 entry.1))
    (NL80211NestedAttr.ofId id)

/-- What `Scan` is called with. -/
structure ScanSettings where
  requestRandomMac : Bool
  scanType : ℤ
  enable6ghzRnr : Bool
  ssids : List (List UInt8)
  freqs : List UInt32
  vendorIes : List UInt8

/-- The request of `Scan`, unless the process is aborted. -/
def scanRequest (header : RequestHeader) (interfaceIndex : UInt32) (settings : ScanSettings) :
    Option NL80211Packet := do
  let packet := (header.request cmdTriggerScan).addFlag nlmFAck
  let ssidsAttr := nestedList attrScanSsids NL80211Attr.ofBytes settings.ssids
  let freqsAttr := nestedList attrScanFrequencies
    (fun i freq => NL80211Attr.ofInt .uint32 i freq.toNat) settings.freqs
  let packet := packet.addAttribute (NL80211Attr.ofInt .uint32 attrIfindex interfaceIndex.toNat)
  let packet := packet.addAttribute ssidsAttr
  -- without frequencies the kernel scans all that are supported
  let packet := if settings.freqs ≠ [] then packet.addAttribute freqsAttr else packet
  let flags ← scanFlags settings.requestRandomMac settings.scanType settings.enable6ghzRnr
  let packet :=
    if flags ≠ 0 then packet.addAttribute (NL80211Attr.ofInt .uint32 attrScanFlags flags.toNat)
    else packet
  return if settings.vendorIes ≠ [] then
    packet.addAttribute (NL80211Attr.ofBytes attrIe settings.vendorIes) else packet

end ScanUtils

end Wificond
