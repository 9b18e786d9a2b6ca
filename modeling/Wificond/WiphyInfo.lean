import Wificond.InterfaceObjects
import Wificond.NetlinkRequests
import Wificond.SplitWiphyDump

/-!
# The capabilities of a wiphy

The model of `NetlinkUtils::GetWiphyInfo` and of what it reads from a packet. The three
outputs are written one after the other while a packet is parsed, so that a packet may be
refused when some of them are written already.
-/
namespace Wificond

/-- `BandInfo` as a whole: the frequency lists and what the bands support. -/
structure WiphyBandInfo extends BandInfo where
  is80211nSupported : Bool
  is80211acSupported : Bool
  is80211axSupported : Bool
  is80211beSupported : Bool
  is160MhzSupported : Bool
  is80p80MhzSupported : Bool
  is320MhzSupported : Bool
  maxTxStreams : UInt32
  maxRxStreams : UInt32
  deriving DecidableEq

def WiphyBandInfo.construct : WiphyBandInfo :=
  ⟨⟨[], [], [], [], []⟩, false, false, false, false, false, false, false, 1, 1⟩

structure ScanCapabilities where
  maxNumScanSsids : UInt8
  maxNumSchedScanSsids : UInt8
  maxMatchSets : UInt8
  maxNumScanPlans : UInt32
  maxScanPlanInterval : UInt32
  maxScanPlanIterations : UInt32
  deriving DecidableEq

structure WiphyFeatures where
  supportsRandomMacOneshotScan : Bool
  supportsRandomMacSchedScan : Bool
  supportsLowSpanOneshotScan : Bool
  supportsLowPowerOneshotScan : Bool
  supportsHighAccuracyOneshotScan : Bool
  supportsTxMgmtFrameMcs : Bool
  supportsExtSchedScanRelativeRssi : Bool
  deriving DecidableEq

def isExtFeatureFlagSet (extFeatureFlagsBytes : List UInt8) (extFeatureFlag : ℕ) : Bool :=
  match extFeatureFlagsBytes[extFeatureFlag / 8]? with
  | none => false
  | some byte => byte &&& (1 <<< UInt8.ofNat (extFeatureFlag % 8)) ≠ 0

def WiphyFeatures.construct (featureFlags : UInt32) (extFeatureFlagsBytes : List UInt8) :
    WiphyFeatures where
  supportsRandomMacOneshotScan := featureFlags &&& featureScanRandomMacAddr ≠ 0
  supportsRandomMacSchedScan := featureFlags &&& featureSchedScanRandomMacAddr ≠ 0
  supportsLowSpanOneshotScan := isExtFeatureFlagSet extFeatureFlagsBytes extFeatureLowSpanScan
  supportsLowPowerOneshotScan := isExtFeatureFlagSet extFeatureFlagsBytes extFeatureLowPowerScan
  supportsHighAccuracyOneshotScan :=
    isExtFeatureFlagSet extFeatureFlagsBytes extFeatureHighAccuracyScan
  supportsTxMgmtFrameMcs := false
  supportsExtSchedScanRelativeRssi :=
    isExtFeatureFlagSet extFeatureFlagsBytes extFeatureSchedScanRelativeRssi

/-- The three outputs. -/
structure WiphyInfo where
  bandInfo : WiphyBandInfo
  scanCapabilities : ScanCapabilities
  wiphyFeatures : WiphyFeatures
  deriving DecidableEq

namespace NetlinkUtils

/-- The pass of `handleBandFreqAttributes` for one frequency. -/
def handleFrequency (bandInfo : WiphyBandInfo) (freq : NL80211NestedAttr) :
    Exec WiphyBandInfo := do
  let some value ← freq.getAttributeValue (AttrTemplate.int .uint32) frequencyAttrFreq
    | return bandInfo
  if ← freq.hasAttribute frequencyAttrDisabled then return bandInfo
  let frequency := UInt32.ofInt value
  if 2400 < frequency ∧ frequency < 2500 then
    return { bandInfo with band2g := bandInfo.band2g ++ [frequency] }
  else if 5000 < frequency ∧ frequency ≤ 5885 then
    let dfsState ← freq.getAttributeValue (AttrTemplate.int .uint32) frequencyAttrDfsState
    if dfsState = some dfsAvailable ∨ dfsState = some dfsUsable then
      return { bandInfo with bandDfs := bandInfo.bandDfs ++ [frequency] }
    -- passive channels count as DFS channels
    if ← freq.hasAttribute frequencyAttrNoIr then
      return { bandInfo with bandDfs := bandInfo.bandDfs ++ [frequency] }
    return { bandInfo with band5g := bandInfo.band5g ++ [frequency] }
  else if 5925 < frequency ∧ frequency < 7125 then
    return { bandInfo with band6g := bandInfo.band6g ++ [frequency] }
  else if 58320 ≤ frequency ∧ frequency < 70200 then
    return { bandInfo with band60g := bandInfo.band60g ++ [frequency] }
  else return bandInfo

def handleBandFreqAttributes (freqsAttr : NL80211NestedAttr) (bandInfo : WiphyBandInfo) :
    Exec WiphyBandInfo := do
  let some freqs ← freqsAttr.getListOfNestedAttributes | return bandInfo
  freqs.foldlM handleFrequency bandInfo

def WiphyBandInfo.raiseStreams (maxTxStreams maxRxStreams : UInt32) (bandInfo : WiphyBandInfo) :
    WiphyBandInfo :=
  { bandInfo with
    maxTxStreams := max bandInfo.maxTxStreams maxTxStreams
    maxRxStreams := max bandInfo.maxRxStreams maxRxStreams }

/-- Transmit and receive streams, from a set of sixteen bytes at least. -/
def parseHtMcsSet (htMcsSet : List UInt8) : UInt32 × UInt32 :=
  let maxRxStreams : ℕ :=
    (([3, 2, 1, 0].find? fun i => htMcsSet.getD i 0 > 0).map (· + 1)).getD 1
  let supportedTxMcsSet := htMcsSet.getD 12 0
  let txMcsSetDefined := supportedTxMcsSet &&& 1
  let txRxMcsSetNotEqual := (supportedTxMcsSet >>> 1) &&& 1
  let maxTxStreams : ℕ :=
    if txMcsSetDefined ≠ 0 ∧ txRxMcsSetNotEqual ≠ 0 then
      ((supportedTxMcsSet >>> 2) &&& 3).toNat + 1
    else maxRxStreams
  (UInt32.ofNat maxTxStreams, UInt32.ofNat maxRxStreams)

def parseHtMcsSetAttribute (band : NL80211NestedAttr) (bandInfo : WiphyBandInfo) :
    Exec WiphyBandInfo := do
  let some htMcsSet ← band.getAttributeValue AttrTemplate.vector bandAttrHtMcsSet
    | return bandInfo
  if htMcsSet.length < 16 then return bandInfo
  let streams := parseHtMcsSet htMcsSet
  return WiphyBandInfo.raiseStreams streams.1 streams.2 bandInfo

/-- Two bits for each of eight streams; both set mean unsupported. -/
def parseMcsMap (mcsMap : UInt16) : UInt32 :=
  let supported : ℕ → Bool := fun i => (mcsMap >>> UInt16.ofNat (2 * i)) &&& 3 ≠ 3
  UInt32.ofNat ((([7, 6, 5, 4, 3, 2, 1, 0].find? supported).map (· + 1)).getD 1)

/-- The map of which the low byte stands at `pos`. -/
def mcsMapAt (mcsSet : List UInt8) (pos : ℕ) : UInt16 :=
  ((mcsSet.getD (pos + 1) 0).toUInt16 <<< 8) ||| (mcsSet.getD pos 0).toUInt16

def parseVhtMcsSetAttribute (band : NL80211NestedAttr) (bandInfo : WiphyBandInfo) :
    Exec WiphyBandInfo := do
  let some vhtMcsSet ← band.getAttributeValue AttrTemplate.vector bandAttrVhtMcsSet
    | return bandInfo
  if vhtMcsSet.length < 8 then return bandInfo
  return WiphyBandInfo.raiseStreams (parseMcsMap (mcsMapAt vhtMcsSet 4))
    (parseMcsMap (mcsMapAt vhtMcsSet 0)) bandInfo

def parseHeMcsSetAttribute (ifType : NL80211NestedAttr) (bandInfo : WiphyBandInfo) :
    Exec WiphyBandInfo := do
  let some heMcsSet ← ifType.getAttributeValue AttrTemplate.vector bandIftypeAttrHeCapMcsSet
    | return bandInfo
  if heMcsSet.length < 4 then return bandInfo
  return WiphyBandInfo.raiseStreams (parseMcsMap (mcsMapAt heMcsSet 2))
    (parseMcsMap (mcsMapAt heMcsSet 0)) bandInfo

def parseVhtCapAttribute (band : NL80211NestedAttr) (bandInfo : WiphyBandInfo) :
    Exec WiphyBandInfo := do
  let some value ← band.getAttributeValue (AttrTemplate.int .uint32) bandAttrVhtCapa
    | return bandInfo
  let vhtCap := UInt32.ofInt value
  return { bandInfo with
    is160MhzSupported := bandInfo.is160MhzSupported || vhtCap &&& 0x4 ≠ 0
    is80p80MhzSupported := bandInfo.is80p80MhzSupported || vhtCap &&& 0x8 ≠ 0 }

def parseHeCapPhyAttribute (ifType : NL80211NestedAttr) (bandInfo : WiphyBandInfo) :
    Exec WiphyBandInfo := do
  let some heCapPhy ← ifType.getAttributeValue AttrTemplate.vector bandIftypeAttrHeCapPhy
    | return bandInfo
  if heCapPhy.length < 9 then return bandInfo
  let first := heCapPhy.getD 0 0
  return { bandInfo with
    is160MhzSupported := bandInfo.is160MhzSupported || first &&& 0x8 ≠ 0
    is80p80MhzSupported := bandInfo.is80p80MhzSupported || first &&& 0x10 ≠ 0 }

def parseEhtCapPhyAttribute (ifType : NL80211NestedAttr) (bandInfo : WiphyBandInfo) :
    Exec WiphyBandInfo := do
  let some ehtCapPhy ← ifType.getAttributeValue AttrTemplate.vector bandIftypeAttrEhtCapPhy
    | return bandInfo
  if ehtCapPhy.length < 8 then return bandInfo
  return { bandInfo with
    is320MhzSupported := bandInfo.is320MhzSupported || ehtCapPhy.getD 0 0 &&& 0x2 ≠ 0 }

/-- Only the first interface type is looked at. -/
def parseIfTypeDataAttributes (iftypeDataAttr : NL80211NestedAttr) (bandInfo : WiphyBandInfo) :
    Exec WiphyBandInfo := do
  let some (attr :: _) ← iftypeDataAttr.getListOfNestedAttributes | return bandInfo
  let bandInfo ←
    if ← attr.hasAttribute bandIftypeAttrHeCapPhy then
      parseHeCapPhyAttribute attr { bandInfo with is80211axSupported := true }
    else pure bandInfo
  let bandInfo ←
    if ← attr.hasAttribute bandIftypeAttrHeCapMcsSet then parseHeMcsSetAttribute attr bandInfo
    else pure bandInfo
  if ← attr.hasAttribute bandIftypeAttrEhtCapPhy then
    parseEhtCapPhyAttribute attr { bandInfo with is80211beSupported := true }
  else return bandInfo

def parseHtVhtPhyCapabilities (band : NL80211NestedAttr) (bandInfo : WiphyBandInfo) :
    Exec WiphyBandInfo := do
  let bandInfo ← parseHtMcsSetAttribute band bandInfo
  let bandInfo ← parseVhtMcsSetAttribute band bandInfo
  parseVhtCapAttribute band bandInfo

/-- The pass of `ParseBandInfo` for one band. -/
def parseBand (bandInfo : WiphyBandInfo) (band : NL80211NestedAttr) : Exec WiphyBandInfo := do
  let bandInfo ←
    match ← band.getAttribute bandAttrFreqs with
    | none => pure bandInfo
    | some freqsAttr => handleBandFreqAttributes freqsAttr bandInfo
  let htCapa ← band.hasAttribute bandAttrHtCapa
  let bandInfo :=
    { bandInfo with is80211nSupported := bandInfo.is80211nSupported || htCapa }
  let vhtCapa ← band.hasAttribute bandAttrVhtCapa
  let bandInfo :=
    { bandInfo with is80211acSupported := bandInfo.is80211acSupported || vhtCapa }
  let bandInfo ←
    match ← band.getAttribute bandAttrIftypeData with
    | none => pure bandInfo
    | some iftypeDataAttr => parseIfTypeDataAttributes iftypeDataAttr bandInfo
  parseHtVhtPhyCapabilities band bandInfo

/-- The band information that is written, if any is. -/
def parseBandInfo (packet : NL80211Packet) : Exec (Option WiphyBandInfo) := do
  let some bandsAttr ← packet.getAttribute attrWiphyBands | return none
  let some bands ← bandsAttr.getListOfNestedAttributes | return none
  return some (← bands.foldlM parseBand WiphyBandInfo.construct)

/-- An attribute that is missing counts as zero. -/
def scanPlanCapability (packet : NL80211Packet) (id : ℕ) : Exec UInt32 := do
  let value ← packet.getAttributeValue (AttrTemplate.int .uint32) id
  return (value.map UInt32.ofInt).getD 0

/-- The scan capabilities that are written, if any are. -/
def parseScanCapabilities (packet : NL80211Packet) : Exec (Option ScanCapabilities) := do
  let some maxNumScanSsids ← packet.getAttributeValue (AttrTemplate.int .uint8) attrMaxNumScanSsids
    | return none
  let some maxNumSchedScanSsids ←
    packet.getAttributeValue (AttrTemplate.int .uint8) attrMaxNumSchedScanSsids | return none
  let maxNumScanPlans ← scanPlanCapability packet attrMaxNumSchedScanPlans
  let maxScanPlanInterval ← scanPlanCapability packet attrMaxScanPlanInterval
  let maxScanPlanIterations ← scanPlanCapability packet attrMaxScanPlanIterations
  let some maxMatchSets ← packet.getAttributeValue (AttrTemplate.int .uint8) attrMaxMatchSets
    | return none
  return some ⟨UInt8.ofInt maxNumScanSsids, UInt8.ofInt maxNumSchedScanSsids,
    UInt8.ofInt maxMatchSets, maxNumScanPlans, maxScanPlanInterval, maxScanPlanIterations⟩

/-- Returns the success flag and the outputs, also those written before a failure. -/
def parseWiphyInfoFromPacket (packet : NL80211Packet) (outs : WiphyInfo) :
    Exec (Bool × WiphyInfo) := do
  if (← packet.getCommand) ≠ cmdNewWiphy.toNat then return (false, outs)
  let some bandInfo ← parseBandInfo packet | return (false, outs)
  let outs := { outs with bandInfo := bandInfo }
  let some scanCapabilities ← parseScanCapabilities packet | return (false, outs)
  let outs := { outs with scanCapabilities := scanCapabilities }
  let some featureFlags ← packet.getAttributeValue (AttrTemplate.int .uint32) attrFeatureFlags
    | return (false, outs)
  let extFeatureFlagsBytes ← packet.getAttributeValue AttrTemplate.vector attrExtFeatures
  return (true, { outs with
    wiphyFeatures :=
      WiphyFeatures.construct (UInt32.ofInt featureFlags) (extFeatureFlagsBytes.getD []) })

/-- The loop over the packets: the first of the wiphy that is not refused. -/
def findWiphyInfo (wiphyIndex : UInt32) (outs : WiphyInfo) :
    List NL80211Packet → Exec (Bool × WiphyInfo)
  | [] => return (false, outs)
  | packet :: rest => do
    let current ← packet.getAttributeValue (AttrTemplate.int .uint32) attrWiphy
    if current.map UInt32.ofInt ≠ some wiphyIndex then findWiphyInfo wiphyIndex outs rest
    else
      let (success, outs) ← parseWiphyInfoFromPacket packet outs
      if success then return (true, outs) else findWiphyInfo wiphyIndex outs rest

/-- The packets that are looked at. A merge that fails yields none. -/
def packetPerWiphy (supportsSplitWiphyDump : Bool) (response : List NL80211Packet) :
    Exec (List NL80211Packet) :=
  if supportsSplitWiphyDump then (mergePacketsForSplitWiphyDump response).map Prod.snd
  else .ok response

def wiphyRequest (header : RequestHeader) (supportsSplitWiphyDump : Bool) (wiphyIndex : UInt32) :
    NL80211Packet :=
  let packet := header.request cmdGetWiphy
  let packet := packet.addAttribute (NL80211Attr.ofInt .uint32 attrWiphy wiphyIndex.toNat)
  if supportsSplitWiphyDump then (packet.addFlagAttribute attrSplitWiphyDump).addFlag nlmFDump
  else packet

/-- The number of the attempt, counted from zero, and the request give the result of
`SendMessageAndGetResponses` and the packets that it appends. -/
abbrev Responses := ℕ → NL80211Packet → Bool × List NL80211Packet

/-- The loop over the attempts. All append to one vector. -/
def requestResponses (respond : Responses) (packet : NL80211Packet) :
    ℕ → ℕ → List NL80211Packet → Option (List NL80211Packet)
  | attempt, retries, response =>
    let result := respond attempt packet
    let response := response ++ result.2
    if result.1 then some response
    else
      match retries with
      | 0 => none
      | retries + 1 => requestResponses respond packet (attempt + 1) retries response

/-- `kNl80211CmdRetryCount` -/
abbrev nl80211CmdRetryCount : ℕ := 1

def getWiphyInfo (header : RequestHeader) (respond : Responses) (supportsSplitWiphyDump : Bool)
    (wiphyIndex : UInt32) (outs : WiphyInfo) : Exec (Bool × WiphyInfo) :=
  match requestResponses respond (wiphyRequest header supportsSplitWiphyDump wiphyIndex) 0
    nl80211CmdRetryCount [] with
  | none => .ok (false, outs)
  | some response => do
    findWiphyInfo wiphyIndex outs (← packetPerWiphy supportsSplitWiphyDump response)

end NetlinkUtils

end Wificond
