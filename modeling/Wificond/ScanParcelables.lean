import Wificond.NetlinkRequests
import Wificond.Parcel

/-!
# Parcelables

The settings and results that travel through a parcel. Writer and reader of each are written
by hand, field by field; both are held against one sequence of entries.
-/
namespace Wificond

structure ChannelSettings where
  frequency : Int32
  deriving DecidableEq

structure HiddenNetwork where
  ssid : List UInt8
  deriving DecidableEq

structure SingleScanSettings where
  scanType : Int32
  enable6ghzRnr : Bool
  channelSettings : List ChannelSettings
  hiddenNetworks : List HiddenNetwork
  vendorIes : List UInt8
  deriving DecidableEq

structure PnoNetwork where
  isHidden : Bool
  ssid : List UInt8
  frequencies : List Int32
  deriving DecidableEq

structure PnoSettings where
  intervalMs : Int64
  min2gRssi : Int32
  min5gRssi : Int32
  min6gRssi : Int32
  scanIterations : UInt32
  scanIntervalMultiplier : UInt32
  pnoNetworks : List PnoNetwork
  deriving DecidableEq

structure RadioChainInfo where
  chainId : Int32
  level : Int32
  deriving DecidableEq

structure NativeScanResult where
  ssid : List UInt8
  bssid : MacAddress
  infoElement : List UInt8
  frequency : UInt32
  signalMbm : Int32
  tsf : UInt64
  capability : UInt16
  associated : Bool
  radioChainInfos : List RadioChainInfo
  deriving DecidableEq

def SingleScanSettings.isValidScanType (settings : SingleScanSettings) : Bool :=
  settings.scanType.toInt = ScanUtils.scanTypeLowSpan ∨
    settings.scanType.toInt = ScanUtils.scanTypeLowPower ∨
    settings.scanType.toInt = ScanUtils.scanTypeHighAccuracy

section Code
variable {P : Type} (primitives : ParcelPrimitives P)

def ChannelSettings.writeToParcel (channel : ChannelSettings) : ParcelM P Unit :=
  primitives.write .int32 channel.frequency

def HiddenNetwork.writeToParcel (network : HiddenNetwork) : ParcelM P Unit :=
  primitives.write .byteVector network.ssid

def SingleScanSettings.writeToParcel (settings : SingleScanSettings) : ParcelM P Unit :=
  if !settings.isValidScanType then throw badValue
  else do
    primitives.write .int32 settings.scanType
    primitives.write .bool settings.enable6ghzRnr
    writeTypedList primitives (·.writeToParcel primitives) settings.channelSettings
    writeTypedList primitives (·.writeToParcel primitives) settings.hiddenNetworks
    primitives.write .byteVector settings.vendorIes

def PnoNetwork.writeToParcel (network : PnoNetwork) : ParcelM P Unit := do
  primitives.write .int32 (if network.isHidden then 1 else 0)
  primitives.write .byteVector network.ssid
  primitives.write .int32Vector network.frequencies

def PnoSettings.writeToParcel (settings : PnoSettings) : ParcelM P Unit := do
  primitives.write .int64 settings.intervalMs
  primitives.write .int32 settings.min2gRssi
  primitives.write .int32 settings.min5gRssi
  primitives.write .int32 settings.min6gRssi
  primitives.write .uint32 settings.scanIterations
  primitives.write .uint32 settings.scanIntervalMultiplier
  writeTypedList primitives (·.writeToParcel primitives) settings.pnoNetworks

def RadioChainInfo.writeToParcel (info : RadioChainInfo) : ParcelM P Unit := do
  primitives.write .int32 info.chainId
  primitives.write .int32 info.level

/-- There is no primitive for sixteen bits. -/
def NativeScanResult.writeToParcel (result : NativeScanResult) : ParcelM P Unit := do
  primitives.write .byteVector result.ssid
  primitives.write .byteVector result.bssid.toList
  primitives.write .byteVector result.infoElement
  primitives.write .uint32 result.frequency
  primitives.write .int32 result.signalMbm
  primitives.write .uint64 result.tsf
  primitives.write .uint32 result.capability.toUInt32
  primitives.write .int32 (if result.associated then 1 else 0)
  writeTypedList primitives (·.writeToParcel primitives) result.radioChainInfos

def ChannelSettings.readFromParcel : ParcelM P ChannelSettings := do
  return ⟨← primitives.read .int32⟩

def HiddenNetwork.readFromParcel : ParcelM P HiddenNetwork := do
  return ⟨← primitives.read .byteVector⟩

/-- Elements are pushed to the lists that the object has. -/
def SingleScanSettings.readFromParcel (object : SingleScanSettings) :
    ParcelM P SingleScanSettings := do
  let scanType ← primitives.read .int32
  if !{ object with scanType := scanType : SingleScanSettings }.isValidScanType then throw badValue
  else
    let enable6ghzRnr ← primitives.read .bool
    let channelSettings ← readTypedList primitives (ChannelSettings.readFromParcel primitives)
      object.channelSettings
    let hiddenNetworks ← readTypedList primitives (HiddenNetwork.readFromParcel primitives)
      object.hiddenNetworks
    let vendorIes ← primitives.read .byteVector
    return ⟨scanType, enable6ghzRnr, channelSettings, hiddenNetworks, vendorIes⟩

def PnoNetwork.readFromParcel : ParcelM P PnoNetwork := do
  let isHidden ← primitives.read .int32
  let ssid ← primitives.read .byteVector
  let frequencies ← primitives.read .int32Vector
  return ⟨isHidden ≠ 0, ssid, frequencies⟩

def PnoSettings.readFromParcel (object : PnoSettings) : ParcelM P PnoSettings := do
  let intervalMs ← primitives.read .int64
  let min2gRssi ← primitives.read .int32
  let min5gRssi ← primitives.read .int32
  let min6gRssi ← primitives.read .int32
  let scanIterations ← primitives.read .uint32
  let scanIntervalMultiplier ← primitives.read .uint32
  let pnoNetworks ← readTypedList primitives (PnoNetwork.readFromParcel primitives)
    object.pnoNetworks
  return ⟨intervalMs, min2gRssi, min5gRssi, min6gRssi, scanIterations, scanIntervalMultiplier,
    pnoNetworks⟩

def RadioChainInfo.readFromParcel : ParcelM P RadioChainInfo := do
  let chainId ← primitives.read .int32
  let level ← primitives.read .int32
  return ⟨chainId, level⟩

def NativeScanResult.readFromParcel (object : NativeScanResult) : ParcelM P NativeScanResult := do
  let ssid ← primitives.read .byteVector
  let bssidVec ← primitives.read .byteVector
  if bssidVec.length ≠ 6 then throw badValue
  else
    let infoElement ← primitives.read .byteVector
    let frequency ← primitives.read .uint32
    let signalMbm ← primitives.read .int32
    let tsf ← primitives.read .uint64
    let capability ← primitives.readOr .uint32 0
    let associated ← primitives.readOr .int32 0
    let radioChainInfos ← readTypedList primitives (RadioChainInfo.readFromParcel primitives)
      object.radioChainInfos
    return ⟨ssid, MacAddress.ofBytes bssidVec, infoElement, frequency, signalMbm, tsf,
      capability.toUInt16, associated ≠ 0, radioChainInfos⟩

end Code

def ChannelSettings.entries (channel : ChannelSettings) : List ParcelEntry :=
  [⟨.int32, channel.frequency⟩]

def HiddenNetwork.entries (network : HiddenNetwork) : List ParcelEntry :=
  [⟨.byteVector, network.ssid⟩]

def SingleScanSettings.entries (settings : SingleScanSettings) : List ParcelEntry :=
  [⟨.int32, settings.scanType⟩] ++ ([⟨.bool, settings.enable6ghzRnr⟩] ++
    (typedListEntries ChannelSettings.entries settings.channelSettings ++
      (typedListEntries HiddenNetwork.entries settings.hiddenNetworks ++
        [⟨.byteVector, settings.vendorIes⟩])))

def PnoNetwork.entries (network : PnoNetwork) : List ParcelEntry :=
  [⟨.int32, if network.isHidden then (1 : Int32) else 0⟩, ⟨.byteVector, network.ssid⟩,
    ⟨.int32Vector, network.frequencies⟩]

def PnoSettings.entries (settings : PnoSettings) : List ParcelEntry :=
  [⟨.int64, settings.intervalMs⟩, ⟨.int32, settings.min2gRssi⟩, ⟨.int32, settings.min5gRssi⟩,
    ⟨.int32, settings.min6gRssi⟩, ⟨.uint32, settings.scanIterations⟩,
    ⟨.uint32, settings.scanIntervalMultiplier⟩] ++
    typedListEntries PnoNetwork.entries settings.pnoNetworks

def RadioChainInfo.entries (info : RadioChainInfo) : List ParcelEntry :=
  [⟨.int32, info.chainId⟩, ⟨.int32, info.level⟩]

def NativeScanResult.entries (result : NativeScanResult) : List ParcelEntry :=
  [⟨.byteVector, result.ssid⟩, ⟨.byteVector, result.bssid.toList⟩,
    ⟨.byteVector, result.infoElement⟩, ⟨.uint32, result.frequency⟩, ⟨.int32, result.signalMbm⟩,
    ⟨.uint64, result.tsf⟩, ⟨.uint32, result.capability.toUInt32⟩,
    ⟨.int32, if result.associated then (1 : Int32) else 0⟩] ++
    typedListEntries RadioChainInfo.entries result.radioChainInfos

/-- All lists are shorter than `2 ^ 31`. -/
structure SingleScanSettings.Fits (settings : SingleScanSettings) : Prop where
  channelSettings : settings.channelSettings.length < 2 ^ 31
  hiddenNetworks : settings.hiddenNetworks.length < 2 ^ 31
  ssids : ∀ network ∈ settings.hiddenNetworks, network.ssid.length < 2 ^ 31
  vendorIes : settings.vendorIes.length < 2 ^ 31

structure PnoSettings.Fits (settings : PnoSettings) : Prop where
  pnoNetworks : settings.pnoNetworks.length < 2 ^ 31
  ssids : ∀ network ∈ settings.pnoNetworks, network.ssid.length < 2 ^ 31
  frequencies : ∀ network ∈ settings.pnoNetworks, network.frequencies.length < 2 ^ 31

structure NativeScanResult.Fits (result : NativeScanResult) : Prop where
  ssid : result.ssid.length < 2 ^ 31
  infoElement : result.infoElement.length < 2 ^ 31
  radioChainInfos : result.radioChainInfos.length < 2 ^ 31

/-- The lists of a fresh object are empty; its other fields need not be initialised. -/
def SingleScanSettings.Fresh (object : SingleScanSettings) : Prop :=
  object.channelSettings = [] ∧ object.hiddenNetworks = []

def PnoSettings.Fresh (object : PnoSettings) : Prop := object.pnoNetworks = []

def NativeScanResult.Fresh (object : NativeScanResult) : Prop := object.radioChainInfos = []

section RoundTrips
variable {P : Type} {primitives : ParcelPrimitives P} {unread : P → List ParcelEntry}

theorem SingleScanSettings.writes (hqueue : IsQueue primitives unread)
    {settings : SingleScanSettings} (hvalid : settings.isValidScanType = true)
    (hfits : settings.Fits) :
    Writes unread (settings.writeToParcel primitives) settings.entries := by
  rw [writeToParcel, hvalid]
  refine (hqueue.write .int32 _ trivial).bind ((hqueue.write .bool _ trivial).bind ?_)
  refine (Writes.typedList hqueue fun channel _ => ?_).bind
    ((Writes.typedList hqueue fun network hnetwork => ?_).bind ?_)
  · exact hqueue.write .int32 channel.frequency trivial
  · exact hqueue.write .byteVector network.ssid (hfits.ssids network hnetwork)
  · exact hqueue.write .byteVector settings.vendorIes hfits.vendorIes

theorem SingleScanSettings.reads (hqueue : IsQueue primitives unread)
    {settings object : SingleScanSettings} (hvalid : settings.isValidScanType = true)
    (hfits : settings.Fits) (hfresh : object.Fresh) :
    Reads unread (object.readFromParcel primitives) settings.entries settings := by
  obtain ⟨hchannels, hnetworks⟩ := hfresh
  have hscanType : ({ object with scanType := settings.scanType } :
      SingleScanSettings).isValidScanType = true := hvalid
  refine (hqueue.read .int32 settings.scanType).bind ?_
  rw [hscanType, hchannels, hnetworks]
  refine (hqueue.read .bool settings.enable6ghzRnr).bind ?_
  refine (Reads.typedList hqueue hfits.channelSettings fun channel _ => ?_).bind
    ((Reads.typedList hqueue hfits.hiddenNetworks fun network _ => ?_).bind ?_)
  · exact (hqueue.read .int32 channel.frequency).bind_pure ChannelSettings.mk
  · exact (hqueue.read .byteVector network.ssid).bind_pure HiddenNetwork.mk
  · exact (hqueue.read .byteVector settings.vendorIes).bind_pure _

theorem PnoNetwork.writes (hqueue : IsQueue primitives unread) {network : PnoNetwork}
    (hssid : network.ssid.length < 2 ^ 31) (hfrequencies : network.frequencies.length < 2 ^ 31) :
    Writes unread (network.writeToParcel primitives) network.entries :=
  (hqueue.write .int32 _ trivial).bind ((hqueue.write .byteVector network.ssid hssid).bind
    (hqueue.write .int32Vector network.frequencies hfrequencies))

/-- A flag is written as a number, and any number but zero is read as set. -/
theorem flag_ne_zero (flag : Bool) : decide ((if flag then (1 : Int32) else 0) ≠ 0) = flag := by
  cases flag <;> decide

theorem PnoNetwork.reads (hqueue : IsQueue primitives unread) (network : PnoNetwork) :
    Reads unread (readFromParcel primitives) network.entries network := by
  have hlast := (hqueue.read .int32Vector network.frequencies).bind_pure
    (PnoNetwork.mk (decide ((if network.isHidden then (1 : Int32) else 0) ≠ 0)) network.ssid)
  rw [flag_ne_zero] at hlast
  refine (hqueue.read .int32 (if network.isHidden then (1 : Int32) else 0)).bind ?_
  refine (hqueue.read .byteVector network.ssid).bind ?_
  rw [flag_ne_zero]
  exact hlast

theorem PnoSettings.writes (hqueue : IsQueue primitives unread) {settings : PnoSettings}
    (hfits : settings.Fits) :
    Writes unread (settings.writeToParcel primitives) settings.entries := by
  refine (hqueue.write .int64 _ trivial).bind ((hqueue.write .int32 _ trivial).bind ?_)
  refine (hqueue.write .int32 _ trivial).bind ((hqueue.write .int32 _ trivial).bind ?_)
  refine (hqueue.write .uint32 _ trivial).bind ((hqueue.write .uint32 _ trivial).bind ?_)
  exact Writes.typedList hqueue fun network hnetwork =>
    PnoNetwork.writes hqueue (hfits.ssids network hnetwork) (hfits.frequencies network hnetwork)

theorem PnoSettings.reads (hqueue : IsQueue primitives unread) {settings object : PnoSettings}
    (hfits : settings.Fits) (hfresh : object.Fresh) :
    Reads unread (object.readFromParcel primitives) settings.entries settings := by
  rw [readFromParcel, show object.pnoNetworks = [] from hfresh]
  refine (hqueue.read .int64 settings.intervalMs).bind ?_
  refine (hqueue.read .int32 settings.min2gRssi).bind ?_
  refine (hqueue.read .int32 settings.min5gRssi).bind ?_
  refine (hqueue.read .int32 settings.min6gRssi).bind ?_
  refine (hqueue.read .uint32 settings.scanIterations).bind ?_
  refine (hqueue.read .uint32 settings.scanIntervalMultiplier).bind ?_
  exact (Reads.typedList hqueue hfits.pnoNetworks fun network _ =>
    PnoNetwork.reads hqueue network).bind_pure _

theorem RadioChainInfo.writes (hqueue : IsQueue primitives unread) (info : RadioChainInfo) :
    Writes unread (info.writeToParcel primitives) info.entries :=
  (hqueue.write .int32 info.chainId trivial).bind (hqueue.write .int32 info.level trivial)

theorem RadioChainInfo.reads (hqueue : IsQueue primitives unread) (info : RadioChainInfo) :
    Reads unread (readFromParcel primitives) info.entries info :=
  (hqueue.read .int32 info.chainId).bind
    ((hqueue.read .int32 info.level).bind_pure (RadioChainInfo.mk info.chainId))

theorem NativeScanResult.writes (hqueue : IsQueue primitives unread) {result : NativeScanResult}
    (hfits : result.Fits) : Writes unread (result.writeToParcel primitives) result.entries := by
  have hbssid : result.bssid.toList.length < 2 ^ 31 := by
    rw [Vector.length_toList]
    norm_num
  refine (hqueue.write .byteVector result.ssid hfits.ssid).bind ?_
  refine (hqueue.write .byteVector result.bssid.toList hbssid).bind ?_
  refine (hqueue.write .byteVector result.infoElement hfits.infoElement).bind ?_
  refine (hqueue.write .uint32 _ trivial).bind ((hqueue.write .int32 _ trivial).bind ?_)
  refine (hqueue.write .uint64 _ trivial).bind ((hqueue.write .uint32 _ trivial).bind ?_)
  refine (hqueue.write .int32 _ trivial).bind ?_
  exact Writes.typedList hqueue fun info _ => RadioChainInfo.writes hqueue info

theorem MacAddress.ofBytes_toList (address : MacAddress) : ofBytes address.toList = address := by
  ext i hi
  simp [ofBytes]

theorem NativeScanResult.reads (hqueue : IsQueue primitives unread)
    {result object : NativeScanResult} (hfits : result.Fits) (hfresh : object.Fresh) :
    Reads unread (object.readFromParcel primitives) result.entries result := by
  have hbssid : ¬ result.bssid.toList.length ≠ 6 := by
    rw [Vector.length_toList]
    exact not_not.mpr rfl
  rw [readFromParcel, show object.radioChainInfos = [] from hfresh]
  refine (hqueue.read .byteVector result.ssid).bind ?_
  refine (hqueue.read .byteVector result.bssid.toList).bind ?_
  rw [if_neg hbssid, MacAddress.ofBytes_toList]
  refine (hqueue.read .byteVector result.infoElement).bind ?_
  refine (hqueue.read .uint32 result.frequency).bind ?_
  refine (hqueue.read .int32 result.signalMbm).bind ?_
  refine (hqueue.read .uint64 result.tsf).bind ?_
  refine (Reads.readOr (t := .uint32) hqueue result.capability.toUInt32 0).bind ?_
  refine (Reads.readOr (t := .int32) hqueue (if result.associated then 1 else 0) 0).bind ?_
  rw [flag_ne_zero, UInt16.toUInt16_toUInt32]
  exact (Reads.typedList hqueue hfits.radioChainInfos fun info _ =>
    RadioChainInfo.reads hqueue info).bind_pure _

/-- Over primitives that are a queue, settings with a valid scan type, PNO settings and scan
results come back from a parcel with all their fields, and what is written behind them stays. -/
theorem parcelables_roundTrip (hqueue : IsQueue primitives unread) :
    (∀ settings object : SingleScanSettings, settings.isValidScanType = true → settings.Fits →
      object.Fresh → RoundTrips unread (settings.writeToParcel primitives)
        (object.readFromParcel primitives) settings) ∧
    (∀ settings object : PnoSettings, settings.Fits → object.Fresh →
      RoundTrips unread (settings.writeToParcel primitives)
        (object.readFromParcel primitives) settings) ∧
    ∀ result object : NativeScanResult, result.Fits → object.Fresh →
      RoundTrips unread (result.writeToParcel primitives)
        (object.readFromParcel primitives) result := by
  refine ⟨fun settings object hvalid hfits hfresh => ?_, fun settings object hfits hfresh => ?_,
    fun result object hfits hfresh => ?_⟩
  · exact ⟨settings.entries, SingleScanSettings.writes hqueue hvalid hfits,
      SingleScanSettings.reads hqueue hvalid hfits hfresh⟩
  · exact ⟨settings.entries, PnoSettings.writes hqueue hfits,
      PnoSettings.reads hqueue hfits hfresh⟩
  · exact ⟨result.entries, NativeScanResult.writes hqueue hfits,
      NativeScanResult.reads hqueue hfits hfresh⟩

end RoundTrips

/-- A parcel that is the list of what is unread. -/
def listPrimitives : ParcelPrimitives (List ParcelEntry) where
  write t v := modify fun p => p ++ [⟨t, v⟩]
  read t := do
    match ← get with
    | [] => throw badValue
    | entry :: rest =>
      if h : entry.type = t then
        set rest
        return h ▸ entry.value
      else throw badValue

theorem isQueue_listPrimitives : IsQueue listPrimitives fun p => p where
  write t v _ p := ⟨p ++ [⟨t, v⟩], rfl, rfl⟩
  read t v p rest hp := by
    obtain rfl : p = ⟨t, v⟩ :: rest := hp
    refine ⟨rest, ?_, rfl⟩
    simp [listPrimitives]
    rfl

/-- A scan for a hidden network, a PNO request with the frequencies of a network, and a result
with one radio chain, each behind what an object has when it is declared. -/
theorem parcelables_roundTrip_list :
    let settings : SingleScanSettings := ⟨2, true, [⟨2412⟩, ⟨5180⟩], [⟨[104, 105]⟩], [221, 0]⟩
    let pno : PnoSettings := ⟨20000, -80, -77, -70, 3, 2, [⟨true, [104], [2412, 5180]⟩]⟩
    let result : NativeScanResult :=
      ⟨[104], #v[1, 2, 3, 4, 5, 6], [0, 1, 104], 2412, -4500, 77, 0x411, true, [⟨0, -45⟩]⟩
    RoundTrips (fun p : List ParcelEntry => p) (settings.writeToParcel listPrimitives)
        ((⟨7, false, [], [], [9]⟩ : SingleScanSettings).readFromParcel listPrimitives) settings ∧
      RoundTrips (fun p : List ParcelEntry => p) (pno.writeToParcel listPrimitives)
        ((⟨0, 0, 0, 0, 0, 0, []⟩ : PnoSettings).readFromParcel listPrimitives) pno ∧
      RoundTrips (fun p : List ParcelEntry => p) (result.writeToParcel listPrimitives)
        ((⟨[], #v[0, 0, 0, 0, 0, 0], [], 9, 9, 9, 9, true, []⟩ : NativeScanResult).readFromParcel
          listPrimitives) result := by
  intro settings pno result
  have h := parcelables_roundTrip isQueue_listPrimitives
  refine ⟨h.1 settings _ (by decide) ?_ ⟨rfl, rfl⟩, h.2.1 pno _ ?_ rfl, h.2.2 result _ ?_ rfl⟩
  · exact ⟨by decide, by decide, by decide, by decide⟩
  · exact ⟨by decide, by decide, by decide⟩
  · exact ⟨by decide, by decide, by decide⟩

end Wificond
