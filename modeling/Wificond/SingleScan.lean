import Wificond.PnoScan
import Wificond.RequestContents
import Wificond.ScanParcelables
import Wificond.WiphyInfo

/-!
# One-shot scans

The scanner turns the settings of a caller into a request, under the capabilities of the
device: SSIDs beyond its capacity or of more than 32 bytes are left out, and flags that it
does not support are not set. All else is sent as it was given.
-/
namespace Wificond

open LittleEndian PaddedTlv ScanUtils

/-- The part of `ScannerImpl` that deals with one-shot scans. -/
structure SingleScanner where
  valid : Bool
  scanStarted : Bool
  nodevCounter : UInt32
  interfaceIndex : UInt32
  scanCapabilities : ScanCapabilities
  wiphyFeatures : WiphyFeatures
  deriving DecidableEq

/-- `SCAN_STATUS_SUCCESS` and the failures. -/
inductive ScanStatus
  | success | failedGeneric | failedBusy | failedNodev | failedInvalidArgs
  deriving DecidableEq

/-- With `EINVAL`, `EBUSY` and `ENODEV`. -/
def convertStdErrNumToScanStatus (errNum : ℤ) : ScanStatus :=
  if errNum = 22 then .failedInvalidArgs
  else if errNum = 16 then .failedBusy
  else if errNum = enodev then .failedNodev
  else .failedGeneric

/-- The process is aborted at any other type. -/
def isScanTypeSupported (scanType : ℤ) (wiphyFeatures : WiphyFeatures) : Option Bool :=
  if scanType = scanTypeLowSpan then some wiphyFeatures.supportsLowSpanOneshotScan
  else if scanType = scanTypeLowPower then some wiphyFeatures.supportsLowPowerOneshotScan
  else if scanType = scanTypeHighAccuracy then some wiphyFeatures.supportsHighAccuracyOneshotScan
  else none

/-- `SendMessageAndGetAckOrError`: the error code, if there is an answer of the right kind. -/
abbrev AckOrError := NL80211Packet → Option ℤ

namespace ScanUtils

/-- What `Scan` returns, and the error code, which the caller sets to zero beforehand. -/
def scanResult (answer : Option ℤ) : Bool × ℤ :=
  match answer with
  | none => (false, 0)
  | some errorCode => (errorCode = 0, errorCode)

end ScanUtils

namespace SingleScanner

/-- The pass of the loop for one hidden network. What is skipped is logged. -/
def addSsid (maxNumScanSsids : UInt8) (ssids : List (List UInt8)) (network : HiddenNetwork) :
    List (List UInt8) :=
  if ssids.length + 1 > maxNumScanSsids.toNat then ssids
  else if network.ssid.length > 32 then ssids
  else ssids ++ [network.ssid]

/-- The list starts with an empty SSID for a wild card scan. -/
def ssids (maxNumScanSsids : UInt8) (hiddenNetworks : List HiddenNetwork) : List (List UInt8) :=
  hiddenNetworks.foldl (addSsid maxNumScanSsids) [[]]

/-- What `scanRequest` calls `Scan` with, unless the process is aborted. -/
def scanArguments (associated : Bool) (settings : SingleScanSettings) (scanner : SingleScanner) :
    Option ScanUtils.ScanSettings := do
  let supported ← isScanTypeSupported settings.scanType.toInt scanner.wiphyFeatures
  return {
    -- addresses are randomized only while the station is not associated
    requestRandomMac := scanner.wiphyFeatures.supportsRandomMacOneshotScan && !associated
    scanType := if supported then settings.scanType.toInt else scanTypeDefault
    enable6ghzRnr := settings.enable6ghzRnr
    ssids := ssids scanner.scanCapabilities.maxNumScanSsids settings.hiddenNetworks
    freqs := settings.channelSettings.map fun channel => channel.frequency.toUInt32
    vendorIes := settings.vendorIes }

/-- The packet that `scanRequest` sends through `Scan`. -/
def requestPacket (header : RequestHeader) (associated : Bool) (settings : SingleScanSettings)
    (scanner : SingleScanner) : Option NL80211Packet := do
  let arguments ← scanner.scanArguments associated settings
  ScanUtils.scanRequest header scanner.interfaceIndex arguments

/-- The status and the scanner, unless the process is aborted. -/
def scanRequest (header : RequestHeader) (ack : AckOrError) (associated : Bool)
    (settings : SingleScanSettings) (scanner : SingleScanner) :
    Option (ScanStatus × SingleScanner) :=
  if !scanner.valid then some (.failedGeneric, scanner)
  else do
    let packet ← scanner.requestPacket header associated settings
    let result := ScanUtils.scanResult (ack packet)
    if result.1 then return (.success, { scanner with nodevCounter := 0, scanStarted := true })
    else
      let scanner :=
        if result.2 = enodev then { scanner with nodevCounter := scanner.nodevCounter + 1 }
        else scanner
      if result.2 ≠ enodev ∨ scanner.nodevCounter ≤ 3 then
        return (convertStdErrNumToScanStatus result.2, scanner)
      else none

theorem foldl_addSsid (maxNumScanSsids : UInt8) (networks : List HiddenNetwork)
    (found : List (List UInt8)) : networks.foldl (addSsid maxNumScanSsids) found =
      found ++ ((networks.map HiddenNetwork.ssid).filter fun ssid => ssid.length ≤ 32).take
        (maxNumScanSsids.toNat - found.length) := by
  induction networks generalizing found with
  | nil => simp
  | cons network networks ih =>
    rw [List.foldl_cons, ih, addSsid, List.map_cons]
    by_cases hfull : found.length + 1 > maxNumScanSsids.toNat
    · have hroom : maxNumScanSsids.toNat - found.length = 0 := by omega
      simp only [if_pos hfull, hroom, List.take_zero]
    · have hroom : maxNumScanSsids.toNat - found.length =
          maxNumScanSsids.toNat - (found.length + 1) + 1 := by omega
      rw [if_neg hfull]
      by_cases hlong : network.ssid.length > 32
      · rw [if_pos hlong, List.filter_cons_of_neg (by simpa using hlong)]
      · rw [if_neg hlong, List.filter_cons_of_pos (by simpa using hlong), hroom,
          List.take_succ_cons, List.length_append, List.length_singleton, List.append_assoc]
        rfl

/-- The wild card and the first networks with an SSID of 32 bytes at most. -/
theorem ssids_eq (maxNumScanSsids : UInt8) (networks : List HiddenNetwork) :
    ssids maxNumScanSsids networks =
      [] :: ((networks.map HiddenNetwork.ssid).filter fun ssid => ssid.length ≤ 32).take
        (max 1 maxNumScanSsids.toNat - 1) := by
  have hroom : maxNumScanSsids.toNat - 1 = max 1 maxNumScanSsids.toNat - 1 := by omega
  rw [ssids, foldl_addSsid, List.length_singleton, hroom, List.singleton_append]

theorem length_le_of_mem_ssids {maxNumScanSsids : UInt8} {networks : List HiddenNetwork}
    {ssid : List UInt8} (h : ssid ∈ ssids maxNumScanSsids networks) : ssid.length ≤ 32 := by
  rw [ssids_eq, List.mem_cons] at h
  rcases h with rfl | h
  · simp
  · simpa using List.of_mem_filter (List.mem_of_mem_take h)

theorem length_ssids_le (maxNumScanSsids : UInt8) (networks : List HiddenNetwork) :
    (ssids maxNumScanSsids networks).length ≤ max 1 maxNumScanSsids.toNat := by
  rw [ssids_eq, List.length_cons, List.length_take]
  omega

/-- As many SSIDs as a request takes fit their attribute. -/
theorem sum_ssids_lt (maxNumScanSsids : UInt8) (networks : List HiddenNetwork) :
    4 + ((ssids maxNumScanSsids networks).map fun ssid => 4 + nlaAlign ssid.length).sum <
      2 ^ 16 := by
  have hsum := List.sum_le_card_nsmul
    ((ssids maxNumScanSsids networks).map fun ssid => 4 + nlaAlign ssid.length) 36
  have hcount := length_ssids_le maxNumScanSsids networks
  have hcapacity := maxNumScanSsids.toNat_lt
  rw [List.length_map, smul_eq_mul] at hsum
  have hbound := hsum fun size hsize => by
    obtain ⟨ssid, hssid, rfl⟩ := List.mem_map.mp hsize
    have hlen := length_le_of_mem_ssids hssid
    simp only [nlaAlign, align4]
    omega
  omega

/-- What is to stand in the request for a scan. -/
def roots (settings : SingleScanSettings) (flags : UInt32) (scanner : SingleScanner) :
    List AttrTree :=
  [.leaf attrIfindex (.int .uint32) scanner.interfaceIndex.toNat,
    .nested attrScanSsids (indexedLeaves .vector
      ([] :: ((settings.hiddenNetworks.map HiddenNetwork.ssid).filter fun ssid =>
        ssid.length ≤ 32).take (max 1 scanner.scanCapabilities.maxNumScanSsids.toNat - 1)))] ++
  (if settings.channelSettings ≠ [] then
    [.nested attrScanFrequencies (indexedLeaves (.int .uint32)
      ((settings.channelSettings.map fun channel => channel.frequency.toUInt32).map
        fun freq => (freq.toNat : ℤ)))] else []) ++
  (if flags ≠ 0 then [.leaf attrScanFlags (.int .uint32) flags.toNat] else []) ++
  (if settings.vendorIes ≠ [] then [.leaf attrIe .vector settings.vendorIes] else [])

/-- The flags are those that the settings ask for and the device supports, and no others. -/
structure FlagsMatch (associated : Bool) (settings : SingleScanSettings) (features : WiphyFeatures)
    (flags : UInt32) : Prop where
  randomAddr : HasFlag flags scanFlagRandomAddr ↔
    features.supportsRandomMacOneshotScan = true ∧ associated = false
  lowSpan : HasFlag flags scanFlagLowSpan ↔
    settings.scanType.toInt = scanTypeLowSpan ∧ features.supportsLowSpanOneshotScan = true
  lowPower : HasFlag flags scanFlagLowPower ↔
    settings.scanType.toInt = scanTypeLowPower ∧ features.supportsLowPowerOneshotScan = true
  highAccuracy : HasFlag flags scanFlagHighAccuracy ↔
    settings.scanType.toInt = scanTypeHighAccuracy ∧
      features.supportsHighAccuracyOneshotScan = true
  colocated6ghz : HasFlag flags scanFlagColocated6ghz ↔ settings.enable6ghzRnr = true
  noOthers : flags &&& ~~~(scanFlagRandomAddr ||| scanFlagLowSpan ||| scanFlagLowPower |||
    scanFlagHighAccuracy ||| scanFlagColocated6ghz) = 0

/-- The flags of a call of `Scan`, bit by bit. -/
theorem scanFlags_bits (requestRandomMac enable6ghzRnr : Bool) {scanType : ℤ}
    (h : scanType = scanTypeDefault ∨ scanType = scanTypeLowSpan ∨ scanType = scanTypeLowPower ∨
      scanType = scanTypeHighAccuracy) :
    ∃ flags, scanFlags requestRandomMac scanType enable6ghzRnr = some flags ∧
      (HasFlag flags scanFlagRandomAddr ↔ requestRandomMac = true) ∧
      (HasFlag flags scanFlagLowSpan ↔ scanType = scanTypeLowSpan) ∧
      (HasFlag flags scanFlagLowPower ↔ scanType = scanTypeLowPower) ∧
      (HasFlag flags scanFlagHighAccuracy ↔ scanType = scanTypeHighAccuracy) ∧
      (HasFlag flags scanFlagColocated6ghz ↔ enable6ghzRnr = true) ∧
      flags &&& ~~~(scanFlagRandomAddr ||| scanFlagLowSpan ||| scanFlagLowPower |||
        scanFlagHighAccuracy ||| scanFlagColocated6ghz) = 0 := by
  rcases h with rfl | rfl | rfl | rfl <;> cases requestRandomMac <;> cases enable6ghzRnr <;>
    exact ⟨_, rfl, by decide⟩

theorem valid_cases {settings : SingleScanSettings} (h : settings.isValidScanType = true) :
    settings.scanType.toInt = scanTypeLowSpan ∨ settings.scanType.toInt = scanTypeLowPower ∨
      settings.scanType.toInt = scanTypeHighAccuracy := by
  simpa [SingleScanSettings.isValidScanType] using h

/-- The scan type that is passed on is that of the settings if the device supports it. -/
theorem exists_supported {scanType : ℤ} (features : WiphyFeatures)
    (h : scanType = scanTypeLowSpan ∨ scanType = scanTypeLowPower ∨
      scanType = scanTypeHighAccuracy) :
    ∃ supported, isScanTypeSupported scanType features = some supported ∧
      let passed := if supported then scanType else scanTypeDefault
      (passed = scanTypeDefault ∨ passed = scanTypeLowSpan ∨ passed = scanTypeLowPower ∨
        passed = scanTypeHighAccuracy) ∧
      (passed = scanTypeLowSpan ↔
        scanType = scanTypeLowSpan ∧ features.supportsLowSpanOneshotScan = true) ∧
      (passed = scanTypeLowPower ↔
        scanType = scanTypeLowPower ∧ features.supportsLowPowerOneshotScan = true) ∧
      (passed = scanTypeHighAccuracy ↔
        scanType = scanTypeHighAccuracy ∧ features.supportsHighAccuracyOneshotScan = true) := by
  rcases h with rfl | rfl | rfl
  · refine ⟨features.supportsLowSpanOneshotScan, rfl, ?_⟩
    cases features.supportsLowSpanOneshotScan <;> simp [scanTypeDefault]
  · refine ⟨features.supportsLowPowerOneshotScan, rfl, ?_⟩
    cases features.supportsLowPowerOneshotScan <;> simp [scanTypeDefault]
  · refine ⟨features.supportsHighAccuracyOneshotScan, rfl, ?_⟩
    cases features.supportsHighAccuracyOneshotScan <;> simp [scanTypeDefault]

/-- What `Scan` is called with, and the flags that it makes of it. -/
theorem exists_scanArguments (associated : Bool) {settings : SingleScanSettings}
    (scanner : SingleScanner) (htype : settings.isValidScanType = true) :
    ∃ arguments flags, scanner.scanArguments associated settings = some arguments ∧
      arguments.ssids = ssids scanner.scanCapabilities.maxNumScanSsids settings.hiddenNetworks ∧
      arguments.freqs =
        settings.channelSettings.map (fun channel => channel.frequency.toUInt32) ∧
      arguments.vendorIes = settings.vendorIes ∧
      scanFlags arguments.requestRandomMac arguments.scanType arguments.enable6ghzRnr =
        some flags ∧ FlagsMatch associated settings scanner.wiphyFeatures flags := by
  obtain ⟨supported, hsupported, hpassed, hspan, hpower, haccuracy⟩ :=
    exists_supported scanner.wiphyFeatures (valid_cases htype)
  obtain ⟨flags, hflags, hrandom, hlowSpan, hlowPower, hhighAccuracy, hcolocated, hothers⟩ :=
    scanFlags_bits (scanner.wiphyFeatures.supportsRandomMacOneshotScan && !associated)
      settings.enable6ghzRnr hpassed
  let arguments : ScanUtils.ScanSettings := {
    requestRandomMac := scanner.wiphyFeatures.supportsRandomMacOneshotScan && !associated
    scanType := if supported then settings.scanType.toInt else scanTypeDefault
    enable6ghzRnr := settings.enable6ghzRnr
    ssids := ssids scanner.scanCapabilities.maxNumScanSsids settings.hiddenNetworks
    freqs := settings.channelSettings.map fun channel => channel.frequency.toUInt32
    vendorIes := settings.vendorIes }
  have harguments : scanner.scanArguments associated settings = some arguments := by
    rw [scanArguments, hsupported]
    rfl
  refine ⟨arguments, flags, harguments, rfl, rfl, rfl, hflags, ?_⟩
  refine ⟨?_, hlowSpan.trans hspan, hlowPower.trans hpower, hhighAccuracy.trans haccuracy,
    hcolocated, hothers⟩
  rw [hrandom]
  simp

theorem allHold_roots (settings : SingleScanSettings) (flags : UInt32) (scanner : SingleScanner) :
    AttrTree.AllHold (scanner.roots settings flags) := by
  have hindex := AttrTree.holdsDeep_uint32 attrIfindex scanner.interfaceIndex
  have hssids := AttrTree.holdsDeep_vectors attrScanSsids
  have hfreqs := AttrTree.allHold_ite (settings.channelSettings ≠ []) (AttrTree.holdsDeep_uint32s
    attrScanFrequencies (settings.channelSettings.map fun channel => channel.frequency.toUInt32))
  have hflags := AttrTree.allHold_ite (flags ≠ 0) (AttrTree.holdsDeep_uint32 attrScanFlags flags)
  have hies := AttrTree.allHold_ite (settings.vendorIes ≠ [])
    (AttrTree.holdsDeep_vector attrIe settings.vendorIes)
  rw [roots, AttrTree.allHold_append, AttrTree.allHold_append, AttrTree.allHold_append]
  exact ⟨⟨⟨⟨hindex, hssids _, trivial⟩, hfreqs⟩, hflags⟩, hies⟩

/-- With a valid scan type, and channels and vendor IEs that fit their attributes, a scan is
requested with the wild card and as many short SSIDs as the device takes, the channels, flags
that match, and the vendor IEs; each of the last three is left out when there is none. -/
theorem scanRequest_faithful (header : RequestHeader) (associated : Bool)
    (settings : SingleScanSettings) (scanner : SingleScanner)
    (htype : settings.isValidScanType = true) (hchannels : settings.channelSettings.length ≤ 8191)
    (hies : settings.vendorIes.length ≤ 65531) :
    ∃ packet flags, scanner.requestPacket header associated settings = some packet ∧
      packet.getCommand = .ok cmdTriggerScan.toNat ∧
      packet.Holds (scanner.roots settings flags) ∧
      FlagsMatch associated settings scanner.wiphyFeatures flags := by
  obtain ⟨arguments, flags, harguments, hssids, hfreqs, hvendor, hflags, hmatch⟩ :=
    exists_scanArguments associated scanner htype
  obtain ⟨packet, hpacket, hrequests⟩ :=
    scanRequest_requests header scanner.interfaceIndex arguments hflags
  have hroots : scanRoots scanner.interfaceIndex arguments flags =
      scanner.roots settings flags := by
    rw [scanRoots, roots, hssids, ssids_eq, hfreqs, hvendor]
    simp only [ne_eq, List.map_eq_nil_iff]
  have hfits : arguments.Fits := by
    refine ⟨?_, ?_, ?_⟩
    · rw [hssids]
      exact sum_ssids_lt _ _
    · rw [hfreqs, List.length_map]
      omega
    · rw [hvendor]
      omega
  have hallFit : AttrTree.AllFit (scanRoots scanner.interfaceIndex arguments flags) :=
    (allFit_scanRoots_iff scanner.interfaceIndex arguments).mpr hfits
  have harea := hrequests.area
  rw [hroots] at hallFit harea
  refine ⟨packet, flags, ?_, hrequests.command, ?_, hmatch⟩
  · rw [requestPacket, harguments]
    exact hpacket
  · exact (harea.holds_iff (allHold_roots settings flags scanner)).mpr hallFit

/-- A device with room for two SSIDs: of three hidden networks the first that is not too long
is asked for, next to the wild card. -/
theorem scanRequest_faithful_two_ssids :
    let scanner : SingleScanner := ⟨true, false, 0, 7, ⟨2, 0, 0, 0, 0, 0⟩,
      ⟨true, false, false, true, false, false, false⟩⟩
    let settings : SingleScanSettings := ⟨1, true, [⟨2412⟩, ⟨5180⟩],
      [⟨List.replicate 33 65⟩, ⟨[104, 105]⟩, ⟨[106]⟩], [221, 1, 0]⟩
    ∃ packet flags, scanner.requestPacket ⟨24, 1, 1⟩ false settings = some packet ∧
      packet.getCommand = .ok cmdTriggerScan.toNat ∧
      packet.Holds (scanner.roots settings flags) ∧
      FlagsMatch false settings scanner.wiphyFeatures flags := by
  intro scanner settings
  exact scanRequest_faithful ⟨24, 1, 1⟩ false settings scanner (by decide) (by decide) (by decide)

end SingleScanner

end Wificond
