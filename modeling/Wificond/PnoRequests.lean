import Wificond.ScheduledScan
import Wificond.SingleScan
import Std.Data.ExtTreeSet

/-!
# Preferred network offload

The scanner makes lists of SSIDs and frequencies of the preferred networks, within the
numbers of entries that the device takes. A network that is hidden and finds no room among
the SSIDs to scan for is skipped altogether; the length of an SSID is not looked at.
-/
namespace Wificond

open ScanUtils

/-- What `ParsePnoSettings` fills in, with the frequencies as they are collected. -/
structure PnoLists where
  scanSsids : List (List UInt8)
  matchSsids : List (List UInt8)
  matchSecurity : List UInt8
  uniqueFrequencies : Std.ExtTreeSet Int32
  numNetworksNoFreqs : ℕ

/-- `kPercentNetworksWithFreq` -/
abbrev percentNetworksWithFreq : ℕ := 30

def pnoScanDefaultFreqs2G : List Int32 :=
  [2412, 2417, 2422, 2427, 2432, 2437, 2447, 2452, 2457, 2462]

/-- Without DFS frequencies. -/
def pnoScanDefaultFreqs5G : List Int32 := [5180, 5200, 5220, 5240, 5745, 5765, 5785, 5805]

/-- The frequencies of any band. -/
def BandInfo.allFreqs (bandInfo : BandInfo) : List UInt32 :=
  bandInfo.band2g ++ bandInfo.band5g ++ bandInfo.bandDfs ++ bandInfo.band6g ++ bandInfo.band60g

namespace PnoLists

/-- An empty SSID for a wild card scan, and nothing else. -/
def initial : PnoLists := ⟨[[]], [], [], ∅, 0⟩

/-- Insert those frequencies that are supported. -/
def insertFrequencies (supported : List UInt32) (frequencies : List Int32) (lists : PnoLists) :
    PnoLists :=
  { lists with
    uniqueFrequencies := frequencies.foldl (fun unique frequency =>
      if frequency.toUInt32 ∈ supported then unique.insert frequency else unique)
      lists.uniqueFrequencies }

/-- The end of the pass for a network, where it is not skipped. -/
def addMatch (allFreqs : List UInt32) (network : PnoNetwork) (lists : PnoLists) : PnoLists :=
  let lists := { lists with
    matchSsids := lists.matchSsids ++ [network.ssid]
    matchSecurity := lists.matchSecurity ++ [0] }
  let lists := lists.insertFrequencies allFreqs network.frequencies
  if network.frequencies = [] then
    { lists with numNetworksNoFreqs := lists.numNetworksNoFreqs + 1 }
  else lists

/-- The pass of `ParsePnoSettings` for one network. What is skipped is logged. -/
def addNetwork (scanCapabilities : ScanCapabilities) (allFreqs : List UInt32) (lists : PnoLists)
    (network : PnoNetwork) : PnoLists :=
  if network.isHidden ∧
      lists.scanSsids.length + 1 > scanCapabilities.maxNumSchedScanSsids.toNat then lists
  else
    let lists :=
      if network.isHidden then { lists with scanSsids := lists.scanSsids ++ [network.ssid] }
      else lists
    if lists.matchSsids.length + 1 > scanCapabilities.maxMatchSets.toNat then lists
    else lists.addMatch allFreqs network

/-- Where too many networks come without frequencies, the default ones are scanned as well. -/
def addDefaultFrequencies (bandInfo : BandInfo) (lists : PnoLists) : PnoLists :=
  if lists.numNetworksNoFreqs * 100 > percentNetworksWithFreq * lists.matchSsids.length then
    (lists.insertFrequencies bandInfo.band2g pnoScanDefaultFreqs2G).insertFrequencies
      bandInfo.band5g pnoScanDefaultFreqs5G
  else lists

/-- In the order of the set, which is that of signed numbers. -/
def freqs (lists : PnoLists) : List UInt32 := lists.uniqueFrequencies.toList.map Int32.toUInt32

end PnoLists

def parsePnoSettings (scanCapabilities : ScanCapabilities) (bandInfo : BandInfo)
    (settings : PnoSettings) : PnoLists :=
  (settings.pnoNetworks.foldl (PnoLists.addNetwork scanCapabilities bandInfo.allFreqs)
    .initial).addDefaultFrequencies bandInfo

/-- The products are those of the machine's types: thirty-two bits for the capability and
sixty-four, signed, for the settings. -/
def generateIntervalSetting (scanCapabilities : ScanCapabilities) (settings : PnoSettings) :
    SchedScanIntervalSetting :=
  let supportNumScanPlans := 2 ≤ scanCapabilities.maxNumScanPlans
  let supportScanPlanInterval :=
    settings.intervalMs * settings.scanIntervalMultiplier.toUInt64.toInt64 ≤
      (scanCapabilities.maxScanPlanInterval * 1000).toUInt64.toInt64
  let supportScanPlanIterations :=
    settings.scanIterations ≤ scanCapabilities.maxScanPlanIterations
  let fastScanInterval := settings.intervalMs.toUInt64.toUInt32
  if supportNumScanPlans ∧ supportScanPlanInterval ∧ supportScanPlanIterations then
    ⟨[⟨fastScanInterval, settings.scanIterations⟩],
      fastScanInterval * settings.scanIntervalMultiplier⟩
  else ⟨[], fastScanInterval⟩

/-- What `StartPnoScanDefault` calls `StartScheduledScan` with. -/
def pnoScanArguments (scanCapabilities : ScanCapabilities) (wiphyFeatures : WiphyFeatures)
    (associated : Bool) (bandInfo : BandInfo) (settings : PnoSettings) : SchedScanSettings :=
  let lists := parsePnoSettings scanCapabilities bandInfo settings
  { intervalSetting := generateIntervalSetting scanCapabilities settings
    rssiThreshold2g := settings.min2gRssi
    rssiThreshold5g := settings.min5gRssi
    rssiThreshold6g := settings.min6gRssi
    reqFlags := {
      -- addresses are randomized only while the station is not associated
      requestRandomMac := wiphyFeatures.supportsRandomMacSchedScan && !associated
      requestLowPower := wiphyFeatures.supportsLowPowerOneshotScan
      requestSchedScanRelativeRssi := wiphyFeatures.supportsExtSchedScanRelativeRssi }
    scanSsids := lists.scanSsids
    matchSsids := lists.matchSsids
    freqs := lists.freqs }

section Lists
variable {scanCapabilities : ScanCapabilities} {allFreqs : List UInt32} {network : PnoNetwork}
  {networks : List PnoNetwork} {lists : PnoLists} {ssid : List UInt8}

def hiddenCount (networks : List PnoNetwork) : ℕ := networks.countP fun network => network.isHidden

def visibleCount (networks : List PnoNetwork) : ℕ :=
  networks.countP fun network => !network.isHidden

/-- The SSIDs to scan for, next to the wild card. -/
def scanRoom (scanCapabilities : ScanCapabilities) : ℕ :=
  scanCapabilities.maxNumSchedScanSsids.toNat - 1

/-- The networks that are not skipped for want of room among the SSIDs to scan for. -/
def matchDemand (scanCapabilities : ScanCapabilities) (networks : List PnoNetwork) : ℕ :=
  visibleCount networks + min (scanRoom scanCapabilities) (hiddenCount networks)

/-- Behind these networks, the SSID of the network gets on the list to scan for. -/
def AddsScan (scanCapabilities : ScanCapabilities) (before : List PnoNetwork)
    (network : PnoNetwork) : Prop :=
  network.isHidden = true ∧ hiddenCount before < scanRoom scanCapabilities

/-- Behind these networks, the SSID of the network gets on the list to match. -/
def AddsMatch (scanCapabilities : ScanCapabilities) (before : List PnoNetwork)
    (network : PnoNetwork) : Prop :=
  (network.isHidden = true → hiddenCount before < scanRoom scanCapabilities) ∧
    matchDemand scanCapabilities before < scanCapabilities.maxMatchSets.toNat

theorem hiddenCount_append : hiddenCount (networks ++ [network]) =
    hiddenCount networks + if network.isHidden then 1 else 0 := by
  simp [hiddenCount, List.countP_append, List.countP_cons]

theorem visibleCount_append : visibleCount (networks ++ [network]) =
    visibleCount networks + if network.isHidden then 0 else 1 := by
  cases hhidden : network.isHidden <;>
    simp [visibleCount, List.countP_append, hhidden]

namespace PnoLists

@[simp] theorem scanSsids_addMatch :
    (lists.addMatch allFreqs network).scanSsids = lists.scanSsids := by
  unfold addMatch
  dsimp only
  split_ifs <;> rfl

@[simp] theorem matchSsids_addMatch :
    (lists.addMatch allFreqs network).matchSsids = lists.matchSsids ++ [network.ssid] := by
  unfold addMatch
  dsimp only
  split_ifs <;> rfl

theorem scanSsids_addNetwork : (lists.addNetwork scanCapabilities allFreqs network).scanSsids =
    if network.isHidden = true ∧
      lists.scanSsids.length < scanCapabilities.maxNumSchedScanSsids.toNat then
      lists.scanSsids ++ [network.ssid] else lists.scanSsids := by
  have hfull : lists.scanSsids.length + 1 > scanCapabilities.maxNumSchedScanSsids.toNat ↔
      ¬ lists.scanSsids.length < scanCapabilities.maxNumSchedScanSsids.toNat := by omega
  unfold addNetwork
  cases network.isHidden with
  | false =>
    simp only [Bool.false_eq_true, false_and, if_false]
    split_ifs <;> simp
  | true =>
    simp only [true_and, if_true, hfull]
    by_cases hroom : lists.scanSsids.length < scanCapabilities.maxNumSchedScanSsids.toNat
    · rw [if_neg (not_not.mpr hroom), if_pos hroom]
      split_ifs <;> simp
    · rw [if_pos hroom, if_neg hroom]

theorem matchSsids_addNetwork : (lists.addNetwork scanCapabilities allFreqs network).matchSsids =
    if (network.isHidden = true →
        lists.scanSsids.length < scanCapabilities.maxNumSchedScanSsids.toNat) ∧
      lists.matchSsids.length < scanCapabilities.maxMatchSets.toNat then
      lists.matchSsids ++ [network.ssid] else lists.matchSsids := by
  have hfull : lists.scanSsids.length + 1 > scanCapabilities.maxNumSchedScanSsids.toNat ↔
      ¬ lists.scanSsids.length < scanCapabilities.maxNumSchedScanSsids.toNat := by omega
  have hmatch : lists.matchSsids.length + 1 > scanCapabilities.maxMatchSets.toNat ↔
      ¬ lists.matchSsids.length < scanCapabilities.maxMatchSets.toNat := by omega
  unfold addNetwork
  cases network.isHidden with
  | false =>
    simp only [Bool.false_eq_true, false_and, if_false, false_implies, true_and, hmatch]
    by_cases hroom : lists.matchSsids.length < scanCapabilities.maxMatchSets.toNat <;>
      simp [hroom]
  | true =>
    simp only [true_and, if_true, true_implies, hfull, hmatch]
    by_cases hscan : lists.scanSsids.length < scanCapabilities.maxNumSchedScanSsids.toNat <;>
      by_cases hroom : lists.matchSsids.length < scanCapabilities.maxMatchSets.toNat <;>
      simp [hscan, hroom]

/-- The lists behind the networks. -/
def after (scanCapabilities : ScanCapabilities) (allFreqs : List UInt32)
    (networks : List PnoNetwork) : PnoLists :=
  networks.foldl (addNetwork scanCapabilities allFreqs) initial

theorem after_append : after scanCapabilities allFreqs (networks ++ [network]) =
    (after scanCapabilities allFreqs networks).addNetwork scanCapabilities allFreqs network := by
  rw [after, List.foldl_append]
  rfl

theorem length_ite_append (c : Prop) [Decidable c] (ssids : List (List UInt8)) :
    (if c then ssids ++ [ssid] else ssids).length = ssids.length + if c then 1 else 0 := by
  split_ifs <;> simp

/-- Both lists are as long as the counts of networks and the capacities make them. -/
theorem length_after (scanCapabilities : ScanCapabilities) (allFreqs : List UInt32)
    (networks : List PnoNetwork) :
    (after scanCapabilities allFreqs networks).scanSsids.length =
        1 + min (scanRoom scanCapabilities) (hiddenCount networks) ∧
      (after scanCapabilities allFreqs networks).matchSsids.length =
        min scanCapabilities.maxMatchSets.toNat (matchDemand scanCapabilities networks) := by
  induction networks using List.reverseRecOn with
  | nil => simp [after, initial, matchDemand, hiddenCount, visibleCount]
  | append_singleton networks network ih =>
    obtain ⟨hscan, hmatch⟩ := ih
    have hroom : scanRoom scanCapabilities = scanCapabilities.maxNumSchedScanSsids.toNat - 1 := rfl
    rw [after_append, scanSsids_addNetwork, matchSsids_addNetwork, length_ite_append,
      length_ite_append]
    simp only [matchDemand, hiddenCount_append, visibleCount_append] at hmatch ⊢
    cases network.isHidden with
    | false =>
      simp only [Bool.false_eq_true, false_and, if_false, false_implies, true_and]
      constructor
      · omega
      · split_ifs <;> omega
    | true =>
      simp only [true_and, if_true, true_implies]
      constructor
      · split_ifs <;> omega
      · split_ifs <;> omega

theorem scanSsids_room_iff : (after scanCapabilities allFreqs networks).scanSsids.length <
      scanCapabilities.maxNumSchedScanSsids.toNat ↔
    hiddenCount networks < scanRoom scanCapabilities := by
  have hlength := (length_after scanCapabilities allFreqs networks).1
  have hroom : scanRoom scanCapabilities = scanCapabilities.maxNumSchedScanSsids.toNat - 1 := rfl
  omega

theorem matchSsids_room_iff : (after scanCapabilities allFreqs networks).matchSsids.length <
      scanCapabilities.maxMatchSets.toNat ↔
    matchDemand scanCapabilities networks < scanCapabilities.maxMatchSets.toNat := by
  have hlength := (length_after scanCapabilities allFreqs networks).2
  omega

/-- The wild card stays in front. -/
theorem scanSsids_after_eq_cons (networks : List PnoNetwork) :
    (after scanCapabilities allFreqs networks).scanSsids =
      [] :: (after scanCapabilities allFreqs networks).scanSsids.tail := by
  induction networks using List.reverseRecOn with
  | nil => rfl
  | append_singleton networks network ih =>
    rw [after_append, scanSsids_addNetwork]
    split_ifs
    · rw [ih]
      rfl
    · exact ih

/-- What is behind the wild card was added for a hidden network. -/
theorem mem_tail_scanSsids_after_iff :
    ssid ∈ (after scanCapabilities allFreqs networks).scanSsids.tail ↔
      ∃ before network rest, networks = before ++ network :: rest ∧
        AddsScan scanCapabilities before network ∧ network.ssid = ssid := by
  induction networks using List.reverseRecOn with
  | nil => simp [after, initial]
  | append_singleton networks network ih =>
    have hadds : network.isHidden = true ∧
        (after scanCapabilities allFreqs networks).scanSsids.length <
          scanCapabilities.maxNumSchedScanSsids.toNat ↔
        AddsScan scanCapabilities networks network := by
      rw [AddsScan, scanSsids_room_iff]
    have hne : (after scanCapabilities allFreqs networks).scanSsids ≠ [] := by
      rw [scanSsids_after_eq_cons]
      exact List.cons_ne_nil _ _
    rw [Runs.exists_split_append_singleton (Q := fun before n =>
      AddsScan scanCapabilities before n ∧ n.ssid = ssid), ← ih, after_append,
      scanSsids_addNetwork]
    by_cases hadd : AddsScan scanCapabilities networks network
    · rw [if_pos (hadds.mpr hadd), List.tail_append_of_ne_nil hne, List.mem_append,
        List.mem_singleton]
      simp only [hadd, true_and, eq_comm]
    · rw [if_neg (hadds.not.mpr hadd)]
      simp only [hadd, false_and, or_false]

theorem mem_scanSsids_after_iff : ssid ∈ (after scanCapabilities allFreqs networks).scanSsids ↔
    ssid = [] ∨ ∃ before network rest, networks = before ++ network :: rest ∧
      AddsScan scanCapabilities before network ∧ network.ssid = ssid := by
  rw [scanSsids_after_eq_cons, List.mem_cons, mem_tail_scanSsids_after_iff]

/-- There is room for the network behind the others. -/
theorem addsMatch_iff_room : AddsMatch scanCapabilities networks network ↔
    (network.isHidden = true →
      (after scanCapabilities allFreqs networks).scanSsids.length <
        scanCapabilities.maxNumSchedScanSsids.toNat) ∧
    (after scanCapabilities allFreqs networks).matchSsids.length <
      scanCapabilities.maxMatchSets.toNat := by
  rw [AddsMatch, scanSsids_room_iff, matchSsids_room_iff]

theorem mem_matchSsids_after_iff : ssid ∈ (after scanCapabilities allFreqs networks).matchSsids ↔
    ∃ before network rest, networks = before ++ network :: rest ∧
      AddsMatch scanCapabilities before network ∧ network.ssid = ssid := by
  induction networks using List.reverseRecOn with
  | nil => simp [after, initial]
  | append_singleton networks network ih =>
    have hadds : AddsMatch scanCapabilities networks network ↔ _ :=
      @addsMatch_iff_room _ allFreqs _ _
    rw [Runs.exists_split_append_singleton (Q := fun before n =>
      AddsMatch scanCapabilities before n ∧ n.ssid = ssid), ← ih, after_append,
      matchSsids_addNetwork]
    by_cases hadd : AddsMatch scanCapabilities networks network
    · rw [if_pos (hadds.mp hadd), List.mem_append, List.mem_singleton]
      simp only [hadd, true_and, eq_comm]
    · rw [if_neg (hadds.not.mp hadd)]
      simp only [hadd, false_and, or_false]

theorem scanSsids_addDefaultFrequencies (bandInfo : BandInfo) :
    (lists.addDefaultFrequencies bandInfo).scanSsids = lists.scanSsids := by
  unfold addDefaultFrequencies
  split_ifs <;> rfl

theorem matchSsids_addDefaultFrequencies (bandInfo : BandInfo) :
    (lists.addDefaultFrequencies bandInfo).matchSsids = lists.matchSsids := by
  unfold addDefaultFrequencies
  split_ifs <;> rfl

end PnoLists

end Lists

/-- No more entries than this, and none of them of more than 32 bytes. -/
structure SsidsFit (capacity : ℕ) (ssids : List (List UInt8)) : Prop where
  count : ssids.length ≤ capacity
  short : ∀ ssid ∈ ssids, ssid.length ≤ 32

/-- The lists of SSIDs that the scanner passes on, for a one-shot scan, unless the process is
aborted, and for preferred networks. -/
structure WithinLimits (scanner : SingleScanner) (associated : Bool) (bandInfo : BandInfo)
    (single : SingleScanSettings) (pno : PnoSettings) : Prop where
  single : ∀ arguments : ScanSettings, scanner.scanArguments associated single = some arguments →
    SsidsFit (max 1 scanner.scanCapabilities.maxNumScanSsids.toNat) arguments.ssids
  scan : SsidsFit (max 1 scanner.scanCapabilities.maxNumSchedScanSsids.toNat)
    (pnoScanArguments scanner.scanCapabilities scanner.wiphyFeatures associated bandInfo
      pno).scanSsids
  matching : SsidsFit scanner.scanCapabilities.maxMatchSets.toNat
    (pnoScanArguments scanner.scanCapabilities scanner.wiphyFeatures associated bandInfo
      pno).matchSsids

section Limits
variable (scanCapabilities : ScanCapabilities) (wiphyFeatures : WiphyFeatures)
  (associated : Bool) (bandInfo : BandInfo) (settings : PnoSettings)

theorem scanSsids_pnoScanArguments :
    (pnoScanArguments scanCapabilities wiphyFeatures associated bandInfo settings).scanSsids =
      (PnoLists.after scanCapabilities bandInfo.allFreqs settings.pnoNetworks).scanSsids :=
  PnoLists.scanSsids_addDefaultFrequencies bandInfo

theorem matchSsids_pnoScanArguments :
    (pnoScanArguments scanCapabilities wiphyFeatures associated bandInfo settings).matchSsids =
      (PnoLists.after scanCapabilities bandInfo.allFreqs settings.pnoNetworks).matchSsids :=
  PnoLists.matchSsids_addDefaultFrequencies bandInfo

theorem length_scanSsids_pnoScanArguments :
    (pnoScanArguments scanCapabilities wiphyFeatures associated bandInfo
        settings).scanSsids.length ≤ max 1 scanCapabilities.maxNumSchedScanSsids.toNat := by
  have hlength := (PnoLists.length_after scanCapabilities bandInfo.allFreqs
    settings.pnoNetworks).1
  have hroom : scanRoom scanCapabilities = scanCapabilities.maxNumSchedScanSsids.toNat - 1 := rfl
  rw [scanSsids_pnoScanArguments, hlength]
  omega

theorem length_matchSsids_pnoScanArguments :
    (pnoScanArguments scanCapabilities wiphyFeatures associated bandInfo
        settings).matchSsids.length ≤ scanCapabilities.maxMatchSets.toNat := by
  have hlength := (PnoLists.length_after scanCapabilities bandInfo.allFreqs
    settings.pnoNetworks).2
  rw [matchSsids_pnoScanArguments, hlength]
  exact min_le_left _ _

/-- The SSIDs of one-shot scans are within the limits, whatever the settings. -/
theorem SingleScanner.ssidsFit_scanArguments {scanner : SingleScanner} {associated : Bool}
    {settings : SingleScanSettings} {arguments : ScanSettings}
    (h : scanner.scanArguments associated settings = some arguments) :
    SsidsFit (max 1 scanner.scanCapabilities.maxNumScanSsids.toNat) arguments.ssids := by
  obtain ⟨supported, -, harguments⟩ := Option.bind_eq_some_iff.mp h
  cases harguments
  exact ⟨SingleScanner.length_ssids_le _ _, fun ssid hssid =>
    SingleScanner.length_le_of_mem_ssids hssid⟩

/-- The networks whose SSID gets on a list of a request for preferred networks have one of 32
bytes at most exactly if each other one comes when there is no room left for it. -/
theorem short_pnoScanArguments_iff :
    ((∀ ssid ∈ (pnoScanArguments scanCapabilities wiphyFeatures associated bandInfo
          settings).scanSsids, ssid.length ≤ 32) ∧
        ∀ ssid ∈ (pnoScanArguments scanCapabilities wiphyFeatures associated bandInfo
          settings).matchSsids, ssid.length ≤ 32) ↔
      ∀ before network rest, settings.pnoNetworks = before ++ network :: rest →
        32 < network.ssid.length →
        if network.isHidden then scanRoom scanCapabilities ≤ hiddenCount before
        else scanCapabilities.maxMatchSets.toNat ≤ matchDemand scanCapabilities before := by
  simp only [scanSsids_pnoScanArguments, matchSsids_pnoScanArguments,
    PnoLists.mem_scanSsids_after_iff, PnoLists.mem_matchSsids_after_iff]
  constructor
  · rintro ⟨hscan, hmatch⟩ before network rest hnetworks hlong
    by_cases hhidden : network.isHidden = true
    · rw [if_pos hhidden]
      by_contra hroom
      have := hscan network.ssid
        (.inr ⟨before, network, rest, hnetworks, ⟨hhidden, by omega⟩, rfl⟩)
      omega
    · rw [if_neg hhidden]
      by_contra hroom
      have := hmatch network.ssid
        ⟨before, network, rest, hnetworks, ⟨fun h => absurd h hhidden, by omega⟩, rfl⟩
      omega
  · intro h
    constructor
    · intro ssid hssid
      rcases hssid with rfl | ⟨before, network, rest, hnetworks, ⟨hhidden, hroom⟩, rfl⟩
      · exact Nat.zero_le 32
      · by_contra hlong
        have hfull := h before network rest hnetworks (by omega)
        rw [if_pos hhidden] at hfull
        omega
    · rintro ssid ⟨before, network, rest, hnetworks, ⟨hscan, hroom⟩, rfl⟩
      by_contra hlong
      have hfull := h before network rest hnetworks (by omega)
      by_cases hhidden : network.isHidden = true
      · rw [if_pos hhidden] at hfull
        have := hscan hhidden
        omega
      · rw [if_neg hhidden] at hfull
        omega

end Limits

/-- Only one-shot scans are free of SSIDs of more than 32 bytes. Those of preferred networks
are within the limits exactly if each longer SSID comes when there is no room left for it:
for a hidden network, among the SSIDs to scan for, and for another one, among those to match. -/
theorem requests_withinLimits_iff (scanner : SingleScanner) (associated : Bool)
    (bandInfo : BandInfo) (single : SingleScanSettings) (pno : PnoSettings) :
    WithinLimits scanner associated bandInfo single pno ↔
      ∀ before network rest, pno.pnoNetworks = before ++ network :: rest →
        32 < network.ssid.length →
        if network.isHidden then scanRoom scanner.scanCapabilities ≤ hiddenCount before
        else scanner.scanCapabilities.maxMatchSets.toNat ≤
          matchDemand scanner.scanCapabilities before := by
  rw [← short_pnoScanArguments_iff scanner.scanCapabilities scanner.wiphyFeatures associated
    bandInfo pno]
  constructor
  · intro h
    exact ⟨h.scan.short, h.matching.short⟩
  · rintro ⟨hscan, hmatching⟩
    exact {
      single := fun arguments => SingleScanner.ssidsFit_scanArguments
      scan := ⟨length_scanSsids_pnoScanArguments _ _ _ _ _, hscan⟩
      matching := ⟨length_matchSsids_pnoScanArguments _ _ _ _ _, hmatching⟩ }

/-- An SSID of 33 bytes is among those to match, where a device takes 16 of them. -/
theorem long_ssid_requested :
    ¬ WithinLimits ⟨true, false, 0, 3, ⟨10, 11, 16, 2, 1000, 5⟩,
        ⟨true, true, true, true, true, true, true⟩⟩ false ⟨[2412], [], [], [], []⟩
      ⟨0, false, [], [], []⟩
      ⟨20000, -80, -77, -77, 3, 3, [⟨false, List.replicate 33 97, [2412]⟩]⟩ := by
  intro h
  have hlength := h.matching.short (List.replicate 33 97)
  rw [matchSsids_pnoScanArguments] at hlength
  exact absurd (hlength (List.mem_singleton.mpr rfl)) (by decide)

end Wificond
