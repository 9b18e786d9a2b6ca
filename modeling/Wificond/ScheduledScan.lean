import Wificond.RequestContents

/-!
# Requests for scheduled scans

The request of `StartScheduledScan`: match sets and scan plans are lists of nested attributes,
and a single interval takes the place of the plans when there are none.
-/
namespace Wificond

open LittleEndian PaddedTlv

namespace ScanUtils

structure ScanPlan where
  intervalMs : UInt32
  nIterations : UInt32
  deriving DecidableEq

structure SchedScanIntervalSetting where
  plans : List ScanPlan
  finalIntervalMs : UInt32
  deriving DecidableEq

structure SchedScanReqFlags where
  requestRandomMac : Bool
  requestLowPower : Bool
  requestSchedScanRelativeRssi : Bool
  deriving DecidableEq

/-- What `StartScheduledScan` is called with. The threshold for 6 GHz is not sent. -/
structure SchedScanSettings where
  intervalSetting : SchedScanIntervalSetting
  rssiThreshold2g : Int32
  rssiThreshold5g : Int32
  rssiThreshold6g : Int32
  reqFlags : SchedScanReqFlags
  scanSsids : List (List UInt8)
  matchSsids : List (List UInt8)
  freqs : List UInt32

/-- `kMsecPerSec` -/
abbrev msecPerSec : UInt32 := 1000

def matchGroup (rssiThreshold5g : Int32) (i : ℕ) (ssid : List UInt8) : NL80211NestedAttr :=
  let group := NL80211NestedAttr.ofId i
  let group := group.addAttribute (NL80211Attr.ofBytes schedScanMatchAttrSsid ssid)
  group.addAttribute (NL80211Attr.ofInt .int32 schedScanMatchAttrRssi rssiThreshold5g.toInt)

/-- The low byte of the difference, which wraps around in thirty-two bits. -/
def rssiDelta (rssiThreshold2g rssiThreshold5g : Int32) : Int8 :=
  (rssiThreshold2g - rssiThreshold5g).toInt8

/-- The bytes of `nl80211_bss_select_rssi_adjust`, for `NL80211_BAND_2GHZ`. -/
def rssiAdjust (settings : SchedScanSettings) : List UInt8 :=
  [0, (rssiDelta settings.rssiThreshold2g settings.rssiThreshold5g).toUInt8]

def planInterval (intervalMs : UInt32) : BaseNL80211Attr :=
  NL80211Attr.ofInt .uint32 schedScanPlanInterval (intervalMs / msecPerSec).toNat

/-- Plans are numbered from one. -/
def scanPlan (i : ℕ) (plan : ScanPlan) : NL80211NestedAttr :=
  let attr := (NL80211NestedAttr.ofId (i + 1)).addAttribute (planInterval plan.intervalMs)
  attr.addAttribute (NL80211Attr.ofInt .uint32 schedScanPlanIterations plan.nIterations.toNat)

/-- The plans, and one more without a count of iterations. -/
def scanPlans (setting : SchedScanIntervalSetting) : NL80211NestedAttr :=
  let last := NL80211NestedAttr.ofId (setting.plans.length + 1)
  (nestedList attrSchedScanPlans scanPlan setting.plans).addAttribute
    (last.addAttribute (planInterval setting.finalIntervalMs))

def schedScanFlags (reqFlags : SchedScanReqFlags) : UInt32 :=
  (if reqFlags.requestRandomMac then scanFlagRandomAddr else 0) |||
    if reqFlags.requestLowPower then scanFlagLowPower else 0

/-- The request of `StartScheduledScan`. -/
def schedScanRequest (header : RequestHeader) (interfaceIndex : UInt32)
    (settings : SchedScanSettings) : NL80211Packet :=
  let packet := (header.request cmdStartSchedScan).addFlag nlmFAck
  let packet := packet.addAttribute (nestedList attrSchedScanMatch
    (matchGroup settings.rssiThreshold5g) settings.matchSsids)
  let packet :=
    if settings.reqFlags.requestSchedScanRelativeRssi then
      packet.addAttribute (NL80211Attr.ofBytes attrSchedScanRssiAdjust (rssiAdjust settings))
    else packet
  let packet := packet.addAttribute (NL80211Attr.ofInt .uint32 attrIfindex interfaceIndex.toNat)
  let packet := packet.addAttribute
    (nestedList attrScanSsids NL80211Attr.ofBytes settings.scanSsids)
  let packet :=
    if settings.freqs ≠ [] then
      packet.addAttribute (nestedList attrScanFrequencies
        (fun i freq => NL80211Attr.ofInt .uint32 i freq.toNat) settings.freqs)
    else packet
  let packet :=
    if settings.intervalSetting.plans ≠ [] then
      packet.addAttribute (scanPlans settings.intervalSetting)
    else packet.addAttribute (NL80211Attr.ofInt .uint32 attrSchedScanInterval
      settings.intervalSetting.finalIntervalMs.toNat)
  let flags := schedScanFlags settings.reqFlags
  if flags ≠ 0 then packet.addAttribute (NL80211Attr.ofInt .uint32 attrScanFlags flags.toNat)
  else packet

/-- A match set for an SSID and its index. -/
def matchTree (rssiThreshold5g : Int32) (entry : List UInt8 × ℕ) : AttrTree :=
  .nested entry.2 [.leaf schedScanMatchAttrSsid .vector entry.1,
    .leaf schedScanMatchAttrRssi (.int .int32) rssiThreshold5g.toInt]

/-- A plan of this many seconds. -/
def planTree (id : ℕ) (seconds : UInt32) (iterations : List AttrTree) : AttrTree :=
  .nested id (.leaf schedScanPlanInterval (.int .uint32) seconds.toNat :: iterations)

def iterationsTree (nIterations : UInt32) : AttrTree :=
  .leaf schedScanPlanIterations (.int .uint32) nIterations.toNat

/-- The plans, or the interval where there are none. -/
def intervalTree (setting : SchedScanIntervalSetting) : AttrTree :=
  if setting.plans ≠ [] then
    .nested attrSchedScanPlans ((setting.plans.zipIdx.map fun entry =>
        planTree (entry.2 + 1) (entry.1.intervalMs / 1000) [iterationsTree entry.1.nIterations]) ++
      [planTree (setting.plans.length + 1) (setting.finalIntervalMs / 1000) []])
  else .leaf attrSchedScanInterval (.int .uint32) setting.finalIntervalMs.toNat

def schedScanRoots (interfaceIndex : UInt32) (settings : SchedScanSettings) : List AttrTree :=
  [.nested attrSchedScanMatch
    (settings.matchSsids.zipIdx.map (matchTree settings.rssiThreshold5g))] ++
  (if settings.reqFlags.requestSchedScanRelativeRssi then
    [.leaf attrSchedScanRssiAdjust .vector (rssiAdjust settings)] else []) ++
  [.leaf attrIfindex (.int .uint32) interfaceIndex.toNat] ++
  [.nested attrScanSsids (indexedLeaves .vector settings.scanSsids)] ++
  (if settings.freqs ≠ [] then
    [.nested attrScanFrequencies (indexedLeaves (.int .uint32)
      (settings.freqs.map fun freq => (freq.toNat : ℤ)))] else []) ++
  [intervalTree settings.intervalSetting] ++
  (if schedScanFlags settings.reqFlags ≠ 0 then
    [.leaf attrScanFlags (.int .uint32) (schedScanFlags settings.reqFlags).toNat] else [])

theorem matchGroup_eq (rssiThreshold5g : Int32) (entry : List UInt8 × ℕ) :
    matchGroup rssiThreshold5g entry.2 entry.1 = (matchTree rssiThreshold5g entry).attr := rfl

theorem scanPlan_eq (entry : ScanPlan × ℕ) : scanPlan entry.2 entry.1 =
    (planTree (entry.2 + 1) (entry.1.intervalMs / 1000)
      [iterationsTree entry.1.nIterations]).attr := rfl

theorem scanPlans_eq (setting : SchedScanIntervalSetting) : scanPlans setting =
    (AttrTree.nested attrSchedScanPlans ((setting.plans.zipIdx.map fun entry =>
        planTree (entry.2 + 1) (entry.1.intervalMs / 1000) [iterationsTree entry.1.nIterations]) ++
      [planTree (setting.plans.length + 1) (setting.finalIntervalMs / 1000) []])).attr := by
  rw [AttrTree.attr_nested_append, ← AttrTree.nestedList_eq_attr attrSchedScanPlans scanPlan_eq]
  rfl

variable (header : RequestHeader) (interfaceIndex : UInt32) (settings : SchedScanSettings)

theorem interval_ite_eq (packet : NL80211Packet) :
    (if settings.intervalSetting.plans ≠ [] then
        packet.addAttribute (scanPlans settings.intervalSetting)
      else packet.addAttribute (NL80211Attr.ofInt .uint32 attrSchedScanInterval
        settings.intervalSetting.finalIntervalMs.toNat)) =
      packet.addAttribute (intervalTree settings.intervalSetting).attr := by
  unfold intervalTree
  split_ifs with hplans
  · rw [scanPlans_eq]
  · rfl

theorem schedScanRequest_requests :
    (schedScanRequest header interfaceIndex settings).Requests cmdStartSchedScan
      (schedScanRoots interfaceIndex settings) := by
  have hfresh := (requests_request header cmdStartSchedScan).addFlag nlmFAck
  have hmatch := hfresh.addTree (AttrTree.nestedList_eq_attr attrSchedScanMatch
    (matchGroup_eq settings.rssiThreshold5g) settings.matchSsids)
  have hrssi := hmatch.addTree_ite
    (t := .leaf attrSchedScanRssiAdjust .vector (rssiAdjust settings)) rfl
    (settings.reqFlags.requestSchedScanRelativeRssi = true)
  have hindex := hrssi.addTree (t := .leaf attrIfindex (.int .uint32) interfaceIndex.toNat) rfl
  have hssids := hindex.addTree (nestedList_eq attrScanSsids .vector settings.scanSsids)
  have hfreqs := hssids.addTree_ite (nestedList_freqs settings.freqs) (settings.freqs ≠ [])
  have hinterval := hfreqs.addTree (t := intervalTree settings.intervalSetting) rfl
  rw [← interval_ite_eq] at hinterval
  exact hinterval.addTree_ite
    (t := .leaf attrScanFlags (.int .uint32) (schedScanFlags settings.reqFlags).toNat) rfl
    (schedScanFlags settings.reqFlags ≠ 0)

theorem holdsDeep_matchTree (rssiThreshold5g : Int32) (entry : List UInt8 × ℕ) :
    (matchTree rssiThreshold5g entry).HoldsDeep := by
  rw [matchTree, AttrTree.HoldsDeep]
  exact ⟨trivial, AttrTree.holdsDeep_int32 schedScanMatchAttrRssi rssiThreshold5g, trivial⟩

theorem holdsDeep_planTree (id : ℕ) (seconds : UInt32) {iterations : List AttrTree}
    (h : AttrTree.AllHold iterations) : (planTree id seconds iterations).HoldsDeep := by
  rw [planTree, AttrTree.HoldsDeep]
  exact ⟨AttrTree.holdsDeep_uint32 schedScanPlanInterval seconds, h⟩

theorem holdsDeep_iterationsTree (nIterations : UInt32) : (iterationsTree nIterations).HoldsDeep :=
  AttrTree.holdsDeep_uint32 schedScanPlanIterations nIterations

theorem holdsDeep_intervalTree (setting : SchedScanIntervalSetting) :
    (intervalTree setting).HoldsDeep := by
  rw [intervalTree]
  split_ifs
  · rw [AttrTree.HoldsDeep, AttrTree.allHold_append, AttrTree.allHold_iff]
    refine ⟨fun t ht => ?_, holdsDeep_planTree _ _ trivial, trivial⟩
    obtain ⟨entry, -, rfl⟩ := List.mem_map.mp ht
    exact holdsDeep_planTree _ _ ⟨holdsDeep_iterationsTree entry.1.nIterations, trivial⟩
  · exact AttrTree.holdsDeep_uint32 attrSchedScanInterval setting.finalIntervalMs

theorem allHold_schedScanRoots : AttrTree.AllHold (schedScanRoots interfaceIndex settings) := by
  simp only [schedScanRoots, AttrTree.allHold_append]
  refine ⟨⟨⟨⟨⟨⟨⟨?_, trivial⟩, ?_⟩, ?_, trivial⟩, ?_, trivial⟩, ?_⟩, ?_, trivial⟩, ?_⟩
  · rw [AttrTree.HoldsDeep, AttrTree.allHold_iff]
    intro t ht
    obtain ⟨entry, -, rfl⟩ := List.mem_map.mp ht
    exact holdsDeep_matchTree settings.rssiThreshold5g entry
  · exact AttrTree.allHold_ite _ (AttrTree.holdsDeep_vector _ _)
  · exact AttrTree.holdsDeep_uint32 attrIfindex interfaceIndex
  · exact AttrTree.holdsDeep_vectors attrScanSsids settings.scanSsids
  · exact AttrTree.allHold_ite _ (AttrTree.holdsDeep_uint32s attrScanFrequencies settings.freqs)
  · exact holdsDeep_intervalTree settings.intervalSetting
  · exact AttrTree.allHold_ite _ (AttrTree.holdsDeep_uint32 attrScanFlags _)

theorem numbered_matchTree (rssiThreshold5g : Int32) (entry : List UInt8 × ℕ) :
    (matchTree rssiThreshold5g entry).Numbered := by
  rw [matchTree, AttrTree.Numbered]
  exact ⟨by simp [AttrTree.id], trivial, trivial, trivial⟩

theorem numbered_planTree (id : ℕ) (seconds : UInt32) {iterations : List AttrTree}
    (h : iterations = [] ∨ ∃ nIterations, iterations = [iterationsTree nIterations]) :
    (planTree id seconds iterations).Numbered := by
  rw [planTree, AttrTree.Numbered]
  rcases h with rfl | ⟨nIterations, rfl⟩
  · exact ⟨by simp [AttrTree.id], trivial, trivial⟩
  · exact ⟨by simp [AttrTree.id, iterationsTree], trivial, trivial, trivial⟩

theorem numbered_intervalTree (setting : SchedScanIntervalSetting) :
    (intervalTree setting).Numbered := by
  rw [intervalTree]
  split_ifs
  · rw [AttrTree.Numbered, AttrTree.allNumbered_append, AttrTree.allNumbered_iff]
    refine ⟨fun t ht => ?_, fun t ht => ?_, numbered_planTree _ _ (.inl rfl), trivial⟩
    · rw [List.length_append, List.length_map, List.length_zipIdx, List.length_singleton]
      rcases List.mem_append.mp ht with hplan | hlast
      · obtain ⟨entry, hentry, rfl⟩ := List.mem_map.mp hplan
        have hlt := List.snd_lt_of_mem_zipIdx hentry
        show entry.2 + 1 ≤ setting.plans.length + 1
        omega
      · rw [List.mem_singleton.mp hlast]
        exact Nat.le_refl _
    · obtain ⟨entry, -, rfl⟩ := List.mem_map.mp ht
      exact numbered_planTree _ _ (.inr ⟨entry.1.nIterations, rfl⟩)
  · trivial

theorem allNumbered_schedScanRoots :
    AttrTree.AllNumbered (schedScanRoots interfaceIndex settings) := by
  simp only [schedScanRoots, AttrTree.allNumbered_append]
  refine ⟨⟨⟨⟨⟨⟨⟨?_, trivial⟩, ?_⟩, trivial, trivial⟩, ?_, trivial⟩, ?_⟩, ?_, trivial⟩, ?_⟩
  · exact AttrTree.numbered_nested_zipIdx attrSchedScanMatch settings.matchSsids (fun _ => rfl)
      (numbered_matchTree settings.rssiThreshold5g)
  · exact AttrTree.allNumbered_ite _ trivial
  · exact AttrTree.numbered_indexedLeaves attrScanSsids .vector settings.scanSsids
  · exact AttrTree.allNumbered_ite _ (AttrTree.numbered_indexedLeaves attrScanFrequencies _ _)
  · exact numbered_intervalTree settings.intervalSetting
  · exact AttrTree.allNumbered_ite _ trivial

theorem id_schedScanRoots_lt : ∀ t ∈ schedScanRoots interfaceIndex settings, t.id < 2 ^ 16 := by
  intro t ht
  simp only [schedScanRoots, List.mem_append, List.mem_singleton, List.mem_ite_nil_right] at ht
  rcases ht with (((((rfl | ⟨-, rfl⟩) | rfl) | rfl) | ⟨-, rfl⟩) | rfl) | ⟨-, rfl⟩
  case inl.inr =>
    unfold intervalTree
    split_ifs
    · show attrSchedScanPlans < 2 ^ 16
      decide
    · show attrSchedScanInterval < 2 ^ 16
      decide
  · show attrSchedScanMatch < 2 ^ 16
    decide
  · show attrSchedScanRssiAdjust < 2 ^ 16
    decide
  · show attrIfindex < 2 ^ 16
    decide
  · show attrScanSsids < 2 ^ 16
    decide
  · show attrScanFrequencies < 2 ^ 16
    decide
  · show attrScanFlags < 2 ^ 16
    decide

/-- The flags of a scheduled scan, bit by bit. -/
theorem schedScanFlags_bits (reqFlags : SchedScanReqFlags) :
    (HasFlag (schedScanFlags reqFlags) scanFlagRandomAddr ↔ reqFlags.requestRandomMac = true) ∧
      (HasFlag (schedScanFlags reqFlags) scanFlagLowPower ↔ reqFlags.requestLowPower = true) ∧
      schedScanFlags reqFlags &&& ~~~(scanFlagRandomAddr ||| scanFlagLowPower) = 0 := by
  obtain ⟨random, lowPower, relativeRssi⟩ := reqFlags
  cases random <;> cases lowPower <;> cases relativeRssi <;>
    exact ⟨by decide, by decide, by decide⟩

/-- A request of `StartScheduledScan` holds what it was called with exactly if every attribute
that is added to the packet fits its length. -/
theorem schedScanRequest_faithful_iff :
    (schedScanRequest header interfaceIndex settings).getCommand = .ok cmdStartSchedScan.toNat ∧
    ((schedScanRequest header interfaceIndex settings).Holds
        (schedScanRoots interfaceIndex settings) ↔
      ∀ root ∈ schedScanRoots interfaceIndex settings,
        nlaHdrlen + root.payload.length < 2 ^ 16) ∧
    (HasFlag (schedScanFlags settings.reqFlags) scanFlagRandomAddr ↔
      settings.reqFlags.requestRandomMac = true) ∧
    (HasFlag (schedScanFlags settings.reqFlags) scanFlagLowPower ↔
      settings.reqFlags.requestLowPower = true) ∧
    schedScanFlags settings.reqFlags &&& ~~~(scanFlagRandomAddr ||| scanFlagLowPower) = 0 := by
  have hrequests := schedScanRequest_requests header interfaceIndex settings
  refine ⟨hrequests.command, ?_, schedScanFlags_bits settings.reqFlags⟩
  rw [hrequests.area.holds_iff (allHold_schedScanRoots interfaceIndex settings)]
  exact AttrTree.allFit_iff_lengths (allNumbered_schedScanRoots interfaceIndex settings)
    (id_schedScanRoots_lt interfaceIndex settings)

end ScanUtils

end Wificond
