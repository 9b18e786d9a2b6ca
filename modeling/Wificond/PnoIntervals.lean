import Wificond.PnoRequests

/-!
# Intervals and thresholds of preferred network offload

The scanner multiplies and compares intervals in the types of the machine, and the request
holds a difference of thresholds in one byte. The results are those of unbounded numbers
exactly for settings within ranges that nothing checks.
-/
namespace Wificond

open LittleEndian PaddedTlv ScanUtils

theorem toInt_toInt64_toUInt64 (n : UInt32) : n.toUInt64.toInt64.toInt = n.toNat := by
  have hlt := n.toNat_lt
  have hval : n.toBitVec.toNat = n.toNat := rfl
  show (BitVec.setWidth 64 n.toBitVec).toInt = n.toNat
  rw [BitVec.toInt_setWidth, hval, Int.bmod_eq_of_le_mul_two]
  · omega
  · omega

theorem toNat_toUInt32_toUInt64 (n : Int64) :
    (n.toUInt64.toUInt32.toNat : ℤ) = n.toInt % 2 ^ 32 := by
  have hlt := n.toBitVec.isLt
  show ((n.toBitVec.toNat % 2 ^ 32 : ℕ) : ℤ) = n.toBitVec.toInt % 2 ^ 32
  rw [BitVec.toInt_eq_toNat_bmod, Int.bmod_def]
  split_ifs <;> omega

/-- The final interval of the two plans, without bounds. -/
def slowInterval (settings : PnoSettings) : ℤ :=
  settings.intervalMs.toInt * settings.scanIntervalMultiplier.toNat

/-- The device takes the two plans, by unbounded numbers. -/
structure TakesPlans (scanCapabilities : ScanCapabilities) (settings : PnoSettings) : Prop where
  number : 2 ≤ scanCapabilities.maxNumScanPlans.toNat
  interval : slowInterval settings ≤ scanCapabilities.maxScanPlanInterval.toNat * 1000
  iterations : settings.scanIterations.toNat ≤ scanCapabilities.maxScanPlanIterations.toNat

/-- What `GenerateIntervalSetting` is to return, in unbounded numbers. -/
structure IntervalsExact (scanCapabilities : ScanCapabilities) (settings : PnoSettings) : Prop where
  form : (generateIntervalSetting scanCapabilities settings).plans ≠ [] ↔
    TakesPlans scanCapabilities settings
  plans : (generateIntervalSetting scanCapabilities settings).plans ≠ [] →
    ∃ interval, (generateIntervalSetting scanCapabilities settings).plans =
        [⟨interval, settings.scanIterations⟩] ∧
      (interval.toNat : ℤ) = settings.intervalMs.toInt ∧
      ((generateIntervalSetting scanCapabilities settings).finalIntervalMs.toNat : ℤ) =
        slowInterval settings
  single : (generateIntervalSetting scanCapabilities settings).plans = [] →
    ((generateIntervalSetting scanCapabilities settings).finalIntervalMs.toNat : ℤ) =
      settings.intervalMs.toInt

section Intervals
variable {scanCapabilities : ScanCapabilities} {settings : PnoSettings}

/-- The cast to 32 bits. -/
def fastScanInterval (settings : PnoSettings) : UInt32 := settings.intervalMs.toUInt64.toUInt32

/-- The comparison that the scanner makes: the product wraps around in 64 bits, and that of
the capability in 32. -/
def ChoosesPlans (scanCapabilities : ScanCapabilities) (settings : PnoSettings) : Prop :=
  2 ≤ scanCapabilities.maxNumScanPlans.toNat ∧
    (slowInterval settings).bmod (2 ^ 64) ≤
      scanCapabilities.maxScanPlanInterval.toNat * 1000 % 2 ^ 32 ∧
    settings.scanIterations.toNat ≤ scanCapabilities.maxScanPlanIterations.toNat

theorem supportScanPlanInterval_iff :
    settings.intervalMs * settings.scanIntervalMultiplier.toUInt64.toInt64 ≤
        (scanCapabilities.maxScanPlanInterval * 1000).toUInt64.toInt64 ↔
      (slowInterval settings).bmod (2 ^ 64) ≤
        scanCapabilities.maxScanPlanInterval.toNat * 1000 % 2 ^ 32 := by
  rw [Int64.le_iff_toInt_le, Int64.toInt_mul, toInt_toInt64_toUInt64, toInt_toInt64_toUInt64,
    UInt32.toNat_mul]
  rfl

theorem generateIntervalSetting_of_choosesPlans (h : ChoosesPlans scanCapabilities settings) :
    generateIntervalSetting scanCapabilities settings =
      ⟨[⟨fastScanInterval settings, settings.scanIterations⟩],
        fastScanInterval settings * settings.scanIntervalMultiplier⟩ := by
  obtain ⟨hnumber, hinterval, hiterations⟩ := h
  exact if_pos ⟨UInt32.le_iff_toNat_le.mpr hnumber, supportScanPlanInterval_iff.mpr hinterval,
    UInt32.le_iff_toNat_le.mpr hiterations⟩

theorem generateIntervalSetting_of_not_choosesPlans
    (h : ¬ ChoosesPlans scanCapabilities settings) :
    generateIntervalSetting scanCapabilities settings = ⟨[], fastScanInterval settings⟩ := by
  apply if_neg
  rintro ⟨hnumber, hinterval, hiterations⟩
  exact h ⟨UInt32.le_iff_toNat_le.mp hnumber, supportScanPlanInterval_iff.mp hinterval,
    UInt32.le_iff_toNat_le.mp hiterations⟩

theorem fastScanInterval_eq_iff : ((fastScanInterval settings).toNat : ℤ) =
    settings.intervalMs.toInt ↔
      0 ≤ settings.intervalMs.toInt ∧ settings.intervalMs.toInt < 2 ^ 32 := by
  rw [fastScanInterval, toNat_toUInt32_toUInt64]
  omega

theorem toNat_finalInterval (h : ((fastScanInterval settings).toNat : ℤ) =
    settings.intervalMs.toInt) :
    ((fastScanInterval settings * settings.scanIntervalMultiplier).toNat : ℤ) =
      slowInterval settings % 2 ^ 32 := by
  rw [UInt32.toNat_mul, slowInterval, ← h]
  push_cast
  rfl

/-- Both forms hold the interval of the settings itself. -/
theorem IntervalsExact.fastScanInterval_eq (h : IntervalsExact scanCapabilities settings) :
    ((fastScanInterval settings).toNat : ℤ) = settings.intervalMs.toInt := by
  by_cases hchooses : ChoosesPlans scanCapabilities settings
  · have hgenerated := generateIntervalSetting_of_choosesPlans hchooses
    obtain ⟨interval, hplans, hinterval, -⟩ := h.plans (by simp [hgenerated])
    rw [hgenerated] at hplans
    cases hplans
    exact hinterval
  · have hgenerated := generateIntervalSetting_of_not_choosesPlans hchooses
    have hsingle := h.single (by rw [hgenerated])
    rwa [hgenerated] at hsingle

theorem plans_ne_nil_iff : (generateIntervalSetting scanCapabilities settings).plans ≠ [] ↔
    ChoosesPlans scanCapabilities settings := by
  by_cases hchooses : ChoosesPlans scanCapabilities settings
  · simp [generateIntervalSetting_of_choosesPlans hchooses, hchooses]
  · simp [generateIntervalSetting_of_not_choosesPlans hchooses, hchooses]

/-- An interval of 32 bits leaves the product within 64 bits without a sign. -/
theorem slowInterval_bounds (h : 0 ≤ settings.intervalMs.toInt ∧
    settings.intervalMs.toInt < 2 ^ 32) :
    0 ≤ slowInterval settings ∧ slowInterval settings < 2 ^ 64 := by
  obtain ⟨hnonneg, hlt⟩ := h
  have hmultiplier := settings.scanIntervalMultiplier.toNat_lt
  constructor
  · exact mul_nonneg hnonneg (Int.natCast_nonneg _)
  · calc slowInterval settings
        ≤ 2 ^ 32 * settings.scanIntervalMultiplier.toNat :=
          mul_le_mul_of_nonneg_right hlt.le (Int.natCast_nonneg _)
      _ < 2 ^ 64 := by omega

/-- Where the number of plans and the iterations are supported, the comparison of the machine
is the one of unbounded numbers exactly if neither product wraps around to a difference. -/
theorem comparison_exact_iff (h : 0 ≤ settings.intervalMs.toInt ∧
    settings.intervalMs.toInt < 2 ^ 32) :
    ((slowInterval settings).bmod (2 ^ 64) ≤
        scanCapabilities.maxScanPlanInterval.toNat * 1000 % 2 ^ 32 ↔
      slowInterval settings ≤ scanCapabilities.maxScanPlanInterval.toNat * 1000) ↔
    slowInterval settings < 2 ^ 63 ∧
      (slowInterval settings ≤ scanCapabilities.maxScanPlanInterval.toNat * 1000 →
        slowInterval settings ≤ scanCapabilities.maxScanPlanInterval.toNat * 1000 % 2 ^ 32) := by
  obtain ⟨hnonneg, hlt⟩ := slowInterval_bounds h
  have hcapability := scanCapabilities.maxScanPlanInterval.toNat_lt
  rw [Int.bmod_def]
  split_ifs with hwrap
  · constructor
    · intro hiff
      exact ⟨by omega, fun hle => by have := hiff.mpr hle; omega⟩
    · rintro ⟨-, hle⟩
      exact ⟨fun hcode => by omega, fun hexact => by have := hle hexact; omega⟩
  · constructor
    · intro hiff
      have := hiff.mp (by omega)
      omega
    · rintro ⟨hsmall, -⟩
      omega

theorem form_exact_iff (h : 0 ≤ settings.intervalMs.toInt ∧
    settings.intervalMs.toInt < 2 ^ 32) :
    (ChoosesPlans scanCapabilities settings ↔ TakesPlans scanCapabilities settings) ↔
      (2 ≤ scanCapabilities.maxNumScanPlans.toNat →
        settings.scanIterations.toNat ≤ scanCapabilities.maxScanPlanIterations.toNat →
        slowInterval settings < 2 ^ 63 ∧
          (slowInterval settings ≤ scanCapabilities.maxScanPlanInterval.toNat * 1000 →
            slowInterval settings ≤
              scanCapabilities.maxScanPlanInterval.toNat * 1000 % 2 ^ 32)) := by
  rw [← comparison_exact_iff h]
  constructor
  · intro hform hnumber hiterations
    constructor
    · intro hcode
      exact (hform.mp ⟨hnumber, hcode, hiterations⟩).interval
    · intro hexact
      exact (hform.mpr ⟨hnumber, hexact, hiterations⟩).2.1
  · intro hcomparison
    constructor
    · rintro ⟨hnumber, hcode, hiterations⟩
      exact ⟨hnumber, (hcomparison hnumber hiterations).mp hcode, hiterations⟩
    · rintro ⟨hnumber, hexact, hiterations⟩
      exact ⟨hnumber, (hcomparison hnumber hiterations).mpr hexact, hiterations⟩

theorem intervals_exact_iff : IntervalsExact scanCapabilities settings ↔
    (0 ≤ settings.intervalMs.toInt ∧ settings.intervalMs.toInt < 2 ^ 32) ∧
      (ChoosesPlans scanCapabilities settings ↔ TakesPlans scanCapabilities settings) := by
  constructor
  · intro h
    exact ⟨fastScanInterval_eq_iff.mp h.fastScanInterval_eq, plans_ne_nil_iff.symm.trans h.form⟩
  · rintro ⟨hrange, hform⟩
    have hfast := fastScanInterval_eq_iff.mpr hrange
    refine ⟨plans_ne_nil_iff.trans hform, fun hplans => ?_, fun hsingle => ?_⟩
    · have hchooses := plans_ne_nil_iff.mp hplans
      rw [generateIntervalSetting_of_choosesPlans hchooses]
      refine ⟨_, rfl, hfast, ?_⟩
      have hbounds := slowInterval_bounds hrange
      have hcapability := scanCapabilities.maxScanPlanInterval.toNat_lt
      have hchosen := hchooses.2.1
      have hexact := (hform.mp hchooses).interval
      rw [Int.bmod_eq_of_le_mul_two (by omega) (by omega)] at hchosen
      rw [toNat_finalInterval hfast]
      omega
    · have hchooses : ¬ ChoosesPlans scanCapabilities settings := fun h =>
        plans_ne_nil_iff.mpr h hsingle
      rw [generateIntervalSetting_of_not_choosesPlans hchooses]
      exact hfast

end Intervals

theorem toInt_rssiDelta (rssiThreshold2g rssiThreshold5g : Int32) :
    (rssiDelta rssiThreshold2g rssiThreshold5g).toInt =
      (rssiThreshold2g.toInt - rssiThreshold5g.toInt).bmod (2 ^ 8) := by
  rw [rssiDelta, Int32.toInt_toInt8, Int32.toInt_sub, Int.bmod_bmod_of_dvd (by decide)]

theorem rssiDelta_exact_iff (rssiThreshold2g rssiThreshold5g : Int32) :
    (rssiDelta rssiThreshold2g rssiThreshold5g).toInt =
        rssiThreshold2g.toInt - rssiThreshold5g.toInt ↔
      -128 ≤ rssiThreshold2g.toInt - rssiThreshold5g.toInt ∧
        rssiThreshold2g.toInt - rssiThreshold5g.toInt ≤ 127 := by
  rw [toInt_rssiDelta, Int.bmod_def]
  split_ifs <;> omega

/-- A request holds an adjustment only where one is requested, and only that one. -/
theorem rssiAdjust_mem_schedScanRoots_iff (interfaceIndex : UInt32) (settings : SchedScanSettings)
    (bytes : List UInt8) :
    AttrTree.leaf attrSchedScanRssiAdjust .vector bytes ∈ schedScanRoots interfaceIndex settings ↔
      settings.reqFlags.requestSchedScanRelativeRssi = true ∧ bytes = rssiAdjust settings := by
  have hinterval : AttrTree.leaf attrSchedScanRssiAdjust .vector bytes ≠
      intervalTree settings.intervalSetting := by
    unfold intervalTree
    split_ifs <;> simp
  simp [schedScanRoots, hinterval]

/-- What is sent for preferred networks, in unbounded numbers: the intervals, and the
adjustment in the request where there is one. -/
structure PnoArithmeticExact (scanCapabilities : ScanCapabilities) (wiphyFeatures : WiphyFeatures)
    (associated : Bool) (bandInfo : BandInfo) (interfaceIndex : UInt32)
    (settings : PnoSettings) : Prop where
  intervals : IntervalsExact scanCapabilities settings
  adjustment : ∀ delta : Int8, AttrTree.leaf attrSchedScanRssiAdjust .vector [0, delta.toUInt8] ∈
      schedScanRoots interfaceIndex
        (pnoScanArguments scanCapabilities wiphyFeatures associated bandInfo settings) →
    delta.toInt = settings.min2gRssi.toInt - settings.min5gRssi.toInt

section Adjustment
variable (scanCapabilities : ScanCapabilities) (wiphyFeatures : WiphyFeatures)
  (associated : Bool) (bandInfo : BandInfo) (interfaceIndex : UInt32) (settings : PnoSettings)

/-- The adjustment of a request for preferred networks. -/
theorem adjustment_mem_iff (delta : Int8) :
    AttrTree.leaf attrSchedScanRssiAdjust .vector [0, delta.toUInt8] ∈
        schedScanRoots interfaceIndex
          (pnoScanArguments scanCapabilities wiphyFeatures associated bandInfo settings) ↔
      wiphyFeatures.supportsExtSchedScanRelativeRssi = true ∧
        delta = rssiDelta settings.min2gRssi settings.min5gRssi := by
  rw [rssiAdjust_mem_schedScanRoots_iff]
  apply and_congr_right
  intro _
  constructor
  · intro hbytes
    have hbyte : delta.toUInt8 = (rssiDelta settings.min2gRssi settings.min5gRssi).toUInt8 :=
      (List.cons.inj (List.cons.inj hbytes).2).1
    exact congrArg Int8.ofUInt8 hbyte
  · rintro rfl
    rfl

/-- The intervals and the adjustment are those of unbounded numbers exactly if the interval
fits 32 bits without a sign, no product wraps around to another choice of plans, and the
difference of the thresholds, where it is sent, fits a byte with a sign. -/
theorem pnoArithmetic_exact_iff :
    PnoArithmeticExact scanCapabilities wiphyFeatures associated bandInfo interfaceIndex settings ↔
      (0 ≤ settings.intervalMs.toInt ∧ settings.intervalMs.toInt < 2 ^ 32) ∧
      (2 ≤ scanCapabilities.maxNumScanPlans.toNat →
        settings.scanIterations.toNat ≤ scanCapabilities.maxScanPlanIterations.toNat →
        slowInterval settings < 2 ^ 63 ∧
          (slowInterval settings ≤ scanCapabilities.maxScanPlanInterval.toNat * 1000 →
            slowInterval settings ≤
              scanCapabilities.maxScanPlanInterval.toNat * 1000 % 2 ^ 32)) ∧
      (wiphyFeatures.supportsExtSchedScanRelativeRssi = true →
        -128 ≤ settings.min2gRssi.toInt - settings.min5gRssi.toInt ∧
          settings.min2gRssi.toInt - settings.min5gRssi.toInt ≤ 127) := by
  constructor
  · rintro ⟨hintervals, hadjustment⟩
    obtain ⟨hrange, hform⟩ := intervals_exact_iff.mp hintervals
    refine ⟨hrange, (form_exact_iff hrange).mp hform, fun hsupported => ?_⟩
    apply (rssiDelta_exact_iff settings.min2gRssi settings.min5gRssi).mp
    exact hadjustment _ ((adjustment_mem_iff _ _ _ _ _ _ _).mpr ⟨hsupported, rfl⟩)
  · rintro ⟨hrange, hform, hthresholds⟩
    refine ⟨intervals_exact_iff.mpr ⟨hrange, (form_exact_iff hrange).mpr hform⟩, ?_⟩
    intro delta hmem
    obtain ⟨hsupported, rfl⟩ := (adjustment_mem_iff _ _ _ _ _ _ _).mp hmem
    exact (rssiDelta_exact_iff settings.min2gRssi settings.min5gRssi).mpr (hthresholds hsupported)

end Adjustment

/-- An interval of 2 ^ 32 milliseconds is requested as none at all. -/
theorem interval_of_32_bits_lost :
    ¬ PnoArithmeticExact ⟨10, 11, 16, 2, 65535, 5⟩ ⟨true, true, true, true, true, true, true⟩
      false ⟨[2412], [], [], [], []⟩ 3 ⟨4294967296, -80, -77, -77, 3, 3, []⟩ := by
  intro h
  have hsingle := h.intervals.single (by decide)
  revert hsingle
  decide

end Wificond
