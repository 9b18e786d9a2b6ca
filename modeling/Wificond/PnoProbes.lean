import Wificond.PnoRequests

/-!
# Probes for hidden networks

A hidden network is found only by asking for its SSID on air, and what answers is reported
only if the SSID is among those to match. The two lists have capacities of their own, and the
SSID gets on the list to ask for before there is seen to be room on the other one.
-/
namespace Wificond

/-- Every SSID that is asked for, other than the wild card in front, is matched. -/
def ProbesReported (scanCapabilities : ScanCapabilities) (bandInfo : BandInfo)
    (settings : PnoSettings) : Prop :=
  ∀ ssid ∈ (parsePnoSettings scanCapabilities bandInfo settings).scanSsids.tail,
    ssid ∈ (parsePnoSettings scanCapabilities bandInfo settings).matchSsids

/-- Behind these networks there is room among the SSIDs to match, or there was room for an
earlier network with the SSID. -/
def MatchRoomFor (scanCapabilities : ScanCapabilities) (before : List PnoNetwork)
    (ssid : List UInt8) : Prop :=
  matchDemand scanCapabilities before < scanCapabilities.maxMatchSets.toNat ∨
    ∃ earlier network between, before = earlier ++ network :: between ∧ network.ssid = ssid ∧
      (network.isHidden = true → hiddenCount earlier < scanRoom scanCapabilities) ∧
      matchDemand scanCapabilities earlier < scanCapabilities.maxMatchSets.toNat

section Demand
variable {scanCapabilities : ScanCapabilities} {network : PnoNetwork} {before : List PnoNetwork}

/-- Networks that come later take no room back. -/
theorem matchDemand_mono (before rest : List PnoNetwork) :
    matchDemand scanCapabilities before ≤ matchDemand scanCapabilities (before ++ rest) := by
  have hhidden : hiddenCount before ≤ hiddenCount (before ++ rest) := by
    simp [hiddenCount, List.countP_append]
  have hvisible : visibleCount before ≤ visibleCount (before ++ rest) := by
    simp [visibleCount, List.countP_append]
  unfold matchDemand
  omega

/-- An SSID that is asked for gets on the list to match for its own network or for an earlier
one: behind a full list there is no room for later networks. -/
theorem matchRoomFor_iff {rest : List PnoNetwork}
    (hadds : AddsScan scanCapabilities before network) :
    MatchRoomFor scanCapabilities before network.ssid ↔
      ∃ earlier other later, before ++ network :: rest = earlier ++ other :: later ∧
        AddsMatch scanCapabilities earlier other ∧ other.ssid = network.ssid := by
  constructor
  · intro hroom
    rcases hroom with hown | ⟨earlier, other, between, rfl, hssid, hscan, hmatch⟩
    · exact ⟨before, network, rest, rfl, ⟨fun _ => hadds.2, hown⟩, rfl⟩
    · exact ⟨earlier, other, between ++ network :: rest, by simp, ⟨hscan, hmatch⟩, hssid⟩
  · intro hmatched
    obtain ⟨earlier, other, later, hsplit, ⟨hscan, hmatch⟩, hssid⟩ := hmatched
    rcases List.append_eq_append_iff.mp hsplit with
      ⟨between, hearlier, -⟩ | ⟨between, hbefore, htail⟩
    · left
      have hmono := @matchDemand_mono scanCapabilities before between
      rw [← hearlier] at hmono
      omega
    · cases between with
      | nil =>
        left
        simpa [hbefore] using hmatch
      | cons first between =>
        obtain ⟨rfl, -⟩ := List.cons.inj htail
        exact .inr ⟨earlier, _, between, hbefore, hssid, hscan, hmatch⟩

end Demand

/-- For all settings and capabilities, every probe is reported exactly if each hidden network
that finds room among the SSIDs to ask for finds room among those to match, or an earlier
network of its SSID does. -/
theorem probesReported_iff (scanCapabilities : ScanCapabilities) (bandInfo : BandInfo)
    (settings : PnoSettings) :
    ProbesReported scanCapabilities bandInfo settings ↔
      ∀ before network rest, settings.pnoNetworks = before ++ network :: rest →
        network.isHidden = true → hiddenCount before < scanRoom scanCapabilities →
        MatchRoomFor scanCapabilities before network.ssid := by
  have hscan : (parsePnoSettings scanCapabilities bandInfo settings).scanSsids =
      (PnoLists.after scanCapabilities bandInfo.allFreqs settings.pnoNetworks).scanSsids :=
    PnoLists.scanSsids_addDefaultFrequencies bandInfo
  have hmatch : (parsePnoSettings scanCapabilities bandInfo settings).matchSsids =
      (PnoLists.after scanCapabilities bandInfo.allFreqs settings.pnoNetworks).matchSsids :=
    PnoLists.matchSsids_addDefaultFrequencies bandInfo
  unfold ProbesReported
  simp only [hscan, hmatch, PnoLists.mem_tail_scanSsids_after_iff,
    PnoLists.mem_matchSsids_after_iff]
  constructor
  · intro hreported before network rest hnetworks hhidden hroom
    have hadds : AddsScan scanCapabilities before network := ⟨hhidden, hroom⟩
    have hmatched := hreported network.ssid ⟨before, network, rest, hnetworks, hadds, rfl⟩
    rw [hnetworks] at hmatched
    exact (matchRoomFor_iff hadds).mpr hmatched
  · intro hrooms ssid hprobed
    obtain ⟨before, network, rest, hnetworks, hadds, rfl⟩ := hprobed
    rw [hnetworks]
    exact (matchRoomFor_iff hadds).mp (hrooms before network rest hnetworks hadds.1 hadds.2)

/-- A device takes three SSIDs to ask for and one to match. A network that is not hidden takes
the one to match, and the hidden one behind it is asked for all the same. -/
theorem hidden_probe_unreported :
    let scanCapabilities : ScanCapabilities := ⟨1, 3, 1, 0, 0, 0⟩
    let settings : PnoSettings :=
      ⟨20000, -80, -77, -77, 3, 3, [⟨false, [97], []⟩, ⟨true, [98], []⟩]⟩
    let lists := parsePnoSettings scanCapabilities ⟨[], [], [], [], []⟩ settings
    lists.scanSsids = [[], [98]] ∧ lists.matchSsids = [[97]] ∧
      ¬ ProbesReported scanCapabilities ⟨[], [], [], [], []⟩ settings := by
  intro scanCapabilities settings lists
  have hscan : lists.scanSsids = [[], [98]] := by decide +kernel
  have hmatch : lists.matchSsids = [[97]] := by decide +kernel
  refine ⟨hscan, hmatch, fun hreported => ?_⟩
  have hmatched : [98] ∈ lists.matchSsids := hreported [98] (by
    show [98] ∈ lists.scanSsids.tail
    simp [hscan])
  rw [hmatch] at hmatched
  exact absurd hmatched (by decide)

end Wificond
