import Wificond.PnoRequests

/-!
# The frequencies of preferred network offload

The frequencies of the accepted networks are filtered by those that the device supports,
and collected in a set. Where too many networks name none, the default frequencies of two
bands join them. The set is ordered as signed numbers, the list is read as unsigned ones.
-/
namespace Wificond

variable {scanCapabilities : ScanCapabilities} {allFreqs supported : List UInt32}
  {networks : List PnoNetwork} {network : PnoNetwork} {lists : PnoLists}

instance (before : List PnoNetwork) (network : PnoNetwork) :
    Decidable (AddsMatch scanCapabilities before network) :=
  inferInstanceAs (Decidable ((network.isHidden = true → _) ∧ _))

/-- Behind the networks before them, those that get on the list to match. -/
def acceptedBehind (scanCapabilities : ScanCapabilities) (before : List PnoNetwork) :
    List PnoNetwork → List PnoNetwork
  | [] => []
  | network :: networks =>
    if AddsMatch scanCapabilities before network then
      network :: acceptedBehind scanCapabilities (before ++ [network]) networks
    else acceptedBehind scanCapabilities (before ++ [network]) networks

abbrev accepted (scanCapabilities : ScanCapabilities) (networks : List PnoNetwork) :
    List PnoNetwork :=
  acceptedBehind scanCapabilities [] networks

theorem acceptedBehind_append (before : List PnoNetwork) :
    acceptedBehind scanCapabilities before (networks ++ [network]) =
      acceptedBehind scanCapabilities before networks ++
        if AddsMatch scanCapabilities (before ++ networks) network then [network] else [] := by
  induction networks generalizing before with
  | nil => simp [acceptedBehind]
  | cons first networks ih =>
    rw [List.cons_append, acceptedBehind, acceptedBehind, ih]
    split_ifs <;> simp_all

theorem accepted_append : accepted scanCapabilities (networks ++ [network]) =
    accepted scanCapabilities networks ++
      if AddsMatch scanCapabilities networks network then [network] else [] :=
  acceptedBehind_append []

namespace PnoLists

theorem mem_insertFrequencies (frequencies : List Int32) (frequency : Int32) :
    frequency ∈ (lists.insertFrequencies supported frequencies).uniqueFrequencies ↔
      frequency ∈ lists.uniqueFrequencies ∨
        frequency ∈ frequencies ∧ frequency.toUInt32 ∈ supported := by
  unfold insertFrequencies
  generalize lists.uniqueFrequencies = unique
  induction frequencies generalizing unique with
  | nil => simp
  | cons first frequencies ih =>
    rw [List.foldl_cons, ih]
    by_cases hfirst : first.toUInt32 ∈ supported
    · have hinsert : frequency ∈ unique.insert first ↔ first = frequency ∨ frequency ∈ unique := by
        rw [Std.ExtTreeSet.mem_insert, Std.LawfulEqCmp.compare_eq_iff_eq]
      rw [if_pos hfirst, hinsert, List.mem_cons]
      constructor
      · rintro ((rfl | hunique) | ⟨hmem, hsupported⟩)
        · exact .inr ⟨.inl rfl, hfirst⟩
        · exact .inl hunique
        · exact .inr ⟨.inr hmem, hsupported⟩
      · rintro (hunique | ⟨rfl | hmem, hsupported⟩)
        · exact .inl (.inr hunique)
        · exact .inl (.inl rfl)
        · exact .inr ⟨hmem, hsupported⟩
    · rw [if_neg hfirst, List.mem_cons]
      constructor
      · rintro (hunique | ⟨hmem, hsupported⟩)
        · exact .inl hunique
        · exact .inr ⟨.inr hmem, hsupported⟩
      · rintro (hunique | ⟨rfl | hmem, hsupported⟩)
        · exact .inl hunique
        · exact absurd hsupported hfirst
        · exact .inr ⟨hmem, hsupported⟩

theorem uniqueFrequencies_addMatch : (lists.addMatch allFreqs network).uniqueFrequencies =
    (lists.insertFrequencies allFreqs network.frequencies).uniqueFrequencies := by
  unfold addMatch
  dsimp only
  split_ifs <;> rfl

theorem numNetworksNoFreqs_addMatch : (lists.addMatch allFreqs network).numNetworksNoFreqs =
    lists.numNetworksNoFreqs + if network.frequencies = [] then 1 else 0 := by
  unfold addMatch
  dsimp only
  split_ifs <;> rfl

/-- Behind other networks, a network is accepted, or at most its SSID is scanned for. -/
theorem after_append_cases :
    ∃ scanSsids, after scanCapabilities allFreqs (networks ++ [network]) =
      if AddsMatch scanCapabilities networks network then
        PnoLists.addMatch allFreqs network
          { after scanCapabilities allFreqs networks with scanSsids := scanSsids }
      else { after scanCapabilities allFreqs networks with scanSsids := scanSsids } := by
  have hadds : AddsMatch scanCapabilities networks network ↔ _ :=
    @addsMatch_iff_room _ allFreqs _ _
  rw [after_append]
  generalize after scanCapabilities allFreqs networks = lists at hadds ⊢
  unfold addNetwork
  by_cases hhidden : network.isHidden = true
  · by_cases hscan : lists.scanSsids.length + 1 > scanCapabilities.maxNumSchedScanSsids.toNat
    · have hnot : ¬ AddsMatch scanCapabilities networks network := by
        rw [hadds]
        intro h
        have hroom := h.1 hhidden
        omega
      rw [if_pos ⟨hhidden, hscan⟩]
      exact ⟨lists.scanSsids, by rw [if_neg hnot]⟩
    · refine ⟨lists.scanSsids ++ [network.ssid], ?_⟩
      rw [if_neg (fun h => hscan h.2), if_pos hhidden]
      by_cases hmatch : lists.matchSsids.length + 1 > scanCapabilities.maxMatchSets.toNat
      · have hnot : ¬ AddsMatch scanCapabilities networks network := by
          rw [hadds]
          omega
        rw [if_neg hnot]
        exact if_pos hmatch
      · have hadd : AddsMatch scanCapabilities networks network :=
          hadds.mpr ⟨fun _ => by omega, by omega⟩
        rw [if_pos hadd]
        exact if_neg hmatch
  · refine ⟨lists.scanSsids, ?_⟩
    rw [if_neg (fun h => hhidden h.1), if_neg hhidden]
    by_cases hmatch : lists.matchSsids.length + 1 > scanCapabilities.maxMatchSets.toNat
    · have hnot : ¬ AddsMatch scanCapabilities networks network := by
        rw [hadds]
        omega
      rw [if_neg hnot]
      exact if_pos hmatch
    · have hadd : AddsMatch scanCapabilities networks network :=
        hadds.mpr ⟨fun h => absurd h hhidden, by omega⟩
      rw [if_pos hadd]
      exact if_neg hmatch

/-- What the lists hold of the accepted networks. -/
structure Collected (allFreqs : List UInt32) (accepted : List PnoNetwork) (lists : PnoLists) :
    Prop where
  matchSsids : lists.matchSsids = accepted.map PnoNetwork.ssid
  noFreqs : lists.numNetworksNoFreqs = accepted.countP (·.frequencies.isEmpty)
  mem_iff : ∀ frequency, frequency ∈ lists.uniqueFrequencies ↔
    frequency.toUInt32 ∈ allFreqs ∧ ∃ network ∈ accepted, frequency ∈ network.frequencies

theorem collected_addMatch {accepted : List PnoNetwork} (h : Collected allFreqs accepted lists) :
    Collected allFreqs (accepted ++ [network]) (lists.addMatch allFreqs network) where
  matchSsids := by simp [h.matchSsids]
  noFreqs := by
    rw [numNetworksNoFreqs_addMatch, h.noFreqs, List.countP_append, List.countP_singleton]
    simp only [List.isEmpty_iff]
  mem_iff frequency := by
    rw [uniqueFrequencies_addMatch, mem_insertFrequencies, h.mem_iff]
    simp only [List.mem_append, List.mem_singleton, exists_or, exists_eq_left,
      and_or_left, and_comm]

theorem collected_after (networks : List PnoNetwork) :
    Collected allFreqs (accepted scanCapabilities networks)
      (after scanCapabilities allFreqs networks) := by
  induction networks using List.reverseRecOn with
  | nil => exact ⟨rfl, rfl, by simp [after, initial, acceptedBehind]⟩
  | append_singleton networks network ih =>
    obtain ⟨scanSsids, hafter⟩ := @after_append_cases scanCapabilities allFreqs networks network
    have hbase : Collected allFreqs (accepted scanCapabilities networks)
        { after scanCapabilities allFreqs networks with scanSsids := scanSsids } :=
      ⟨ih.matchSsids, ih.noFreqs, ih.mem_iff⟩
    rw [hafter, accepted_append]
    split_ifs
    · exact collected_addMatch hbase
    · rwa [List.append_nil]

theorem mem_addDefaultFrequencies (bandInfo : BandInfo) (frequency : Int32) :
    frequency ∈ (lists.addDefaultFrequencies bandInfo).uniqueFrequencies ↔
      frequency ∈ lists.uniqueFrequencies ∨
        percentNetworksWithFreq * lists.matchSsids.length < 100 * lists.numNetworksNoFreqs ∧
          (frequency ∈ pnoScanDefaultFreqs2G ∧ frequency.toUInt32 ∈ bandInfo.band2g ∨
            frequency ∈ pnoScanDefaultFreqs5G ∧ frequency.toUInt32 ∈ bandInfo.band5g) := by
  have hcond : lists.numNetworksNoFreqs * 100 > percentNetworksWithFreq * lists.matchSsids.length ↔
      percentNetworksWithFreq * lists.matchSsids.length < 100 * lists.numNetworksNoFreqs := by
    omega
  unfold addDefaultFrequencies
  by_cases hmany : percentNetworksWithFreq * lists.matchSsids.length <
      100 * lists.numNetworksNoFreqs
  · rw [if_pos (hcond.mpr hmany), mem_insertFrequencies, mem_insertFrequencies, or_assoc]
    simp only [hmany, true_and]
  · rw [if_neg (hcond.not.mpr hmany)]
    simp only [hmany, false_and, or_false]

end PnoLists

/-- Frequencies that fit the signed type are ordered in the same way in both types. -/
theorem toUInt32_lt_of_lt {a b : Int32} (ha : a.toUInt32.toNat < 2 ^ 31)
    (hb : b.toUInt32.toNat < 2 ^ 31) (h : a < b) : a.toUInt32 < b.toUInt32 := by
  have hvalue : ∀ c : Int32, c.toUInt32.toNat < 2 ^ 31 → c.toInt = c.toUInt32.toNat := by
    intro c hc
    rw [← Int32.toInt_toBitVec, ← Int32.toNat_toBitVec]
    apply BitVec.toInt_eq_toNat_of_lt
    rw [Int32.toNat_toBitVec]
    omega
  have hint := Int32.lt_iff_toInt_lt.mp h
  rw [hvalue a ha, hvalue b hb] at hint
  rw [UInt32.lt_iff_toNat_lt]
  omega

/-- The list is in the order of unsigned numbers where all of it fits the signed type. -/
theorem PnoLists.pairwise_freqs (h : ∀ frequency ∈ lists.uniqueFrequencies,
    frequency.toUInt32.toNat < 2 ^ 31) : lists.freqs.Pairwise (· < ·) := by
  have horder : lists.uniqueFrequencies.toList.Pairwise fun a b => compare a b = .lt :=
    Std.ExtTreeSet.ordered_toList
  rw [PnoLists.freqs, List.pairwise_map]
  refine horder.imp_of_mem fun {a b} ha hb hlt => ?_
  rw [Std.ExtTreeSet.mem_toList] at ha hb
  exact toUInt32_lt_of_lt (h a ha) (h b hb) (compareOfLessAndEq_eq_lt.mp hlt)

section Settings
variable (scanCapabilities : ScanCapabilities) (bandInfo : BandInfo) (settings : PnoSettings)

/-- Supported, and named by a network that is accepted. -/
def IsNamed (frequency : UInt32) : Prop :=
  frequency ∈ bandInfo.allFreqs ∧
    ∃ network ∈ accepted scanCapabilities settings.pnoNetworks,
      ∃ named ∈ network.frequencies, named.toUInt32 = frequency

/-- Supported in its band, and one of the defaults of that band. -/
def IsDefault (frequency : UInt32) : Prop :=
  frequency ∈ pnoScanDefaultFreqs2G.map Int32.toUInt32 ∧ frequency ∈ bandInfo.band2g ∨
    frequency ∈ pnoScanDefaultFreqs5G.map Int32.toUInt32 ∧ frequency ∈ bandInfo.band5g

/-- More than the percentage of the accepted networks name no frequency. -/
def ManyWithoutFreqs : Prop :=
  30 * (accepted scanCapabilities settings.pnoNetworks).length <
    100 * (accepted scanCapabilities settings.pnoNetworks).countP (·.frequencies.isEmpty)

theorem mem_parsePnoSettings (frequency : Int32) :
    frequency ∈ (parsePnoSettings scanCapabilities bandInfo settings).uniqueFrequencies ↔
      IsNamed scanCapabilities bandInfo settings frequency.toUInt32 ∨
        ManyWithoutFreqs scanCapabilities settings ∧ IsDefault bandInfo frequency.toUInt32 := by
  have hafter := @PnoLists.collected_after scanCapabilities bandInfo.allFreqs settings.pnoNetworks
  have hinj : ∀ a b : Int32, a.toUInt32 = b.toUInt32 ↔ a = b := fun a b =>
    ⟨fun h => by simpa using congrArg UInt32.toInt32 h, congrArg Int32.toUInt32⟩
  rw [parsePnoSettings, PnoLists.mem_addDefaultFrequencies]
  change frequency ∈ (PnoLists.after scanCapabilities bandInfo.allFreqs
      settings.pnoNetworks).uniqueFrequencies ∨ _ * (PnoLists.after scanCapabilities
      bandInfo.allFreqs settings.pnoNetworks).matchSsids.length < 100 * (PnoLists.after
      scanCapabilities bandInfo.allFreqs settings.pnoNetworks).numNetworksNoFreqs ∧ _ ↔ _
  rw [hafter.mem_iff, hafter.matchSsids, hafter.noFreqs, List.length_map]
  simp only [IsNamed, IsDefault, ManyWithoutFreqs, List.mem_map, hinj, exists_eq_right]

theorem mem_freqs_parsePnoSettings (frequency : UInt32) :
    frequency ∈ (parsePnoSettings scanCapabilities bandInfo settings).freqs ↔
      IsNamed scanCapabilities bandInfo settings frequency ∨
        ManyWithoutFreqs scanCapabilities settings ∧ IsDefault bandInfo frequency := by
  have hmem := mem_parsePnoSettings scanCapabilities bandInfo settings
  rw [PnoLists.freqs, List.mem_map]
  constructor
  · rintro ⟨value, hvalue, rfl⟩
    rw [Std.ExtTreeSet.mem_toList] at hvalue
    exact (hmem value).mp hvalue
  · intro h
    refine ⟨frequency.toInt32, ?_, UInt32.toUInt32_toInt32 frequency⟩
    rw [Std.ExtTreeSet.mem_toList, hmem, UInt32.toUInt32_toInt32]
    exact h

theorem matchSsids_parsePnoSettings :
    (parsePnoSettings scanCapabilities bandInfo settings).matchSsids =
      (accepted scanCapabilities settings.pnoNetworks).map PnoNetwork.ssid :=
  (PnoLists.matchSsids_addDefaultFrequencies bandInfo).trans
    (PnoLists.collected_after settings.pnoNetworks).matchSsids

theorem mem_allFreqs_of_isNamed_or_isDefault {frequency : UInt32}
    (h : IsNamed scanCapabilities bandInfo settings frequency ∨ IsDefault bandInfo frequency) :
    frequency ∈ bandInfo.allFreqs := by
  rcases h with hnamed | ⟨-, h2g⟩ | ⟨-, h5g⟩
  · exact hnamed.1
  · simp [BandInfo.allFreqs, h2g]
  · simp [BandInfo.allFreqs, h5g]

/-- The networks without frequencies are counted by an `int` that does not overflow, also when
it is multiplied. -/
theorem numNetworksNoFreqs_lt :
    (parsePnoSettings scanCapabilities bandInfo settings).numNetworksNoFreqs * 100 < 2 ^ 31 := by
  have hcollected := @PnoLists.collected_after scanCapabilities bandInfo.allFreqs
    settings.pnoNetworks
  have hlength := (PnoLists.length_after scanCapabilities bandInfo.allFreqs
    settings.pnoNetworks).2
  have hcount := List.countP_le_length (p := fun n : PnoNetwork => n.frequencies.isEmpty)
    (l := accepted scanCapabilities settings.pnoNetworks)
  have hbyte := scanCapabilities.maxMatchSets.toNat_lt
  rw [hcollected.matchSsids, List.length_map] at hlength
  have hnumber : (parsePnoSettings scanCapabilities bandInfo settings).numNetworksNoFreqs =
      (accepted scanCapabilities settings.pnoNetworks).countP (·.frequencies.isEmpty) := by
    rw [← hcollected.noFreqs, parsePnoSettings, PnoLists.addDefaultFrequencies]
    split_ifs <;> rfl
  omega

/-- The list is strictly increasing, and made of the supported frequencies that an accepted
network names, with the supported defaults exactly if many accepted networks name none. -/
theorem freqs_parsePnoSettings
    (hlow : ∀ frequency ∈ bandInfo.allFreqs, frequency.toNat < 2 ^ 31) :
    (parsePnoSettings scanCapabilities bandInfo settings).matchSsids =
        (accepted scanCapabilities settings.pnoNetworks).map PnoNetwork.ssid ∧
      (parsePnoSettings scanCapabilities bandInfo settings).numNetworksNoFreqs * 100 < 2 ^ 31 ∧
      (parsePnoSettings scanCapabilities bandInfo settings).freqs.Pairwise (· < ·) ∧
      ∀ frequency, frequency ∈ (parsePnoSettings scanCapabilities bandInfo settings).freqs ↔
        IsNamed scanCapabilities bandInfo settings frequency ∨
          ManyWithoutFreqs scanCapabilities settings ∧ IsDefault bandInfo frequency := by
  refine ⟨matchSsids_parsePnoSettings _ _ _, numNetworksNoFreqs_lt _ _ _, ?_,
    mem_freqs_parsePnoSettings _ _ _⟩
  apply PnoLists.pairwise_freqs
  intro frequency hmem
  apply hlow
  apply mem_allFreqs_of_isNamed_or_isDefault scanCapabilities bandInfo settings
  exact ((mem_parsePnoSettings _ _ _ frequency).mp hmem).imp_right And.right

end Settings

/-- One network of two names no frequency, and 2417, which nothing names, is scanned. -/
theorem default_frequency_scanned :
    2417 ∈ (parsePnoSettings ⟨10, 11, 16, 2, 1000, 5⟩
      ⟨[2412, 2417], [], [], [], []⟩
      ⟨20000, -80, -77, -77, 3, 3,
        [⟨false, [97], [2412, -1]⟩, ⟨true, [98], []⟩]⟩).freqs := by
  have hlow : ∀ frequency ∈ (⟨[2412, 2417], [], [], [], []⟩ : BandInfo).allFreqs,
      frequency.toNat < 2 ^ 31 := by
    simp [BandInfo.allFreqs]
  have hfreqs := freqs_parsePnoSettings ⟨10, 11, 16, 2, 1000, 5⟩
    ⟨[2412, 2417], [], [], [], []⟩
    ⟨20000, -80, -77, -77, 3, 3, [⟨false, [97], [2412, -1]⟩, ⟨true, [98], []⟩]⟩ hlow
  obtain ⟨-, -, -, hmem⟩ := hfreqs
  rw [hmem]
  refine .inr ⟨?_, .inl (by decide)⟩
  unfold ManyWithoutFreqs
  decide

end Wificond
