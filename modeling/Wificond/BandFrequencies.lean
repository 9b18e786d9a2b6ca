import Wificond.Runs
import Wificond.WiphyInfo

/-!
# Where frequencies are listed

`handleBandFreqAttributes` puts the frequency of an entry on one of five lists. Of the 5 GHz
frequencies those with a usable or available DFS state and those that are passive only go to
the DFS list, and all others count as regular.
-/
namespace Wificond

inductive FrequencyList
  | band2g
  | band5g
  | bandDfs
  | band6g
  | band60g
  deriving DecidableEq

namespace FrequencyList

/-- The range of the list. -/
def InRange (frequency : UInt32) : FrequencyList → Prop
  | band2g => 2400 < frequency ∧ frequency < 2500
  | band5g | bandDfs => 5000 < frequency ∧ frequency ≤ 5885
  | band6g => 5925 < frequency ∧ frequency < 7125
  | band60g => 58320 ≤ frequency ∧ frequency < 70200

end FrequencyList

namespace WiphyBandInfo

def frequencies (bandInfo : WiphyBandInfo) : FrequencyList → List UInt32
  | .band2g => bandInfo.band2g
  | .band5g => bandInfo.band5g
  | .bandDfs => bandInfo.bandDfs
  | .band6g => bandInfo.band6g
  | .band60g => bandInfo.band60g

def push (bandInfo : WiphyBandInfo) (frequency : UInt32) : FrequencyList → WiphyBandInfo
  | .band2g => { bandInfo with band2g := bandInfo.band2g ++ [frequency] }
  | .band5g => { bandInfo with band5g := bandInfo.band5g ++ [frequency] }
  | .bandDfs => { bandInfo with bandDfs := bandInfo.bandDfs ++ [frequency] }
  | .band6g => { bandInfo with band6g := bandInfo.band6g ++ [frequency] }
  | .band60g => { bandInfo with band60g := bandInfo.band60g ++ [frequency] }

theorem frequencies_push (bandInfo : WiphyBandInfo) (frequency : UInt32)
    (list list' : FrequencyList) : (bandInfo.push frequency list).frequencies list' =
      bandInfo.frequencies list' ++ if list' = list then [frequency] else [] := by
  cases list <;> cases list' <;> simp [push, frequencies]

end WiphyBandInfo

namespace NetlinkUtils

/-- `NL80211_FREQUENCY_ATTR_FREQ` of the entry. -/
def HasFrequency (freq : NL80211NestedAttr) (frequency : UInt32) : Prop :=
  ∃ value, freq.getAttributeValue (AttrTemplate.int .uint32) frequencyAttrFreq =
    .ok (some value) ∧ UInt32.ofInt value = frequency

def Enabled (freq : NL80211NestedAttr) : Prop :=
  freq.hasAttribute frequencyAttrDisabled = .ok false

/-- The entry carries a well-formed DFS state, whatever its value. -/
def CarriesDfsState (freq : NL80211NestedAttr) : Prop :=
  ∃ state, freq.getAttributeValue (AttrTemplate.int .uint32) frequencyAttrDfsState =
    .ok (some state)

/-- The DFS state is one of the two that the code tests for. -/
def IsDfs (freq : NL80211NestedAttr) : Prop :=
  ∃ state, freq.getAttributeValue (AttrTemplate.int .uint32) frequencyAttrDfsState =
    .ok (some state) ∧ (state = dfsAvailable ∨ state = dfsUsable)

/-- The entry allows no initiating radiation. -/
def IsPassive (freq : NL80211NestedAttr) : Prop :=
  freq.hasAttribute frequencyAttrNoIr = .ok true

/-- The entry goes to the list for what it is within its range. -/
def Belongs (freq : NL80211NestedAttr) : FrequencyList → Prop
  | .band5g => ¬ IsDfs freq ∧ ¬ IsPassive freq
  | .bandDfs => IsDfs freq ∨ IsPassive freq
  | .band2g | .band6g | .band60g => True

/-- The pass for the entry puts the frequency on the list. -/
structure Placed (freq : NL80211NestedAttr) (frequency : UInt32) (list : FrequencyList) : Prop where
  frequency_eq : HasFrequency freq frequency
  enabled : Enabled freq
  range : list.InRange frequency
  belongs : Belongs freq list

/-- A lookup in the entry does not end, or leaves its bytes. -/
def UnreadableEntry (freq : NL80211NestedAttr) : Prop :=
  ∃ fault, ∀ bandInfo, handleFrequency bandInfo freq = .error fault

variable {freq : NL80211NestedAttr} {frequency : UInt32} {list list' : FrequencyList}
  {bandInfo bandInfo' : WiphyBandInfo} {freqs : List NL80211NestedAttr}

theorem HasFrequency.unique {frequency' : UInt32} (h : HasFrequency freq frequency)
    (h' : HasFrequency freq frequency') : frequency = frequency' := by
  obtain ⟨value, hvalue, rfl⟩ := h
  obtain ⟨value', hvalue', rfl⟩ := h'
  obtain rfl := Option.some.inj (Except.ok.inj (hvalue.symm.trans hvalue'))
  rfl

/-- The ranges are disjoint, but for that of the two 5 GHz lists. -/
theorem inRange_unique (h : list.InRange frequency) (h' : list'.InRange frequency)
    (hbelongs : Belongs freq list) (hbelongs' : Belongs freq list') : list = list' := by
  cases list <;> cases list' <;>
    simp only [FrequencyList.InRange, Belongs, UInt32.lt_iff_toNat_lt, UInt32.le_iff_toNat_le,
      UInt32.reduceToNat] at h h' hbelongs hbelongs' ⊢ <;>
    first | omega | tauto

theorem Placed.unique {frequency' : UInt32} (h : Placed freq frequency list)
    (h' : Placed freq frequency' list') : frequency = frequency' ∧ list = list' := by
  obtain rfl := h.frequency_eq.unique h'.frequency_eq
  exact ⟨rfl, inRange_unique h.range h'.range h.belongs h'.belongs⟩

/-- What a pass makes of an entry, whatever was listed before. -/
inductive EntryCases (freq : NL80211NestedAttr) : Prop
  | skipped (hnone : ∀ frequency list, ¬ Placed freq frequency list)
      (hpass : ∀ bandInfo, handleFrequency bandInfo freq = .ok bandInfo)
  | placed (frequency : UInt32) (list : FrequencyList) (h : Placed freq frequency list)
      (hpass : ∀ bandInfo, handleFrequency bandInfo freq = .ok (bandInfo.push frequency list))
  | faulty (h : UnreadableEntry freq)

theorem placed_of_inRange (list : FrequencyList) (hfrequency : HasFrequency freq frequency)
    (henabled : Enabled freq) (hrange : list.InRange frequency)
    (hbelongs : Belongs freq list)
    (hpass : ∀ bandInfo, handleFrequency bandInfo freq = .ok (bandInfo.push frequency list)) :
    EntryCases freq :=
  .placed frequency list ⟨hfrequency, henabled, hrange, hbelongs⟩ hpass

/-- The pass for an enabled frequency of the 5 GHz range. -/
theorem entryCases_of_5g (hfrequency : HasFrequency freq frequency) (henabled : Enabled freq)
    (hrange : 5000 < frequency ∧ frequency ≤ 5885) : EntryCases freq := by
  obtain ⟨value, hvalue, rfl⟩ := hfrequency
  have hnot2g : ¬ (2400 < UInt32.ofInt value ∧ UInt32.ofInt value < 2500) := by
    simp only [UInt32.lt_iff_toNat_lt, UInt32.le_iff_toNat_le, UInt32.reduceToNat] at hrange ⊢
    omega
  have hfreq : HasFrequency freq (UInt32.ofInt value) := ⟨value, hvalue, rfl⟩
  have hdisabled : freq.hasAttribute frequencyAttrDisabled = .ok false := henabled
  cases hstate : freq.getAttributeValue (AttrTemplate.int .uint32) frequencyAttrDfsState with
  | error fault =>
    refine .faulty ⟨fault, fun bandInfo => ?_⟩
    simp [handleFrequency, hvalue, hdisabled, hnot2g, hrange, hstate, bind, Except.bind]
  | ok dfsState =>
  by_cases hdfs : dfsState = some dfsAvailable ∨ dfsState = some dfsUsable
  · have hbelongs : IsDfs freq := by
      rcases hdfs with rfl | rfl
      · exact ⟨_, hstate, .inl rfl⟩
      · exact ⟨_, hstate, .inr rfl⟩
    apply placed_of_inRange .bandDfs hfreq henabled hrange (.inl hbelongs)
    intro bandInfo
    simp [handleFrequency, hvalue, hdisabled, hnot2g, hrange, hstate, hdfs, bind, Except.bind,
      pure, Except.pure, WiphyBandInfo.push]
  have hnotdfs : ¬ IsDfs freq := by
    intro h
    obtain ⟨state, hread, hcases⟩ := h
    obtain rfl := Except.ok.inj (hstate.symm.trans hread)
    exact hdfs (by simpa using hcases)
  cases hpassive : freq.hasAttribute frequencyAttrNoIr with
  | error fault =>
    refine .faulty ⟨fault, fun bandInfo => ?_⟩
    simp [handleFrequency, hvalue, hdisabled, hnot2g, hrange, hstate, hdfs, hpassive, bind,
      Except.bind]
  | ok passive =>
  cases passive with
  | true =>
    apply placed_of_inRange .bandDfs hfreq henabled hrange (.inr hpassive)
    intro bandInfo
    simp [handleFrequency, hvalue, hdisabled, hnot2g, hrange, hstate, hdfs, hpassive, bind,
      Except.bind, pure, Except.pure, WiphyBandInfo.push]
  | false =>
    have hactive : ¬ IsPassive freq := by
      intro h
      simp [IsPassive, hpassive] at h
    apply placed_of_inRange .band5g hfreq henabled hrange ⟨hnotdfs, hactive⟩
    intro bandInfo
    simp [handleFrequency, hvalue, hdisabled, hnot2g, hrange, hstate, hdfs, hpassive, bind,
      Except.bind, pure, Except.pure, WiphyBandInfo.push]

theorem entryCases (freq : NL80211NestedAttr) : EntryCases freq := by
  cases hvalue : freq.getAttributeValue (AttrTemplate.int .uint32) frequencyAttrFreq with
  | error fault =>
    refine .faulty ⟨fault, fun bandInfo => ?_⟩
    simp [handleFrequency, hvalue, bind, Except.bind]
  | ok value? =>
  cases value? with
  | none =>
    refine .skipped (fun frequency list h => ?_) fun bandInfo => ?_
    · obtain ⟨value, hread, -⟩ := h.frequency_eq
      simp [hvalue] at hread
    · simp [handleFrequency, hvalue, bind, Except.bind, pure, Except.pure]
  | some value =>
  have hfreq : HasFrequency freq (UInt32.ofInt value) := ⟨value, hvalue, rfl⟩
  cases hdisabled : freq.hasAttribute frequencyAttrDisabled with
  | error fault =>
    refine .faulty ⟨fault, fun bandInfo => ?_⟩
    simp [handleFrequency, hvalue, hdisabled, bind, Except.bind]
  | ok disabled =>
  cases disabled with
  | true =>
    refine .skipped (fun frequency list h => ?_) fun bandInfo => ?_
    · have henabled := h.enabled
      simp [Enabled, hdisabled] at henabled
    · simp [handleFrequency, hvalue, hdisabled, bind, Except.bind, pure, Except.pure]
  | false =>
  by_cases h2g : 2400 < UInt32.ofInt value ∧ UInt32.ofInt value < 2500
  · apply placed_of_inRange .band2g hfreq hdisabled h2g trivial
    intro bandInfo
    simp [handleFrequency, hvalue, hdisabled, h2g, bind, Except.bind, pure, Except.pure,
      WiphyBandInfo.push]
  by_cases h5g : 5000 < UInt32.ofInt value ∧ UInt32.ofInt value ≤ 5885
  · exact entryCases_of_5g hfreq hdisabled h5g
  by_cases h6g : 5925 < UInt32.ofInt value ∧ UInt32.ofInt value < 7125
  · apply placed_of_inRange .band6g hfreq hdisabled h6g trivial
    intro bandInfo
    simp [handleFrequency, hvalue, hdisabled, h2g, h5g, h6g, bind, Except.bind, pure, Except.pure,
      WiphyBandInfo.push]
  by_cases h60g : 58320 ≤ UInt32.ofInt value ∧ UInt32.ofInt value < 70200
  · apply placed_of_inRange .band60g hfreq hdisabled h60g trivial
    intro bandInfo
    simp [handleFrequency, hvalue, hdisabled, h2g, h5g, h6g, h60g, bind, Except.bind, pure,
      Except.pure, WiphyBandInfo.push]
  · refine .skipped (fun frequency list h => ?_) fun bandInfo => ?_
    · obtain rfl := h.frequency_eq.unique hfreq
      have hrange := h.range
      cases list with
      | band2g => exact h2g hrange
      | band5g => exact h5g hrange
      | bandDfs => exact h5g hrange
      | band6g => exact h6g hrange
      | band60g => exact h60g hrange
    · simp [handleFrequency, hvalue, hdisabled, h2g, h5g, h6g, h60g, bind, Except.bind, pure,
        Except.pure]

/-- What a run appends to each list. -/
theorem exists_appended (h : freqs.foldlM handleFrequency bandInfo = .ok bandInfo') :
    ∃ appended : FrequencyList → List UInt32,
      (∀ list, bandInfo'.frequencies list = bandInfo.frequencies list ++ appended list) ∧
      (∀ list frequency, frequency ∈ appended list ↔
        ∃ freq ∈ freqs, Placed freq frequency list) ∧
      ∀ freq ∈ freqs, ¬ UnreadableEntry freq := by
  induction freqs generalizing bandInfo with
  | nil =>
    obtain rfl := Except.ok.inj h
    exact ⟨fun _ => [], by simp, by simp, by simp⟩
  | cons freq freqs ih =>
    obtain ⟨next, hnext, hrest⟩ := Runs.foldlM_cons_eq_ok.mp h
    obtain ⟨appended, hlists, hmem, hreadable⟩ := ih hrest
    have hfirst : ¬ UnreadableEntry freq := by
      intro hfault
      obtain ⟨fault, hfault⟩ := hfault
      rw [hfault] at hnext
      simp at hnext
    have hall : ∀ f ∈ freq :: freqs, ¬ UnreadableEntry f := by
      intro f hf
      rcases List.mem_cons.mp hf with rfl | hf
      · exact hfirst
      · exact hreadable f hf
    cases entryCases freq with
    | skipped hnone hpass =>
      obtain rfl := Except.ok.inj ((hpass bandInfo).symm.trans hnext)
      refine ⟨appended, hlists, fun list frequency => ?_, hall⟩
      rw [hmem]
      simp [hnone]
    | placed own place hplaced hpass =>
      obtain rfl := Except.ok.inj ((hpass bandInfo).symm.trans hnext)
      refine ⟨fun list => (if list = place then [own] else []) ++ appended list, fun list => ?_,
        fun list frequency => ?_, hall⟩
      · rw [hlists, WiphyBandInfo.frequencies_push, List.append_assoc]
      · have hown : Placed freq frequency list ↔ list = place ∧ frequency = own := by
          constructor
          · intro hp
            exact ⟨(hp.unique hplaced).2, (hp.unique hplaced).1⟩
          · intro hp
            obtain ⟨rfl, rfl⟩ := hp
            exact hplaced
        simp only [List.mem_append, hmem, List.mem_cons, exists_eq_or_imp, hown]
        split_ifs with hlist <;> simp [hlist]
    | faulty hfault => exact absurd hfault hfirst

/-- A run over entries that can be read succeeds. -/
theorem exists_foldlM_eq_ok (hreadable : ∀ freq ∈ freqs, ¬ UnreadableEntry freq) :
    ∃ bandInfo', freqs.foldlM handleFrequency bandInfo = .ok bandInfo' := by
  induction freqs generalizing bandInfo with
  | nil => exact ⟨bandInfo, rfl⟩
  | cons freq freqs ih =>
    have hrest := fun bandInfo => @ih bandInfo fun f hf => hreadable f (by simp [hf])
    cases entryCases freq with
    | skipped _ hpass =>
      obtain ⟨bandInfo', h⟩ := hrest bandInfo
      exact ⟨bandInfo', Runs.foldlM_cons_eq_ok.mpr ⟨_, hpass bandInfo, h⟩⟩
    | placed own place _ hpass =>
      obtain ⟨bandInfo', h⟩ := hrest (bandInfo.push own place)
      exact ⟨bandInfo', Runs.foldlM_cons_eq_ok.mpr ⟨_, hpass bandInfo, h⟩⟩
    | faulty hfault => exact absurd hfault (hreadable freq (by simp))

/-- The entries of the attribute; none where they cannot be listed. -/
def AreEntries (freqsAttr : NL80211NestedAttr) (freqs : List NL80211NestedAttr) : Prop :=
  freqsAttr.getListOfNestedAttributes = .ok (some freqs) ∨
    freqsAttr.getListOfNestedAttributes = .ok none ∧ freqs = []

/-- What is to hold of the frequencies that are appended to the lists. -/
structure WellListed (freqs : List NL80211NestedAttr) (appended : FrequencyList → List UInt32) :
    Prop where
  no_dfs : ∀ frequency ∈ appended .band5g, ∀ freq ∈ freqs,
    HasFrequency freq frequency → ¬ CarriesDfsState freq
  enabled : ∀ list, ∀ frequency ∈ appended list,
    ∃ freq ∈ freqs, HasFrequency freq frequency ∧ Enabled freq
  range : ∀ list, ∀ frequency ∈ appended list, list.InRange frequency
  one_list : ∀ frequency list list', frequency ∈ appended list → frequency ∈ appended list' →
    list = list'

/-- An entry that counts as regular shares its frequency with no entry, itself included, that
carries a DFS state or is passive. -/
def RegularApart (freqs : List NL80211NestedAttr) : Prop :=
  ∀ freq ∈ freqs, ∀ other ∈ freqs, ∀ frequency, Placed freq frequency .band5g →
    HasFrequency other frequency → ¬ CarriesDfsState other ∧ ¬ (Enabled other ∧ IsPassive other)

theorem eq_or_5g_of_inRange (h : list.InRange frequency) (h' : list'.InRange frequency) :
    list = list' ∨ list = .band5g ∧ list' = .bandDfs ∨ list = .bandDfs ∧ list' = .band5g := by
  cases list <;> cases list' <;>
    simp only [FrequencyList.InRange, UInt32.lt_iff_toNat_lt, UInt32.le_iff_toNat_le,
      UInt32.reduceToNat] at h h' <;>
    first | omega | simp

/-- No frequency is placed on both 5 GHz lists. -/
theorem RegularApart.not_both (h : RegularApart freqs) {other : NL80211NestedAttr}
    (hmem : freq ∈ freqs) (hother : other ∈ freqs) (h5g : Placed freq frequency .band5g)
    (hdfs : Placed other frequency .bandDfs) : False := by
  obtain ⟨hstate, hpassive⟩ := h freq hmem other hother frequency h5g hdfs.frequency_eq
  rcases hdfs.belongs with ⟨state, hread, -⟩ | hno
  · exact hstate ⟨state, hread⟩
  · exact hpassive ⟨hdfs.enabled, hno⟩

theorem wellListed_iff {appended : FrequencyList → List UInt32}
    (hmem : ∀ list frequency, frequency ∈ appended list ↔
      ∃ freq ∈ freqs, Placed freq frequency list) :
    WellListed freqs appended ↔ RegularApart freqs := by
  constructor
  · intro h freq hfreq other hother frequency hplaced hfrequency
    have hlisted : frequency ∈ appended .band5g := (hmem _ _).mpr ⟨freq, hfreq, hplaced⟩
    refine ⟨h.no_dfs frequency hlisted other hother hfrequency, fun hpassive => ?_⟩
    have hdfs : Placed other frequency .bandDfs :=
      ⟨hfrequency, hpassive.1, hplaced.range, .inr hpassive.2⟩
    have hboth := h.one_list frequency _ _ hlisted ((hmem _ _).mpr ⟨other, hother, hdfs⟩)
    simp at hboth
  · intro h
    refine ⟨fun frequency hlisted other hother hfrequency => ?_, fun list frequency hlisted => ?_,
      fun list frequency hlisted => ?_, fun frequency list list' hlisted hlisted' => ?_⟩
    · obtain ⟨freq, hfreq, hplaced⟩ := (hmem _ _).mp hlisted
      exact (h freq hfreq other hother frequency hplaced hfrequency).1
    · obtain ⟨freq, hfreq, hplaced⟩ := (hmem _ _).mp hlisted
      exact ⟨freq, hfreq, hplaced.frequency_eq, hplaced.enabled⟩
    · obtain ⟨freq, hfreq, hplaced⟩ := (hmem _ _).mp hlisted
      exact hplaced.range
    · obtain ⟨freq, hfreq, hplaced⟩ := (hmem _ _).mp hlisted
      obtain ⟨other, hother, hplaced'⟩ := (hmem _ _).mp hlisted'
      rcases eq_or_5g_of_inRange hplaced.range hplaced'.range with heq | ⟨rfl, rfl⟩ | ⟨rfl, rfl⟩
      · exact heq
      · exact absurd (h.not_both hfreq hother hplaced hplaced') id
      · exact absurd (h.not_both hother hfreq hplaced' hplaced) id

/-- The frequencies are listed as they should exactly if regular entries are apart from those
with a DFS state, wherever all entries can be read. -/
theorem handleBandFreqAttributes_wellListed_iff (freqsAttr : NL80211NestedAttr)
    (bandInfo : WiphyBandInfo) :
    (∀ bandInfo', handleBandFreqAttributes freqsAttr bandInfo = .ok bandInfo' →
      ∃ freqs appended, AreEntries freqsAttr freqs ∧
        (∀ list, bandInfo'.frequencies list = bandInfo.frequencies list ++ appended list) ∧
        WellListed freqs appended) ↔
    ∀ freqs, freqsAttr.getListOfNestedAttributes = .ok (some freqs) →
      (∀ freq ∈ freqs, ¬ UnreadableEntry freq) → RegularApart freqs := by
  constructor
  · intro h freqs hfreqs hreadable
    obtain ⟨bandInfo', hrun⟩ := @exists_foldlM_eq_ok bandInfo freqs hreadable
    obtain ⟨appended, hlists, hmem, -⟩ := exists_appended hrun
    have hcall : handleBandFreqAttributes freqsAttr bandInfo = .ok bandInfo' := by
      rw [handleBandFreqAttributes, hfreqs]
      exact hrun
    obtain ⟨entries, appended', hentries, hlists', hwell⟩ := h bandInfo' hcall
    rcases hentries with hentries | ⟨hnone, -⟩
    · obtain rfl := Option.some.inj (Except.ok.inj (hfreqs.symm.trans hentries))
      have hsame : appended = appended' := by
        ext1 list
        exact List.append_cancel_left ((hlists list).symm.trans (hlists' list))
      exact (wellListed_iff hmem).mp (hsame ▸ hwell)
    · simp [hfreqs] at hnone
  · intro h bandInfo' hcall
    rw [handleBandFreqAttributes] at hcall
    cases hfreqs : freqsAttr.getListOfNestedAttributes with
    | error fault =>
      rw [hfreqs] at hcall
      simp [bind, Except.bind] at hcall
    | ok freqs? =>
      rw [hfreqs] at hcall
      cases freqs? with
      | none =>
        obtain rfl := Except.ok.inj hcall
        refine ⟨[], fun _ => [], .inr ⟨hfreqs, rfl⟩, by simp, ?_⟩
        exact ⟨by simp, by simp, by simp, by simp⟩
      | some freqs =>
        obtain ⟨appended, hlists, hmem, hreadable⟩ := exists_appended hcall
        exact ⟨freqs, appended, .inl hfreqs, hlists,
          (wellListed_iff hmem).mpr (h freqs hfreqs hreadable)⟩

/-- The entry of a channel on which radar was detected. -/
def radarEntry : NL80211NestedAttr :=
  let freq := NL80211NestedAttr.ofId 0
  let freq := freq.addAttribute (NL80211Attr.ofInt .uint32 frequencyAttrFreq 5500)
  freq.addAttribute (NL80211Attr.ofInt .uint32 frequencyAttrDfsState dfsUnavailable)

def radarFreqs : NL80211NestedAttr := (NL80211NestedAttr.ofId bandAttrFreqs).addAttribute radarEntry

/-- A channel that is unavailable because of radar is reported as a regular one. -/
theorem radar_channel_listed_as_regular :
    handleBandFreqAttributes radarFreqs .construct =
        .ok { WiphyBandInfo.construct with band5g := [5500] } ∧
      ¬ ∀ bandInfo', handleBandFreqAttributes radarFreqs .construct = .ok bandInfo' →
        ∃ freqs appended, AreEntries radarFreqs freqs ∧
          (∀ list, bandInfo'.frequencies list =
            WiphyBandInfo.construct.frequencies list ++ appended list) ∧
          WellListed freqs appended := by
  have hcall : handleBandFreqAttributes radarFreqs .construct =
      .ok { WiphyBandInfo.construct with band5g := [5500] } := by
    decide +kernel
  have hlist : radarFreqs.getListOfNestedAttributes = .ok (some [radarEntry]) := by
    decide +kernel
  have hvalue : radarEntry.getAttributeValue (AttrTemplate.int .uint32) frequencyAttrFreq =
      .ok (some 5500) := by
    decide +kernel
  have hstate : radarEntry.getAttributeValue (AttrTemplate.int .uint32) frequencyAttrDfsState =
      .ok (some dfsUnavailable) := by
    decide +kernel
  refine ⟨hcall, fun h => ?_⟩
  obtain ⟨freqs, appended, hentries, hlists, hwell⟩ := h _ hcall
  have h5g : (5500 : UInt32) ∈ appended .band5g := by
    have hreported := hlists .band5g
    simp only [WiphyBandInfo.frequencies, WiphyBandInfo.construct, List.nil_append] at hreported
    simp [← hreported]
  rcases hentries with hentries | ⟨hnone, -⟩
  · obtain rfl := Option.some.inj (Except.ok.inj (hlist.symm.trans hentries))
    exact hwell.no_dfs 5500 h5g radarEntry (by simp) ⟨5500, hvalue, rfl⟩
      ⟨dfsUnavailable, hstate⟩
  · simp [hlist] at hnone

end NetlinkUtils

end Wificond
