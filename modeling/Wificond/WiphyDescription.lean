import Wificond.BandContributions
import Wificond.McsMaps
import Wificond.ScanDump
import Mathlib.Data.Nat.Bitwise

/-!
# Descriptions of wiphys

What the kernel has for a wiphy: its bands with their channels, its capabilities for the
generations of the standard, and the limits and features of its scans. A packet holds it as
attributes, and what the daemon makes of them is stated in terms of the description alone.
-/
namespace Wificond

open LittleEndian PaddedTlv Accumulation NetlinkUtils

open Wificond.WiphyBandInfo (add_eq zero_eq combine empty)

theorem decide_and_two_pow (n k : ℕ) : decide (n &&& 2 ^ k ≠ 0) = n.testBit k := by
  rw [Nat.and_two_pow]
  cases n.testBit k <;> simp

/-- A mask of one bit tests that bit. -/
theorem uint8_testBit (bits : UInt8) {k : ℕ} (hk : k < 8) :
    decide (bits &&& UInt8.ofNat (2 ^ k) ≠ 0) = bits.toNat.testBit k := by
  have hlt : 2 ^ k < 2 ^ 8 := Nat.pow_lt_pow_right (by omega) hk
  rw [← decide_and_two_pow, decide_eq_decide, ne_eq, ← UInt8.toNat_inj, UInt8.toNat_and,
    UInt8.toNat_ofNat_of_lt' hlt]
  rfl

theorem uint32_testBit (bits : UInt32) {k : ℕ} (hk : k < 32) :
    decide (bits &&& UInt32.ofNat (2 ^ k) ≠ 0) = bits.toNat.testBit k := by
  have hlt : 2 ^ k < 2 ^ 32 := Nat.pow_lt_pow_right (by omega) hk
  rw [← decide_and_two_pow, decide_eq_decide, ne_eq, ← UInt32.toNat_inj, UInt32.toNat_and,
    UInt32.toNat_ofNat_of_lt' hlt]
  rfl

namespace AttrTree

/-- The first tree with this id is a leaf, and its value has the content; without content there is
no tree with this id. -/
def Shows {α : Type} (ts : List AttrTree) (id : ℕ) (k : ValueType) (In : α → k.Value → Prop) :
    Option α → Prop
  | none => ts.find? (·.id = id) = none
  | some content => ∃ value, ts.find? (·.id = id) = some (leaf id k value) ∧ In content value

/-- The trees are nested attributes, one for each entry. -/
def Lists {α : Type} (In : α → List AttrTree → Prop) (ts : List AttrTree) (entries : List α) :
    Prop :=
  List.Forall₂ (fun t entry => ∃ index children, t = nested index children ∧ In entry children)
    ts entries

/-- The first tree with this id lists the entries; where there is none, there are no entries. -/
def HasEntries {α : Type} (In : α → List AttrTree → Prop) (ts : List AttrTree) (id : ℕ)
    (entries : List α) : Prop :=
  ts.find? (·.id = id) = none ∧ entries = [] ∨
    ∃ children, ts.find? (·.id = id) = some (nested id children) ∧ Lists In children entries

section Contents
variable {α : Type} {ts : List AttrTree} {id index : ℕ} {k : ValueType}
  {In : α → k.Value → Prop} {content : Option α}

theorem Shows.isSome_find? (h : Shows ts id k In content) :
    (ts.find? (·.id = id)).isSome = content.isSome := by
  cases content with
  | none =>
    have hnone : ts.find? (·.id = id) = none := h
    rw [hnone]
    rfl
  | some content =>
    obtain ⟨value, hfind, -⟩ := h
    rw [hfind]
    rfl

theorem Shows.congr {ts' : List AttrTree} (h : Shows ts id k In content)
    (hsame : ts'.find? (·.id = id) = ts.find? (·.id = id)) : Shows ts' id k In content := by
  cases content with
  | none => exact hsame.trans h
  | some content =>
    obtain ⟨value, hfind, hin⟩ := h
    exact ⟨value, hsame.trans hfind, hin⟩

theorem Shows.exists_hasValue (h : Shows ts id k In content) :
    ∃ value, HasValue ts id k value ∧ Option.Rel In content value := by
  cases content with
  | none => exact ⟨none, h, .none⟩
  | some content =>
    obtain ⟨value, hfind, hin⟩ := h
    exact ⟨some value, hfind, .some hin⟩

/-- A parser of one value adds what the content stands for. -/
theorem Shows.adds {parse : NL80211NestedAttr → WiphyBandInfo → Exec WiphyBandInfo}
    {amount : k.Value → WiphyBandInfo} {contribution : α → WiphyBandInfo}
    (h : Shows ts id k In content) (hwf : (nested index ts).WellFormed)
    (hparse : AddsForValue parse k.template id amount)
    (hin : ∀ content value, In content value → amount value = contribution content) :
    Adds (parse (nested index ts).attr) ((content.map contribution).getD 0) := by
  obtain ⟨value, hvalue, hrel⟩ := h.exists_hasValue
  have hread := (readsChildren hwf).finds.getValue_of_hasValue hvalue
  intro total
  rw [hparse.parse_eq]
  show Except.map _ (NL80211NestedAttr.getAttributeValue (nested index ts).attr k.template id) = _
  rw [hread]
  cases hrel with
  | none => rfl
  | some hcontent =>
    show Except.ok (total + amount _) = Except.ok (total + contribution _)
    rw [hin _ _ hcontent]

end Contents

section Entries
variable {α : Type} {In : α → List AttrTree → Prop} {ts : List AttrTree} {id index : ℕ}
  {entries : List α} {each : WiphyBandInfo → NL80211NestedAttr → Exec WiphyBandInfo}
  {amount : α → WiphyBandInfo}

/-- The pass over listed entries adds up what they stand for. -/
theorem Lists.adds (h : Lists In ts entries) (hwf : ∀ t ∈ ts, t.WellFormed)
    (heach : ∀ index children entry, (nested index children).WellFormed → In entry children →
      Adds (fun total => each total (nested index children).attr) (amount entry)) :
    Adds (fun total => (ts.map attr).foldlM each total) (entries.map amount).sum := by
  induction h with
  | nil => exact adds_pure
  | @cons t entry ts entries hfirst _ ih =>
    obtain ⟨index, children, rfl, hin⟩ := hfirst
    have hhead := heach index children entry (hwf _ (by simp)) hin
    have hboth := hhead.bind (ih fun t ht => hwf t (by simp [ht]))
    intro total
    show _ = Except.ok (total + (amount entry + (entries.map amount).sum))
    rw [← hboth total]
    rfl

theorem HasEntries.adds {step : NL80211NestedAttr → WiphyBandInfo → Exec WiphyBandInfo}
    {g : List α → WiphyBandInfo} (h : HasEntries In ts id entries)
    (hwf : (nested index ts).WellFormed) (hnil : g [] = 0)
    (hstep : ∀ children, (nested id children).WellFormed → Lists In children entries →
      Adds (step (nested id children).attr) (g entries)) :
    Adds (onSome ((ts.find? (·.id = id)).map attr) step) (g entries) := by
  rcases h with ⟨hfind, rfl⟩ | ⟨children, hfind, hlists⟩
  · rw [hfind, hnil]
    exact adds_pure
  · have hchild : (nested id children).WellFormed := by
      cases hwf with
      | nested hchildren _ => exact hchildren _ (List.mem_of_find?_eq_some hfind)
    rw [hfind]
    exact hstep children hchild hlists

end Entries

end AttrTree

structure KernelChannel where
  frequency : Option UInt32
  disabled : Bool
  noIr : Bool
  dfsState : Option UInt32

namespace KernelChannel

/-- The attributes of the channel, among any others and in any order. -/
structure IsIn (channel : KernelChannel) (ts : List AttrTree) : Prop where
  frequency : AttrTree.HasValue ts frequencyAttrFreq (.int .uint32)
    (channel.frequency.map fun v => (v.toNat : ℤ))
  disabled : (ts.find? (·.id = frequencyAttrDisabled)).isSome = channel.disabled
  noIr : (ts.find? (·.id = frequencyAttrNoIr)).isSome = channel.noIr
  dfsState : AttrTree.HasValue ts frequencyAttrDfsState (.int .uint32)
    (channel.dfsState.map fun v => (v.toNat : ℤ))

/-- No radiation may be initiated, or the DFS state is usable or available. A channel on which a
radar was found does not count. -/
def IsRestricted (channel : KernelChannel) : Prop :=
  channel.noIr = true ∨ channel.dfsState = some 0 ∨ channel.dfsState = some 2

instance (channel : KernelChannel) : Decidable channel.IsRestricted :=
  inferInstanceAs (Decidable (_ ∨ _))

instance (frequency : UInt32) : (list : FrequencyList) → Decidable (list.InRange frequency)
  | .band2g | .band5g | .bandDfs | .band6g | .band60g => inferInstanceAs (Decidable (_ ∧ _))

/-- Among the channels of the 5 GHz range the restricted ones have a list of their own. -/
def Suits (channel : KernelChannel) : FrequencyList → Prop
  | .band5g => ¬ channel.IsRestricted
  | .bandDfs => channel.IsRestricted
  | .band2g | .band6g | .band60g => True

instance (channel : KernelChannel) : (list : FrequencyList) → Decidable (channel.Suits list)
  | .band5g => inferInstanceAs (Decidable (¬ _))
  | .bandDfs => inferInstanceAs (Decidable channel.IsRestricted)
  | .band2g | .band6g | .band60g => inferInstanceAs (Decidable True)

/-- The frequency, where the list is that of the channel. -/
def frequencyOn (channel : KernelChannel) (list : FrequencyList) : Option UInt32 :=
  channel.frequency.filter fun frequency =>
    channel.disabled = false ∧ list.InRange frequency ∧ channel.Suits list

/-- What the channel adds to the lists. -/
def amount (channel : KernelChannel) : WiphyBandInfo :=
  { empty with
    band2g := (channel.frequencyOn .band2g).toList
    band5g := (channel.frequencyOn .band5g).toList
    bandDfs := (channel.frequencyOn .bandDfs).toList
    band6g := (channel.frequencyOn .band6g).toList
    band60g := (channel.frequencyOn .band60g).toList }

section Reads
variable {channel : KernelChannel} {ts : List AttrTree} {index : ℕ} (h : channel.IsIn ts)
  (hwf : (AttrTree.nested index ts).WellFormed)
include h hwf

theorem hasFrequency_iff {frequency : UInt32} :
    HasFrequency (AttrTree.nested index ts).attr frequency ↔
      channel.frequency = some frequency := by
  have hread := (AttrTree.readsChildren hwf).finds.getValue_of_hasValue h.frequency
  constructor
  · intro hhas
    obtain ⟨value, hvalue, rfl⟩ := hhas
    obtain ⟨own, hown, rfl⟩ :=
      Option.map_eq_some_iff.mp (Except.ok.inj (hread.symm.trans hvalue))
    rw [hown, uint32_ofInt_toNat]
  · intro hown
    rw [hown] at hread
    exact ⟨_, hread, uint32_ofInt_toNat frequency⟩

theorem enabled_iff : Enabled (AttrTree.nested index ts).attr ↔ channel.disabled = false := by
  have hhas := (AttrTree.readsChildren hwf).finds.has_eq frequencyAttrDisabled
  rw [Enabled, hhas, h.disabled, Except.ok.injEq]

theorem isRestricted_iff : (IsDfs (AttrTree.nested index ts).attr ∨
    IsPassive (AttrTree.nested index ts).attr) ↔ channel.IsRestricted := by
  have hread := (AttrTree.readsChildren hwf).finds.getValue_of_hasValue h.dfsState
  have hhas := (AttrTree.readsChildren hwf).finds.has_eq frequencyAttrNoIr
  have hpassive : IsPassive (AttrTree.nested index ts).attr ↔ channel.noIr = true := by
    rw [IsPassive, hhas, h.noIr, Except.ok.injEq]
  have hdfs : IsDfs (AttrTree.nested index ts).attr ↔
      channel.dfsState = some 0 ∨ channel.dfsState = some 2 := by
    have hstate (state : UInt32) (n : ℕ) (hn : n < 2 ^ 32) :
        (state.toNat : ℤ) = n ↔ state = UInt32.ofNat n := by
      rw [← UInt32.toNat_inj, UInt32.toNat_ofNat_of_lt' hn]
      omega
    constructor
    · intro hdfs
      obtain ⟨value, hvalue, hcases⟩ := hdfs
      obtain ⟨state, hown, rfl⟩ :=
        Option.map_eq_some_iff.mp (Except.ok.inj (hread.symm.trans hvalue))
      rw [hown]
      rcases hcases with havailable | husable
      · exact .inr (congrArg some ((hstate state 2 (by omega)).mp havailable))
      · exact .inl (congrArg some ((hstate state 0 (by omega)).mp husable))
    · intro hown
      rcases hown with hown | hown
      · rw [hown] at hread
        exact ⟨_, hread, .inr rfl⟩
      · rw [hown] at hread
        exact ⟨_, hread, .inl rfl⟩
  rw [hpassive, hdfs, IsRestricted, or_comm]

theorem belongs_iff (list : FrequencyList) :
    Belongs (AttrTree.nested index ts).attr list ↔ channel.Suits list := by
  have hrestricted := isRestricted_iff h hwf
  cases list with
  | band5g =>
    show ¬ _ ∧ ¬ _ ↔ ¬ channel.IsRestricted
    rw [← hrestricted, not_or]
  | bandDfs => exact hrestricted
  | band2g => exact Iff.rfl
  | band6g => exact Iff.rfl
  | band60g => exact Iff.rfl

theorem placed_iff {frequency : UInt32} {list : FrequencyList} :
    Placed (AttrTree.nested index ts).attr frequency list ↔
      channel.frequencyOn list = some frequency := by
  rw [frequencyOn, Option.filter_eq_some_iff, decide_eq_true_iff]
  constructor
  · intro hplaced
    exact ⟨(hasFrequency_iff h hwf).mp hplaced.frequency_eq, (enabled_iff h hwf).mp hplaced.enabled,
      hplaced.range, (belongs_iff h hwf list).mp hplaced.belongs⟩
  · intro hown
    obtain ⟨hfrequency, henabled, hrange, hsuits⟩ := hown
    exact ⟨(hasFrequency_iff h hwf).mpr hfrequency, (enabled_iff h hwf).mpr henabled, hrange,
      (belongs_iff h hwf list).mpr hsuits⟩

theorem not_unreadable : ¬ UnreadableEntry (AttrTree.nested index ts).attr := by
  intro hfault
  obtain ⟨fault, hfault⟩ := hfault
  have hfinds := (AttrTree.readsChildren hwf).finds
  have hfrequency := hfinds.getValue_of_hasValue h.frequency
  have hdfs := hfinds.getValue_of_hasValue h.dfsState
  have hrun := hfault 0
  simp only [ValueType.template] at hfrequency hdfs
  unfold handleFrequency at hrun
  rw [hfrequency, hfinds.has_eq, hfinds.has_eq, hdfs] at hrun
  cases hown : channel.frequency with
  | none => simp [hown, bind, Except.bind, pure, Except.pure] at hrun
  | some frequency =>
    simp only [hown, Option.map_some, bind, Except.bind, pure, Except.pure] at hrun
    split_ifs at hrun

/-- The pass for the channel adds its frequency to its list. -/
theorem adds_amount :
    Adds (fun total => handleFrequency total (AttrTree.nested index ts).attr) channel.amount := by
  intro total
  show handleFrequency total _ = _
  cases entryCases (AttrTree.nested index ts).attr with
  | skipped hnone hpass =>
    have hnowhere (list : FrequencyList) : channel.frequencyOn list = none := by
      apply Option.eq_none_iff_forall_ne_some.mpr
      intro frequency hown
      exact hnone frequency list ((placed_iff h hwf).mpr hown)
    have hamount : channel.amount = 0 := by
      simp only [amount, hnowhere]
      rfl
    rw [hpass, hamount, add_zero]
  | placed frequency list hplaced hpass =>
    have hlist (list' : FrequencyList) :
        (channel.frequencyOn list').toList = if list' = list then [frequency] else [] := by
      split_ifs with hsame
      · rw [hsame, (placed_iff h hwf).mp hplaced]
        rfl
      · rw [Option.toList_eq_nil_iff, Option.eq_none_iff_forall_ne_some]
        intro frequency' hown
        exact hsame (((placed_iff h hwf).mpr hown).unique hplaced).2
    have hamount : channel.amount = empty.push frequency list := by
      simp only [amount, hlist]
      cases list <;> rfl
    rw [hpass, hamount, WiphyBandInfo.push_eq_add]
  | faulty hfault => exact absurd hfault (not_unreadable h hwf)

end Reads

end KernelChannel

/-- Channel widths beyond 80 MHz. -/
structure WideChannels where
  is160Mhz : Bool
  is80p80Mhz : Bool

structure KernelIfType where
  he : Option WideChannels
  heMcs : Option McsMaps
  /-- Whether EHT allows 320 MHz. -/
  eht : Option Bool

namespace KernelIfType

/-- The attributes of the interface type, among any others and in any order. -/
structure IsIn (ifType : KernelIfType) (ts : List AttrTree) : Prop where
  he : AttrTree.Shows ts bandIftypeAttrHeCapPhy .vector (fun wide heCapPhy =>
    9 ≤ heCapPhy.length ∧ (heCapPhy.getD 0 0).toNat.testBit 3 = wide.is160Mhz ∧
      (heCapPhy.getD 0 0).toNat.testBit 4 = wide.is80p80Mhz) ifType.he
  heMcs : AttrTree.Shows ts bandIftypeAttrHeCapMcsSet .vector (McsMaps.IsAt 4 0 2) ifType.heMcs
  eht : AttrTree.Shows ts bandIftypeAttrEhtCapPhy .vector (fun is320Mhz ehtCapPhy =>
    8 ≤ ehtCapPhy.length ∧ (ehtCapPhy.getD 0 0).toNat.testBit 1 = is320Mhz) ifType.eht

def amount (ifType : KernelIfType) : WiphyBandInfo :=
  { empty with
    is80211axSupported := ifType.he.isSome
    is80211beSupported := ifType.eht.isSome
    is160MhzSupported := ifType.he.any (·.is160Mhz)
    is80p80MhzSupported := ifType.he.any (·.is80p80Mhz)
    is320MhzSupported := ifType.eht.getD false
    maxTxStreams := (ifType.heMcs.map (·.transmit.streams)).getD 0
    maxRxStreams := (ifType.heMcs.map (·.receive.streams)).getD 0 }

variable {ifType : KernelIfType} {ts : List AttrTree} {index : ℕ}

theorem heCapPhyAmount_eq {wide : WideChannels} {heCapPhy : List UInt8}
    (h : 9 ≤ heCapPhy.length ∧ (heCapPhy.getD 0 0).toNat.testBit 3 = wide.is160Mhz ∧
      (heCapPhy.getD 0 0).toNat.testBit 4 = wide.is80p80Mhz) :
    heCapPhyAmount heCapPhy = widths wide.is160Mhz wide.is80p80Mhz false := by
  rw [heCapPhyAmount, sized, if_neg (by omega), ← h.2.1, ← h.2.2]
  congr 1
  · exact uint8_testBit (heCapPhy.getD 0 0) (by omega : 3 < 8)
  · exact uint8_testBit (heCapPhy.getD 0 0) (by omega : 4 < 8)

theorem ehtCapPhyAmount_eq {is320Mhz : Bool} {ehtCapPhy : List UInt8}
    (h : 8 ≤ ehtCapPhy.length ∧ (ehtCapPhy.getD 0 0).toNat.testBit 1 = is320Mhz) :
    ehtCapPhyAmount ehtCapPhy = widths false false is320Mhz := by
  rw [ehtCapPhyAmount, sized, if_neg (by omega), ← h.2]
  congr 1
  exact uint8_testBit (ehtCapPhy.getD 0 0) (by omega : 1 < 8)

theorem heMcsSetAmount_eq {maps : McsMaps} {heMcsSet : List UInt8}
    (h : maps.IsAt 4 0 2 heMcsSet) :
    heMcsSetAmount heMcsSet = streams maps.transmit.streams maps.receive.streams := by
  have hlength := h.length
  obtain ⟨hreceive, htransmit⟩ := h.parse_eq (by omega) (by omega)
  rw [heMcsSetAmount, sized, if_neg (by omega), hreceive, htransmit]

/-- The pass for the first interface type. -/
theorem IsIn.adds_amount (h : ifType.IsIn ts) (hwf : (AttrTree.nested index ts).WellFormed) :
    Adds (parseIfType (AttrTree.nested index ts).attr ifType.he.isSome ifType.heMcs.isSome
      ifType.eht.isSome) ifType.amount := by
  have hhe := h.he.adds hwf parseHeCapPhyAttribute_adds fun _ _ => heCapPhyAmount_eq
  have hmcs := h.heMcs.adds hwf parseHeMcsSetAttribute_adds fun _ _ => heMcsSetAmount_eq
  have heht := h.eht.adds hwf parseEhtCapPhyAttribute_adds fun _ _ => ehtCapPhyAmount_eq
  have hall := (adds_of_present hhe ax_eq_add).bind
    ((adds_of_present hmcs fun total => (add_zero total).symm).bind
      (adds_of_present heht be_eq_add))
  have hamount : ifType.amount =
      (ifType.he.map fun wide => { empty with is80211axSupported := true } +
        widths wide.is160Mhz wide.is80p80Mhz false).getD 0 +
      ((ifType.heMcs.map fun maps =>
          0 + streams maps.transmit.streams maps.receive.streams).getD 0 +
        (ifType.eht.map fun is320Mhz => { empty with is80211beSupported := true } +
          widths false false is320Mhz).getD 0) := by
    rw [amount]
    cases ifType.he <;> cases ifType.heMcs <;> cases ifType.eht <;>
      simp [add_eq, combine, zero_eq, widths, streams, empty]
  rw [hamount]
  exact hall

/-- Of several interface types the first one counts. -/
theorem adds_first {ifTypes : List KernelIfType} {id : ℕ} {children : List AttrTree}
    (hwf : (AttrTree.nested id children).WellFormed)
    (hlists : AttrTree.Lists IsIn children ifTypes) :
    Adds (parseIfTypeDataAttributes (AttrTree.nested id children).attr)
      ((ifTypes.head?.map amount).getD 0) := by
  have hlist := (AttrTree.readsChildren hwf).nested_eq
  have hchildren : ∀ t ∈ children, t.WellFormed := by
    cases hwf with
    | nested hchildren _ => exact hchildren
  intro total
  cases hlists with
  | nil =>
    unfold parseIfTypeDataAttributes
    rw [hlist]
    exact congrArg Except.ok (add_zero total).symm
  | @cons t ifType ts ifTypes hfirst _ =>
    obtain ⟨index, attributes, rfl, hin⟩ := hfirst
    have hown := hchildren _ (List.mem_cons_self ..)
    have hhas := (AttrTree.readsChildren hown).finds.has_eq
    show _ = Except.ok (total + ifType.amount)
    rw [← hin.adds_amount hown total]
    unfold parseIfTypeDataAttributes
    rw [hlist]
    simp only [List.map_cons, bind, Except.bind, hhas, hin.he.isSome_find?,
      hin.heMcs.isSome_find?, hin.eht.isSome_find?]
    cases ifType.he <;> cases ifType.heMcs <;> rfl

end KernelIfType

/-- A band, or the part of one that stands in one attribute. -/
structure KernelBand where
  channels : List KernelChannel
  ht : Bool
  htMcs : Option HtMcs
  vht : Option WideChannels
  vhtMcs : Option McsMaps
  ifTypes : List KernelIfType

namespace KernelBand

/-- The attributes of the band, among any others and in any order. -/
structure IsIn (band : KernelBand) (ts : List AttrTree) : Prop where
  channels : AttrTree.HasEntries KernelChannel.IsIn ts bandAttrFreqs band.channels
  ht : (ts.find? (·.id = bandAttrHtCapa)).isSome = band.ht
  htMcs : AttrTree.Shows ts bandAttrHtMcsSet .vector HtMcs.IsIn band.htMcs
  vht : AttrTree.Shows ts bandAttrVhtCapa (.int .uint32) (fun wide value =>
    (UInt32.ofInt value).toNat.testBit 2 = wide.is160Mhz ∧
      (UInt32.ofInt value).toNat.testBit 3 = wide.is80p80Mhz) band.vht
  vhtMcs : AttrTree.Shows ts bandAttrVhtMcsSet .vector (McsMaps.IsAt 8 0 4) band.vhtMcs
  ifTypes : AttrTree.HasEntries KernelIfType.IsIn ts bandAttrIftypeData band.ifTypes

/-- What the band says of HT and VHT. -/
def generations (band : KernelBand) : WiphyBandInfo :=
  { empty with is80211nSupported := band.ht, is80211acSupported := band.vht.isSome }

/-- What the HT and VHT capabilities say of streams and widths. -/
def limits (band : KernelBand) : WiphyBandInfo :=
  { empty with
    is160MhzSupported := band.vht.any (·.is160Mhz)
    is80p80MhzSupported := band.vht.any (·.is80p80Mhz)
    maxTxStreams := max ((band.htMcs.map fun ht => UInt32.ofNat ht.txStreams).getD 0)
      ((band.vhtMcs.map (·.transmit.streams)).getD 0)
    maxRxStreams := max ((band.htMcs.map fun ht => UInt32.ofNat ht.rxStreams).getD 0)
      ((band.vhtMcs.map (·.receive.streams)).getD 0) }

def amount (band : KernelBand) : WiphyBandInfo :=
  (band.channels.map KernelChannel.amount).sum +
    (band.generations + ((band.ifTypes.head?.map KernelIfType.amount).getD 0 + band.limits))

theorem htMcsSetAmount_eq {ht : HtMcs} {htMcsSet : List UInt8} (h : ht.IsIn htMcsSet) :
    htMcsSetAmount htMcsSet = streams (UInt32.ofNat ht.txStreams) (UInt32.ofNat ht.rxStreams) := by
  have hlength := h.length
  rw [htMcsSetAmount, sized, if_neg (by omega), h.parse_eq]

theorem vhtMcsSetAmount_eq {maps : McsMaps} {vhtMcsSet : List UInt8}
    (h : maps.IsAt 8 0 4 vhtMcsSet) :
    vhtMcsSetAmount vhtMcsSet = streams maps.transmit.streams maps.receive.streams := by
  have hlength := h.length
  obtain ⟨hreceive, htransmit⟩ := h.parse_eq (by omega) (by omega)
  rw [vhtMcsSetAmount, sized, if_neg (by omega), hreceive, htransmit]

theorem vhtCapAmount_eq {wide : WideChannels} {value : ℤ}
    (h : (UInt32.ofInt value).toNat.testBit 2 = wide.is160Mhz ∧
      (UInt32.ofInt value).toNat.testBit 3 = wide.is80p80Mhz) :
    vhtCapAmount value = widths wide.is160Mhz wide.is80p80Mhz false := by
  rw [vhtCapAmount, ← h.1, ← h.2]
  congr 1
  · exact uint32_testBit (UInt32.ofInt value) (by omega : 2 < 32)
  · exact uint32_testBit (UInt32.ofInt value) (by omega : 3 < 32)

section Reads
variable {band : KernelBand} {ts : List AttrTree} {index : ℕ} (h : band.IsIn ts)
  (hwf : (AttrTree.nested index ts).WellFormed)
include h hwf

theorem adds_channels : Adds (onSome ((ts.find? (·.id = bandAttrFreqs)).map AttrTree.attr)
    handleBandFreqAttributes) (band.channels.map KernelChannel.amount).sum := by
  apply h.channels.adds (g := fun channels => (channels.map KernelChannel.amount).sum) hwf rfl
  intro children hchild hlists total
  have hchildren : ∀ t ∈ children, t.WellFormed := by
    cases hchild with
    | nested hchildren _ => exact hchildren
  have hall := hlists.adds hchildren fun index ts channel hwf hin =>
    @KernelChannel.adds_amount channel ts index hin hwf
  unfold handleBandFreqAttributes
  rw [(AttrTree.readsChildren hchild).nested_eq]
  exact hall total

theorem adds_limits :
    Adds (parseHtVhtPhyCapabilities (AttrTree.nested index ts).attr) band.limits := by
  have hht := h.htMcs.adds hwf parseHtMcsSetAttribute_adds fun _ _ => htMcsSetAmount_eq
  have hvht := h.vhtMcs.adds hwf parseVhtMcsSetAttribute_adds fun _ _ => vhtMcsSetAmount_eq
  have hwide := h.vht.adds hwf parseVhtCapAttribute_adds fun _ _ => vhtCapAmount_eq
  have hlimits : band.limits =
      (band.htMcs.map fun ht =>
        streams (UInt32.ofNat ht.txStreams) (UInt32.ofNat ht.rxStreams)).getD 0 +
      ((band.vhtMcs.map fun maps =>
        streams maps.transmit.streams maps.receive.streams).getD 0 +
        (band.vht.map fun wide => widths wide.is160Mhz wide.is80p80Mhz false).getD 0) := by
    rw [limits]
    cases band.htMcs <;> cases band.vhtMcs <;> cases band.vht <;>
      simp [add_eq, combine, zero_eq, widths, streams, empty]
  rw [hlimits]
  exact hht.bind (hvht.bind hwide)

theorem adds_ifTypes : Adds (onSome ((ts.find? (·.id = bandAttrIftypeData)).map AttrTree.attr)
    parseIfTypeDataAttributes) ((band.ifTypes.head?.map KernelIfType.amount).getD 0) := by
  apply h.ifTypes.adds (g := fun ifTypes => (ifTypes.head?.map KernelIfType.amount).getD 0)
    hwf rfl
  intro children hchild hlists
  exact KernelIfType.adds_first hchild hlists

/-- The pass for the band adds what the band stands for. -/
theorem adds_amount :
    Adds (fun total => parseBand total (AttrTree.nested index ts).attr) band.amount := by
  have hfinds := (AttrTree.readsChildren hwf).finds
  have hget := hfinds.get_eq
  have hht := (hfinds.has_eq bandAttrHtCapa).trans (congrArg Except.ok h.ht)
  have hvht := (hfinds.has_eq bandAttrVhtCapa).trans (congrArg Except.ok h.vht.isSome_find?)
  have hgenerations : Adds (ε := Fault) (fun total => pure
      { total with
        is80211nSupported := total.is80211nSupported || band.ht
        is80211acSupported := total.is80211acSupported || band.vht.isSome })
      band.generations := by
    intro total
    rw [add_eq]
    simp [generations, combine, empty, pure, Except.pure]
  have hall := (adds_channels h hwf).bind (hgenerations.bind
    ((adds_ifTypes h hwf).bind (adds_limits h hwf)))
  intro total
  rw [amount, ← hall total]
  unfold parseBand
  simp only [hget, hht, hvht, bind, Except.bind]
  cases ts.find? (·.id = bandAttrFreqs) <;> cases ts.find? (·.id = bandAttrIftypeData) <;> rfl

end Reads

/-- What the first interface type says of HE. -/
def he (band : KernelBand) : Option WideChannels := band.ifTypes.head?.bind (·.he)

def eht (band : KernelBand) : Option Bool := band.ifTypes.head?.bind (·.eht)

def heMcs (band : KernelBand) : Option McsMaps := band.ifTypes.head?.bind (·.heMcs)

/-- The most streams that one of the sets allows. -/
def txStreams (band : KernelBand) : UInt32 :=
  max ((band.heMcs.map (·.transmit.streams)).getD 0)
    (max ((band.htMcs.map fun ht => UInt32.ofNat ht.txStreams).getD 0)
      ((band.vhtMcs.map (·.transmit.streams)).getD 0))

def rxStreams (band : KernelBand) : UInt32 :=
  max ((band.heMcs.map (·.receive.streams)).getD 0)
    (max ((band.htMcs.map fun ht => UInt32.ofNat ht.rxStreams).getD 0)
      ((band.vhtMcs.map (·.receive.streams)).getD 0))

def allows (band : KernelBand) (width : WideChannels → Bool) : Bool :=
  band.he.any width || band.vht.any width

def listed (band : KernelBand) (list : FrequencyList) : List UInt32 :=
  band.channels.filterMap (·.frequencyOn list)

end KernelBand

/-- What the bands stand for together; one stream there always is. -/
def bandInfoOf (bands : List KernelBand) : WiphyBandInfo where
  band2g := bands.flatMap (·.listed .band2g)
  band5g := bands.flatMap (·.listed .band5g)
  bandDfs := bands.flatMap (·.listed .bandDfs)
  band6g := bands.flatMap (·.listed .band6g)
  band60g := bands.flatMap (·.listed .band60g)
  is80211nSupported := bands.any (·.ht)
  is80211acSupported := bands.any (·.vht.isSome)
  is80211axSupported := bands.any (·.he.isSome)
  is80211beSupported := bands.any (·.eht.isSome)
  is160MhzSupported := bands.any (·.allows (·.is160Mhz))
  is80p80MhzSupported := bands.any (·.allows (·.is80p80Mhz))
  is320MhzSupported := bands.any (·.eht.getD false)
  maxTxStreams := bands.foldr (fun band most => max band.txStreams most) 1
  maxRxStreams := bands.foldr (fun band most => max band.rxStreams most) 1

section Sums

theorem sum_channel_amount (channels : List KernelChannel) :
    (channels.map KernelChannel.amount).sum = { empty with
      band2g := channels.filterMap (·.frequencyOn .band2g)
      band5g := channels.filterMap (·.frequencyOn .band5g)
      bandDfs := channels.filterMap (·.frequencyOn .bandDfs)
      band6g := channels.filterMap (·.frequencyOn .band6g)
      band60g := channels.filterMap (·.frequencyOn .band60g) } := by
  induction channels with
  | nil => rfl
  | cons channel channels ih =>
    have hcons (list : FrequencyList) :
        (channel :: channels).filterMap (·.frequencyOn list) =
          (channel.frequencyOn list).toList ++ channels.filterMap (·.frequencyOn list) := by
      cases hown : channel.frequencyOn list with
      | none => simp [hown]
      | some frequency => simp [hown]
    rw [List.map_cons, List.sum_cons, ih, add_eq]
    simp only [hcons, KernelChannel.amount, combine, empty, Bool.or_false, WiphyBandInfo.max_zero]

theorem KernelBand.amount_add (band : KernelBand) (bands : List KernelBand) :
    band.amount + bandInfoOf bands = bandInfoOf (band :: bands) := by
  have hfirst : (band.ifTypes.head?.map KernelIfType.amount).getD 0 = { empty with
      is80211axSupported := band.he.isSome
      is80211beSupported := band.eht.isSome
      is160MhzSupported := band.he.any (·.is160Mhz)
      is80p80MhzSupported := band.he.any (·.is80p80Mhz)
      is320MhzSupported := band.eht.getD false
      maxTxStreams := (band.heMcs.map (·.transmit.streams)).getD 0
      maxRxStreams := (band.heMcs.map (·.receive.streams)).getD 0 } := by
    rw [he, eht, heMcs]
    cases band.ifTypes.head? <;> rfl
  rw [amount, sum_channel_amount, hfirst]
  simp only [add_eq, combine, generations, limits, empty, bandInfoOf, List.flatMap_cons,
    List.any_cons, List.foldr_cons, listed, allows, txStreams, rxStreams, Bool.or_false,
    Bool.false_or, List.append_nil, WiphyBandInfo.zero_max, Bool.or_assoc]

/-- The initial value stands for no bands. -/
theorem construct_add_sum (bands : List KernelBand) :
    WiphyBandInfo.construct + (bands.map KernelBand.amount).sum = bandInfoOf bands := by
  induction bands with
  | nil => exact add_zero WiphyBandInfo.construct
  | cons band bands ih =>
    have hcentral := WiphyBandInfo.central_of_mem WiphyBandInfo.construct_mem band.amount
    calc WiphyBandInfo.construct + ((band :: bands).map KernelBand.amount).sum
        = WiphyBandInfo.construct + band.amount + (bands.map KernelBand.amount).sum := by
          rw [List.map_cons, List.sum_cons, add_assoc]
      _ = band.amount + WiphyBandInfo.construct + (bands.map KernelBand.amount).sum := by
          rw [hcentral]
      _ = band.amount + bandInfoOf bands := by
          rw [add_assoc, ih]
      _ = bandInfoOf (band :: bands) := band.amount_add bands

end Sums

/-- The features are numbers of bits. -/
structure KernelWiphy where
  bands : List KernelBand
  maxNumScanSsids : UInt8
  maxNumSchedScanSsids : UInt8
  maxMatchSets : UInt8
  maxNumScanPlans : Option UInt32
  maxScanPlanInterval : Option UInt32
  maxScanPlanIterations : Option UInt32
  features : Finset ℕ
  extFeatures : Option (Finset ℕ)

namespace KernelWiphy

/-- The attributes of the wiphy, among any others and in any order. -/
structure IsIn (wiphy : KernelWiphy) (roots : List AttrTree) : Prop where
  bands : ∃ children, roots.find? (·.id = attrWiphyBands) = some (.nested attrWiphyBands children) ∧
    AttrTree.Lists KernelBand.IsIn children wiphy.bands
  maxNumScanSsids : AttrTree.HasValue roots attrMaxNumScanSsids (.int .uint8)
    (some (wiphy.maxNumScanSsids.toNat : ℤ))
  maxNumSchedScanSsids : AttrTree.HasValue roots attrMaxNumSchedScanSsids (.int .uint8)
    (some (wiphy.maxNumSchedScanSsids.toNat : ℤ))
  maxMatchSets : AttrTree.HasValue roots attrMaxMatchSets (.int .uint8)
    (some (wiphy.maxMatchSets.toNat : ℤ))
  maxNumScanPlans : AttrTree.HasValue roots attrMaxNumSchedScanPlans (.int .uint32)
    (wiphy.maxNumScanPlans.map fun v => (v.toNat : ℤ))
  maxScanPlanInterval : AttrTree.HasValue roots attrMaxScanPlanInterval (.int .uint32)
    (wiphy.maxScanPlanInterval.map fun v => (v.toNat : ℤ))
  maxScanPlanIterations : AttrTree.HasValue roots attrMaxScanPlanIterations (.int .uint32)
    (wiphy.maxScanPlanIterations.map fun v => (v.toNat : ℤ))
  features : AttrTree.Shows roots attrFeatureFlags (.int .uint32)
    (fun (features : Finset ℕ) value =>
      ∀ k < 32, (UInt32.ofInt value).toNat.testBit k = true ↔ k ∈ features) (some wiphy.features)
  extFeatures : AttrTree.Shows roots attrExtFeatures .vector (fun (features : Finset ℕ) bytes =>
    ∀ k, (bytes.getD (k / 8) 0).toNat.testBit (k % 8) = true ↔ k ∈ features) wiphy.extFeatures

/-- Only the attributes of the wiphy matter. -/
theorem IsIn.cons {wiphy : KernelWiphy} {roots : List AttrTree} (h : wiphy.IsIn roots)
    {t : AttrTree} (ht : t.id = attrWiphy) : wiphy.IsIn (t :: roots) := by
  have hsame (id : ℕ) (hid : id ≠ attrWiphy) :
      (t :: roots).find? (·.id = id) = roots.find? (·.id = id) := by
    apply List.find?_cons_of_neg
    rw [ht, decide_eq_true_iff]
    exact hid.symm
  obtain ⟨children, hbands, hlists⟩ := h.bands
  exact
    { bands := ⟨children, (hsame _ (by decide)).trans hbands, hlists⟩
      maxNumScanSsids := (hsame _ (by decide)).trans h.maxNumScanSsids
      maxNumSchedScanSsids := (hsame _ (by decide)).trans h.maxNumSchedScanSsids
      maxMatchSets := (hsame _ (by decide)).trans h.maxMatchSets
      maxNumScanPlans := (hsame _ (by decide)).trans h.maxNumScanPlans
      maxScanPlanInterval := (hsame _ (by decide)).trans h.maxScanPlanInterval
      maxScanPlanIterations := (hsame _ (by decide)).trans h.maxScanPlanIterations
      features := h.features.congr (hsame _ (by decide))
      extFeatures := h.extFeatures.congr (hsame _ (by decide)) }

def scanCapabilities (wiphy : KernelWiphy) : ScanCapabilities where
  maxNumScanSsids := wiphy.maxNumScanSsids
  maxNumSchedScanSsids := wiphy.maxNumSchedScanSsids
  maxMatchSets := wiphy.maxMatchSets
  maxNumScanPlans := wiphy.maxNumScanPlans.getD 0
  maxScanPlanInterval := wiphy.maxScanPlanInterval.getD 0
  maxScanPlanIterations := wiphy.maxScanPlanIterations.getD 0

def wiphyFeatures (wiphy : KernelWiphy) : WiphyFeatures where
  supportsRandomMacOneshotScan := 29 ∈ wiphy.features
  supportsRandomMacSchedScan := 30 ∈ wiphy.features
  supportsLowSpanOneshotScan := extFeatureLowSpanScan ∈ wiphy.extFeatures.getD ∅
  supportsLowPowerOneshotScan := extFeatureLowPowerScan ∈ wiphy.extFeatures.getD ∅
  supportsHighAccuracyOneshotScan := extFeatureHighAccuracyScan ∈ wiphy.extFeatures.getD ∅
  supportsTxMgmtFrameMcs := false
  supportsExtSchedScanRelativeRssi :=
    extFeatureSchedScanRelativeRssi ∈ wiphy.extFeatures.getD ∅

/-- What is to be reported of the wiphy. -/
def info (wiphy : KernelWiphy) : WiphyInfo :=
  ⟨bandInfoOf wiphy.bands, wiphy.scanCapabilities, wiphy.wiphyFeatures⟩

theorem isExtFeatureFlagSet_eq (bytes : List UInt8) (k : ℕ) :
    isExtFeatureFlagSet bytes k = (bytes.getD (k / 8) 0).toNat.testBit (k % 8) := by
  have hmask : (1 : UInt8) <<< UInt8.ofNat (k % 8) = UInt8.ofNat (2 ^ (k % 8)) := by
    have hlt : k % 8 < 8 := Nat.mod_lt k (by omega)
    generalize k % 8 = n at hlt
    interval_cases n <;> rfl
  rw [isExtFeatureFlagSet, List.getD_eq_getElem?_getD, hmask]
  cases bytes[k / 8]? with
  | none => simp
  | some byte => exact uint8_testBit byte (Nat.mod_lt k (by omega))

section Reads
variable {wiphy : KernelWiphy} {roots : List AttrTree} {packet : NL80211Packet}
  (h : wiphy.IsIn roots) (harea : packet.HasArea (AttrTree.area roots))
  (hroots : ∀ t ∈ roots, t.WellFormed)
include h harea hroots

theorem parseBandInfo_eq : parseBandInfo packet = .ok (some (bandInfoOf wiphy.bands)) := by
  have hget := (harea.findsFirst hroots).get_eq attrWiphyBands
  obtain ⟨children, hfind, hlists⟩ := h.bands
  rw [hfind] at hget
  have hbands := hroots _ (List.mem_of_find?_eq_some hfind)
  have hchildren : ∀ t ∈ children, t.WellFormed := by
    cases hbands with
    | nested hchildren _ => exact hchildren
  have hall := hlists.adds hchildren fun index ts band hwf hin =>
    @KernelBand.adds_amount band ts index hin hwf
  have hrun : (children.map AttrTree.attr).foldlM parseBand WiphyBandInfo.construct =
      .ok (bandInfoOf wiphy.bands) := by
    rw [← construct_add_sum]
    exact hall WiphyBandInfo.construct
  unfold parseBandInfo
  rw [hget]
  show Except.bind (NL80211NestedAttr.getListOfNestedAttributes
    (AttrTree.nested attrWiphyBands children).attr) _ = _
  rw [(AttrTree.readsChildren hbands).nested_eq]
  show Except.bind ((children.map AttrTree.attr).foldlM parseBand WiphyBandInfo.construct) _ = _
  rw [hrun]
  rfl

theorem parseScanCapabilities_eq :
    parseScanCapabilities packet = .ok (some wiphy.scanCapabilities) := by
  have hfinds := harea.findsFirst hroots
  have hssids := hfinds.getValue_of_hasValue h.maxNumScanSsids
  have hschedSsids := hfinds.getValue_of_hasValue h.maxNumSchedScanSsids
  have hmatchSets := hfinds.getValue_of_hasValue h.maxMatchSets
  have hplan {id : ℕ} {value : Option UInt32} (hvalue : AttrTree.HasValue roots id (.int .uint32)
      (value.map fun v => (v.toNat : ℤ))) : scanPlanCapability packet id = .ok (value.getD 0) := by
    have hread := hfinds.getValue_of_hasValue hvalue
    unfold scanPlanCapability
    show Except.bind (packet.getAttributeValue (ValueType.int .uint32).template id) _ = _
    rw [hread]
    cases value with
    | none => rfl
    | some v => simp [Except.bind, pure, Except.pure, uint32_ofInt_toNat]
  simp only [ValueType.template] at hssids hschedSsids hmatchSets
  unfold parseScanCapabilities
  rw [hssids, hschedSsids, hmatchSets, hplan h.maxNumScanPlans, hplan h.maxScanPlanInterval,
    hplan h.maxScanPlanIterations]
  simp only [bind, Except.bind, pure, Except.pure, uint8_ofInt_toNat]
  rfl

/-- The packet is taken, and all outputs are those of the description. -/
theorem parseWiphyInfoFromPacket_eq (hcommand : packet.getCommand = .ok cmdNewWiphy.toNat)
    (outs : WiphyInfo) : parseWiphyInfoFromPacket packet outs = .ok (true, wiphy.info) := by
  have hfinds := harea.findsFirst hroots
  obtain ⟨flags, hflags, hfeatures⟩ := h.features
  have hflagsRead := hfinds.value_eq attrFeatureFlags (.int .uint32) flags hflags
  obtain ⟨bytes?, hbytes, hrel⟩ := h.extFeatures.exists_hasValue
  have hbytesRead := hfinds.getValue_of_hasValue hbytes
  have hext (k : ℕ) : isExtFeatureFlagSet (bytes?.getD []) k =
      decide (k ∈ wiphy.extFeatures.getD ∅) := by
    rw [Bool.eq_iff_iff, decide_eq_true_iff, isExtFeatureFlagSet_eq]
    revert hrel
    cases wiphy.extFeatures with
    | none =>
      intro hrel
      cases hrel
      simp
    | some features =>
      intro hrel
      cases hrel with
      | some hbits => exact hbits k
  have hflag {k : ℕ} (hk : k < 32) :
      decide (UInt32.ofInt flags &&& UInt32.ofNat (2 ^ k) ≠ 0) = decide (k ∈ wiphy.features) := by
    rw [uint32_testBit _ hk, Bool.eq_iff_iff, decide_eq_true_iff]
    exact hfeatures k hk
  have hconstruct : WiphyFeatures.construct (UInt32.ofInt flags) (bytes?.getD []) =
      wiphy.wiphyFeatures := by
    unfold WiphyFeatures.construct wiphyFeatures
    simp only [hext]
    congr 1
    · exact hflag (by omega : 29 < 32)
    · exact hflag (by omega : 30 < 32)
  simp only [ValueType.template] at hflagsRead hbytesRead
  unfold parseWiphyInfoFromPacket
  rw [hcommand, parseBandInfo_eq h harea hroots, parseScanCapabilities_eq h harea hroots,
    hflagsRead, hbytesRead]
  simp only [bind, Except.bind, pure, Except.pure, ne_eq, not_true_eq_false, if_false, hconstruct]
  rfl

end Reads

end KernelWiphy

end Wificond
