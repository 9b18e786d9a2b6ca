import Wificond.InterfaceDump
import Wificond.ScanResults

/-!
# Dumps of scan results

The kernel sends one message for each BSS that it has heard of, with the attributes that it
has for it. What `GetScanResult` gives back for a dump is stated in terms of the BSSs alone:
those of the interface that have all that a result is made of.
-/
namespace Wificond

open PaddedTlv ScanUtils

namespace AttrTree

/-- The first tree with this id is a leaf with the value, or no tree has this id. -/
def HasValue (ts : List AttrTree) (id : ℕ) (k : ValueType) (value : Option k.Value) : Prop :=
  ts.find? (·.id = id) = value.map (leaf id k)

theorem FindsFirst.getValue_of_hasValue {has : ℕ → Exec Bool}
    {get : ℕ → Exec (Option NL80211NestedAttr)}
    {getTyped : ValueType → ℕ → Exec (Option BaseNL80211Attr)}
    {getValue : (k : ValueType) → ℕ → Exec (Option k.Value)} {ts : List AttrTree} {id : ℕ}
    {k : ValueType} {value : Option k.Value} (h : FindsFirst has get getTyped getValue ts)
    (hvalue : HasValue ts id k value) : getValue k id = .ok value := by
  cases value with
  | none => exact h.value_none id k hvalue
  | some v => exact h.value_eq id k v hvalue

/-- The leaves of one type below a nested attribute are listed with their ids. -/
theorem getListOfAttributes_leaves {α : Type} {id : ℕ} {k : ValueType} {entries : List α}
    {tag : α → ℕ} {value : α → k.Value}
    (h : (nested id (entries.map fun e => leaf (tag e) k (value e))).WellFormed) :
    NL80211NestedAttr.getListOfAttributes
      (nested id (entries.map fun e => leaf (tag e) k (value e))).attr k.template =
        .ok (some (entries.map fun e => k.construct (tag e) (value e))) := by
  have hchildren : ∀ c ∈ entries.map fun e => leaf (tag e) k (value e), c.WellFormed := by
    cases h with
    | nested hchildren _ => exact hchildren
  apply walk_children hchildren
  rw [List.forall₂_map_left_iff, List.forall₂_map_right_iff, List.forall₂_same]
  intro e he
  cases hchildren _ (List.mem_map_of_mem he) with
  | leaf hvalue hfits =>
    have hvalid := ValueType.isValid_encode (tag e) (k := k) (v := value e) hfits
    simp only [NL80211NestedAttr.attributeElement, item, AttrTree.id, payload, hvalid, if_true,
      k.construct_eq_encode]

end AttrTree

theorem NL80211Packet.HasArea.findsFirst {packet : NL80211Packet} {roots : List AttrTree}
    (h : packet.HasArea (AttrTree.area roots)) (hroots : ∀ t ∈ roots, t.WellFormed) :
    AttrTree.FindsFirst packet.hasAttribute packet.getAttribute
      (fun k => packet.getTypedAttribute k.template)
      (fun k => packet.getAttributeValue k.template) roots := by
  obtain ⟨header, hlen, hdata⟩ := h
  have hfind := AttrTree.findsFirst_area header hroots
  rw [hlen, ← hdata] at hfind
  exact hfind

theorem uint8_ofInt_toNat (v : UInt8) : UInt8.ofInt (v.toNat : ℤ) = v := by
  have hlt := v.toNat_lt
  rw [← UInt8.toNat_inj, UInt8.ofInt, UInt8.toNat_ofNat']
  omega

theorem uint16_ofInt_toNat (v : UInt16) : UInt16.ofInt (v.toNat : ℤ) = v := by
  have hlt := v.toNat_lt
  rw [← UInt16.toNat_inj, UInt16.ofInt, UInt16.toNat_ofNat']
  omega

theorem uint32_ofInt_toNat (v : UInt32) : UInt32.ofInt (v.toNat : ℤ) = v := by
  have hlt := v.toNat_lt
  rw [← UInt32.toNat_inj, UInt32.ofInt, UInt32.toNat_ofNat']
  omega

theorem uint64_ofInt_toNat (v : UInt64) : UInt64.ofInt (v.toNat : ℤ) = v := by
  have hlt := v.toNat_lt
  rw [← UInt64.toNat_inj, UInt64.ofInt, UInt64.toNat_ofNat']
  omega

/-- In a sequence of whole elements the SSID is that of the first element with its id. -/
theorem hasSsid_encode_iff {elements : List InfoElement} {ssid : List UInt8} :
    HasSsid (elements.flatMap InfoElement.encode) ssid ↔
      (elements.find? (·.id = elemIdSsid)).map InfoElement.value = some ssid := by
  induction elements with
  | nil => simp [not_hasSsid_of_short]
  | cons element elements ih =>
    have hfits := element.fits
    have hlength : (UInt8.ofNat element.value.length).toNat = element.value.length := by
      apply UInt8.toNat_ofNat_of_lt'
      exact hfits
    rw [List.flatMap_cons, InfoElement.encode, List.cons_append, List.cons_append,
      hasSsid_cons_iff, hlength, List.take_left' rfl, List.drop_left' rfl, ih, List.find?_cons]
    by_cases hid : element.id = elemIdSsid
    · simp [hid]
    · simp [hid]

theorem getSSIDFromInfoElement_encode (elements : List InfoElement) :
    getSSIDFromInfoElement (elements.flatMap InfoElement.encode) =
      .ok ((elements.find? (·.id = elemIdSsid)).map InfoElement.value) := by
  obtain ⟨found, hfound, hiff⟩ := getSSIDFromInfoElement_spec (elements.flatMap InfoElement.encode)
  have hsame : found = (elements.find? (·.id = elemIdSsid)).map InfoElement.value := by
    apply Option.ext
    intro ssid
    rw [hiff, hasSsid_encode_iff]
  rw [hfound, hsame]

/-- What the kernel has for a BSS; the chains are the antennas that heard it, with the level. -/
structure ScannedBss where
  bssid : Option MacAddress
  frequency : Option UInt32
  elements : Option (List InfoElement)
  lastSeenBoottime : Option UInt64
  tsf : Option UInt64
  beaconTsf : Option UInt64
  signalMbm : Option Int32
  capability : Option UInt16
  status : Option UInt32
  chains : Option (List (ℕ × Int8))

namespace ScannedBss

/-- When the BSS was last seen, or else the later of the times that it sent. -/
def timestamp (bss : ScannedBss) : Option UInt64 :=
  (bss.lastSeenBoottime.map (· / 1000)).or
    (bss.tsf.map fun tsf => max tsf (bss.beaconTsf.getD 0))

def isAssociated (bss : ScannedBss) : Bool := bss.status = some 0 ∨ bss.status = some 1

/-- A BSS that lacks something is left out; the status and the chains may be missing. -/
def result (bss : ScannedBss) : Option NativeScanResult := do
  let bssid ← bss.bssid
  let frequency ← bss.frequency
  let elements ← bss.elements
  let ssid ← elements.find? (·.id = elemIdSsid)
  let tsf ← bss.timestamp
  let signalMbm ← bss.signalMbm
  let capability ← bss.capability
  return ⟨ssid.value, bssid, elements.flatMap InfoElement.encode, frequency, signalMbm, tsf,
    capability, bss.isAssociated,
    (bss.chains.getD []).map fun chain => ⟨Int32.ofInt chain.1, chain.2.toInt32⟩⟩

/-- The attributes of the BSS, among any others and in any order. -/
structure IsIn (bss : ScannedBss) (ts : List AttrTree) : Prop where
  bssid : AttrTree.HasValue ts bssBssid (.array 6) (bss.bssid.map (·.toList))
  frequency : AttrTree.HasValue ts bssFrequency (.int .uint32)
    (bss.frequency.map fun v => (v.toNat : ℤ))
  elements : AttrTree.HasValue ts bssInformationElements .vector
    (bss.elements.map (·.flatMap InfoElement.encode))
  lastSeenBoottime : AttrTree.HasValue ts bssLastSeenBoottime (.int .uint64)
    (bss.lastSeenBoottime.map fun v => (v.toNat : ℤ))
  tsf : AttrTree.HasValue ts bssTsf (.int .uint64) (bss.tsf.map fun v => (v.toNat : ℤ))
  beaconTsf : AttrTree.HasValue ts bssBeaconTsf (.int .uint64)
    (bss.beaconTsf.map fun v => (v.toNat : ℤ))
  signalMbm : AttrTree.HasValue ts bssSignalMbm (.int .int32) (bss.signalMbm.map Int32.toInt)
  capability : AttrTree.HasValue ts bssCapability (.int .uint16)
    (bss.capability.map fun v => (v.toNat : ℤ))
  status : AttrTree.HasValue ts bssStatus (.int .uint32) (bss.status.map fun v => (v.toNat : ℤ))
  chains : ts.find? (·.id = bssChainSignal) = bss.chains.map fun chains =>
    .nested bssChainSignal (chains.map fun chain => .leaf chain.1 (.int .int8) chain.2.toInt)

section Reads
variable {bss : ScannedBss} {ts : List AttrTree} (h : bss.IsIn ts)
  (hwf : (AttrTree.nested attrBss ts).WellFormed)
include h hwf

theorem getBssTimestamp_of_isIn :
    getBssTimestamp (AttrTree.nested attrBss ts).attr = .ok bss.timestamp := by
  have hfinds := (AttrTree.readsChildren hwf).finds
  have hseen := hfinds.getValue_of_hasValue h.lastSeenBoottime
  have htsf := hfinds.getValue_of_hasValue h.tsf
  have hbeacon := hfinds.getValue_of_hasValue h.beaconTsf
  have hzero (t : UInt64) : max t 0 = t := by
    show (if t ≤ 0 then 0 else t) = t
    split_ifs with hle
    · exact (UInt64.le_antisymm hle (UInt64.zero_le)).symm
    · rfl
  simp only [ValueType.template] at hseen htsf hbeacon
  unfold getBssTimestamp timestamp
  rw [hseen, htsf, hbeacon]
  cases bss.lastSeenBoottime with
  | some nanoseconds =>
    simp [bind, Except.bind, pure, Except.pure, uint64_ofInt_toNat]
  | none =>
    cases bss.tsf with
    | none => rfl
    | some tsf =>
      cases bss.beaconTsf with
      | none => simp [bind, Except.bind, pure, Except.pure, uint64_ofInt_toNat, hzero]
      | some beaconTsf => simp [bind, Except.bind, pure, Except.pure, uint64_ofInt_toNat]

theorem parseRadioChainInfos_of_isIn : parseRadioChainInfos (AttrTree.nested attrBss ts).attr =
    .ok ((bss.chains.getD []).map fun chain =>
      ⟨Int32.ofInt chain.1, chain.2.toInt32⟩) := by
  have hget := (AttrTree.readsChildren hwf).finds.get_eq bssChainSignal
  unfold parseRadioChainInfos
  rw [hget, h.chains]
  cases hchains : bss.chains with
  | none => rfl
  | some chains =>
    have hnested : (AttrTree.nested bssChainSignal (chains.map fun chain =>
        .leaf chain.1 (.int .int8) chain.2.toInt)).WellFormed := by
      have hmem : _ ∈ ts := List.mem_of_find?_eq_some (h.chains.trans (by rw [hchains]; rfl))
      cases hwf with
      | nested hchildren _ => exact hchildren _ hmem
    have hlist := AttrTree.getListOfAttributes_leaves hnested
    show Except.bind (NL80211NestedAttr.getListOfAttributes _ (ValueType.int .int8).template) _ = _
    rw [hlist]
    show List.mapM radioChainInfo _ = _
    rw [mapM_radioChainInfo_eq_ok_iff, List.forall₂_map_left_iff]
    show List.Forall₂ _ chains (chains.map _)
    rw [List.forall₂_map_right_iff, List.forall₂_same]
    intro chain hmem
    have hleaf : (AttrTree.leaf chain.1 (.int .int8) chain.2.toInt).WellFormed := by
      cases hnested with
      | nested hchildren _ => exact hchildren _ (List.mem_map_of_mem hmem)
    cases hleaf with
    | leaf hvalue hfits =>
      have hread := ValueType.getValue_encode chain.1 hvalue hfits
      refine ⟨chain.2.toInt, ?_, ?_⟩
      · rw [ValueType.construct_eq_encode]
        exact hread
      · rw [ValueType.construct_eq_encode]
        have hid : BaseNL80211Attr.getAttributeId ⟨(Item.mk chain.1
            ((ValueType.int .int8).bytes chain.2.toInt)).encode⟩ = chain.1 :=
          getAttributeId_encode hfits
        rw [hid]
        rfl

theorem parseBss_of_isIn : parseBss (AttrTree.nested attrBss ts).attr = .ok bss.result := by
  have hfinds := (AttrTree.readsChildren hwf).finds
  have htimestamp := getBssTimestamp_of_isIn h hwf
  have hchains := parseRadioChainInfos_of_isIn h hwf
  have hstatus := hfinds.getValue_of_hasValue h.status
  unfold parseBss result
  refine Runs.bind_eq_ok_of_map (hfinds.getValue_of_hasValue h.bssid) rfl fun bssid => ?_
  refine Runs.bind_eq_ok_of_map (hfinds.getValue_of_hasValue h.frequency) rfl fun frequency => ?_
  refine Runs.bind_eq_ok_of_map (hfinds.getValue_of_hasValue h.elements) rfl fun elements => ?_
  refine Runs.bind_eq_ok_of_map (getSSIDFromInfoElement_encode elements) rfl fun ssid => ?_
  refine Runs.bind_eq_ok_of_map (e := id) (by rw [htimestamp, Option.map_id]; rfl) rfl fun tsf => ?_
  refine Runs.bind_eq_ok_of_map (hfinds.getValue_of_hasValue h.signalMbm) rfl fun signalMbm => ?_
  refine Runs.bind_eq_ok_of_map (hfinds.getValue_of_hasValue h.capability) rfl fun capability => ?_
  have hassociated : bss.isAssociated = decide (bss.status.map (fun v => (v.toNat : ℤ)) =
      some bssStatusAuthenticated ∨ bss.status.map (fun v => (v.toNat : ℤ)) =
        some bssStatusAssociated) := by
    rw [isAssociated, decide_eq_decide]
    cases bss.status with
    | none => simp
    | some status =>
      have hstatus (n : ℕ) (hn : n < 2 ^ 32) :
          status = UInt32.ofNat n ↔ (status.toNat : ℤ) = n := by
        rw [← UInt32.toNat_inj, UInt32.toNat_ofNat_of_lt' hn]
        omega
      simp only [Option.map_some, Option.some.injEq]
      exact or_congr (hstatus 0 (by omega)) (hstatus 1 (by omega))
  show Except.bind (NL80211NestedAttr.getAttributeValue _ (ValueType.int .uint32).template _) _ = _
  rw [hstatus]
  show Except.bind (parseRadioChainInfos _) _ = _
  rw [hchains, hassociated]
  simp only [Except.bind, pure, Except.pure, MacAddress.ofBytes_toList, uint32_ofInt_toNat,
    uint16_ofInt_toNat, Int32.ofInt_toInt, id_eq]

end Reads

end ScannedBss

/-- The kernel's message about a BSS that an interface heard. -/
structure DescribesBss (familyId : UInt16) (m : Message) (entry : Option UInt32 × ScannedBss) :
    Prop where
  type : m.type = familyId.toNat
  command : m.packet.getCommand = .ok cmdNewScanResults
  attributes : ∃ roots ts, m.packet.HasArea (AttrTree.area roots) ∧
    (∀ t ∈ roots, t.WellFormed) ∧
    AttrTree.HasValue roots attrIfindex (.int .uint32) (entry.1.map fun v => (v.toNat : ℤ)) ∧
    roots.find? (·.id = attrBss) = some (.nested attrBss ts) ∧ entry.2.IsIn ts

/-- What an entry of a dump means to an interface. -/
def scanResultFor (interfaceIndex : UInt32) (entry : Option UInt32 × ScannedBss) :
    Option NativeScanResult :=
  if entry.1 = some interfaceIndex then entry.2.result else none

section Dump
variable {familyId : UInt16} {m : Message} {entry : Option UInt32 × ScannedBss}
  {header : RequestHeader} {interfaceIndex : UInt32}

theorem DescribesBss.parseScanResult (h : DescribesBss familyId m entry)
    (scanResult : NativeScanResult) : ScanUtils.parseScanResult m.packet scanResult =
      .ok (entry.2.result.isSome, entry.2.result.getD scanResult) := by
  obtain ⟨roots, ts, harea, hroots, -, hbss, hin⟩ := h.attributes
  have hget := (harea.findsFirst hroots).get_eq attrBss
  rw [hbss] at hget
  have hparse := ScannedBss.parseBss_of_isIn hin (hroots _ (List.mem_of_find?_eq_some hbss))
  unfold ScanUtils.parseScanResult
  rw [h.command, hget]
  simp only [bind, Except.bind, ne_eq, not_true_eq_false, if_false, Option.map_some, hparse]
  cases entry.2.result with
  | none => rfl
  | some result => rfl

/-- The pass of the loop appends what the entry means to the interface. -/
theorem DescribesBss.receiveScanResult (h : DescribesBss familyId m entry)
    (hfamily : nlmsgMinType ≤ familyId.toNat) (declared : ℕ → NativeScanResult)
    (out : List NativeScanResult) (i : ℕ) :
    ScanUtils.receiveScanResult familyId interfaceIndex declared out (m.packet, i) =
      .ok (out ++ (scanResultFor interfaceIndex entry).toList) := by
  obtain ⟨roots, ts, harea, hroots, hindex, -⟩ := h.attributes
  have hread := (harea.findsFirst hroots).getValue_of_hasValue hindex
  have htype : m.packet.getMessageType = familyId.toNat := h.type
  have herror : m.packet.getMessageType ≠ nlmsgError := by
    unfold nlmsgError
    unfold nlmsgMinType at hfamily
    omega
  cases hentry : entry.1 with
  | none =>
    rw [hentry] at hread
    rw [scanResultFor, hentry, if_neg (by simp), ScanUtils.receiveScanResult, if_neg herror,
      if_neg (not_not.mpr htype)]
    show Except.bind (m.packet.getAttributeValue (ValueType.int .uint32).template _) _ = _
    rw [hread]
    simp [Except.bind, pure, Except.pure]
  | some ifIndex =>
    rw [hentry] at hread
    by_cases hown : ifIndex = interfaceIndex
    · subst hown
      rw [receiveScanResult_of_index herror htype hread (uint32_ofInt_toNat ifIndex),
        h.parseScanResult, scanResultFor, if_pos hentry]
      cases entry.2.result with
      | none => simp [Except.map]
      | some result => simp [Except.map]
    · have hother : UInt32.ofInt (ifIndex.toNat : ℤ) ≠ interfaceIndex := by
        rw [uint32_ofInt_toNat]
        exact hown
      rw [scanResultFor, hentry, if_neg (by simpa using hown), ScanUtils.receiveScanResult,
        if_neg herror, if_neg (not_not.mpr htype)]
      show Except.bind (m.packet.getAttributeValue (ValueType.int .uint32).template _) _ = _
      rw [hread]
      simp [Except.bind, pure, Except.pure, hother]

/-- The loop appends the results of the entries of the interface in their order. -/
theorem receiveAll_of_describes {parts : List Message}
    {entries : List (Option UInt32 × ScannedBss)} (hfamily : nlmsgMinType ≤ familyId.toNat)
    (hdescribe : List.Forall₂ (DescribesBss familyId) parts entries)
    (declared : ℕ → NativeScanResult) (out : List NativeScanResult) (n : ℕ) :
    receiveAll familyId interfaceIndex declared n (parts.map Message.packet) out =
      .ok (out ++ entries.filterMap (scanResultFor interfaceIndex)) := by
  induction hdescribe generalizing n out with
  | nil => simp [receiveAll, pure, Except.pure]
  | @cons m entry parts entries hfirst hothers ih =>
    rw [List.map_cons, receiveAll_cons, hfirst.receiveScanResult hfamily]
    show receiveAll familyId interfaceIndex declared (n + 1) (parts.map Message.packet) _ = _
    rw [ih, List.append_assoc]
    cases hentry : scanResultFor interfaceIndex entry with
    | none => simp [hentry]
    | some result => simp [hentry]

/-- Messages that describe BSSs give the results of those that the interface heard. -/
theorem getScanResult_of_describes {respond : NL80211Packet → Option (List NL80211Packet)}
    {parts : List Message} {entries : List (Option UInt32 × ScannedBss)}
    (hfamily : nlmsgMinType ≤ header.familyId.toNat)
    (hdescribe : List.Forall₂ (DescribesBss header.familyId) parts entries)
    (hresponse : respond (scanResultRequest header interfaceIndex) =
      some (parts.map Message.packet))
    (declared : ℕ → NativeScanResult) (out : List NativeScanResult) :
    getScanResult header respond interfaceIndex declared out =
      .ok (true, out ++ entries.filterMap (scanResultFor interfaceIndex)) := by
  rw [getScanResult_of_response declared out hresponse,
    receiveAll_of_describes hfamily hdescribe]
  rfl

/-- The scan results that the kernel dumps are read back: in order one for each BSS that the
interface heard and that has all that a result is made of, whatever broadcasts they arrive with
and however they are spread over datagrams that the receive buffer has room for. -/
theorem getScanResult_of_dump {H : Type} {traffic : Traffic H} {parts : List Message}
    {done : Message} {entries : List (Option UInt32 × ScannedBss)}
    (hfamily : nlmsgMinType ≤ header.familyId.toNat)
    (hdescribe : List.Forall₂ (DescribesBss header.familyId) parts entries)
    (hdone : done.type = nlmsgDone)
    (hbrings : traffic.Brings (scanResultRequest header interfaceIndex) parts done)
    (declared : ℕ → NativeScanResult) (out : List NativeScanResult) :
    getScanResult header traffic.responses interfaceIndex declared out =
      .ok (true, out ++ entries.filterMap (scanResultFor interfaceIndex)) :=
  getScanResult_of_describes hfamily hdescribe (hbrings.responses_of_done hdone) declared out

end Dump

/-- A dump of an access point on the channel of 2437 MHz and of a BSS of another interface. -/
theorem getScanResult_of_dump_with_other_interface :
    let header : RequestHeader := ⟨28, 5, 0⟩
    let own : Message := ⟨⟨[108, 0, 0, 0, 28, 0, 2, 0, 5, 0, 0, 0, 0, 0, 0, 0, 34, 1, 0, 0,
      8, 0, 3, 0, 3, 0, 0, 0, 80, 0, 47, 0, 10, 0, 1, 0, 2, 0, 0, 0, 0, 1, 0, 0,
      8, 0, 2, 0, 133, 9, 0, 0, 8, 0, 6, 0, 0, 2, 104, 105, 12, 0, 15, 0, 136, 19, 0, 0, 0, 0, 0, 0,
      8, 0, 7, 0, 112, 239, 255, 255, 6, 0, 5, 0, 17, 4, 0, 0, 8, 0, 9, 0, 1, 0, 0, 0,
      12, 0, 19, 0, 5, 0, 1, 0, 214, 0, 0, 0]⟩, by decide, by decide⟩
    let other : Message := ⟨⟨[32, 0, 0, 0, 28, 0, 2, 0, 5, 0, 0, 0, 0, 0, 0, 0, 34, 1, 0, 0,
      8, 0, 3, 0, 4, 0, 0, 0, 4, 0, 47, 0]⟩, by decide, by decide⟩
    let done : Message := ⟨⟨[20, 0, 0, 0, 3, 0, 2, 0, 5, 0, 0, 0, 0, 0, 0, 0, 0, 0, 0, 0]⟩,
      by decide, by decide⟩
    let traffic : Traffic Unit :=
      ⟨(), fun _ => [.datagram [own] 3, .datagram [other, done] 4], ⟨fun _ => 0, ∅, []⟩⟩
    let blank : NativeScanResult := ⟨[], .ofBytes [], [], 0, 0, 0, 0, false, []⟩
    getScanResult header traffic.responses 3 (fun _ => blank) [] =
      .ok (true, [⟨[104, 105], #v[2, 0, 0, 0, 0, 1], [0, 2, 104, 105], 2437, -4240, 5, 1041, true,
        [⟨1, -42⟩]⟩]) := by
  intro header own other done traffic blank
  have hown : DescribesBss header.familyId own (some 3, ⟨some #v[2, 0, 0, 0, 0, 1], some 2437,
      some [⟨0, [104, 105], by decide⟩], some 5000, none, none, some (-4240), some 1041, some 1,
      some [(1, -42)]⟩) := by
    let ts : List AttrTree := [.leaf 1 (.array 6) [2, 0, 0, 0, 0, 1], .leaf 2 (.int .uint32) 2437,
      .leaf 6 .vector [0, 2, 104, 105], .leaf 15 (.int .uint64) 5000,
      .leaf 7 (.int .int32) (-4240), .leaf 5 (.int .uint16) 1041, .leaf 9 (.int .uint32) 1,
      .nested 19 [.leaf 1 (.int .int8) (-42)]]
    refine ⟨by decide, by decide, [.leaf 3 (.int .uint32) 3, .nested 47 ts], ts, ?_, ?_, rfl, rfl,
      ?_⟩
    · exact ⟨own.packet.data.take 20, by decide, by decide⟩
    · apply AttrTree.allWellFormed_of_fits
      · simp only [ts, AttrTree.AllFit, AttrTree.FitsDeep, and_true]
        decide
      · simp only [ts, AttrTree.AllHold, AttrTree.HoldsDeep, and_true]
        decide
    · exact ⟨rfl, rfl, rfl, rfl, rfl, rfl, rfl, rfl, rfl, rfl⟩
  have hother : DescribesBss header.familyId other (some 4, ⟨none, none, none, none, none, none,
      none, none, none, none⟩) := by
    refine ⟨by decide, by decide, [.leaf 3 (.int .uint32) 4, .nested 47 []], [], ?_, ?_, rfl, rfl,
      ?_⟩
    · exact ⟨other.packet.data.take 20, by decide, by decide⟩
    · apply AttrTree.allWellFormed_of_fits
      · simp only [AttrTree.AllFit, AttrTree.FitsDeep, and_true]
        decide
      · simp only [AttrTree.AllHold, AttrTree.HoldsDeep, and_true]
        decide
    · exact ⟨rfl, rfl, rfl, rfl, rfl, rfl, rfl, rfl, rfl, rfl⟩
  have harrives : Arrives (scanResultRequest header 3).getMessageSequence
      maximumNetlinkMessageWait [own, other] done
      [.datagram [own] 3, .datagram [other, done] 4] := by
    have hsequence : (scanResultRequest header 3).getMessageSequence = 5 := by decide
    have hownSequence : own.sequence = 5 := by decide
    have hotherSequence : other.sequence = 5 := by decide
    have hdoneSequence : done.sequence = 5 := by decide
    rw [hsequence]
    refine ⟨by decide, by decide, ⟨by decide, .inl (by decide)⟩, ?_, ?_,
      ⟨3993, by decide, by decide⟩, by decide⟩
    · simp [messagesOf, Arrival.messages, hownSequence, hotherSequence, hdoneSequence]
    · simp [messagesOf, Arrival.messages, hownSequence, hotherSequence, hdoneSequence]
  exact getScanResult_of_dump (by decide) (.cons hown (.cons hother .nil)) (by decide)
    ⟨_, [], (List.append_nil _).symm, harrives⟩ (fun _ => blank) []

end Wificond
