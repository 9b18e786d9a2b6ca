import Wificond.InformationElements
import Wificond.Packet
import Wificond.Runs
import Wificond.ScanParcelables

/-!
# Results of a scan

`GetScanResult` looks at the packets of a scan dump one by one. A packet without
`NL80211_ATTR_BSS` gets past `ParseScanResult`, and the result that is appended for it is the
one that was declared and never assigned.
-/
namespace Wificond

namespace ScanUtils

/-- In microseconds. -/
def getBssTimestamp (bss : NL80211NestedAttr) : Exec (Option UInt64) := do
  match ← bss.getAttributeValue (AttrTemplate.int .uint64) bssLastSeenBoottime with
  | some nanoseconds => return some (UInt64.ofInt nanoseconds / 1000)
  | none =>
    let some tsf ← bss.getAttributeValue (AttrTemplate.int .uint64) bssTsf | return none
    match ← bss.getAttributeValue (AttrTemplate.int .uint64) bssBeaconTsf with
    | some beaconTsf => return some (max (UInt64.ofInt tsf) (UInt64.ofInt beaconTsf))
    | none => return some (UInt64.ofInt tsf)

def radioChainInfo (attr : BaseNL80211Attr) : Exec RadioChainInfo := do
  let level ← (AttrTemplate.int .int8).getValue attr
  return ⟨Int32.ofInt attr.getAttributeId, Int32.ofInt level⟩

/-- The caller goes by the list alone. -/
def parseRadioChainInfos (bss : NL80211NestedAttr) : Exec (List RadioChainInfo) := do
  let some chainSignal ← bss.getAttribute bssChainSignal | return []
  let some attrs ← chainSignal.getListOfAttributes (AttrTemplate.int .int8) | return []
  attrs.mapM radioChainInfo

/-- The part of `ParseScanResult` for a packet with a BSS: `none` where something is missing. -/
def parseBss (bss : NL80211NestedAttr) : Exec (Option NativeScanResult) := do
  let some bssid ← bss.getAttributeValue (AttrTemplate.array 6) bssBssid | return none
  let some freq ← bss.getAttributeValue (AttrTemplate.int .uint32) bssFrequency | return none
  let some ie ← bss.getAttributeValue AttrTemplate.vector bssInformationElements | return none
  let some ssid ← getSSIDFromInfoElement ie | return none
  let some tsf ← getBssTimestamp bss | return none
  let some signal ← bss.getAttributeValue (AttrTemplate.int .int32) bssSignalMbm | return none
  let some capability ← bss.getAttributeValue (AttrTemplate.int .uint16) bssCapability
    | return none
  let status ← bss.getAttributeValue (AttrTemplate.int .uint32) bssStatus
  let associated := status = some bssStatusAuthenticated ∨ status = some bssStatusAssociated
  let radioChainInfos ← parseRadioChainInfos bss
  return some ⟨ssid, MacAddress.ofBytes bssid, ie, UInt32.ofInt freq, Int32.ofInt signal, tsf,
    UInt16.ofInt capability, associated, radioChainInfos⟩

/-- Returns the success flag and `*scan_result`. -/
def parseScanResult (packet : NL80211Packet) (scanResult : NativeScanResult) :
    Exec (Bool × NativeScanResult) := do
  if (← packet.getCommand) ≠ cmdNewScanResults then return (false, scanResult)
  match ← packet.getAttribute attrBss with
  | none => return (true, scanResult)
  | some bss =>
    match ← parseBss bss with
    | none => return (false, scanResult)
    | some parsed => return (true, parsed)

/-- The pass of `GetScanResult` for a packet and its number. `declared` is what the result that
is declared in a pass holds before it is assigned. -/
def receiveScanResult (familyId : UInt16) (interfaceIndex : UInt32)
    (declared : ℕ → NativeScanResult) (out : List NativeScanResult) (entry : NL80211Packet × ℕ) :
    Exec (List NativeScanResult) := do
  if entry.1.getMessageType = nlmsgError then
    let _ ← entry.1.getErrorCode
    return out
  if entry.1.getMessageType ≠ familyId.toNat then return out
  let some ifIndex ← entry.1.getAttributeValue (AttrTemplate.int .uint32) attrIfindex
    | return out
  if UInt32.ofInt ifIndex ≠ interfaceIndex then return out
  let (parsed, scanResult) ← parseScanResult entry.1 (declared entry.2)
  return if parsed then out ++ [scanResult] else out

/-- `respond` gives the responses, unless the dump fails. -/
def getScanResult (header : RequestHeader) (respond : NL80211Packet → Option (List NL80211Packet))
    (interfaceIndex : UInt32) (declared : ℕ → NativeScanResult) (out : List NativeScanResult) :
    Exec (Bool × List NativeScanResult) :=
  match respond (scanResultRequest header interfaceIndex) with
  | none => .ok (false, out)
  | some [] => .ok (true, out)
  | some response => do
    let out ← response.zipIdx.foldlM
      (receiveScanResult header.familyId interfaceIndex declared) out
    return (true, out)

/-- The time that a BSS was last seen, or else the later of its timestamps. -/
def IsTimestamp (bss : NL80211NestedAttr) (tsf : UInt64) : Prop :=
  ∃ lastSeen, bss.getAttributeValue (AttrTemplate.int .uint64) bssLastSeenBoottime =
      .ok lastSeen ∧
    match lastSeen with
    | some nanoseconds => tsf = UInt64.ofInt nanoseconds / 1000
    | none => ∃ ownTsf beaconTsf,
      bss.getAttributeValue (AttrTemplate.int .uint64) bssTsf = .ok (some ownTsf) ∧
      bss.getAttributeValue (AttrTemplate.int .uint64) bssBeaconTsf = .ok beaconTsf ∧
      tsf = max (UInt64.ofInt ownTsf) ((beaconTsf.map UInt64.ofInt).getD 0)

/-- One info for each chain that the BSS lists, and none where it lists no valid chains. -/
def AreRadioChainInfos (bss : NL80211NestedAttr) (infos : List RadioChainInfo) : Prop :=
  (∃ chainSignal attrs, bss.getAttribute bssChainSignal = .ok (some chainSignal) ∧
    chainSignal.getListOfAttributes (AttrTemplate.int .int8) = .ok (some attrs) ∧
    List.Forall₂ (fun attr info => ∃ level, (AttrTemplate.int .int8).getValue attr = .ok level ∧
      info = ⟨Int32.ofInt attr.getAttributeId, Int32.ofInt level⟩) attrs infos) ∨
  (bss.getAttribute bssChainSignal = .ok none ∨
    ∃ chainSignal, bss.getAttribute bssChainSignal = .ok (some chainSignal) ∧
      chainSignal.getListOfAttributes (AttrTemplate.int .int8) = .ok none) ∧ infos = []

/-- Every field of the result is taken from the BSS. -/
structure IsResultOf (bss : NL80211NestedAttr) (result : NativeScanResult) : Prop where
  bssid : ∃ bytes, bss.getAttributeValue (AttrTemplate.array 6) bssBssid = .ok (some bytes) ∧
    result.bssid = MacAddress.ofBytes bytes
  frequency : ∃ freq, bss.getAttributeValue (AttrTemplate.int .uint32) bssFrequency =
    .ok (some freq) ∧ result.frequency = UInt32.ofInt freq
  infoElement : bss.getAttributeValue AttrTemplate.vector bssInformationElements =
    .ok (some result.infoElement)
  ssid : HasSsid result.infoElement result.ssid
  timestamp : IsTimestamp bss result.tsf
  signal : ∃ signal, bss.getAttributeValue (AttrTemplate.int .int32) bssSignalMbm =
    .ok (some signal) ∧ result.signalMbm = Int32.ofInt signal
  capability : ∃ capability, bss.getAttributeValue (AttrTemplate.int .uint16) bssCapability =
    .ok (some capability) ∧ result.capability = UInt16.ofInt capability
  associated : ∃ status, bss.getAttributeValue (AttrTemplate.int .uint32) bssStatus = .ok status ∧
    (result.associated = true ↔
      status = some bssStatusAuthenticated ∨ status = some bssStatusAssociated)
  radioChains : AreRadioChainInfos bss result.radioChainInfos

/-- A scan result message for the interface. -/
structure IsScanMessage (familyId : UInt16) (interfaceIndex : UInt32) (packet : NL80211Packet) :
    Prop where
  not_error : packet.getMessageType ≠ nlmsgError
  type_eq : packet.getMessageType = familyId.toNat
  index_eq : ∃ ifIndex, packet.getAttributeValue (AttrTemplate.int .uint32) attrIfindex =
    .ok (some ifIndex) ∧ UInt32.ofInt ifIndex = interfaceIndex
  command_eq : packet.getCommand = .ok cmdNewScanResults

/-- The result that the packet contributes. -/
def Contributes (familyId : UInt16) (interfaceIndex : UInt32) (packet : NL80211Packet)
    (result : NativeScanResult) : Prop :=
  IsScanMessage familyId interfaceIndex packet ∧
    ∃ bss, packet.getAttribute attrBss = .ok (some bss) ∧ IsResultOf bss result

/-- The results are in order exactly one for each packet that contributes. -/
inductive AreResultsOf (familyId : UInt16) (interfaceIndex : UInt32) :
    List NL80211Packet → List NativeScanResult → Prop
  | nil : AreResultsOf familyId interfaceIndex [] []
  | take {packet packets result results} (h : Contributes familyId interfaceIndex packet result)
      (rest : AreResultsOf familyId interfaceIndex packets results) :
      AreResultsOf familyId interfaceIndex (packet :: packets) (result :: results)
  | skip {packet packets results}
      (h : ∀ result, ¬ Contributes familyId interfaceIndex packet result)
      (rest : AreResultsOf familyId interfaceIndex packets results) :
      AreResultsOf familyId interfaceIndex (packet :: packets) results

/-- A scan result message without a BSS. -/
def LacksBss (familyId : UInt16) (interfaceIndex : UInt32) (packet : NL80211Packet) : Prop :=
  IsScanMessage familyId interfaceIndex packet ∧ packet.getAttribute attrBss = .ok none

/-- A lookup in the packet does not end, or leaves its bytes. -/
def Unreadable (familyId : UInt16) (interfaceIndex : UInt32) (packet : NL80211Packet) : Prop :=
  ∃ fault, ∀ declared out i,
    receiveScanResult familyId interfaceIndex declared out (packet, i) = .error fault

section Bss
variable {bss : NL80211NestedAttr} {result : NativeScanResult} {tsf : UInt64}
  {infos : List RadioChainInfo}

theorem getBssTimestamp_eq_some_iff :
    getBssTimestamp bss = .ok (some tsf) ↔ IsTimestamp bss tsf := by
  have hzero (t : UInt64) : max t 0 = t := by
    show (if t ≤ 0 then 0 else t) = t
    split_ifs with hle
    · exact (UInt64.le_antisymm hle (UInt64.zero_le)).symm
    · rfl
  unfold getBssTimestamp IsTimestamp
  cases hseen : bss.getAttributeValue (AttrTemplate.int .uint64) bssLastSeenBoottime with
  | error fault => simp [bind, Except.bind]
  | ok lastSeen =>
    cases lastSeen with
    | some nanoseconds => simp [bind, Except.bind, pure, Except.pure, eq_comm]
    | none =>
      cases htsf : bss.getAttributeValue (AttrTemplate.int .uint64) bssTsf with
      | error fault => simp [bind, Except.bind]
      | ok ownTsf =>
        cases ownTsf with
        | none => simp [bind, Except.bind, pure, Except.pure]
        | some ownTsf =>
          cases hbeacon : bss.getAttributeValue (AttrTemplate.int .uint64) bssBeaconTsf with
          | error fault => simp [bind, Except.bind]
          | ok beaconTsf =>
            cases beaconTsf <;> simp [bind, Except.bind, pure, Except.pure, eq_comm, hzero]

theorem mapM_radioChainInfo_eq_ok_iff {attrs : List BaseNL80211Attr} :
    attrs.mapM radioChainInfo = .ok infos ↔
      List.Forall₂ (fun attr info => ∃ level, (AttrTemplate.int .int8).getValue attr = .ok level ∧
        info = ⟨Int32.ofInt attr.getAttributeId, Int32.ofInt level⟩) attrs infos := by
  induction attrs generalizing infos with
  | nil => simp [pure, Except.pure, eq_comm]
  | cons attr attrs ih =>
    rw [List.mapM_cons]
    constructor
    · intro h
      obtain ⟨info, hinfo, h⟩ := Runs.bind_eq_ok.mp h
      obtain ⟨rest, hrest, h⟩ := Runs.bind_eq_ok.mp h
      obtain rfl := Except.ok.inj h
      obtain ⟨level, hlevel, hinfo⟩ := Runs.bind_eq_ok.mp hinfo
      exact .cons ⟨level, hlevel, (Except.ok.inj hinfo).symm⟩ (ih.mp hrest)
    · intro h
      obtain ⟨info, rest, ⟨level, hlevel, rfl⟩, hrest, rfl⟩ := List.forall₂_cons_left_iff.mp h
      simp [radioChainInfo, hlevel, ih.mpr hrest, bind, Except.bind, pure, Except.pure]

theorem parseRadioChainInfos_eq_ok_iff :
    parseRadioChainInfos bss = .ok infos ↔ AreRadioChainInfos bss infos := by
  unfold parseRadioChainInfos AreRadioChainInfos
  cases hsignal : bss.getAttribute bssChainSignal with
  | error fault => simp [bind, Except.bind]
  | ok chainSignal =>
    cases chainSignal with
    | none => simp [bind, Except.bind, pure, Except.pure, eq_comm]
    | some chainSignal =>
      cases hattrs : chainSignal.getListOfAttributes (AttrTemplate.int .int8) with
      | error fault => simp [bind, Except.bind, hattrs]
      | ok attrs =>
        cases attrs with
        | none => simp [bind, Except.bind, pure, Except.pure, hattrs, eq_comm]
        | some attrs => simp [bind, Except.bind, hattrs, mapM_radioChainInfo_eq_ok_iff]

theorem getSSIDFromInfoElement_eq_some_iff {ie ssid : List UInt8} :
    getSSIDFromInfoElement ie = .ok (some ssid) ↔ HasSsid ie ssid := by
  obtain ⟨found, hfound, hiff⟩ := getSSIDFromInfoElement_spec ie
  rw [hfound, ← hiff]
  simp

theorem isResultOf_of_parseBss (h : parseBss bss = .ok (some result)) : IsResultOf bss result := by
  obtain ⟨bssid, hbssid, h⟩ := Runs.exists_of_bind_some h rfl
  obtain ⟨freq, hfreq, h⟩ := Runs.exists_of_bind_some h rfl
  obtain ⟨ie, hie, h⟩ := Runs.exists_of_bind_some h rfl
  obtain ⟨ssid, hssid, h⟩ := Runs.exists_of_bind_some h rfl
  obtain ⟨tsf, htsf, h⟩ := Runs.exists_of_bind_some h rfl
  obtain ⟨signal, hsignal, h⟩ := Runs.exists_of_bind_some h rfl
  obtain ⟨capability, hcapability, h⟩ := Runs.exists_of_bind_some h rfl
  obtain ⟨status, hstatus, h⟩ := Runs.bind_eq_ok.mp h
  obtain ⟨infos, hinfos, h⟩ := Runs.bind_eq_ok.mp h
  obtain rfl := Option.some.inj (Except.ok.inj h)
  exact {
    bssid := ⟨bssid, hbssid, rfl⟩
    frequency := ⟨freq, hfreq, rfl⟩
    infoElement := hie
    ssid := getSSIDFromInfoElement_eq_some_iff.mp hssid
    timestamp := getBssTimestamp_eq_some_iff.mp htsf
    signal := ⟨signal, hsignal, rfl⟩
    capability := ⟨capability, hcapability, rfl⟩
    associated := ⟨status, hstatus, decide_eq_true_iff⟩
    radioChains := parseRadioChainInfos_eq_ok_iff.mp hinfos }

theorem parseBss_of_isResultOf (h : IsResultOf bss result) : parseBss bss = .ok (some result) := by
  obtain ⟨⟨bssid, hbssid, hresult₁⟩, ⟨freq, hfreq, hresult₂⟩, hie, hssid, htimestamp,
    ⟨signal, hsignal, hresult₃⟩, ⟨capability, hcapability, hresult₄⟩,
    ⟨status, hstatus, hresult₅⟩, hchains⟩ := h
  have hfound := getSSIDFromInfoElement_eq_some_iff.mpr hssid
  have htsf := getBssTimestamp_eq_some_iff.mpr htimestamp
  have hinfos := parseRadioChainInfos_eq_ok_iff.mpr hchains
  obtain ⟨ssid, address, ie, frequency, signalMbm, tsf, capability', associated, infos⟩ := result
  dsimp only at *
  subst hresult₁ hresult₂ hresult₃ hresult₄
  have hassociated : decide (status = some bssStatusAuthenticated ∨
      status = some bssStatusAssociated) = associated := by
    rw [Bool.eq_iff_iff, decide_eq_true_iff]
    exact hresult₅.symm
  simp only [parseBss, hbssid, hfreq, hie, hfound, htsf, hsignal, hcapability, hstatus, hinfos,
    bind, Except.bind, pure, Except.pure, hassociated]

end Bss

section Packets
variable {familyId : UInt16} {interfaceIndex : UInt32} {packet : NL80211Packet}
  {packets : List NL80211Packet} {declared : ℕ → NativeScanResult}
  {out out' results : List NativeScanResult} {i : ℕ}

/-- What a pass makes of a packet, whatever was declared and appended before. -/
inductive PassCases (familyId : UInt16) (interfaceIndex : UInt32) (packet : NL80211Packet) : Prop
  | skipped (hlacks : ¬ LacksBss familyId interfaceIndex packet)
      (hnone : ∀ result, ¬ Contributes familyId interfaceIndex packet result)
      (hpass : ∀ declared out i,
        receiveScanResult familyId interfaceIndex declared out (packet, i) = .ok out)
  | taken (hlacks : ¬ LacksBss familyId interfaceIndex packet) (result : NativeScanResult)
      (hresult : Contributes familyId interfaceIndex packet result)
      (hpass : ∀ declared out i,
        receiveScanResult familyId interfaceIndex declared out (packet, i) = .ok (out ++ [result]))
  | unassigned (hlacks : LacksBss familyId interfaceIndex packet)
      (hnone : ∀ result, ¬ Contributes familyId interfaceIndex packet result)
      (hpass : ∀ declared out i, receiveScanResult familyId interfaceIndex declared out
        (packet, i) = .ok (out ++ [declared i]))
  | faulty (h : Unreadable familyId interfaceIndex packet)

/-- A packet that is not a scan result message for the interface. -/
theorem passCases_of_not_message (h : ¬ IsScanMessage familyId interfaceIndex packet)
    (hpass : ∀ declared out i,
      receiveScanResult familyId interfaceIndex declared out (packet, i) = .ok out) :
    PassCases familyId interfaceIndex packet :=
  .skipped (fun hlacks => h hlacks.1) (fun _ hresult => h hresult.1) hpass

/-- What is left for a message of the family about the interface is the parse of the packet. -/
theorem receiveScanResult_of_index {ifIndex : ℤ} (herror : packet.getMessageType ≠ nlmsgError)
    (htype : packet.getMessageType = familyId.toNat)
    (hindex : packet.getAttributeValue (AttrTemplate.int .uint32) attrIfindex = .ok (some ifIndex))
    (heq : UInt32.ofInt ifIndex = interfaceIndex) (declared : ℕ → NativeScanResult)
    (out : List NativeScanResult) (i : ℕ) :
    receiveScanResult familyId interfaceIndex declared out (packet, i) =
      (parseScanResult packet (declared i)).map fun r => if r.1 then out ++ [r.2] else out := by
  have hfamily : familyId.toNat ≠ nlmsgError := htype ▸ herror
  simp only [receiveScanResult, htype, hfamily, ne_eq, not_true_eq_false, if_false,
    hindex, heq, bind, Except.bind, pure, Except.pure]
  cases parseScanResult packet (declared i) <;> rfl

theorem passCases_of_index {ifIndex : ℤ} (herror : packet.getMessageType ≠ nlmsgError)
    (htype : packet.getMessageType = familyId.toNat)
    (hindex : packet.getAttributeValue (AttrTemplate.int .uint32) attrIfindex = .ok (some ifIndex))
    (heq : UInt32.ofInt ifIndex = interfaceIndex) : PassCases familyId interfaceIndex packet := by
  have hreceive := receiveScanResult_of_index herror htype hindex heq
  cases hcommand : packet.getCommand with
  | error fault =>
    refine .faulty ⟨fault, fun declared out i => ?_⟩
    simp only [hreceive, parseScanResult, hcommand, bind, Except.bind, Except.map]
  | ok command =>
  by_cases hnew : command = cmdNewScanResults
  case neg =>
    refine passCases_of_not_message (fun h => hnew ?_) fun declared out i => ?_
    · exact Except.ok.inj (hcommand.symm.trans h.command_eq)
    · simp [hreceive, parseScanResult, hcommand, hnew, bind, Except.bind, pure, Except.pure,
        Except.map]
  subst hnew
  have hmessage : IsScanMessage familyId interfaceIndex packet :=
    ⟨herror, htype, ⟨ifIndex, hindex, heq⟩, hcommand⟩
  cases hbss : packet.getAttribute attrBss with
  | error fault =>
    refine .faulty ⟨fault, fun declared out i => ?_⟩
    simp [hreceive, parseScanResult, hcommand, hbss, bind, Except.bind, Except.map]
  | ok bss? =>
  cases bss? with
  | none =>
    refine .unassigned ⟨hmessage, hbss⟩ (fun result h => ?_) fun declared out i => ?_
    · obtain ⟨-, bss, hread, -⟩ := h
      simp [hbss] at hread
    · simp [hreceive, parseScanResult, hcommand, hbss, bind, Except.bind, pure, Except.pure,
        Except.map]
  | some bss =>
  have hlacks : ¬ LacksBss familyId interfaceIndex packet := by
    intro h
    have hnone := h.2
    simp [hbss] at hnone
  cases hparse : parseBss bss with
  | error fault =>
    refine .faulty ⟨fault, fun declared out i => ?_⟩
    simp [hreceive, parseScanResult, hcommand, hbss, hparse, bind, Except.bind, Except.map]
  | ok result? =>
  cases result? with
  | none =>
    refine .skipped hlacks (fun result h => ?_) fun declared out i => ?_
    · obtain ⟨-, own, hread, hresult⟩ := h
      obtain rfl : bss = own := by simpa [hbss] using hread
      simp [parseBss_of_isResultOf hresult] at hparse
    · simp [hreceive, parseScanResult, hcommand, hbss, hparse, bind, Except.bind, pure,
        Except.pure, Except.map]
  | some result =>
    refine .taken hlacks result ⟨hmessage, bss, hbss, isResultOf_of_parseBss hparse⟩
      fun declared out i => ?_
    simp [hreceive, parseScanResult, hcommand, hbss, hparse, bind, Except.bind, pure, Except.pure,
      Except.map]

theorem passCases (familyId : UInt16) (interfaceIndex : UInt32) (packet : NL80211Packet) :
    PassCases familyId interfaceIndex packet := by
  by_cases herror : packet.getMessageType = nlmsgError
  · cases hcode : packet.getErrorCode with
    | error fault =>
      refine .faulty ⟨fault, fun declared out i => ?_⟩
      simp only [receiveScanResult, if_pos herror, hcode, bind, Except.bind]
    | ok code =>
      refine passCases_of_not_message (fun h => h.not_error herror) fun declared out i => ?_
      simp only [receiveScanResult, if_pos herror, hcode, bind, Except.bind, pure, Except.pure]
  by_cases htype : packet.getMessageType = familyId.toNat
  case neg =>
    refine passCases_of_not_message (fun h => htype h.type_eq) fun declared out i => ?_
    simp only [receiveScanResult, if_neg herror, ne_eq, htype, not_false_eq_true, if_true, pure,
      Except.pure]
  have hfamily : familyId.toNat ≠ nlmsgError := htype ▸ herror
  cases hindex : packet.getAttributeValue (AttrTemplate.int .uint32) attrIfindex with
  | error fault =>
    refine .faulty ⟨fault, fun declared out i => ?_⟩
    simp only [receiveScanResult, htype, hfamily, ne_eq, not_true_eq_false, if_false,
      hindex, bind, Except.bind]
  | ok ifIndex? =>
  by_cases hown : ∃ ifIndex, ifIndex? = some ifIndex ∧ UInt32.ofInt ifIndex = interfaceIndex
  · obtain ⟨ifIndex, rfl, heq⟩ := hown
    exact passCases_of_index herror htype hindex heq
  · have hmessage : ¬ IsScanMessage familyId interfaceIndex packet := by
      intro h
      obtain ⟨ifIndex, hread, heq⟩ := h.index_eq
      exact hown ⟨ifIndex, Except.ok.inj (hindex.symm.trans hread), heq⟩
    refine passCases_of_not_message hmessage fun declared out i => ?_
    cases ifIndex? with
    | none =>
      simp only [receiveScanResult, htype, hfamily, ne_eq, not_true_eq_false, if_false,
        hindex, bind, Except.bind, pure, Except.pure]
    | some ifIndex =>
      have hother : UInt32.ofInt ifIndex ≠ interfaceIndex := fun heq => hown ⟨ifIndex, rfl, heq⟩
      simp only [receiveScanResult, htype, hfamily, ne_eq, not_true_eq_false, if_false,
        hindex, hother, not_false_eq_true, if_true, bind, Except.bind, pure, Except.pure]

/-- The passes over packets that are numbered from `n` on. -/
def receiveAll (familyId : UInt16) (interfaceIndex : UInt32) (declared : ℕ → NativeScanResult)
    (n : ℕ) (packets : List NL80211Packet) (out : List NativeScanResult) :
    Exec (List NativeScanResult) :=
  (packets.zipIdx n).foldlM (receiveScanResult familyId interfaceIndex declared) out

theorem receiveAll_cons {n : ℕ} : receiveAll familyId interfaceIndex declared n
    (packet :: packets) out = (receiveScanResult familyId interfaceIndex declared out
      (packet, n)).bind (receiveAll familyId interfaceIndex declared (n + 1) packets) := by
  rw [receiveAll, List.zipIdx_cons, List.foldlM_cons]
  rfl

theorem not_unreadable_of_receiveAll {n : ℕ}
    (h : receiveAll familyId interfaceIndex declared n packets out = .ok out') :
    ∀ p ∈ packets, ¬ Unreadable familyId interfaceIndex p := by
  induction packets generalizing n out with
  | nil => simp
  | cons packet packets ih =>
    rw [receiveAll_cons] at h
    obtain ⟨next, hnext, hrest⟩ := Runs.bind_eq_ok.mp h
    intro p hp
    rcases List.mem_cons.mp hp with rfl | hp
    · intro hfault
      obtain ⟨fault, hfault⟩ := hfault
      rw [hfault] at hnext
      simp at hnext
    · exact ih hrest p hp

/-- Where every message has its BSS, one result is appended for each packet that contributes. -/
theorem areResultsOf_receiveAll {n : ℕ} (hbss : ∀ p ∈ packets, ¬ LacksBss familyId interfaceIndex p)
    (h : receiveAll familyId interfaceIndex declared n packets out = .ok out') :
    ∃ results, out' = out ++ results ∧ AreResultsOf familyId interfaceIndex packets results := by
  induction packets generalizing n out with
  | nil =>
    obtain rfl := Except.ok.inj h
    exact ⟨[], by simp, .nil⟩
  | cons packet packets ih =>
    have hrest := fun n out => @ih out n fun p hp => hbss p (by simp [hp])
    rw [receiveAll_cons] at h
    cases passCases familyId interfaceIndex packet with
    | skipped _ hnone hpass =>
      rw [hpass] at h
      obtain ⟨results, hout, hresults⟩ := hrest (n + 1) out h
      exact ⟨results, hout, .skip hnone hresults⟩
    | taken _ result hresult hpass =>
      rw [hpass] at h
      obtain ⟨results, hout, hresults⟩ := hrest (n + 1) (out ++ [result]) h
      exact ⟨result :: results, by simp [hout], .take hresult hresults⟩
    | unassigned hlacks _ _ => exact absurd hlacks (hbss packet (by simp))
    | faulty hfault =>
      obtain ⟨fault, hfault⟩ := hfault
      rw [hfault] at h
      simp [Except.bind] at h

/-- A message that lacks its BSS makes for one result too many. -/
theorem receiveAll_of_readable {n : ℕ}
    (hreadable : ∀ p ∈ packets, ¬ Unreadable familyId interfaceIndex p) :
    ∃ appended, receiveAll familyId interfaceIndex declared n packets out = .ok (out ++ appended) ∧
      ∀ results, AreResultsOf familyId interfaceIndex packets results →
        results.length ≤ appended.length ∧
        ((∃ p ∈ packets, LacksBss familyId interfaceIndex p) →
          results.length < appended.length) := by
  induction packets generalizing n out with
  | nil =>
    refine ⟨[], by simp [receiveAll, pure, Except.pure], fun results h => ?_⟩
    cases h with
    | nil => simp
  | cons packet packets ih =>
    have hrest := fun n out => @ih out n fun p hp => hreadable p (by simp [hp])
    rw [receiveAll_cons]
    cases passCases familyId interfaceIndex packet with
    | skipped hlacks hnone hpass =>
      obtain ⟨appended, hrun, hlength⟩ := hrest (n + 1) out
      refine ⟨appended, by rw [hpass]; exact hrun, fun results h => ?_⟩
      cases h with
      | take hresult _ => exact absurd hresult (hnone _)
      | skip _ hresults => simpa [hlacks] using hlength results hresults
    | taken hlacks result hresult hpass =>
      obtain ⟨appended, hrun, hlength⟩ := hrest (n + 1) (out ++ [result])
      refine ⟨result :: appended, by rw [hpass]; simpa [Except.bind] using hrun,
        fun results h => ?_⟩
      cases h with
      | take _ hresults => simpa [hlacks] using hlength _ hresults
      | skip hnone _ => exact absurd hresult (hnone result)
    | unassigned hlacks hnone hpass =>
      obtain ⟨appended, hrun, hlength⟩ := hrest (n + 1) (out ++ [declared n])
      refine ⟨declared n :: appended, by rw [hpass]; simpa [Except.bind] using hrun,
        fun results h => ?_⟩
      cases h with
      | take hresult _ => exact absurd hresult (hnone _)
      | skip _ hresults =>
        have hle := (hlength results hresults).1
        simp only [List.length_cons]
        omega
    | faulty hfault => exact absurd hfault (hreadable packet (by simp))

theorem getScanResult_of_response (declared : ℕ → NativeScanResult)
    (out : List NativeScanResult) {header : RequestHeader}
    {respond : NL80211Packet → Option (List NL80211Packet)} {response : List NL80211Packet}
    (h : respond (scanResultRequest header interfaceIndex) = some response) :
    getScanResult header respond interfaceIndex declared out =
      (receiveAll header.familyId interfaceIndex declared 0 response out).map (true, ·) := by
  rw [getScanResult, h]
  cases response with
  | nil => rfl
  | cons packet packets =>
    simp only [receiveAll, bind, Except.bind, pure, Except.pure]
    cases List.foldlM (receiveScanResult header.familyId interfaceIndex declared) out
      (packet :: packets).zipIdx <;> rfl

/-- The results are those of the packets exactly if no message lacks its BSS in a dump that
can be read. -/
theorem getScanResult_faithful_iff (header : RequestHeader)
    (respond : NL80211Packet → Option (List NL80211Packet)) (interfaceIndex : UInt32) :
    (∀ declared out out',
      getScanResult header respond interfaceIndex declared out = .ok (true, out') →
      ∃ response results, respond (scanResultRequest header interfaceIndex) = some response ∧
        out' = out ++ results ∧ AreResultsOf header.familyId interfaceIndex response results) ↔
    ∀ response, respond (scanResultRequest header interfaceIndex) = some response →
      ∀ packet ∈ response, LacksBss header.familyId interfaceIndex packet →
        ∃ other ∈ response, Unreadable header.familyId interfaceIndex other := by
  constructor
  · intro h response hresponse packet hpacket hlacks
    by_contra hnone
    have hreadable : ∀ p ∈ response, ¬ Unreadable header.familyId interfaceIndex p :=
      fun p hp hfault => hnone ⟨p, hp, hfault⟩
    let declared : ℕ → NativeScanResult := fun _ => ⟨[], .ofBytes [], [], 0, 0, 0, 0, false, []⟩
    obtain ⟨appended, hrun, hlength⟩ := @receiveAll_of_readable header.familyId interfaceIndex
      response declared [] 0 hreadable
    have hcall := getScanResult_of_response declared [] hresponse
    rw [hrun] at hcall
    obtain ⟨response', results, hresponse', hout, hresults⟩ := h declared [] _ hcall
    obtain rfl := Option.some.inj (hresponse.symm.trans hresponse')
    obtain rfl : appended = results := by simpa using hout
    exact absurd ((hlength appended hresults).2 ⟨packet, hpacket, hlacks⟩) (Nat.lt_irrefl _)
  · intro h declared out out' hcall
    cases hresponse : respond (scanResultRequest header interfaceIndex) with
    | none =>
      rw [getScanResult, hresponse] at hcall
      simp at hcall
    | some response =>
      rw [getScanResult_of_response declared out hresponse] at hcall
      cases hrun : receiveAll header.familyId interfaceIndex declared 0 response out with
      | error fault => simp [hrun, Except.map] at hcall
      | ok final =>
        rw [hrun] at hcall
        obtain rfl : final = out' := (Prod.mk.inj (Except.ok.inj hcall)).2
        have hreadable := not_unreadable_of_receiveAll hrun
        have hbss : ∀ p ∈ response, ¬ LacksBss header.familyId interfaceIndex p := by
          intro p hp hlacks
          obtain ⟨other, hother, hfault⟩ := h response hresponse p hp hlacks
          exact hreadable other hother hfault
        obtain ⟨results, hout, hresults⟩ := areResultsOf_receiveAll hbss hrun
        exact ⟨response, results, rfl, hout, hresults⟩

end Packets

/-- A scan result message that names the interface and nothing else. -/
def bareScanMessage : NL80211Packet :=
  (NL80211Packet.ofHeader 28 34 0 0).addAttribute (NL80211Attr.ofInt .uint32 attrIfindex 3)

/-- What is appended for a message without a BSS is what memory held. -/
theorem getScanResult_unassigned :
    let respond : NL80211Packet → Option (List NL80211Packet) := fun _ => some [bareScanMessage]
    let garbage : NativeScanResult := ⟨[], .ofBytes [165], [], 165, 0, 0, 0, true, []⟩
    getScanResult ⟨28, 0, 0⟩ respond 3 (fun _ => garbage) [] = .ok (true, [garbage]) ∧
      ¬ ∀ declared out out',
        getScanResult ⟨28, 0, 0⟩ respond 3 declared out = .ok (true, out') →
        ∃ response results, respond (scanResultRequest ⟨28, 0, 0⟩ 3) = some response ∧
          out' = out ++ results ∧ AreResultsOf 28 3 response results := by
  intro respond garbage
  have hcall : getScanResult ⟨28, 0, 0⟩ respond 3 (fun _ => garbage) [] =
      .ok (true, [garbage]) := by
    decide +kernel
  have hbss : bareScanMessage.getAttribute attrBss = .ok none := by decide +kernel
  refine ⟨hcall, fun h => ?_⟩
  obtain ⟨response, results, hresponse, hout, hresults⟩ := h _ _ _ hcall
  obtain rfl := Option.some.inj hresponse
  cases hresults with
  | take hresult _ =>
    obtain ⟨-, bss, hread, -⟩ := hresult
    simp [hbss] at hread
  | skip _ hrest =>
    cases hrest with
    | nil => simp at hout

end ScanUtils

end Wificond
