import Wificond.AttributeTree
import Wificond.NetlinkRequests
import Wificond.PaddedTlvDecode

/-!
# Lengths in requests

Callers choose the sizes of a management frame and of the lists of a scan, and every
`nla_len` is stored in sixteen bits without a look at the size. A request is what it is
meant to be exactly when all lengths fit.
-/
namespace Wificond

open LittleEndian PaddedTlv

namespace AttrTree

mutual

/-- A parser of the payload of a nested attribute finds its children. -/
def Recovered : AttrTree → Prop
  | leaf .. => True
  | flag _ => True
  | nested _ children => decodeAll (area children) = some (children.map item) ∧
    AllRecovered children

def AllRecovered : List AttrTree → Prop
  | [] => True
  | t :: ts => Recovered t ∧ AllRecovered ts

end

mutual

/-- All ids and lengths fit their fields. -/
def FitsDeep : AttrTree → Prop
  | leaf id k value => (leaf id k value).item.Fits
  | flag id => (flag id).item.Fits
  | nested id children => (nested id children).item.Fits ∧ AllFit children

def AllFit : List AttrTree → Prop
  | [] => True
  | t :: ts => FitsDeep t ∧ AllFit ts

end

theorem allFit_iff {ts : List AttrTree} : AllFit ts ↔ ∀ t ∈ ts, t.FitsDeep := by
  induction ts with
  | nil => simp [AllFit]
  | cons t ts ih => simp [AllFit, ih]

/-- The children of one level come back exactly if their records fit. -/
theorem decodeAll_area_iff (ts : List AttrTree) :
    decodeAll (area ts) = some (ts.map item) ↔ ∀ t ∈ ts, t.item.Fits := by
  rw [area_eq_encodeAll, decodeAll_encodeAll_iff]
  simp

mutual

theorem recovered_iff (t : AttrTree) : t.item.Fits ∧ t.Recovered ↔ t.FitsDeep := by
  cases t with
  | leaf id k value => simp [Recovered, FitsDeep]
  | flag id => simp [Recovered, FitsDeep]
  | nested id children =>
    rw [Recovered, FitsDeep, decodeAll_area_iff, allRecovered_iff]

theorem allRecovered_iff (ts : List AttrTree) :
    (∀ t ∈ ts, t.item.Fits) ∧ AllRecovered ts ↔ AllFit ts := by
  cases ts with
  | nil => simp [AllRecovered, AllFit]
  | cons t ts =>
    rw [AllRecovered, AllFit, ← recovered_iff, ← allRecovered_iff, List.forall_mem_cons]
    tauto

end

end AttrTree

/-- A parser that follows every `nla_len` finds exactly these trees behind the header, with
their ids and payloads, and in the payload of a nested attribute its children. -/
def NL80211Packet.ParsesAs (packet : NL80211Packet) (roots : List AttrTree) : Prop :=
  decodeAll (packet.data.drop attributeStart) = some (roots.map AttrTree.item) ∧
    AttrTree.AllRecovered roots

namespace NL80211Packet

/-- The bytes behind the header. -/
def HasArea (packet : NL80211Packet) (area : List UInt8) : Prop :=
  ∃ header, header.length = attributeStart ∧ packet.data = header ++ area

variable {packet : NL80211Packet} {area : List UInt8}

theorem hasArea_ofHeader (type : UInt16) (command : UInt8) (sequence pid : UInt32) :
    (ofHeader type command sequence pid).HasArea [] := by
  rw [ofHeader_eq_ofArea]
  refine ⟨_, ?_, (List.append_nil _).symm⟩
  rw [length_ofArea]
  rfl

theorem HasArea.addAttribute (h : packet.HasArea area) (attr : BaseNL80211Attr) :
    (packet.addAttribute attr).HasArea (area ++ attr.data) := by
  obtain ⟨header, hlen, hdata⟩ := h
  have hsize : header.length = 20 := hlen
  let total := nlmsgLen (packet.data ++ attr.data) 0 + attr.data.length
  have hstored : (packet.addAttribute attr).data =
      (bytesOf 4 total ++ header.drop 4) ++ (area ++ attr.data) := by
    have hdrop : (header ++ (area ++ attr.data)).drop 4 = header.drop 4 ++ (area ++ attr.data) :=
      List.drop_append_of_le_length (by omega)
    show setField (packet.data ++ attr.data) 0 4 total = _
    rw [hdata, List.append_assoc, setField, overwrite_zero, length_bytesOf, hdrop,
      List.append_assoc]
  refine ⟨_, ?_, hstored⟩
  rw [List.length_append, length_bytesOf, List.length_drop, hsize]
  rfl

theorem HasArea.addFlag (h : packet.HasArea area) (flag : ℕ) :
    (packet.addFlag flag).HasArea area := by
  obtain ⟨header, hlen, hdata⟩ := h
  have hsize : header.length = 20 := hlen
  let bits := packet.getFlags ||| flag
  have htake : (header ++ area).take 6 = header.take 6 := List.take_append_of_le_length (by omega)
  have hdrop : (header ++ area).drop 8 = header.drop 8 ++ area :=
    List.drop_append_of_le_length (by omega)
  have hstored : (packet.addFlag flag).data =
      (header.take 6 ++ bytesOf 2 bits ++ header.drop 8) ++ area := by
    show setField packet.data 6 2 bits = _
    rw [hdata, setField, overwrite, length_bytesOf, htake, hdrop]
    simp only [List.append_assoc]
  refine ⟨_, ?_, hstored⟩
  simp only [List.length_append, List.length_take, length_bytesOf, List.length_drop, hsize]
  rfl

theorem HasArea.drop_eq (h : packet.HasArea area) : packet.data.drop attributeStart = area := by
  obtain ⟨header, hlen, hdata⟩ := h
  rw [hdata, ← hlen, List.drop_left]

theorem HasArea.le_length (h : packet.HasArea area) : attributeStart ≤ packet.data.length := by
  obtain ⟨header, hlen, hdata⟩ := h
  rw [hdata, List.length_append]
  omega

/-- The command stays where what stands behind the netlink header is only added to. -/
theorem getCommand_of_drop {packet' : NL80211Packet} (tail : List UInt8)
    (hlen : nlmsgHdrlen < packet.data.length)
    (h : packet'.data.drop nlmsgHdrlen = packet.data.drop nlmsgHdrlen ++ tail) :
    packet'.getCommand = packet.getCommand := by
  have hsize := congrArg List.length h
  simp only [List.length_drop, List.length_append] at hsize
  have hpos : 1 ≤ (packet.data.drop nlmsgHdrlen).length := by
    rw [List.length_drop]
    omega
  have hfield : field packet'.data nlmsgHdrlen 1 = field packet.data nlmsgHdrlen 1 := by
    rw [field, field, h, List.take_append_of_le_length hpos]
  rw [getCommand, getCommand, if_pos (by omega), if_pos (by omega), hfield]

/-- Whatever the sizes, the parser finds the trees exactly if all lengths fit. -/
theorem HasArea.parsesAs_iff {roots : List AttrTree}
    (h : packet.HasArea (AttrTree.area roots)) :
    packet.ParsesAs roots ↔ AttrTree.AllFit roots := by
  rw [ParsesAs, h.drop_eq, AttrTree.decodeAll_area_iff, AttrTree.allRecovered_iff]

end NL80211Packet

theorem AttrTree.area_append (ts us : List AttrTree) : area (ts ++ us) = area ts ++ area us := by
  rw [area_eq_encodeAll, area_eq_encodeAll, area_eq_encodeAll, List.map_append, encodeAll_append]

theorem AttrTree.area_append_singleton (ts : List AttrTree) (t : AttrTree) :
    area (ts ++ [t]) = area ts ++ t.attr.data := by
  rw [area_append, attr_eq_encode]
  simp [area, item]

namespace NL80211Packet
variable {packet : NL80211Packet} {ts : List AttrTree} {t : AttrTree} {attr : BaseNL80211Attr}

/-- Adding the object of a tree adds the tree. -/
theorem HasArea.addTree (h : packet.HasArea (AttrTree.area ts)) (hattr : attr = t.attr) :
    (packet.addAttribute attr).HasArea (AttrTree.area (ts ++ [t])) := by
  rw [AttrTree.area_append_singleton, hattr]
  exact h.addAttribute t.attr

/-- The packet is a request of this command with these trees behind its header. -/
structure Requests (packet : NL80211Packet) (command : UInt8) (ts : List AttrTree) : Prop where
  area : packet.HasArea (AttrTree.area ts)
  command : packet.getCommand = .ok command.toNat

variable {command : UInt8}

theorem Requests.addFlag (h : packet.Requests command ts) (flag : ℕ) :
    (packet.addFlag flag).Requests command ts := by
  refine ⟨h.area.addFlag flag, ?_⟩
  have hlen : 20 ≤ packet.data.length := h.area.le_length
  rw [← h.command]
  apply getCommand_of_drop [] (by unfold nlmsgHdrlen; omega)
  rw [List.append_nil]
  exact drop_setField _ (by omega) (by decide)

theorem Requests.addTree (h : packet.Requests command ts) (hattr : attr = t.attr) :
    (packet.addAttribute attr).Requests command (ts ++ [t]) := by
  refine ⟨h.area.addTree hattr, ?_⟩
  have hlen : 20 ≤ packet.data.length := h.area.le_length
  rw [← h.command]
  apply getCommand_of_drop attr.data (by unfold nlmsgHdrlen; omega)
  show (setField (packet.data ++ attr.data) 0 4 _).drop nlmsgHdrlen = _
  rw [drop_setField _ (Nat.zero_le _) (by decide), List.drop_append_of_le_length]
  unfold nlmsgHdrlen
  omega

theorem Requests.addTree_ite (h : packet.Requests command ts) (hattr : attr = t.attr)
    (c : Prop) [Decidable c] :
    (if c then packet.addAttribute attr else packet).Requests command
      (ts ++ if c then [t] else []) := by
  split_ifs with hc
  · exact h.addTree hattr
  · rwa [List.append_nil]

end NL80211Packet

/-- The elements of a list under their indices. -/
def indexedLeaves (k : ValueType) (values : List k.Value) : List AttrTree :=
  values.zipIdx.map fun entry => .leaf entry.2 k entry.1

namespace AttrTree

theorem addAllTo_eq_foldl (parent : NL80211NestedAttr) (ts : List AttrTree) :
    addAllTo parent ts = ts.foldl addTo parent := by
  induction ts generalizing parent with
  | nil => rfl
  | cons t ts ih => rw [addAllTo, ih, List.foldl_cons]

theorem addTo_eq (parent : NL80211NestedAttr) (t : AttrTree) :
    addTo parent t = parent.addAttribute t.attr := by
  cases t with
  | leaf id k value => rfl
  | flag id => exact nested_addFlagAttribute_eq parent id
  | nested id children => rfl

theorem nestedList_eq_attr {α : Type} (id : ℕ) {construct : ℕ → α → BaseNL80211Attr}
    {tree : α × ℕ → AttrTree} (h : ∀ entry, construct entry.2 entry.1 = (tree entry).attr)
    (values : List α) : ScanUtils.nestedList id construct values =
      (nested id (values.zipIdx.map tree)).attr := by
  rw [attr, addAllTo_eq_foldl, List.foldl_map, ScanUtils.nestedList]
  simp only [addTo_eq, h]

theorem attr_nested_append (id : ℕ) (ts : List AttrTree) (t : AttrTree) :
    (nested id (ts ++ [t])).attr = NL80211NestedAttr.addAttribute (nested id ts).attr t.attr := by
  rw [attr, attr, addAllTo_eq_foldl, addAllTo_eq_foldl, List.foldl_append, List.foldl_cons,
    List.foldl_nil, addTo_eq]

mutual

/-- The children of a nested attribute are numbered without gaps, or so that an id is at most
their count. -/
def Numbered : AttrTree → Prop
  | leaf .. => True
  | flag _ => True
  | nested _ children => (∀ t ∈ children, t.id ≤ children.length) ∧ AllNumbered children

def AllNumbered : List AttrTree → Prop
  | [] => True
  | t :: ts => Numbered t ∧ AllNumbered ts

end

theorem allNumbered_iff {ts : List AttrTree} : AllNumbered ts ↔ ∀ t ∈ ts, t.Numbered := by
  induction ts with
  | nil => simp [AllNumbered]
  | cons t ts ih => simp [AllNumbered, ih]

/-- Trees under their indices. -/
theorem numbered_nested_zipIdx {α : Type} (id : ℕ) (values : List α) {tree : α × ℕ → AttrTree}
    (hid : ∀ entry, (tree entry).id = entry.2) (h : ∀ entry, (tree entry).Numbered) :
    (nested id (values.zipIdx.map tree)).Numbered := by
  rw [Numbered, allNumbered_iff, List.length_map, List.length_zipIdx]
  refine ⟨fun t ht => ?_, fun t ht => ?_⟩
  · obtain ⟨entry, hentry, rfl⟩ := List.mem_map.mp ht
    have hlt := List.snd_lt_of_mem_zipIdx hentry
    rw [hid]
    omega
  · obtain ⟨entry, -, rfl⟩ := List.mem_map.mp ht
    exact h entry

theorem numbered_indexedLeaves (id : ℕ) (k : ValueType) (values : List k.Value) :
    (nested id (indexedLeaves k values)).Numbered :=
  numbered_nested_zipIdx id values (fun _ => rfl) fun _ => trivial

theorem allNumbered_append {ts us : List AttrTree} :
    AllNumbered (ts ++ us) ↔ AllNumbered ts ∧ AllNumbered us := by
  simp only [allNumbered_iff, List.forall_mem_append]

theorem allNumbered_ite {t : AttrTree} (c : Prop) [Decidable c] (h : t.Numbered) :
    AllNumbered (if c then [t] else []) := by
  split_ifs <;> simp [AllNumbered, h]

theorem four_mul_length_le_area (ts : List AttrTree) : 4 * ts.length ≤ (area ts).length := by
  induction ts with
  | nil => simp
  | cons t ts ih =>
    rw [area, List.length_append, Item.length_encode, List.length_cons]
    omega

theorem length_payload_le_area {t : AttrTree} {ts : List AttrTree} (h : t ∈ ts) :
    4 + t.payload.length ≤ (area ts).length := by
  have hsize : t.item.encode.length ≤ (encodeAll (ts.map item)).length := by
    rw [encodeAll, List.length_flatMap]
    exact List.single_le_sum (by simp) _ (List.mem_map_of_mem (List.mem_map_of_mem h))
  have hpad : t.payload.length ≤ align4 t.payload.length := le_align4 _
  have hitem : t.item.encode.length = 4 + align4 t.payload.length := Item.length_encode t.item
  rw [area_eq_encodeAll]
  omega

mutual

/-- The length of an attribute bounds the ids and lengths of all that is nested in it. -/
theorem fitsDeep_of_length (t : AttrTree) (hnumbered : t.Numbered) (hid : t.id < 2 ^ 16)
    (hlen : 4 + t.payload.length < 2 ^ 16) : t.FitsDeep := by
  cases t with
  | leaf id k value => exact ⟨hid, hlen⟩
  | flag id => exact ⟨hid, hlen⟩
  | nested id children =>
    rw [Numbered] at hnumbered
    rw [payload] at hlen
    refine ⟨⟨hid, by simpa [item, payload] using hlen⟩, ?_⟩
    have hcount := four_mul_length_le_area children
    apply allFit_of_length children hnumbered.2 _ (by omega)
    intro t ht
    have hle := hnumbered.1 t ht
    omega

theorem allFit_of_length (ts : List AttrTree) (hnumbered : AllNumbered ts)
    (hid : ∀ t ∈ ts, t.id < 2 ^ 16) (hlen : (area ts).length < 2 ^ 16) : AllFit ts := by
  cases ts with
  | nil => trivial
  | cons t ts =>
    rw [AllNumbered] at hnumbered
    rw [List.forall_mem_cons] at hid
    have hhead := length_payload_le_area (List.mem_cons_self (a := t) (l := ts))
    have htail : (area ts).length ≤ (area (t :: ts)).length := by
      rw [area, List.length_append]
      omega
    exact ⟨fitsDeep_of_length t hnumbered.1 hid.1 (by omega),
      allFit_of_length ts hnumbered.2 hid.2 (by omega)⟩

end

/-- All that is nested fits if the attributes at the top do. -/
theorem allFit_iff_lengths {ts : List AttrTree} (hnumbered : AllNumbered ts)
    (hid : ∀ t ∈ ts, t.id < 2 ^ 16) :
    AllFit ts ↔ ∀ t ∈ ts, nlaHdrlen + t.payload.length < 2 ^ 16 := by
  rw [allFit_iff]
  rw [allNumbered_iff] at hnumbered
  refine forall₂_congr fun t ht => ⟨fun hfits => ?_, ?_⟩
  · exact ((recovered_iff t).mpr hfits).1.2
  · exact fitsDeep_of_length t (hnumbered t ht) (hid t ht)

end AttrTree

theorem ScanUtils.nestedList_eq (id : ℕ) (k : ValueType) (values : List k.Value) :
    nestedList id (fun i value => k.construct i value) values =
      (AttrTree.nested id (indexedLeaves k values)).attr :=
  AttrTree.nestedList_eq_attr id (fun _ => rfl) values

section Leaves
variable (k : ValueType) (values : List k.Value)

theorem item_indexedLeaves :
    (indexedLeaves k values).map AttrTree.item =
      values.zipIdx.map fun entry => ⟨entry.2, k.bytes entry.1⟩ := by
  rw [indexedLeaves, List.map_map]
  apply List.map_congr_left
  intro entry _
  simp only [Function.comp, AttrTree.item, AttrTree.id, AttrTree.payload]

theorem length_area_indexedLeaves : (AttrTree.area (indexedLeaves k values)).length =
    (values.map fun value => 4 + nlaAlign (k.bytes value).length).sum := by
  rw [AttrTree.area_eq_encodeAll, item_indexedLeaves, encodeAll, List.length_flatMap, List.map_map]
  have hvalues : values = values.zipIdx.map Prod.fst := by simp
  conv_rhs => rw [hvalues, List.map_map]
  apply congrArg List.sum
  apply List.map_congr_left
  intro entry _
  simp only [Function.comp, Item.length_encode]

/-- The length of the list as a whole bounds every index and every element. -/
theorem fitsDeep_nested_iff {id : ℕ} (hid : id < 2 ^ 16) :
    (AttrTree.nested id (indexedLeaves k values)).FitsDeep ↔
      4 + (values.map fun value => 4 + nlaAlign (k.bytes value).length).sum < 2 ^ 16 := by
  rw [← length_area_indexedLeaves]
  constructor
  · intro hfits
    exact ((AttrTree.recovered_iff _).mpr hfits).1.2
  · intro hlen
    exact AttrTree.fitsDeep_of_length _ (AttrTree.numbered_indexedLeaves id k values) hid hlen

end Leaves

/-- What a request of `SendMgmtFrame` is to hold. -/
def mgmtFrameRoots (interfaceIndex : UInt32) (frame : List UInt8) : List AttrTree :=
  [.leaf attrIfindex (.int .uint32) interfaceIndex.toNat, .leaf attrFrame .vector frame]

section Requests
variable (header : RequestHeader) (interfaceIndex : UInt32) (frame : List UInt8)

theorem hasArea_request (command : UInt8) : (header.request command).HasArea (AttrTree.area []) :=
  NL80211Packet.hasArea_ofHeader header.familyId command header.sequence header.pid

theorem requests_request (command : UInt8) : (header.request command).Requests command [] := by
  refine ⟨hasArea_request header command, ?_⟩
  rw [RequestHeader.request, NL80211Packet.ofHeader_eq_ofArea]
  have hheader := NL80211Packet.header_ofArea header.familyId command header.sequence header.pid
    [] (by decide)
  exact hheader.2.2.2.2.2.2

theorem hasArea_mgmtFrameRequest :
    (NetlinkUtils.mgmtFrameRequest header interfaceIndex frame).HasArea
      (AttrTree.area (mgmtFrameRoots interfaceIndex frame)) := by
  have hindex := (hasArea_request header cmdFrame).addTree
    (t := .leaf attrIfindex (.int .uint32) interfaceIndex.toNat) rfl
  exact hindex.addTree (t := .leaf attrFrame .vector frame) rfl

/-- An integral attribute always fits. -/
theorem fitsDeep_int {id : ℕ} (hid : id < 2 ^ 16) (t : IntType) (value : ℤ) :
    (AttrTree.leaf id (.int t) value).FitsDeep := by
  rw [AttrTree.FitsDeep]
  refine ⟨hid, ?_⟩
  show 4 + (t.toBytes value).length < 2 ^ 16
  rw [IntType.length_toBytes]
  cases t <;> decide

theorem fitsDeep_vector_iff {id : ℕ} (hid : id < 2 ^ 16) (bytes : List UInt8) :
    (AttrTree.leaf id .vector bytes).FitsDeep ↔ 4 + bytes.length < 2 ^ 16 := by
  rw [AttrTree.FitsDeep]
  simp only [Item.Fits, AttrTree.item, AttrTree.id, AttrTree.payload, ValueType.bytes, hid,
    true_and]

theorem mgmtFrameRequest_parsesAs_iff :
    (NetlinkUtils.mgmtFrameRequest header interfaceIndex frame).ParsesAs
      (mgmtFrameRoots interfaceIndex frame) ↔ 4 + frame.length < 2 ^ 16 := by
  rw [(hasArea_mgmtFrameRequest header interfaceIndex frame).parsesAs_iff, mgmtFrameRoots]
  simp only [AttrTree.AllFit, fitsDeep_int (by decide : attrIfindex < 2 ^ 16),
    fitsDeep_vector_iff (by decide : attrFrame < 2 ^ 16), true_and, and_true]

/-- A frame of 65536 bytes wraps its length to that of an empty attribute, and the bytes of
the frame are read as attributes: here the index of another interface. -/
theorem mgmtFrameRequest_forges_attribute :
    let forged : Item := ⟨attrIfindex, bytesOf 4 9⟩
    let filler : Item := ⟨attrFrame, List.replicate 65524 0⟩
    let frame := encodeAll [forged, filler]
    let packet := NetlinkUtils.mgmtFrameRequest ⟨24, 1, 1⟩ 3 frame
    ¬ packet.ParsesAs (mgmtFrameRoots 3 frame) ∧
      decodeAll (packet.data.drop NL80211Packet.attributeStart) =
        some [⟨attrIfindex, bytesOf 4 3⟩, ⟨attrFrame, []⟩, forged, filler] := by
  intro forged filler frame packet
  have hfiller : filler.payload.length = 65524 := List.length_replicate
  have hforged : forged.payload.length = 4 := length_bytesOf 4 9
  have hlen : frame.length = 65536 := by
    show (encodeAll [forged, filler]).length = 65536
    rw [encodeAll_cons, encodeAll_cons, encodeAll_nil, List.append_nil, List.length_append,
      Item.length_encode, Item.length_encode, hforged, hfiller]
    rfl
  refine ⟨?_, ?_⟩
  · rw [mgmtFrameRequest_parsesAs_iff]
    omega
  · have hwrap : (Item.mk attrFrame frame).encode = (Item.mk attrFrame []).encode ++ frame := by
      rw [Item.encode_of_dvd (by omega), Item.encode_of_dvd (by simp), hlen,
        ← bytesOf_mod 2 (4 + 65536)]
      simp
    have harea : packet.data.drop NL80211Packet.attributeStart =
        encodeAll [⟨attrIfindex, bytesOf 4 3⟩, ⟨attrFrame, []⟩, forged, filler] := by
      have hrest : encodeAll [⟨attrIfindex, bytesOf 4 3⟩, ⟨attrFrame, []⟩, forged, filler] =
          (Item.mk attrIfindex (bytesOf 4 3)).encode ++ ((Item.mk attrFrame []).encode ++ frame) :=
        rfl
      have hitems : (mgmtFrameRoots 3 frame).map AttrTree.item =
          [⟨attrIfindex, bytesOf 4 3⟩, ⟨attrFrame, frame⟩] := by
        simp only [mgmtFrameRoots, List.map_cons, List.map_nil, AttrTree.item, AttrTree.id,
          AttrTree.payload, ValueType.bytes]
        rfl
      rw [(hasArea_mgmtFrameRequest _ _ _).drop_eq, AttrTree.area_eq_encodeAll, hitems, hrest,
        ← hwrap, encodeAll_cons, encodeAll_cons, encodeAll_nil, List.append_nil]
    rw [harea, decodeAll_encodeAll_iff]
    simp only [List.forall_mem_cons, List.not_mem_nil, false_imp_iff, implies_true, and_true]
    refine ⟨by decide, by decide, ⟨by decide, ?_⟩, ⟨by decide, ?_⟩⟩ <;> omega

end Requests

namespace ScanUtils

/-- What a request of `Scan` is to hold. -/
def scanRoots (interfaceIndex : UInt32) (settings : ScanSettings) (flags : UInt32) :
    List AttrTree :=
  [.leaf attrIfindex (.int .uint32) interfaceIndex.toNat,
    .nested attrScanSsids (indexedLeaves .vector settings.ssids)] ++
  (if settings.freqs ≠ [] then
    [.nested attrScanFrequencies (indexedLeaves (.int .uint32)
      (settings.freqs.map fun freq => (freq.toNat : ℤ)))] else []) ++
  (if flags ≠ 0 then [.leaf attrScanFlags (.int .uint32) flags.toNat] else []) ++
  (if settings.vendorIes ≠ [] then [.leaf attrIe .vector settings.vendorIes] else [])

/-- The list of SSIDs, the list of frequencies and the vendor IEs fit their attributes. -/
structure ScanSettings.Fits (settings : ScanSettings) : Prop where
  ssids : 4 + (settings.ssids.map fun ssid => 4 + nlaAlign ssid.length).sum < 2 ^ 16
  freqs : 4 + 8 * settings.freqs.length < 2 ^ 16
  vendorIes : 4 + settings.vendorIes.length < 2 ^ 16

variable (header : RequestHeader) (interfaceIndex : UInt32) (settings : ScanSettings)
variable {flags : UInt32}

theorem nestedList_freqs (freqs : List UInt32) :
    nestedList attrScanFrequencies (fun i freq => NL80211Attr.ofInt .uint32 i freq.toNat) freqs =
      (AttrTree.nested attrScanFrequencies (indexedLeaves (.int .uint32)
        (freqs.map fun freq => (freq.toNat : ℤ)))).attr := by
  rw [← nestedList_eq, nestedList, nestedList, List.zipIdx_map, List.foldl_map]
  rfl

theorem scanRequest_requests
    (hflags : scanFlags settings.requestRandomMac settings.scanType settings.enable6ghzRnr =
      some flags) :
    ∃ packet, scanRequest header interfaceIndex settings = some packet ∧
      packet.Requests cmdTriggerScan (scanRoots interfaceIndex settings flags) := by
  have hfresh := (requests_request header cmdTriggerScan).addFlag nlmFAck
  have hindex := hfresh.addTree (t := .leaf attrIfindex (.int .uint32) interfaceIndex.toNat) rfl
  have hssids := hindex.addTree (nestedList_eq attrScanSsids .vector settings.ssids)
  have hfreqs := hssids.addTree_ite (nestedList_freqs settings.freqs) (settings.freqs ≠ [])
  have hscan := hfreqs.addTree_ite (t := .leaf attrScanFlags (.int .uint32) flags.toNat) rfl
    (flags ≠ 0)
  have hies := hscan.addTree_ite (t := .leaf attrIe .vector settings.vendorIes) rfl
    (settings.vendorIes ≠ [])
  refine ⟨_, ?_, hies⟩
  rw [scanRequest, hflags]
  rfl

theorem allFit_append {ts us : List AttrTree} :
    AttrTree.AllFit (ts ++ us) ↔ AttrTree.AllFit ts ∧ AttrTree.AllFit us := by
  simp only [AttrTree.allFit_iff, List.forall_mem_append]

theorem allFit_ite {t : AttrTree} (c : Prop) [Decidable c] :
    AttrTree.AllFit (if c then [t] else []) ↔ (c → t.FitsDeep) := by
  split_ifs with hc <;> simp [AttrTree.AllFit, hc]

theorem allFit_scanRoots_iff :
    AttrTree.AllFit (scanRoots interfaceIndex settings flags) ↔ settings.Fits := by
  have hssids := fitsDeep_nested_iff .vector settings.ssids
    (by decide : attrScanSsids < 2 ^ 16)
  have hfreqs := fitsDeep_nested_iff (.int .uint32)
    (settings.freqs.map fun freq => (freq.toNat : ℤ))
    (by decide : attrScanFrequencies < 2 ^ 16)
  have hsum : ((settings.freqs.map fun freq => (freq.toNat : ℤ)).map fun value =>
      4 + nlaAlign (ValueType.bytes (.int .uint32) value).length).sum =
        8 * settings.freqs.length := by
    have hsize (value : ℤ) : 4 + nlaAlign (ValueType.bytes (.int .uint32) value).length = 8 := by
      show 4 + nlaAlign (IntType.uint32.toBytes value).length = 8
      rw [IntType.length_toBytes]
      rfl
    simp only [hsize, List.map_const', List.length_map, List.sum_replicate, smul_eq_mul]
    exact Nat.mul_comm _ _
  rw [hsum] at hfreqs
  simp only [scanRoots, allFit_append, allFit_ite, AttrTree.AllFit, hssids, hfreqs,
    fitsDeep_int (by decide : attrIfindex < 2 ^ 16),
    fitsDeep_int (by decide : attrScanFlags < 2 ^ 16),
    fitsDeep_vector_iff (by decide : attrIe < 2 ^ 16), true_and, and_true, implies_true]
  constructor
  · rintro ⟨⟨hs, hf⟩, hi⟩
    refine ⟨hs, ?_, ?_⟩
    · by_cases hnil : settings.freqs = []
      · simp [hnil]
      · exact hf hnil
    · by_cases hnil : settings.vendorIes = []
      · simp [hnil]
      · exact hi hnil
  · intro hfits
    exact ⟨⟨hfits.ssids, fun _ => hfits.freqs⟩, fun _ => hfits.vendorIes⟩

theorem scanRequest_parsesAs_iff
    (hflags : scanFlags settings.requestRandomMac settings.scanType settings.enable6ghzRnr =
      some flags) :
    ∃ packet, scanRequest header interfaceIndex settings = some packet ∧
      (packet.ParsesAs (scanRoots interfaceIndex settings flags) ↔ settings.Fits) := by
  obtain ⟨packet, hrequest, hpacket⟩ :=
    scanRequest_requests header interfaceIndex settings hflags
  exact ⟨packet, hrequest, by rw [hpacket.area.parsesAs_iff, allFit_scanRoots_iff]⟩

end ScanUtils

/-- The length field of a record keeps sixteen bits. -/
theorem nlaLen_encode_eq_iff (i : Item) :
    nlaLen i.encode 0 = nlaHdrlen + i.payload.length ↔ nlaHdrlen + i.payload.length < 2 ^ 16 := by
  have hwrap : nlaLen i.encode 0 = (nlaHdrlen + i.payload.length) % 2 ^ 16 :=
    field_bytesOf_append _ _ _
  rw [hwrap]
  constructor
  · intro h
    have hlt := Nat.mod_lt (nlaHdrlen + i.payload.length) (by norm_num : 0 < 2 ^ 16)
    omega
  · exact Nat.mod_eq_of_lt

/-- The requests of `SendMgmtFrame` and `Scan` hold what was added to them, as a parser that
follows every `nla_len` finds it, exactly if the frame, the IEs and both lists fit their
attributes. Likewise `nla_len` counts the payload of an attribute that was built by the
constructors and adders, or by a merge, exactly if header and payload are below 65536 bytes. -/
theorem request_lengths_iff (header : RequestHeader) (interfaceIndex : UInt32)
    (frame : List UInt8) (settings : ScanUtils.ScanSettings) (t : AttrTree) (id : ℕ)
    (p q : List UInt8) :
    ((NetlinkUtils.mgmtFrameRequest header interfaceIndex frame).ParsesAs
        (mgmtFrameRoots interfaceIndex frame) ↔ nlaHdrlen + frame.length < 2 ^ 16) ∧
    ((ScanUtils.scanFlags settings.requestRandomMac settings.scanType settings.enable6ghzRnr =
          none → ScanUtils.scanRequest header interfaceIndex settings = none) ∧
      ∀ flags, ScanUtils.scanFlags settings.requestRandomMac settings.scanType
          settings.enable6ghzRnr = some flags →
        ∃ packet, ScanUtils.scanRequest header interfaceIndex settings = some packet ∧
          (packet.ParsesAs (ScanUtils.scanRoots interfaceIndex settings flags) ↔
            settings.Fits)) ∧
    (nlaLen t.attr.data 0 = nlaHdrlen + t.payload.length ↔
      nlaHdrlen + t.payload.length < 2 ^ 16) ∧
    ((Item.mk id p).Fits → (Item.mk id q).Fits →
      ∃ merged, BaseNL80211Attr.merge (.ofPayload id p) (.ofPayload id q) = .ok (true, merged) ∧
        (nlaLen merged.data 0 = nlaHdrlen + (p ++ q).length ↔
          nlaHdrlen + (p ++ q).length < 2 ^ 16)) := by
  refine ⟨mgmtFrameRequest_parsesAs_iff header interfaceIndex frame, ⟨?_, ?_⟩, ?_, ?_⟩
  · intro hnone
    rw [ScanUtils.scanRequest, hnone]
    rfl
  · intro flags hflags
    exact ScanUtils.scanRequest_parsesAs_iff header interfaceIndex settings hflags
  · rw [AttrTree.attr_eq_encode]
    exact nlaLen_encode_eq_iff t.item
  · intro hp hq
    refine ⟨_, ?_, nlaLen_encode_eq_iff ⟨id, p ++ q⟩⟩
    rw [ofPayload_eq_encode, ofPayload_eq_encode]
    exact merge_encode_of_fits hp hq

end Wificond
