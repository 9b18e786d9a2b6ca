import Wificond.Accumulation
import Wificond.BandFrequencies

/-!
# What a band contributes

Every parser under `ParseBandInfo` changes the band information in the same three ways: it appends
to a frequency list, sets a flag, or raises a number of streams. A well-formed band therefore adds
the same amount to whatever was parsed before it, and that amount is the sum of what its
sub-attributes contribute.
-/
namespace Wificond

open LittleEndian PaddedTlv Accumulation

namespace WiphyBandInfo

/-- The frequency lists are concatenated, of the flags the disjunctions are taken and of the
streams the maxima. -/
def combine (a b : WiphyBandInfo) : WiphyBandInfo where
  band2g := a.band2g ++ b.band2g
  band5g := a.band5g ++ b.band5g
  bandDfs := a.bandDfs ++ b.bandDfs
  band6g := a.band6g ++ b.band6g
  band60g := a.band60g ++ b.band60g
  is80211nSupported := a.is80211nSupported || b.is80211nSupported
  is80211acSupported := a.is80211acSupported || b.is80211acSupported
  is80211axSupported := a.is80211axSupported || b.is80211axSupported
  is80211beSupported := a.is80211beSupported || b.is80211beSupported
  is160MhzSupported := a.is160MhzSupported || b.is160MhzSupported
  is80p80MhzSupported := a.is80p80MhzSupported || b.is80p80MhzSupported
  is320MhzSupported := a.is320MhzSupported || b.is320MhzSupported
  maxTxStreams := max a.maxTxStreams b.maxTxStreams
  maxRxStreams := max a.maxRxStreams b.maxRxStreams

/-- No frequency, no capability and no stream. -/
def empty : WiphyBandInfo :=
  ⟨⟨[], [], [], [], []⟩, false, false, false, false, false, false, false, 0, 0⟩

theorem toNat_max (a b : UInt32) : (max a b).toNat = max a.toNat b.toNat := by
  show (if a ≤ b then b else a).toNat = _
  split_ifs with h <;> rw [UInt32.le_iff_toNat_le] at h <;> omega

theorem max_assoc (a b c : UInt32) : max (max a b) c = max a (max b c) := by
  apply UInt32.toNat_inj.mp
  simp only [toNat_max]
  omega

theorem max_comm (a b : UInt32) : max a b = max b a := by
  apply UInt32.toNat_inj.mp
  simp only [toNat_max]
  omega

@[simp] theorem zero_max (a : UInt32) : max 0 a = a := by
  apply UInt32.toNat_inj.mp
  simp [toNat_max]

@[simp] theorem max_zero (a : UInt32) : max a 0 = a := by
  rw [max_comm, zero_max]

instance : Add WiphyBandInfo := ⟨combine⟩

instance : Zero WiphyBandInfo := ⟨empty⟩

instance : AddMonoid WiphyBandInfo where
  add_assoc a b c := by
    show combine (combine a b) c = combine a (combine b c)
    simp only [combine, List.append_assoc, Bool.or_assoc, max_assoc]
  zero_add a := by
    show combine empty a = a
    simp only [combine, empty, List.nil_append, Bool.false_or, zero_max]
  add_zero a := by
    show combine a empty = a
    simp only [combine, empty, List.append_nil, Bool.or_false, max_zero]
  nsmul := nsmulRec

theorem add_eq (a b : WiphyBandInfo) : a + b = combine a b := rfl

theorem zero_eq : (0 : WiphyBandInfo) = empty := rfl

/-- Results that list no frequency. -/
def capabilities : AddSubmonoid WiphyBandInfo where
  carrier := { a | ∀ list, a.frequencies list = [] }
  zero_mem' list := by cases list <;> rfl
  add_mem' ha hb list := by
    have hleft := ha list
    have hright := hb list
    cases list <;>
      simp only [frequencies, add_eq, combine] at hleft hright ⊢ <;> simp [hleft, hright]

theorem mem_capabilities {a : WiphyBandInfo} (h : a.toBandInfo = empty.toBandInfo) :
    a ∈ capabilities := by
  intro list
  cases list <;> simp [frequencies, h, empty]

/-- Results without a frequency add up the same way on either side. -/
theorem central_of_mem {a : WiphyBandInfo} (h : a ∈ capabilities) : Central a := by
  intro b
  have hlists : a.band2g = [] ∧ a.band5g = [] ∧ a.bandDfs = [] ∧ a.band6g = [] ∧ a.band60g = [] :=
    ⟨h .band2g, h .band5g, h .bandDfs, h .band6g, h .band60g⟩
  obtain ⟨h2g, h5g, hdfs, h6g, h60g⟩ := hlists
  show combine a b = combine b a
  simp only [combine, h2g, h5g, hdfs, h6g, h60g, List.nil_append, List.append_nil, Bool.or_comm,
    max_comm]

theorem push_eq_add (a : WiphyBandInfo) (frequency : UInt32) (list : FrequencyList) :
    a.push frequency list = a + empty.push frequency list := by
  rw [add_eq]
  cases list <;>
    simp [push, combine, empty]

theorem construct_mem : construct ∈ capabilities := mem_capabilities rfl

/-- The initial value counts once, however many results are added up. -/
theorem construct_add_construct : construct + construct = construct := rfl

end WiphyBandInfo

/-- The value of a record, where it passes the test of the template. -/
def AttrTemplate.valueOf {α : Type} (t : AttrTemplate α) (i : Item) : Option α :=
  if t.isValid ⟨i.encode⟩ then (t.getValue ⟨i.encode⟩).toOption else none

/-- A record that passes the test of the template can be read. -/
def AttrTemplate.Readable {α : Type} (t : AttrTemplate α) : Prop :=
  ∀ i : Item, i.Fits → t.isValid ⟨i.encode⟩ = true → ∃ value, t.getValue ⟨i.encode⟩ = .ok value

theorem AttrTemplate.readable_vector : AttrTemplate.vector.Readable := by
  intro i hi _
  exact ⟨i.payload, AttrTemplate.vector_getValue_encode hi⟩

theorem AttrTemplate.readable_int (t : IntType) : (AttrTemplate.int t).Readable := by
  intro i hi hvalid
  have hlen : i.payload.length = t.size := by
    by_contra hne
    have hsize : t.size + nlaHdrlen ≠ 4 + i.payload.length := by
      unfold nlaHdrlen
      omega
    simp [AttrTemplate.int, isValid_encode hi, nlaLen_encode hi, hsize] at hvalid
  exact ⟨_, AttrTemplate.int_getValue_encode i.tag hlen⟩

/-- The attribute that holds the records. -/
def nestedOf (id : ℕ) (children : List Item) : Item := ⟨id, encodeAll children⟩

/-- The records stand behind the header. -/
theorem exists_header (id : ℕ) (children : List Item) : ∃ header : List UInt8,
    header.length = nlaHdrlen ∧ (nestedOf id children).encode = header ++ encodeAll children := by
  refine ⟨bytesOf 2 (4 + (encodeAll children).length) ++ bytesOf 2 id, by simp, ?_⟩
  rw [nestedOf, Item.encode_of_dvd (four_dvd_length_encodeAll children), List.append_assoc]

section Reads
variable {children : List Item} (hfits : ∀ i ∈ children, i.Fits) (id k : ℕ)
include hfits

theorem hasAttribute_nestedOf :
    NL80211NestedAttr.hasAttribute ⟨(nestedOf id children).encode⟩ k =
      .ok (children.find? (·.tag = k)).isSome := by
  obtain ⟨header, hlen, hdata⟩ := exists_header id children
  rw [NL80211NestedAttr.hasAttribute, hdata, ← hlen]
  exact hasAttributeFrom_encodeAll header k children hfits

theorem getAttribute_nestedOf :
    NL80211NestedAttr.getAttribute ⟨(nestedOf id children).encode⟩ k =
      .ok ((children.find? (·.tag = k)).map fun i => ⟨i.encode⟩) := by
  obtain ⟨header, hlen, hdata⟩ := exists_header id children
  rw [NL80211NestedAttr.getAttribute, hdata, ← hlen,
    getAttributeFrom_encodeAll header BaseNL80211Attr.isValid k children hfits]
  cases hfind : children.find? (·.tag = k) with
  | none => rfl
  | some i => simp [isValid_encode (hfits i (List.mem_of_find?_eq_some hfind))]

theorem getAttributeValue_nestedOf {α : Type} {t : AttrTemplate α} (ht : t.Readable) :
    NL80211NestedAttr.getAttributeValue ⟨(nestedOf id children).encode⟩ t k =
      .ok ((children.find? (·.tag = k)).bind t.valueOf) := by
  obtain ⟨header, hlen, hdata⟩ := exists_header id children
  rw [NL80211NestedAttr.getAttributeValue, hdata, ← hlen, getAttributeValueFrom,
    getAttributeFrom_encodeAll header t.isValid k children hfits]
  cases hfind : children.find? (·.tag = k) with
  | none => rfl
  | some i =>
    by_cases hvalid : t.isValid ⟨i.encode⟩ = true
    · obtain ⟨value, hvalue⟩ := ht i (hfits i (List.mem_of_find?_eq_some hfind)) hvalid
      simp only [Option.bind_some, AttrTemplate.valueOf, if_pos hvalid, hvalue, bind, Except.bind]
      rfl
    · simp only [Option.bind_some, AttrTemplate.valueOf, if_neg hvalid, bind, Except.bind]
      rfl

end Reads

/-- A well-formed attribute that holds well-formed attributes. -/
structure Table where
  tag : ℕ
  attributes : List Item
  fits : (nestedOf tag attributes).Fits
  attributes_fit : ∀ i ∈ attributes, i.Fits

def Table.item (table : Table) : Item := nestedOf table.tag table.attributes

/-- The attribute that holds the tables, such as the entries of `NL80211_BAND_ATTR_FREQS`. -/
def tablesOf (tag : ℕ) (tables : List Table) : Item := nestedOf tag (tables.map Table.item)

theorem items_fit (tables : List Table) : ∀ i ∈ tables.map Table.item, i.Fits := by
  intro i hi
  obtain ⟨table, -, rfl⟩ := List.mem_map.mp hi
  exact table.fits

/-- A well-formed band attribute: its sub-attributes are well-formed, and the two whose content
is read further hold tables. -/
structure Band where
  index : ℕ
  children : List Item
  fits : (nestedOf index children).Fits
  children_fit : ∀ i ∈ children, i.Fits
  tables : ∀ i ∈ children, i.tag = bandAttrFreqs ∨ i.tag = bandAttrIftypeData →
    ∃ tables, i = tablesOf i.tag tables

def Band.item (band : Band) : Item := nestedOf band.index band.children

namespace NetlinkUtils

open Wificond.WiphyBandInfo (add_eq zero_eq combine empty capabilities mem_capabilities
  push_eq_add)

/-- What the streams are raised to. -/
def streams (maxTxStreams maxRxStreams : UInt32) : WiphyBandInfo :=
  { empty with maxTxStreams := maxTxStreams, maxRxStreams := maxRxStreams }

theorem raiseStreams_eq_add (bandInfo : WiphyBandInfo) (tx rx : UInt32) :
    WiphyBandInfo.raiseStreams tx rx bandInfo = bandInfo + streams tx rx := by
  rw [add_eq]
  simp [WiphyBandInfo.raiseStreams, streams, combine, empty]

theorem streams_mem (tx rx : UInt32) : streams tx rx ∈ capabilities := mem_capabilities rfl

/-- What a channel width or a feature of the physical layer adds. -/
def widths (is160Mhz is80p80Mhz is320Mhz : Bool) : WiphyBandInfo :=
  { empty with
    is160MhzSupported := is160Mhz
    is80p80MhzSupported := is80p80Mhz
    is320MhzSupported := is320Mhz }

theorem widths_mem (is160Mhz is80p80Mhz is320Mhz : Bool) :
    widths is160Mhz is80p80Mhz is320Mhz ∈ capabilities :=
  mem_capabilities rfl

/-- The parser reads one value and adds an amount without frequencies for it. -/
structure AddsForValue {α : Type}
    (parse : NL80211NestedAttr → WiphyBandInfo → Exec WiphyBandInfo) (t : AttrTemplate α) (k : ℕ)
    (amount : α → WiphyBandInfo) : Prop where
  parse_eq : ∀ attr bandInfo, parse attr bandInfo =
    (attr.getAttributeValue t k).map fun value => bandInfo + (value.map amount).getD 0
  mem : ∀ value, amount value ∈ capabilities

/-- It is enough to look at what is done with a value. -/
theorem addsForValue_of {α : Type}
    {parse : NL80211NestedAttr → WiphyBandInfo → Exec WiphyBandInfo} {t : AttrTemplate α} {k : ℕ}
    {amount : α → WiphyBandInfo} {rest : WiphyBandInfo → Option α → Exec WiphyBandInfo}
    (hparse : ∀ attr bandInfo, parse attr bandInfo = attr.getAttributeValue t k >>= rest bandInfo)
    (hnone : ∀ bandInfo, rest bandInfo none = .ok bandInfo)
    (hsome : ∀ bandInfo value, rest bandInfo (some value) = .ok (bandInfo + amount value))
    (hmem : ∀ value, amount value ∈ capabilities) : AddsForValue parse t k amount where
  parse_eq attr bandInfo := by
    rw [hparse]
    cases attr.getAttributeValue t k with
    | error fault => rfl
    | ok value =>
      cases value with
      | none =>
        show rest bandInfo none = .ok (bandInfo + 0)
        rw [hnone, add_zero]
      | some value => exact hsome bandInfo value
  mem := hmem

/-- A value that is too short adds nothing. -/
def sized (minimum : ℕ) (amount : List UInt8 → WiphyBandInfo) (bytes : List UInt8) :
    WiphyBandInfo :=
  if bytes.length < minimum then 0 else amount bytes

theorem addsForValue_sized {parse : NL80211NestedAttr → WiphyBandInfo → Exec WiphyBandInfo}
    {k minimum : ℕ} {amount : List UInt8 → WiphyBandInfo}
    {rest : WiphyBandInfo → Option (List UInt8) → Exec WiphyBandInfo}
    (hparse : ∀ attr bandInfo,
      parse attr bandInfo = attr.getAttributeValue AttrTemplate.vector k >>= rest bandInfo)
    (hnone : ∀ bandInfo, rest bandInfo none = .ok bandInfo)
    (hsome : ∀ bandInfo bytes, rest bandInfo (some bytes) =
      if bytes.length < minimum then .ok bandInfo else .ok (bandInfo + amount bytes))
    (hmem : ∀ bytes, amount bytes ∈ capabilities) :
    AddsForValue parse AttrTemplate.vector k (sized minimum amount) := by
  apply addsForValue_of hparse hnone
  · intro bandInfo bytes
    rw [sized, hsome]
    split_ifs
    · rw [add_zero]
    · rfl
  · intro bytes
    rw [sized]
    split_ifs
    · exact capabilities.zero_mem
    · exact hmem bytes

def htMcsSetAmount : List UInt8 → WiphyBandInfo :=
  sized 16 fun htMcsSet => streams (parseHtMcsSet htMcsSet).1 (parseHtMcsSet htMcsSet).2

def vhtMcsSetAmount : List UInt8 → WiphyBandInfo :=
  sized 8 fun vhtMcsSet =>
    streams (parseMcsMap (mcsMapAt vhtMcsSet 4)) (parseMcsMap (mcsMapAt vhtMcsSet 0))

def heMcsSetAmount : List UInt8 → WiphyBandInfo :=
  sized 4 fun heMcsSet =>
    streams (parseMcsMap (mcsMapAt heMcsSet 2)) (parseMcsMap (mcsMapAt heMcsSet 0))

def vhtCapAmount (value : ℤ) : WiphyBandInfo :=
  widths (UInt32.ofInt value &&& 0x4 ≠ 0) (UInt32.ofInt value &&& 0x8 ≠ 0) false

def heCapPhyAmount : List UInt8 → WiphyBandInfo :=
  sized 9 fun heCapPhy =>
    widths (heCapPhy.getD 0 0 &&& 0x8 ≠ 0) (heCapPhy.getD 0 0 &&& 0x10 ≠ 0) false

def ehtCapPhyAmount : List UInt8 → WiphyBandInfo :=
  sized 8 fun ehtCapPhy => widths false false (ehtCapPhy.getD 0 0 &&& 0x2 ≠ 0)

theorem parseHtMcsSetAttribute_adds : AddsForValue parseHtMcsSetAttribute AttrTemplate.vector
    bandAttrHtMcsSet htMcsSetAmount := by
  apply addsForValue_sized (fun _ _ => rfl) fun _ => rfl
  · intro bandInfo htMcsSet
    rw [← raiseStreams_eq_add]
    rfl
  · exact fun _ => streams_mem _ _

theorem parseVhtMcsSetAttribute_adds : AddsForValue parseVhtMcsSetAttribute AttrTemplate.vector
    bandAttrVhtMcsSet vhtMcsSetAmount := by
  apply addsForValue_sized (fun _ _ => rfl) fun _ => rfl
  · intro bandInfo vhtMcsSet
    rw [← raiseStreams_eq_add]
    rfl
  · exact fun _ => streams_mem _ _

theorem parseHeMcsSetAttribute_adds : AddsForValue parseHeMcsSetAttribute AttrTemplate.vector
    bandIftypeAttrHeCapMcsSet heMcsSetAmount := by
  apply addsForValue_sized (fun _ _ => rfl) fun _ => rfl
  · intro bandInfo heMcsSet
    rw [← raiseStreams_eq_add]
    rfl
  · exact fun _ => streams_mem _ _

/-- Setting flags for channel widths is adding them. -/
theorem widths_eq_add (bandInfo : WiphyBandInfo) (is160Mhz is80p80Mhz is320Mhz : Bool) :
    bandInfo + widths is160Mhz is80p80Mhz is320Mhz = { bandInfo with
      is160MhzSupported := bandInfo.is160MhzSupported || is160Mhz
      is80p80MhzSupported := bandInfo.is80p80MhzSupported || is80p80Mhz
      is320MhzSupported := bandInfo.is320MhzSupported || is320Mhz } := by
  rw [add_eq]
  simp [combine, widths, empty]

theorem parseHeCapPhyAttribute_adds : AddsForValue parseHeCapPhyAttribute AttrTemplate.vector
    bandIftypeAttrHeCapPhy heCapPhyAmount := by
  apply addsForValue_sized (fun _ _ => rfl) fun _ => rfl
  · intro bandInfo heCapPhy
    rw [widths_eq_add, Bool.or_false]
    rfl
  · exact fun _ => widths_mem _ _ _

theorem parseEhtCapPhyAttribute_adds : AddsForValue parseEhtCapPhyAttribute AttrTemplate.vector
    bandIftypeAttrEhtCapPhy ehtCapPhyAmount := by
  apply addsForValue_sized (fun _ _ => rfl) fun _ => rfl
  · intro bandInfo ehtCapPhy
    rw [widths_eq_add, Bool.or_false, Bool.or_false]
    rfl
  · exact fun _ => widths_mem _ _ _

theorem parseVhtCapAttribute_adds : AddsForValue parseVhtCapAttribute (AttrTemplate.int .uint32)
    bandAttrVhtCapa vhtCapAmount := by
  apply addsForValue_of (fun _ _ => rfl) fun _ => rfl
  · intro bandInfo value
    rw [vhtCapAmount, widths_eq_add, Bool.or_false]
    rfl
  · exact fun _ => widths_mem _ _ _

/-- What is added for the value of the record. -/
def valueAmount {α : Type} (t : AttrTemplate α) (amount : α → WiphyBandInfo) (i : Item) :
    WiphyBandInfo :=
  ((t.valueOf i).map amount).getD 0

section Values
variable {α : Type} {parse : NL80211NestedAttr → WiphyBandInfo → Exec WiphyBandInfo}
  {t : AttrTemplate α} {k : ℕ} {amount : α → WiphyBandInfo} {children : List Item}

theorem AddsForValue.valueAmount_mem (h : AddsForValue parse t k amount) (i : Item) :
    valueAmount t amount i ∈ capabilities := by
  rw [valueAmount]
  cases t.valueOf i with
  | none => exact capabilities.zero_mem
  | some value => exact h.mem value

theorem AddsForValue.adds (h : AddsForValue parse t k amount) (ht : t.Readable)
    (hfits : ∀ i ∈ children, i.Fits) (id : ℕ) :
    Adds (parse ⟨(nestedOf id children).encode⟩)
      (readFirst Item.tag k (valueAmount t amount) children) := by
  intro total
  rw [h.parse_eq, getAttributeValue_nestedOf hfits id k ht, readFirst]
  cases children.find? (·.tag = k) with
  | none => rfl
  | some i => rfl

theorem AddsForValue.addsIn (h : AddsForValue parse t k amount) (ht : t.Readable)
    (hfits : ∀ i ∈ children, i.Fits) (id : ℕ) :
    AddsIn capabilities (parse ⟨(nestedOf id children).encode⟩) := by
  refine ⟨_, ?_, h.adds ht hfits id⟩
  rw [readFirst]
  cases children.find? (·.tag = k) with
  | none => exact capabilities.zero_mem
  | some i => exact h.valueAmount_mem i

end Values

/-- All lookups in a table end. -/
theorem not_unreadableEntry (table : Table) : ¬ UnreadableEntry ⟨table.item.encode⟩ := by
  intro h
  obtain ⟨fault, hfault⟩ := h
  have hrun := hfault 0
  have hread := AttrTemplate.readable_int .uint32
  have hvalue := getAttributeValue_nestedOf table.attributes_fit table.tag frequencyAttrFreq hread
  have hdfs :=
    getAttributeValue_nestedOf table.attributes_fit table.tag frequencyAttrDfsState hread
  rw [handleFrequency, Table.item] at hrun
  cases hfound : (table.attributes.find? (·.tag = frequencyAttrFreq)).bind
    (AttrTemplate.int .uint32).valueOf with
  | none =>
    rw [hvalue, hfound] at hrun
    simp [bind, Except.bind, pure, Except.pure] at hrun
  | some value =>
    rw [hvalue, hfound, hdfs] at hrun
    simp only [hasAttribute_nestedOf table.attributes_fit, bind, Except.bind, pure,
      Except.pure] at hrun
    split_ifs at hrun

theorem handleFrequency_addsIn (table : Table) :
    AddsIn ⊤ fun total => handleFrequency total ⟨table.item.encode⟩ := by
  cases entryCases ⟨table.item.encode⟩ with
  | skipped _ hpass =>
    refine ⟨0, trivial, fun total => ?_⟩
    show handleFrequency total _ = _
    rw [hpass, add_zero]
  | placed frequency list _ hpass =>
    refine ⟨empty.push frequency list, trivial, fun total => ?_⟩
    show handleFrequency total _ = _
    rw [hpass, push_eq_add]
  | faulty h => exact absurd h (not_unreadableEntry table)

/-- What an entry adds. -/
def frequencyAmount (table : Table) : WiphyBandInfo :=
  yield fun total => handleFrequency total ⟨table.item.encode⟩

theorem handleBandFreqAttributes_adds (id : ℕ) (tables : List Table) :
    Adds (handleBandFreqAttributes ⟨(tablesOf id tables).encode⟩)
      (tables.map frequencyAmount).sum := by
  intro total
  rw [handleBandFreqAttributes, tablesOf, nestedOf,
    getListOfNestedAttributes_encodeAll _ (items_fit tables), List.map_map]
  have hall : Adds (fun total => tables.foldlM
      (fun total table => handleFrequency total ⟨table.item.encode⟩) total)
      (tables.map frequencyAmount).sum :=
    Adds.foldlM fun table _ => (handleFrequency_addsIn table).adds
  rw [← hall total]
  exact List.foldlM_map

/-- Setting a flag is adding it. -/
theorem ax_eq_add (bandInfo : WiphyBandInfo) : { bandInfo with is80211axSupported := true } =
    bandInfo + { empty with is80211axSupported := true } := by
  rw [add_eq]
  simp [combine, empty]

theorem be_eq_add (bandInfo : WiphyBandInfo) : { bandInfo with is80211beSupported := true } =
    bandInfo + { empty with is80211beSupported := true } := by
  rw [add_eq]
  simp [combine, empty]

/-- What the code does with the first interface type. -/
def parseIfType (attr : NL80211NestedAttr) (he mcs eht : Bool) (bandInfo : WiphyBandInfo) :
    Exec WiphyBandInfo :=
  (if he then parseHeCapPhyAttribute attr { bandInfo with is80211axSupported := true }
    else pure bandInfo) >>= fun bandInfo =>
  (if mcs then parseHeMcsSetAttribute attr bandInfo else pure bandInfo) >>= fun bandInfo =>
  if eht then parseEhtCapPhyAttribute attr { bandInfo with is80211beSupported := true }
  else pure bandInfo

theorem parseIfType_addsIn (table : Table) (he mcs eht : Bool) :
    AddsIn capabilities (parseIfType ⟨table.item.encode⟩ he mcs eht) := by
  have hvector := AttrTemplate.readable_vector
  have hfits := table.attributes_fit
  have hax : { empty with is80211axSupported := true } ∈ capabilities := mem_capabilities rfl
  have hbe : { empty with is80211beSupported := true } ∈ capabilities := mem_capabilities rfl
  have hheCap := (parseHeCapPhyAttribute_adds.addsIn hvector hfits table.tag).after hax ax_eq_add
  have hheMcs := parseHeMcsSetAttribute_adds.addsIn hvector hfits table.tag
  have hehtCap := (parseEhtCapPhyAttribute_adds.addsIn hvector hfits table.tag).after hbe be_eq_add
  exact (hheCap.ite (c := he) addsIn_pure).bind
    ((hheMcs.ite (c := mcs) addsIn_pure).bind (hehtCap.ite (c := eht) addsIn_pure))

theorem parseIfTypeDataAttributes_addsIn (id : ℕ) (tables : List Table) :
    AddsIn capabilities (parseIfTypeDataAttributes ⟨(tablesOf id tables).encode⟩) := by
  have hlist := @getListOfNestedAttributes_encodeAll id _ (items_fit tables)
  cases tables with
  | nil =>
    refine ⟨0, capabilities.zero_mem, fun total => ?_⟩
    rw [parseIfTypeDataAttributes, tablesOf, nestedOf, hlist, add_zero]
    rfl
  | cons table tables =>
    have hhas := hasAttribute_nestedOf table.attributes_fit table.tag
    obtain ⟨amount, hmem, hadds⟩ := parseIfType_addsIn table
      (table.attributes.find? (·.tag = bandIftypeAttrHeCapPhy)).isSome
      (table.attributes.find? (·.tag = bandIftypeAttrHeCapMcsSet)).isSome
      (table.attributes.find? (·.tag = bandIftypeAttrEhtCapPhy)).isSome
    refine ⟨amount, hmem, fun total => ?_⟩
    rw [← hadds total, parseIfTypeDataAttributes, tablesOf, nestedOf, hlist]
    simp only [List.map_cons, bind, Except.bind, Table.item, hhas]
    cases (table.attributes.find? (·.tag = bandIftypeAttrHeCapPhy)).isSome <;>
      cases (table.attributes.find? (·.tag = bandIftypeAttrHeCapMcsSet)).isSome <;> rfl

def freqsAmount (i : Item) : WiphyBandInfo := yield (handleBandFreqAttributes ⟨i.encode⟩)

def iftypeAmount (i : Item) : WiphyBandInfo := yield (parseIfTypeDataAttributes ⟨i.encode⟩)

def htCapaAmount (_ : Item) : WiphyBandInfo := { empty with is80211nSupported := true }

def vhtCapaAmount (_ : Item) : WiphyBandInfo := { empty with is80211acSupported := true }

/-- The sub-attributes that the pass for a band reads, after the frequencies, in its order, and
what each adds. -/
def capabilityReaders : List (ℕ × (Item → WiphyBandInfo)) :=
  [(bandAttrHtCapa, htCapaAmount),
    (bandAttrVhtCapa, vhtCapaAmount),
    (bandAttrIftypeData, iftypeAmount),
    (bandAttrHtMcsSet, valueAmount AttrTemplate.vector htMcsSetAmount),
    (bandAttrVhtMcsSet, valueAmount AttrTemplate.vector vhtMcsSetAmount),
    (bandAttrVhtCapa, valueAmount (AttrTemplate.int .uint32) vhtCapAmount)]

/-- What the pass for a band reads of its sub-attributes. -/
def readBand : List Item → WiphyBandInfo :=
  readAll Item.tag ((bandAttrFreqs, freqsAmount) :: capabilityReaders)

theorem readBand_eq (children : List Item) : readBand children =
    readFirst Item.tag bandAttrFreqs freqsAmount children +
      (readFirst Item.tag bandAttrHtCapa htCapaAmount children +
        (readFirst Item.tag bandAttrVhtCapa vhtCapaAmount children +
          (readFirst Item.tag bandAttrIftypeData iftypeAmount children +
            (readFirst Item.tag bandAttrHtMcsSet (valueAmount AttrTemplate.vector htMcsSetAmount)
                children +
              (readFirst Item.tag bandAttrVhtMcsSet
                  (valueAmount AttrTemplate.vector vhtMcsSetAmount) children +
                readFirst Item.tag bandAttrVhtCapa
                  (valueAmount (AttrTemplate.int .uint32) vhtCapAmount) children))))) := by
  simp [readBand, readAll, capabilityReaders]

section Pass
variable (band : Band)

theorem Band.exists_tables {band : Band} {k : ℕ} {i : Item}
    (hi : i ∈ band.children.find? (·.tag = k)) (hk : k = bandAttrFreqs ∨ k = bandAttrIftypeData) :
    ∃ tables, i = tablesOf i.tag tables := by
  have htag : i.tag = k := by simpa using List.find?_some hi
  exact band.tables i (List.mem_of_find?_eq_some hi) (htag ▸ hk)

theorem adds_freqs : Adds (onSome (band.children.find? (·.tag = bandAttrFreqs))
    fun i => handleBandFreqAttributes ⟨i.encode⟩)
    (readFirst Item.tag bandAttrFreqs freqsAmount band.children) := by
  apply Adds.onSome
  intro i hi
  obtain ⟨tables, hi⟩ := Band.exists_tables hi (.inl rfl)
  rw [freqsAmount, hi, (handleBandFreqAttributes_adds i.tag tables).yield_eq]
  exact handleBandFreqAttributes_adds i.tag tables

theorem adds_iftype : Adds (onSome (band.children.find? (·.tag = bandAttrIftypeData))
    fun i => parseIfTypeDataAttributes ⟨i.encode⟩)
    (readFirst Item.tag bandAttrIftypeData iftypeAmount band.children) := by
  apply Adds.onSome
  intro i hi
  obtain ⟨tables, hi⟩ := Band.exists_tables hi (.inr rfl)
  rw [iftypeAmount, hi]
  exact (parseIfTypeDataAttributes_addsIn i.tag tables).adds

theorem adds_htCapa : Adds (ε := Fault) (fun bandInfo => pure
    { bandInfo with
      is80211nSupported := bandInfo.is80211nSupported ||
        (band.children.find? (·.tag = bandAttrHtCapa)).isSome })
    (readFirst Item.tag bandAttrHtCapa htCapaAmount band.children) := by
  intro total
  rw [readFirst, add_eq]
  cases band.children.find? (·.tag = bandAttrHtCapa) <;>
    simp [htCapaAmount, combine, zero_eq, empty, pure, Except.pure]

theorem adds_vhtCapa : Adds (ε := Fault) (fun bandInfo => pure
    { bandInfo with
      is80211acSupported := bandInfo.is80211acSupported ||
        (band.children.find? (·.tag = bandAttrVhtCapa)).isSome })
    (readFirst Item.tag bandAttrVhtCapa vhtCapaAmount band.children) := by
  intro total
  rw [readFirst, add_eq]
  cases band.children.find? (·.tag = bandAttrVhtCapa) <;>
    simp [vhtCapaAmount, combine, zero_eq, empty, pure, Except.pure]

/-- The pass for a band adds what is read of its sub-attributes. -/
theorem parseBand_adds :
    Adds (fun total => parseBand total ⟨band.item.encode⟩) (readBand band.children) := by
  have hfits := band.children_fit
  have hvector := AttrTemplate.readable_vector
  have hint := AttrTemplate.readable_int .uint32
  have hhtMcs := parseHtMcsSetAttribute_adds.adds hvector hfits band.index
  have hvhtMcs := parseVhtMcsSetAttribute_adds.adds hvector hfits band.index
  have hvhtCap := parseVhtCapAttribute_adds.adds hint hfits band.index
  have hall := (adds_freqs band).bind ((adds_htCapa band).bind ((adds_vhtCapa band).bind
    ((adds_iftype band).bind (hhtMcs.bind (hvhtMcs.bind hvhtCap)))))
  intro total
  rw [readBand_eq, ← hall total]
  show parseBand total ⟨(nestedOf band.index band.children).encode⟩ = _
  rw [parseBand]
  simp only [getAttribute_nestedOf hfits, hasAttribute_nestedOf hfits, bind, Except.bind]
  cases band.children.find? (·.tag = bandAttrFreqs) <;>
    cases band.children.find? (·.tag = bandAttrIftypeData) <;> rfl

end Pass

end NetlinkUtils

end Wificond
