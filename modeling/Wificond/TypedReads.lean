import Wificond.AttributeLookup
import Wificond.Packet

/-!
# Reads of fixed-size values

The integral template compares `nla_len` with the size of its type. The template for byte
arrays inherits the test of the base class, and copies as many bytes as the type has
whatever the length of the payload.
-/
namespace Wificond

open LittleEndian PaddedTlv

/-- The types of a fixed size at which the attribute template is used. -/
inductive FixedType
  | int (t : IntType)
  | array (n : ℕ)
  deriving DecidableEq, Repr

namespace FixedType

/-- `sizeof(T)` -/
def size : FixedType → ℕ
  | int t => t.size
  | array n => n

def valueType : FixedType → ValueType
  | int t => .int t
  | array n => .array n

abbrev Value (k : FixedType) : Type := k.valueType.Value

def template (k : FixedType) : AttrTemplate k.Value := k.valueType.template

/-- The value that is made of these bytes. -/
def decode : (k : FixedType) → List UInt8 → k.Value
  | int t, bytes => t.ofBytes bytes
  | array _, bytes => bytes

end FixedType

/-- The read of a value returns true exactly when the first attribute of the type lies inside
the buffer with a payload of the size of the value, and returns the value of that payload; it
never leaves the copied attribute. -/
structure ReadsExactly (k : FixedType) (data : List UInt8) (start id : ℕ)
    (result : Exec (Option k.Value)) : Prop where
  returns : ∀ v, result = .ok (some v) ↔
    ∃ ptr, IsFirst data start id ptr ∧ Inside data ptr ∧ nlaLen data ptr = nlaHdrlen + k.size ∧
      v = k.decode (slice data (ptr + nlaHdrlen) (ptr + nlaLen data ptr))
  inRange : result ≠ .error .outOfRange

/-- The attribute that an array is read from is as long as the array. -/
def PayloadMatches (k : FixedType) (data : List UInt8) (start id : ℕ) : Prop :=
  match k with
  | .int _ => True
  | .array n => ∀ ptr, IsFirst data start id ptr → Inside data ptr → nlaLen data ptr ≠ 0 →
    nlaLen data ptr = nlaHdrlen + n

section Read
variable {data : List UInt8} {start id ptr n : ℕ} {t : IntType}

/-- The size of the copied attribute, in either of the ways the template asks for it. -/
theorem int_isValid_attributeAt (hin : Inside data ptr) :
    (AttrTemplate.int t).isValid (attributeAt data ptr) = true ↔
      nlaLen data ptr = nlaHdrlen + t.size := by
  by_cases hzero : nlaLen data ptr = 0
  · refine iff_of_false ?_ (by unfold nlaHdrlen; omega)
    simp [attributeAt_of_zero hzero, AttrTemplate.int, BaseNL80211Attr.isValid]
  · have hbase := (isValid_attributeAt hin).mpr hzero
    simp only [AttrTemplate.int, hbase, length_attributeAt hin, nlaLen_attributeAt hzero]
    constructor
    · intro h
      simp at h
      omega
    · intro h
      have halign : nlaAlign (nlaLen data ptr) = nlaHdrlen + nlaAlign t.size := by
        rw [h]
        exact align4_four_add t.size
      rw [halign, h]
      simp [Nat.add_comm]

theorem int_getValue_attributeAt (hin : Inside data ptr)
    (hlen : nlaLen data ptr = nlaHdrlen + t.size) :
    (AttrTemplate.int t).getValue (attributeAt data ptr) =
      .ok (t.ofBytes (slice data (ptr + nlaHdrlen) (ptr + nlaLen data ptr))) := by
  have hle : nlaHdrlen + t.size ≤ nlaAlign (nlaLen data ptr) := by
    rw [← hlen]
    exact le_align4 _
  simp only [AttrTemplate.int, length_attributeAt hin, if_pos hle]
  rw [attributeAt, slice_slice hle, hlen]

/-- An array is copied as soon as the padded payload has room for it. -/
theorem array_getValue_attributeAt (hin : Inside data ptr) :
    (AttrTemplate.array n).getValue (attributeAt data ptr) =
      if nlaHdrlen + n ≤ nlaAlign (nlaLen data ptr) then
        .ok (slice data (ptr + nlaHdrlen) (ptr + (nlaHdrlen + n)))
      else .error .outOfRange := by
  simp only [AttrTemplate.array, length_attributeAt hin]
  split_ifs with hle
  · rw [attributeAt, slice_slice hle]
  · rfl

theorem readsExactly_int :
    ReadsExactly (.int t) data start id
      (getAttributeValueFrom data start (AttrTemplate.int t) id) where
  returns v := by
    refine getAttributeValueFrom_eq_some_iff.trans ⟨fun h => ?_, fun h => ?_⟩
    · obtain ⟨attr, hattr, hv⟩ := h
      obtain ⟨ptr, hfirst, hin, rfl, hvalid⟩ := getAttributeFrom_eq_some_iff.mp hattr
      have hlen := (int_isValid_attributeAt hin).mp hvalid
      rw [int_getValue_attributeAt hin hlen] at hv
      exact ⟨ptr, hfirst, hin, hlen, (Except.ok.inj hv).symm⟩
    · obtain ⟨ptr, hfirst, hin, hlen, rfl⟩ := h
      exact ⟨attributeAt data ptr, getAttributeFrom_eq_some_iff.mpr
        ⟨ptr, hfirst, hin, rfl, (int_isValid_attributeAt hin).mpr hlen⟩,
        int_getValue_attributeAt hin hlen⟩
  inRange hout := by
    obtain ⟨attr, hattr, hv⟩ := getAttributeValueFrom_eq_outOfRange_iff.mp hout
    obtain ⟨ptr, -, hin, rfl, hvalid⟩ := getAttributeFrom_eq_some_iff.mp hattr
    rw [int_getValue_attributeAt hin ((int_isValid_attributeAt hin).mp hvalid)] at hv
    cases hv

/-- What the lookup of an array comes to at the first attribute of the type. -/
theorem array_getAttributeValueFrom (hfirst : IsFirst data start id ptr) (hin : Inside data ptr)
    (hzero : nlaLen data ptr ≠ 0) :
    getAttributeValueFrom data start (AttrTemplate.array n) id =
      if nlaHdrlen + n ≤ nlaAlign (nlaLen data ptr) then
        .ok (some (slice data (ptr + nlaHdrlen) (ptr + (nlaHdrlen + n))))
      else .error .outOfRange := by
  have hattr : getAttributeFrom data start (AttrTemplate.array n).isValid id =
      .ok (some (attributeAt data ptr)) :=
    getAttributeFrom_eq_some_iff.mpr
      ⟨ptr, hfirst, hin, rfl, (isValid_attributeAt hin).mpr hzero⟩
  rw [getAttributeValueFrom_eq, hattr]
  show ((AttrTemplate.array n).getValue (attributeAt data ptr)).map some = _
  rw [array_getValue_attributeAt hin]
  split_ifs <;> rfl

/-- A payload of the size of the array is what is copied. -/
theorem array_getAttributeValueFrom_of_len (hfirst : IsFirst data start id ptr)
    (hin : Inside data ptr) (hlen : nlaLen data ptr = nlaHdrlen + n) :
    getAttributeValueFrom data start (AttrTemplate.array n) id =
      .ok (some (slice data (ptr + nlaHdrlen) (ptr + nlaLen data ptr))) := by
  have hzero : nlaLen data ptr ≠ 0 := by
    unfold nlaHdrlen at hlen
    omega
  have hroom : nlaHdrlen + n ≤ nlaAlign (nlaLen data ptr) := hlen ▸ le_align4 _
  rw [array_getAttributeValueFrom hfirst hin hzero, if_pos hroom, hlen]

theorem readsExactly_array_iff :
    ReadsExactly (.array n) data start id
        (getAttributeValueFrom data start (AttrTemplate.array n) id) ↔
      PayloadMatches (.array n) data start id := by
  constructor
  · intro h ptr hfirst hin hzero
    have hread := array_getAttributeValueFrom (n := n) hfirst hin hzero
    split_ifs at hread with hroom
    · obtain ⟨ptr', hfirst', hin', hlen, -⟩ := (h.returns _).mp hread
      obtain rfl := hfirst.eq hfirst'
      exact hlen
    · exact absurd hread h.inRange
  · intro h
    have hlen : ∀ ptr, IsFirst data start id ptr → Inside data ptr →
        (attributeAt data ptr).isValid = true → nlaLen data ptr = nlaHdrlen + n :=
      fun ptr hfirst hin hvalid => h ptr hfirst hin ((isValid_attributeAt hin).mp hvalid)
    refine ⟨fun v => ⟨fun hread => ?_, fun hexists => ?_⟩, fun hout => ?_⟩
    · obtain ⟨attr, hattr, -⟩ := getAttributeValueFrom_eq_some_iff.mp hread
      obtain ⟨ptr, hfirst, hin, rfl, hvalid⟩ := getAttributeFrom_eq_some_iff.mp hattr
      have hvalue := array_getAttributeValueFrom_of_len hfirst hin (hlen ptr hfirst hin hvalid)
      have heq := Option.some.inj (Except.ok.inj (hread.symm.trans hvalue))
      exact ⟨ptr, hfirst, hin, hlen ptr hfirst hin hvalid, heq⟩
    · obtain ⟨ptr, hfirst, hin, hptr, rfl⟩ := hexists
      exact array_getAttributeValueFrom_of_len hfirst hin hptr
    · obtain ⟨attr, hattr, -⟩ := getAttributeValueFrom_eq_outOfRange_iff.mp hout
      obtain ⟨ptr, hfirst, hin, rfl, hvalid⟩ := getAttributeFrom_eq_some_iff.mp hattr
      have hvalue := array_getAttributeValueFrom_of_len hfirst hin (hlen ptr hfirst hin hvalid)
      exact absurd (hout.symm.trans hvalue) (by simp)

theorem readsExactly_iff (k : FixedType) (data : List UInt8) (start id : ℕ) :
    ReadsExactly k data start id (getAttributeValueFrom data start k.template id) ↔
      PayloadMatches k data start id := by
  cases k with
  | int t => exact iff_of_true readsExactly_int trivial
  | array n => exact readsExactly_array_iff

end Read

/-- Over both lookup paths, a read of a fixed-size type is exact if the type is integral, and
for an array exactly when the attribute found has a payload of the array's size. -/
theorem typed_reads_exact_iff (k : FixedType) (data : List UInt8) (id : ℕ) :
    (ReadsExactly k data NL80211Packet.attributeStart id
        (NL80211Packet.getAttributeValue ⟨data⟩ k.template id) ↔
      PayloadMatches k data NL80211Packet.attributeStart id) ∧
    (ReadsExactly k data nlaHdrlen id
        (NL80211NestedAttr.getAttributeValue ⟨data⟩ k.template id) ↔
      PayloadMatches k data nlaHdrlen id) :=
  ⟨readsExactly_iff k data NL80211Packet.attributeStart id, readsExactly_iff k data nlaHdrlen id⟩

/-- A BSSID attribute with two bytes of payload is taken for six bytes, of which two lie behind
the copied attribute. -/
theorem short_bssid_read_out_of_range :
    NL80211NestedAttr.getAttributeValue ⟨[12, 0, 22, 0, 6, 0, 6, 0, 1, 2, 0, 0]⟩
        (FixedType.array 6).template 6 = .error .outOfRange ∧
      ¬ ReadsExactly (.array 6) [12, 0, 22, 0, 6, 0, 6, 0, 1, 2, 0, 0] nlaHdrlen 6
        (NL80211NestedAttr.getAttributeValue ⟨[12, 0, 22, 0, 6, 0, 6, 0, 1, 2, 0, 0]⟩
          (FixedType.array 6).template 6) := by
  have hread : NL80211NestedAttr.getAttributeValue ⟨[12, 0, 22, 0, 6, 0, 6, 0, 1, 2, 0, 0]⟩
      (FixedType.array 6).template 6 = .error .outOfRange := rfl
  exact ⟨hread, fun h => h.inRange hread⟩

end Wificond
