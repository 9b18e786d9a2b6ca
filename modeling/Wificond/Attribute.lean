import Wificond.PaddedTlv
import Wificond.StepLoop
import Mathlib.Data.List.DropRight

/-!
# Netlink attributes

The model of `net/nl80211_attribute.{h,cpp}`. An attribute is the byte vector
`data_`: a `nlattr` header (`nla_len`, then `nla_type`, two bytes each), the
payload, and padding. A pointer into a vector is its offset, so `end_ptr` is the
length of the vector.

`Exec` carries the two ways in which the source does not produce a result. A
walk may spin at one place, and a range taken from a length field may be
reversed or leave its vector.
-/
namespace Wificond

open LittleEndian

inductive Fault
  /-- the loop goes round without advancing -/
  | spin
  /-- a range of bytes is reversed or not inside its vector -/
  | outOfRange
  deriving DecidableEq, Repr

abbrev Exec := Except Fault

/-- Run a walking loop over a buffer of `size` bytes. Every pass that advances
moves by at least four bytes, so the budget is exhausted only by a loop that spins. -/
def walk {σ α : Type} (step : σ → σ ⊕ Exec α) (size : ℕ) (s : σ) : Exec α :=
  match StepLoop.run step (size + 1) s with
  | some result => result
  | none => .error .spin

/-- `NLA_HDRLEN` -/
abbrev nlaHdrlen : ℕ := 4

/-- `NLA_ALIGN` -/
abbrev nlaAlign : ℕ → ℕ := PaddedTlv.align4

/-- `nla_len` of the header at `ptr`. -/
def nlaLen (data : List UInt8) (ptr : ℕ) : ℕ := field data ptr 2

/-- `nla_type` of the header at `ptr`. -/
def nlaType (data : List UInt8) (ptr : ℕ) : ℕ := field data (ptr + 2) 2

structure BaseNL80211Attr where
  data : List UInt8
  deriving DecidableEq, Repr

/-- A nested attribute adds no data of its own. -/
abbrev NL80211NestedAttr := BaseNL80211Attr

/-- `InitHeaderAndResize` on an empty `data_`. -/
def initHeaderAndResize (attributeId payloadLength : ℕ) : List UInt8 :=
  let data := resize [] (nlaHdrlen + nlaAlign payloadLength)
  let data := setField data 2 2 attributeId
  setField data 0 2 (nlaHdrlen + payloadLength)

namespace BaseNL80211Attr

/-- The constructor from an id and a payload. -/
def ofPayload (id : ℕ) (rawBuffer : List UInt8) : BaseNL80211Attr :=
  ⟨overwrite (initHeaderAndResize id rawBuffer.length) nlaHdrlen rawBuffer⟩

def getAttributeId (attr : BaseNL80211Attr) : ℕ := nlaType attr.data 0

def isValid (attr : BaseNL80211Attr) : Bool :=
  if attr.data.length < nlaHdrlen then false
  else nlaAlign (nlaLen attr.data 0) = attr.data.length

/-- Append the payload of `other`. The length field keeps sixteen bits of the
total; the vector is resized to the unwrapped total. A vector whose length has
wrapped to zero may be left without a header, and the next merge reads behind it. -/
def merge (attr other : BaseNL80211Attr) : Exec (Bool × BaseNL80211Attr) :=
  if !other.isValid then .ok (false, attr)
  else if attr.data.length < nlaHdrlen then .error .outOfRange
  else if attr.getAttributeId ≠ other.getAttributeId then .ok (false, attr)
  else
    let ourLen := nlaLen attr.data 0
    let otherLen := nlaLen other.data 0
    if otherLen < nlaHdrlen then .error .outOfRange
    else
      let total := ourLen + otherLen - nlaHdrlen
      let data := setField attr.data 0 2 total
      let data := resize data ourLen
      let data := data ++ slice other.data nlaHdrlen otherLen
      .ok (true, ⟨resize data (nlaAlign total)⟩)

end BaseNL80211Attr

/-- One pass of `GetAttributeImpl`: leave with the range of the attribute, leave
without one, or go on behind the attribute at `ptr`. -/
def getAttributeStep (data : List UInt8) (attrId ptr : ℕ) : ℕ ⊕ Exec (Option (ℕ × ℕ)) :=
  if ptr + nlaHdrlen ≤ data.length then
    if nlaType data ptr = attrId then
      if ptr + nlaAlign (nlaLen data ptr) > data.length then .inr (.ok none)
      else .inr (.ok (some (ptr, ptr + nlaAlign (nlaLen data ptr))))
    else .inl (ptr + nlaAlign (nlaLen data ptr))
  else .inr (.ok none)

/-- `GetAttributeImpl` on the part of `data` from `start` on. Where `data` is shorter
than `start`, the caller's length wraps and `end_ptr` is the end of `data` all the same. -/
def getAttributeImpl (data : List UInt8) (start attrId : ℕ) : Exec (Option (ℕ × ℕ)) :=
  walk (getAttributeStep data attrId) data.length start

/-- The integral types at which the attribute template is used. -/
inductive IntType
  | uint8 | uint16 | uint32 | uint64 | int8 | int32
  deriving DecidableEq, Repr

namespace IntType

/-- `sizeof(T)` -/
def size : IntType → ℕ
  | uint8 | int8 => 1
  | uint16 => 2
  | uint32 | int32 => 4
  | uint64 => 8

def signed : IntType → Bool
  | int8 | int32 => true
  | _ => false

/-- The values of the type. -/
def InRange (t : IntType) (v : ℤ) : Prop :=
  if t.signed then -2 ^ (8 * t.size - 1) ≤ v ∧ v < 2 ^ (8 * t.size - 1)
  else 0 ≤ v ∧ v < 2 ^ (8 * t.size)

instance decidableInRange (t : IntType) (v : ℤ) : Decidable (t.InRange v) :=
  inferInstanceAs (Decidable (if t.signed then
    -2 ^ (8 * t.size - 1) ≤ v ∧ v < 2 ^ (8 * t.size - 1) else 0 ≤ v ∧ v < 2 ^ (8 * t.size)))

/-- The object representation, two's complement for the signed types. -/
def toBytes (t : IntType) (v : ℤ) : List UInt8 := bytesOf t.size (v % 256 ^ t.size).toNat

def ofBytes (t : IntType) (bytes : List UInt8) : ℤ :=
  if t.signed ∧ 2 ^ (8 * t.size - 1) ≤ valueOf bytes then (valueOf bytes : ℤ) - 256 ^ t.size
  else valueOf bytes

end IntType

/-- What `NL80211Attr<T>` fixes for one `T`: the test `IsValid` and the reader
`GetValue`. -/
structure AttrTemplate (α : Type) where
  isValid : BaseNL80211Attr → Bool
  getValue : BaseNL80211Attr → Exec α

namespace AttrTemplate

/-- `NL80211Attr<T>` for an integral `T`. -/
def int (t : IntType) : AttrTemplate ℤ where
  isValid attr :=
    if !attr.isValid then false
    else if nlaAlign t.size + nlaHdrlen ≠ attr.data.length ∨
        t.size + nlaHdrlen ≠ nlaLen attr.data 0 then false
    else true
  getValue attr :=
    if nlaHdrlen + t.size ≤ attr.data.length then
      .ok (t.ofBytes (slice attr.data nlaHdrlen (nlaHdrlen + t.size)))
    else .error .outOfRange

/-- `NL80211Attr<std::vector<uint8_t>>` -/
def vector : AttrTemplate (List UInt8) where
  isValid := BaseNL80211Attr.isValid
  getValue attr :=
    let stop := nlaLen attr.data 0
    if nlaHdrlen ≤ stop ∧ stop ≤ attr.data.length then .ok (slice attr.data nlaHdrlen stop)
    else .error .outOfRange

/-- `NL80211Attr<std::array<uint8_t, N>>`: the test does not look at `N`. -/
def array (n : ℕ) : AttrTemplate (List UInt8) where
  isValid := BaseNL80211Attr.isValid
  getValue attr :=
    if nlaHdrlen + n ≤ attr.data.length then
      .ok (slice attr.data nlaHdrlen (nlaHdrlen + n))
    else .error .outOfRange

/-- `NL80211Attr<std::string>`: all trailing zeros are trimmed. -/
def string : AttrTemplate (List UInt8) where
  isValid := BaseNL80211Attr.isValid
  getValue attr :=
    let stop := nlaLen attr.data 0
    if nlaHdrlen ≤ stop ∧ stop ≤ attr.data.length then
      .ok ((slice attr.data nlaHdrlen stop).rdropWhile (· = 0))
    else .error .outOfRange

end AttrTemplate

/-- The types at which the attribute template is used. -/
inductive ValueType
  | int (t : IntType)
  | vector
  | array (n : ℕ)
  | string
  deriving DecidableEq, Repr

namespace ValueType

abbrev Value : ValueType → Type
  | int _ => ℤ
  | vector | array _ | string => List UInt8

def template : (k : ValueType) → AttrTemplate k.Value
  | int t => AttrTemplate.int t
  | vector => AttrTemplate.vector
  | array n => AttrTemplate.array n
  | string => AttrTemplate.string

end ValueType

namespace NL80211Attr

/-- The constructor from an id and an integral value. -/
def ofInt (t : IntType) (id : ℕ) (value : ℤ) : BaseNL80211Attr :=
  ⟨overwrite (initHeaderAndResize id t.size) nlaHdrlen (t.toBytes value)⟩

/-- The constructor from an id and a byte vector or a byte array. -/
def ofBytes (id : ℕ) (rawBuffer : List UInt8) : BaseNL80211Attr :=
  BaseNL80211Attr.ofPayload id rawBuffer

/-- The constructor from an id and a string, stored with its terminator. -/
def ofString (id : ℕ) (str : List UInt8) : BaseNL80211Attr :=
  ⟨overwrite (initHeaderAndResize id (str.length + 1)) nlaHdrlen str⟩

end NL80211Attr

/-- `HasAttribute` over the area that starts at `start`. -/
def hasAttributeFrom (data : List UInt8) (start id : ℕ) : Exec Bool :=
  (getAttributeImpl data start id).map Option.isSome

/-- `GetAttribute` over the area that starts at `start`, with the test `valid`
of the class that is asked for. -/
def getAttributeFrom (data : List UInt8) (start : ℕ) (valid : BaseNL80211Attr → Bool) (id : ℕ) :
    Exec (Option BaseNL80211Attr) := do
  match ← getAttributeImpl data start id with
  | none => return none
  | some (first, last) =>
    let attr : BaseNL80211Attr := ⟨slice data first last⟩
    return if valid attr then some attr else none

/-- `GetAttributeValue<T>` over the area that starts at `start`. -/
def getAttributeValueFrom {α : Type} (data : List UInt8) (start : ℕ) (t : AttrTemplate α)
    (id : ℕ) : Exec (Option α) := do
  match ← getAttributeFrom data start t.isValid id with
  | none => return none
  | some attr => return some (← t.getValue attr)

/-- One pass of the loop of `GetListOfAttributeValues`, `GetListOfAttributes` and
`GetListOfNestedAttributes`. They differ in what they take from an attribute. -/
def getListStep {α : Type} (element : BaseNL80211Attr → Exec (Option α)) (data : List UInt8) :
    ℕ × List α → (ℕ × List α) ⊕ Exec (Option (List α))
  | (ptr, found) =>
    if ptr + nlaHdrlen ≤ data.length then
      let next := ptr + nlaAlign (nlaLen data ptr)
      if next > data.length then .inr (.ok none)
      else
        match element ⟨slice data ptr next⟩ with
        | .error fault => .inr (.error fault)
        | .ok none => .inr (.ok none)
        | .ok (some value) => .inl (next, found ++ [value])
    else .inr (.ok (some found))

namespace NL80211NestedAttr

/-- The constructor from an id: a header only. -/
def ofId (id : ℕ) : NL80211NestedAttr := ⟨initHeaderAndResize id 0⟩

def addAttribute (nested : NL80211NestedAttr) (attr : BaseNL80211Attr) :
    NL80211NestedAttr :=
  let data := nested.data ++ attr.data
  ⟨setField data 0 2 (nlaLen data 0 + attr.data.length)⟩

def addFlagAttribute (nested : NL80211NestedAttr) (attributeId : ℕ) : NL80211NestedAttr :=
  let size := nested.data.length
  let data := resize nested.data (size + nlaHdrlen)
  let data := setField data (size + 2) 2 attributeId
  let data := setField data size 2 nlaHdrlen
  ⟨setField data 0 2 (nlaLen data 0 + nlaHdrlen)⟩

def hasAttribute (nested : NL80211NestedAttr) (id : ℕ) : Exec Bool :=
  hasAttributeFrom nested.data nlaHdrlen id

/-- `GetAttribute` for a nested attribute. -/
def getAttribute (nested : NL80211NestedAttr) (id : ℕ) : Exec (Option NL80211NestedAttr) :=
  getAttributeFrom nested.data nlaHdrlen BaseNL80211Attr.isValid id

/-- `GetAttribute<T>` -/
def getTypedAttribute {α : Type} (nested : NL80211NestedAttr) (t : AttrTemplate α) (id : ℕ) :
    Exec (Option BaseNL80211Attr) :=
  getAttributeFrom nested.data nlaHdrlen t.isValid id

def getAttributeValue {α : Type} (nested : NL80211NestedAttr) (t : AttrTemplate α) (id : ℕ) :
    Exec (Option α) :=
  getAttributeValueFrom nested.data nlaHdrlen t id

/-- What `GetListOfAttributeValues<T>` takes from an attribute. -/
def valueElement {α : Type} (t : AttrTemplate α) (attr : BaseNL80211Attr) :
    Exec (Option α) :=
  if !t.isValid attr then .ok none else (t.getValue attr).map some

/-- What `GetListOfAttributes` and `GetListOfNestedAttributes` take from an attribute. -/
def attributeElement (valid : BaseNL80211Attr → Bool) (attr : BaseNL80211Attr) :
    Exec (Option BaseNL80211Attr) :=
  .ok (if valid attr then some attr else none)

def getListOfAttributeValues {α : Type} (nested : NL80211NestedAttr) (t : AttrTemplate α) :
    Exec (Option (List α)) :=
  walk (getListStep (valueElement t) nested.data) nested.data.length (nlaHdrlen, [])

def getListOfAttributes {α : Type} (nested : NL80211NestedAttr) (t : AttrTemplate α) :
    Exec (Option (List BaseNL80211Attr)) :=
  walk (getListStep (attributeElement t.isValid) nested.data) nested.data.length (nlaHdrlen, [])

def getListOfNestedAttributes (nested : NL80211NestedAttr) :
    Exec (Option (List NL80211NestedAttr)) :=
  walk (getListStep (attributeElement BaseNL80211Attr.isValid) nested.data) nested.data.length
    (nlaHdrlen, [])

end NL80211NestedAttr

end Wificond
