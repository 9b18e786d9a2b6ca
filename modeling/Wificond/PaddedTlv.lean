import Wificond.LittleEndian

/-!
# Length-first records padded to four bytes

A record is a two-byte total length, a two-byte tag, the payload, and zero bytes
up to the next multiple of four. The length counts the four header bytes and
the payload, not the padding. Records are laid end to end.

The lemmas locate the parts of one record inside any surrounding bytes, which
is what a walker over such an area needs at each of its stops.
-/
namespace Wificond.PaddedTlv
open LittleEndian

/-- Round up to a multiple of four. -/
def align4 (n : ℕ) : ℕ := (n + 3) / 4 * 4

theorem le_align4 (n : ℕ) : n ≤ align4 n := by unfold align4; omega

theorem four_dvd_align4 (n : ℕ) : 4 ∣ align4 n := Nat.dvd_mul_left 4 _

theorem align4_of_dvd {n : ℕ} (h : 4 ∣ n) : align4 n = n := by unfold align4; omega

@[simp] theorem align4_zero : align4 0 = 0 := rfl

theorem align4_four_add (n : ℕ) : align4 (4 + n) = 4 + align4 n := by unfold align4; omega

/-- A nonempty length rounds to at least one full word. -/
theorem four_le_align4 {n : ℕ} (h : n ≠ 0) : 4 ≤ align4 n := by unfold align4; omega

structure Item where
  tag : ℕ
  payload : List UInt8
  deriving DecidableEq, Repr

namespace Item

/-- Both header fields hold their value without wrapping. -/
def Fits (i : Item) : Prop := i.tag < 2 ^ 16 ∧ 4 + i.payload.length < 2 ^ 16

instance (i : Item) : Decidable i.Fits := inferInstanceAs (Decidable (_ ∧ _))

def padding (i : Item) : ℕ := align4 i.payload.length - i.payload.length

def encode (i : Item) : List UInt8 :=
  bytesOf 2 (4 + i.payload.length) ++
    (bytesOf 2 i.tag ++ (i.payload ++ List.replicate i.padding 0))

@[simp] theorem length_encode (i : Item) : i.encode.length = 4 + align4 i.payload.length := by
  have h := le_align4 i.payload.length
  simp only [encode, padding, List.length_append, length_bytesOf, List.length_replicate]
  omega

theorem four_dvd_length_encode (i : Item) : 4 ∣ i.encode.length := by
  rw [length_encode]
  exact Nat.dvd_add (dvd_refl 4) (four_dvd_align4 _)

/-- A payload of whole words is not padded. -/
theorem encode_of_dvd {tag : ℕ} {payload : List UInt8} (h : 4 ∣ payload.length) :
    (Item.mk tag payload).encode =
      bytesOf 2 (4 + payload.length) ++ (bytesOf 2 tag ++ payload) := by
  simp [encode, padding, align4_of_dvd h]

variable {i : Item}

/-- The length field of a record that starts after `pre`. -/
theorem field_length (h : i.Fits) (pre rest : List UInt8) :
    field (pre ++ (i.encode ++ rest)) pre.length 2 = 4 + i.payload.length := by
  have hr := field_append_right pre (i.encode ++ rest) 0 2
  rw [Nat.add_zero] at hr
  rw [hr, encode, List.append_assoc, field_bytesOf_append]
  exact Nat.mod_eq_of_lt h.2

/-- The tag field of a record that starts after `pre`. -/
theorem field_tag (h : i.Fits) (pre rest : List UInt8) :
    field (pre ++ (i.encode ++ rest)) (pre.length + 2) 2 = i.tag := by
  have hr := field_append_right (bytesOf 2 (4 + i.payload.length))
    (bytesOf 2 i.tag ++ (i.payload ++ List.replicate i.padding 0) ++ rest) 0 2
  rw [length_bytesOf] at hr
  rw [field_append_right, encode, List.append_assoc, hr, List.append_assoc,
    field_bytesOf_append]
  exact Nat.mod_eq_of_lt h.1

theorem slice_record (i : Item) (pre rest : List UInt8) :
    slice (pre ++ (i.encode ++ rest)) pre.length (pre.length + i.encode.length) = i.encode := by
  rw [slice_append_right, List.take_left]

theorem slice_payload (i : Item) (pre rest : List UInt8) :
    slice (pre ++ (i.encode ++ rest)) (pre.length + 4) (pre.length + (4 + i.payload.length)) =
      i.payload := by
  have hpre : pre ++ (i.encode ++ rest) =
      (pre ++ bytesOf 2 (4 + i.payload.length) ++ bytesOf 2 i.tag) ++
        (i.payload ++ (List.replicate i.padding 0 ++ rest)) := by
    simp [encode]
  have hlen : (pre ++ bytesOf 2 (4 + i.payload.length) ++ bytesOf 2 i.tag).length =
      pre.length + 4 := by simp
  rw [hpre, ← hlen, show pre.length + (4 + i.payload.length) =
    (pre ++ bytesOf 2 (4 + i.payload.length) ++ bytesOf 2 i.tag).length + i.payload.length by
      rw [hlen]; omega, slice_append_right, List.take_left]

end Item

/-- Records laid end to end. -/
def encodeAll (items : List Item) : List UInt8 := items.flatMap Item.encode

@[simp] theorem encodeAll_nil : encodeAll [] = [] := rfl

@[simp] theorem encodeAll_cons (i : Item) (items : List Item) :
    encodeAll (i :: items) = i.encode ++ encodeAll items := rfl

theorem encodeAll_append (items items' : List Item) :
    encodeAll (items ++ items') = encodeAll items ++ encodeAll items' := List.flatMap_append

theorem four_dvd_length_encodeAll (items : List Item) : 4 ∣ (encodeAll items).length := by
  induction items with
  | nil => simp
  | cons i items ih =>
    rw [encodeAll_cons, List.length_append]
    exact Nat.dvd_add i.four_dvd_length_encode ih

theorem length_le_encodeAll (items : List Item) : items.length ≤ (encodeAll items).length := by
  induction items with
  | nil => simp
  | cons i items ih =>
    simp only [encodeAll_cons, List.length_append, Item.length_encode, List.length_cons]
    omega

end Wificond.PaddedTlv
