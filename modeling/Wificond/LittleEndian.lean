import Mathlib.Data.List.Basic
import Mathlib.Tactic

/-!
# Little-endian fields in byte lists

A buffer is a list of bytes. A field is a run of `w` bytes at an offset, read
as a little-endian number. Stores keep the low `w` bytes of what is stored, so
the wrap-around of a fixed-width field is part of the round trip.
-/
namespace Wificond.LittleEndian

/-- The `w` low bytes of `n`, least significant first. -/
def bytesOf : ℕ → ℕ → List UInt8
  | 0, _ => []
  | w + 1, n => UInt8.ofNat (n % 256) :: bytesOf w (n / 256)

def valueOf : List UInt8 → ℕ
  | [] => 0
  | b :: bs => b.toNat + 256 * valueOf bs

@[simp] theorem length_bytesOf (w n : ℕ) : (bytesOf w n).length = w := by
  induction w generalizing n with
  | zero => rfl
  | succ w ih => simp [bytesOf, ih]

@[simp] theorem valueOf_bytesOf (w n : ℕ) : valueOf (bytesOf w n) = n % 256 ^ w := by
  induction w generalizing n with
  | zero => simp [bytesOf, valueOf, Nat.mod_one]
  | succ w ih =>
    have hb : (UInt8.ofNat (n % 256)).toNat = n % 256 := by
      rw [UInt8.toNat_ofNat']
      omega
    rw [bytesOf, valueOf, ih, hb, pow_succ, Nat.mul_comm (256 ^ w) 256, Nat.mod_mul]

theorem bytesOf_valueOf (bs : List UInt8) : bytesOf bs.length (valueOf bs) = bs := by
  induction bs with
  | nil => rfl
  | cons b bs ih =>
    have hb := b.toNat_lt
    have hlow : (b.toNat + 256 * valueOf bs) % 256 = b.toNat := by omega
    have hhigh : (b.toNat + 256 * valueOf bs) / 256 = valueOf bs := by omega
    simp only [List.length_cons, bytesOf, valueOf, hlow, hhigh, ih, UInt8.ofNat_toNat]

theorem valueOf_lt (bs : List UInt8) : valueOf bs < 256 ^ bs.length := by
  induction bs with
  | nil => simp [valueOf]
  | cons b bs ih =>
    have hb := b.toNat_lt
    rw [valueOf, List.length_cons, pow_succ]
    omega

/-- Only the low bytes of a number are laid out. -/
theorem bytesOf_mod (w n : ℕ) : bytesOf w (n % 256 ^ w) = bytesOf w n := by
  have h := bytesOf_valueOf (bytesOf w n)
  rwa [length_bytesOf, valueOf_bytesOf] at h

/-- Reading a field, adding to it and storing it back wraps like one addition. -/
theorem bytesOf_mod_add (w n m : ℕ) : bytesOf w (n % 256 ^ w + m) = bytesOf w (n + m) := by
  rw [← bytesOf_mod, Nat.mod_add_mod, bytesOf_mod]

/-- The bytes at positions `start` to `stop - 1`. -/
def slice (data : List UInt8) (start stop : ℕ) : List UInt8 :=
  (data.drop start).take (stop - start)

/-- The number stored in the `w` bytes at `off`. -/
def field (data : List UInt8) (off w : ℕ) : ℕ := valueOf ((data.drop off).take w)

theorem field_lt (data : List UInt8) (off w : ℕ) : field data off w < 256 ^ w := by
  have hlen : ((data.drop off).take w).length ≤ w := List.length_take_le _ _
  have hpow : 256 ^ ((data.drop off).take w).length ≤ 256 ^ w :=
    Nat.pow_le_pow_right (by norm_num) hlen
  exact Nat.lt_of_lt_of_le (valueOf_lt _) hpow

/-- Replace the bytes from `off` on by `bs`; the rest stays. -/
def overwrite (data : List UInt8) (off : ℕ) (bs : List UInt8) : List UInt8 :=
  data.take off ++ bs ++ data.drop (off + bs.length)

/-- A store to a field of `w` bytes. -/
def setField (data : List UInt8) (off w v : ℕ) : List UInt8 := overwrite data off (bytesOf w v)

/-- `vector::resize`: cut at the end, or extend with zero bytes. -/
def resize (data : List UInt8) (n : ℕ) : List UInt8 :=
  data.take n ++ List.replicate (n - data.length) 0

@[simp] theorem length_resize (data : List UInt8) (n : ℕ) : (resize data n).length = n := by
  simp only [resize, List.length_append, List.length_take, List.length_replicate]
  omega

theorem resize_append_left (pre rest : List UInt8) : resize (pre ++ rest) pre.length = pre := by
  simp [resize]

theorem resize_of_le {data : List UInt8} {n : ℕ} (h : data.length ≤ n) :
    resize data n = data ++ List.replicate (n - data.length) 0 := by
  rw [resize, List.take_of_length_le h]

theorem slice_append_right (pre rest : List UInt8) (stop : ℕ) :
    slice (pre ++ rest) pre.length (pre.length + stop) = rest.take stop := by
  simp [slice]

/-- A field inside the left part of a buffer does not see the right part. -/
theorem field_append_left {pre : List UInt8} (rest : List UInt8) {off w : ℕ}
    (h : off + w ≤ pre.length) : field (pre ++ rest) off w = field pre off w := by
  have hd : (pre ++ rest).drop off = pre.drop off ++ rest :=
    List.drop_append_of_le_length (by omega)
  have ht : ((pre.drop off) ++ rest).take w = (pre.drop off).take w :=
    List.take_append_of_le_length (by simp; omega)
  rw [field, hd, ht, field]

/-- A field past the left part of a buffer is a field of the right part. -/
theorem field_append_right (pre rest : List UInt8) (off w : ℕ) :
    field (pre ++ rest) (pre.length + off) w = field rest off w := by
  simp [field, ← List.drop_drop]

theorem field_bytesOf_append (w n : ℕ) (rest : List UInt8) :
    field (bytesOf w n ++ rest) 0 w = n % 256 ^ w := by
  have h : (bytesOf w n ++ rest).take w = bytesOf w n := by simp
  rw [field, List.drop_zero, h, valueOf_bytesOf]

/-- A field that stands behind other bytes. -/
theorem field_bytesOf_middle (pre : List UInt8) (w n : ℕ) (rest : List UInt8) :
    field (pre ++ (bytesOf w n ++ rest)) pre.length w = n % 256 ^ w := by
  have h := field_append_right pre (bytesOf w n ++ rest) 0 w
  rwa [Nat.add_zero, field_bytesOf_append] at h

/-- A store over a field that was just laid out replaces it. -/
theorem setField_bytesOf_append (w n v : ℕ) (rest : List UInt8) :
    setField (bytesOf w n ++ rest) 0 w v = bytesOf w v ++ rest := by
  have h : (bytesOf w n ++ rest).drop w = rest := by
    simp
  simp [setField, overwrite, h]

theorem overwrite_zero (data bs : List UInt8) :
    overwrite data 0 bs = bs ++ data.drop bs.length := by
  simp [overwrite]

/-- What lies past the left part of a buffer is written to the right part. -/
theorem overwrite_append_right (pre rest : List UInt8) (off : ℕ) (bs : List UInt8) :
    overwrite (pre ++ rest) (pre.length + off) bs = pre ++ overwrite rest off bs := by
  simp [overwrite, List.take_append, ← List.drop_drop, Nat.add_assoc]

theorem setField_append_right (pre rest : List UInt8) (off w v : ℕ) :
    setField (pre ++ rest) (pre.length + off) w v = pre ++ setField rest off w v :=
  overwrite_append_right pre rest off _

/-- A store leaves what is behind it. -/
theorem drop_setField {data : List UInt8} {off w n : ℕ} (v : ℕ) (hoff : off ≤ data.length)
    (hn : off + w ≤ n) : (setField data off w v).drop n = data.drop n := by
  have hlen : (data.take off ++ bytesOf w v).length = off + w := by
    rw [List.length_append, List.length_take, min_eq_left hoff, length_bytesOf]
  rw [setField, overwrite, List.drop_append, List.drop_eq_nil_of_le (by omega), hlen,
    List.drop_drop, List.nil_append, length_bytesOf]
  congr 1
  omega

end Wificond.LittleEndian
