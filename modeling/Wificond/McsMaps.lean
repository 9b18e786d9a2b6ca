import Wificond.WiphyInfo
import Mathlib.Data.Nat.Digits.Defs

/-!
# Maps of supported MCS

A set of supported MCS says for each number of streams what it supports, in two bits of a map or
in a byte of a mask. The daemon takes from it the greatest number of streams that supports
anything.
-/
namespace Wificond

open LittleEndian

/-- The greatest supported number of streams, of which `supported` counts from zero. One stream
there always is. -/
def maxStreams (n : ℕ) (supported : ℕ → Bool) : ℕ :=
  max (((Finset.range n).filter fun i => supported i).sup (· + 1)) 1

section Greatest
variable {n : ℕ} {supported supported' : ℕ → Bool}

theorem maxStreams_congr (h : ∀ i < n, supported i = supported' i) :
    maxStreams n supported = maxStreams n supported' := by
  have hfilter : ((Finset.range n).filter fun i => supported i) =
      (Finset.range n).filter fun i => supported' i := by
    apply Finset.filter_congr
    intro i hi
    rw [h i (Finset.mem_range.mp hi)]
  rw [maxStreams, maxStreams, hfilter]

/-- The search from above ends at the greatest number. -/
theorem find?_reverse_range (n : ℕ) (supported : ℕ → Bool) :
    (((List.range n).reverse.find? supported).map (· + 1)).getD 1 = maxStreams n supported := by
  induction n with
  | zero => rfl
  | succ n ih =>
    have hbound : ((Finset.range n).filter fun i => supported i).sup (· + 1) ≤ n := by
      apply Finset.sup_le
      intro i hi
      have hlt := Finset.mem_range.mp (Finset.mem_filter.mp hi).1
      omega
    rw [List.range_succ, List.reverse_append, List.reverse_singleton, List.singleton_append,
      List.find?_cons, maxStreams, Finset.range_add_one, Finset.filter_insert]
    by_cases hn : supported n = true
    · rw [hn, if_pos rfl, Finset.sup_insert, Option.map_some, Option.getD_some]
      show n + 1 = max (max (n + 1) _) 1
      omega
    · rw [Bool.not_eq_true] at hn
      rw [hn, if_neg (by simp)]
      exact ih

end Greatest

/-- For each number of streams a range of MCS; nothing where the number is not supported. -/
abbrev McsMap := Vector (Option (Fin 3)) 8

namespace McsMap

def digit : Option (Fin 3) → ℕ
  | none => 3
  | some range => range

/-- Two bits for each number of streams. -/
def code (m : McsMap) : ℕ := Nat.ofDigits 4 (m.toList.map digit)

def supports (m : McsMap) (i : ℕ) : Bool := (m[i]?.getD none).isSome

def streams (m : McsMap) : UInt32 := UInt32.ofNat (maxStreams 8 m.supports)

variable {m : McsMap} {i : ℕ}

theorem digit_lt (range : Option (Fin 3)) : digit range < 4 := by
  cases range with
  | none => decide
  | some range =>
    have hlt := range.isLt
    show range.val < 4
    omega

theorem digit_eq_three_iff (range : Option (Fin 3)) : digit range = 3 ↔ range = none := by
  cases range with
  | none => simp [digit]
  | some range =>
    have hlt := range.isLt
    have hne : range.val ≠ 3 := by omega
    simpa [digit] using hne

theorem code_digit (hi : i < 8) : m.code / 4 ^ i % 4 = digit m[i] := by
  have hdigits : ∀ d ∈ m.toList.map digit, d < 4 := by
    intro d hd
    obtain ⟨range, -, rfl⟩ := List.mem_map.mp hd
    exact digit_lt range
  have hlength : i < (m.toList.map digit).length := by simpa using hi
  have hhead : (m.toList.map digit)[i] = digit m[i] := by simp
  rw [code, Nat.ofDigits_div_pow_eq_ofDigits_drop i (by omega) _ hdigits,
    List.drop_eq_getElem_cons hlength, hhead, Nat.ofDigits_cons, Nat.add_mul_mod_self_left]
  exact Nat.mod_eq_of_lt (digit_lt m[i])

/-- The two bits of a number of streams are both set exactly if it is not supported. -/
theorem bits_ne_three_iff {mcsMap : UInt16} (h : mcsMap.toNat = m.code) (hi : i < 8) :
    (mcsMap >>> UInt16.ofNat (2 * i)) &&& 3 ≠ 3 ↔ m.supports i = true := by
  have hshift : (UInt16.ofNat (2 * i)).toNat % 16 = 2 * i := by
    rw [UInt16.toNat_ofNat']
    omega
  have hpow : 2 ^ (2 * i) = 4 ^ i := Nat.pow_mul 2 2 i
  have hbits : ((mcsMap >>> UInt16.ofNat (2 * i)) &&& 3).toNat = digit m[i] := by
    rw [← code_digit hi, ← h, UInt16.toNat_and, UInt16.toNat_shiftRight, hshift,
      Nat.shiftRight_eq_div_pow, hpow]
    exact Nat.and_two_pow_sub_one_eq_mod _ 2
  have hsupports : m.supports i = m[i].isSome := by
    rw [supports, Vector.getElem?_eq_getElem hi, Option.getD_some]
  rw [ne_eq, ← UInt16.toNat_inj, hbits, hsupports, Option.isSome_iff_ne_none]
  exact not_congr (digit_eq_three_iff m[i])

theorem parseMcsMap_eq {mcsMap : UInt16} (h : mcsMap.toNat = m.code) :
    NetlinkUtils.parseMcsMap mcsMap = m.streams := by
  have hsame : maxStreams 8 (fun i => (mcsMap >>> UInt16.ofNat (2 * i)) &&& 3 ≠ 3) =
      maxStreams 8 m.supports := by
    apply maxStreams_congr
    intro i hi
    rw [Bool.eq_iff_iff, decide_eq_true_iff]
    exact bits_ne_three_iff h hi
  rw [streams, ← hsame, ← find?_reverse_range]
  rfl

end McsMap

/-- What is supported in either direction. -/
structure McsMaps where
  receive : McsMap
  transmit : McsMap

/-- The set has the maps at the two places. -/
structure McsMaps.IsAt (minimum receivePos transmitPos : ℕ) (maps : McsMaps)
    (mcsSet : List UInt8) : Prop where
  length : minimum ≤ mcsSet.length
  receive : field mcsSet receivePos 2 = maps.receive.code
  transmit : field mcsSet transmitPos 2 = maps.transmit.code

theorem toNat_mcsMapAt {mcsSet : List UInt8} {pos : ℕ} (h : pos + 2 ≤ mcsSet.length) :
    (NetlinkUtils.mcsMapAt mcsSet pos).toNat = field mcsSet pos 2 := by
  obtain ⟨low, hlow⟩ : ∃ low, mcsSet[pos]? = some low :=
    ⟨_, List.getElem?_eq_getElem (by omega)⟩
  obtain ⟨high, hhigh⟩ : ∃ high, mcsSet[pos + 1]? = some high :=
    ⟨_, List.getElem?_eq_getElem (by omega)⟩
  have hbytes : (mcsSet.drop pos).take 2 = [low, high] := by
    apply List.ext_getElem?
    intro i
    rw [List.getElem?_take, List.getElem?_drop]
    rcases i with - | - | i
    · simpa using hlow
    · simpa using hhigh
    · simp
  have hlowLt := low.toNat_lt
  have hhighLt := high.toNat_lt
  have hshift : high.toNat <<< 8 % 2 ^ 16 = high.toNat <<< 8 := by
    rw [Nat.shiftLeft_eq]
    omega
  rw [NetlinkUtils.mcsMapAt, field, hbytes, List.getD_eq_getElem?_getD, List.getD_eq_getElem?_getD,
    hlow, hhigh, UInt16.toNat_or, UInt16.toNat_shiftLeft]
  simp only [Option.getD_some, UInt8.toNat_toUInt16]
  show high.toNat <<< 8 % 2 ^ 16 ||| low.toNat = _
  rw [hshift, ← Nat.shiftLeft_add_eq_or_of_lt hlowLt, Nat.shiftLeft_eq]
  simp only [valueOf]
  omega

theorem McsMaps.IsAt.parse_eq {minimum receivePos transmitPos : ℕ} {maps : McsMaps}
    {mcsSet : List UInt8} (h : maps.IsAt minimum receivePos transmitPos mcsSet)
    (hreceive : receivePos + 2 ≤ minimum) (htransmit : transmitPos + 2 ≤ minimum) :
    NetlinkUtils.parseMcsMap (NetlinkUtils.mcsMapAt mcsSet receivePos) = maps.receive.streams ∧
      NetlinkUtils.parseMcsMap (NetlinkUtils.mcsMapAt mcsSet transmitPos) =
        maps.transmit.streams := by
  have hlength := h.length
  constructor
  · apply McsMap.parseMcsMap_eq
    rw [toNat_mcsMapAt (by omega), h.receive]
  · apply McsMap.parseMcsMap_eq
    rw [toNat_mcsMapAt (by omega), h.transmit]

/-- An HT set: the numbers of streams that receive anything, and how many transmit where the
set says that these differ. -/
structure HtMcs where
  receives : Vector Bool 4
  transmits : Option (Fin 4)

namespace HtMcs

def rxStreams (ht : HtMcs) : ℕ := maxStreams 4 fun i => ht.receives[i]?.getD false

def txStreams (ht : HtMcs) : ℕ :=
  (ht.transmits.map fun streams => streams.val + 1).getD ht.rxStreams

/-- The first bytes are the masks; in the thirteenth two bits say that a set is defined for
transmitting and that it differs, and the next two give the streams. -/
structure IsIn (ht : HtMcs) (htMcsSet : List UInt8) : Prop where
  length : 16 ≤ htMcsSet.length
  receives : ∀ i (hi : i < 4), htMcsSet.getD i 0 ≠ 0 ↔ ht.receives[i] = true
  differs : (htMcsSet.getD 12 0).toNat % 4 = 3 ↔ ht.transmits.isSome
  transmits : ∀ streams ∈ ht.transmits, (htMcsSet.getD 12 0).toNat / 4 % 4 = streams

theorem IsIn.parse_eq {ht : HtMcs} {htMcsSet : List UInt8} (h : ht.IsIn htMcsSet) :
    NetlinkUtils.parseHtMcsSet htMcsSet =
      (UInt32.ofNat ht.txStreams, UInt32.ofNat ht.rxStreams) := by
  have hreceives : (([3, 2, 1, 0].find? fun i => htMcsSet.getD i 0 > 0).map (· + 1)).getD 1 =
      ht.rxStreams := by
    rw [rxStreams, ← find?_reverse_range]
    show (((List.range 4).reverse.find? _).map _).getD 1 = _
    rw [find?_reverse_range, find?_reverse_range]
    apply maxStreams_congr
    intro i hi
    have hmask := h.receives i hi
    rw [Bool.eq_iff_iff, decide_eq_true_iff, Vector.getElem?_eq_getElem hi, Option.getD_some]
    rw [gt_iff_lt, UInt8.lt_iff_toNat_lt, ← hmask, ne_eq, ← UInt8.toNat_inj]
    show 0 < _ ↔ ¬ _ = 0
    omega
  have hfirst : ((htMcsSet.getD 12 0) &&& 1).toNat = (htMcsSet.getD 12 0).toNat % 2 :=
    Nat.and_two_pow_sub_one_eq_mod _ 1
  have hsecond : (((htMcsSet.getD 12 0) >>> 1) &&& 1).toNat =
      (htMcsSet.getD 12 0).toNat / 2 % 2 := by
    rw [UInt8.toNat_and, UInt8.toNat_shiftRight]
    show (htMcsSet.getD 12 0).toNat >>> 1 &&& (2 ^ 1 - 1) = _
    rw [Nat.and_two_pow_sub_one_eq_mod, Nat.shiftRight_eq_div_pow]
  have hcount : (((htMcsSet.getD 12 0) >>> 2) &&& 3).toNat =
      (htMcsSet.getD 12 0).toNat / 4 % 4 := by
    rw [UInt8.toNat_and, UInt8.toNat_shiftRight]
    show (htMcsSet.getD 12 0).toNat >>> 2 &&& (2 ^ 2 - 1) = _
    rw [Nat.and_two_pow_sub_one_eq_mod, Nat.shiftRight_eq_div_pow]
  have hdiffers : ((htMcsSet.getD 12 0) &&& 1 ≠ 0 ∧ ((htMcsSet.getD 12 0) >>> 1) &&& 1 ≠ 0) ↔
      ht.transmits.isSome = true := by
    rw [← h.differs, ne_eq, ne_eq, ← UInt8.toNat_inj, ← UInt8.toNat_inj, hfirst, hsecond]
    show ¬ _ = 0 ∧ ¬ _ = 0 ↔ _
    omega
  unfold NetlinkUtils.parseHtMcsSet txStreams
  rw [hreceives]
  simp only [hdiffers, hcount]
  cases htransmits : ht.transmits with
  | none => simp
  | some streams =>
    rw [h.transmits streams htransmits]
    simp

end HtMcs

end Wificond
