import Wificond.PaddedTlv

/-!
# Decoding padded records

A reader of records that goes by the length fields alone. It takes apart what the encoder
laid end to end exactly when every length fits its field: a length that wraps is never
read back, whatever stands behind it.
-/
namespace Wificond.PaddedTlv
open LittleEndian

/-- Read records until the bytes are used up, `fuel` of them at most. -/
def decodeFrom : ℕ → List UInt8 → Option (List Item)
  | 0, data => if data = [] then some [] else none
  | fuel + 1, data =>
    let len := field data 0 2
    if data = [] then some []
    else if 4 ≤ len ∧ len ≤ data.length then
      (decodeFrom fuel (data.drop (align4 len))).map (⟨field data 2 2, slice data 4 len⟩ :: ·)
    else none

/-- A record takes at least one byte. -/
def decodeAll (data : List UInt8) : Option (List Item) := decodeFrom data.length data

theorem decodeFrom_nil (fuel : ℕ) : decodeFrom fuel [] = some [] := by
  cases fuel <;> simp [decodeFrom]

theorem decodeFrom_encode {i : Item} (h : i.Fits) (fuel : ℕ) (rest : List UInt8) :
    decodeFrom (fuel + 1) (i.encode ++ rest) = (decodeFrom fuel rest).map (i :: ·) := by
  have hlen : field (i.encode ++ rest) 0 2 = 4 + i.payload.length :=
    Item.field_length h [] rest
  have htag : field (i.encode ++ rest) 2 2 = i.tag := Item.field_tag h [] rest
  have hpayload : slice (i.encode ++ rest) 4 (4 + i.payload.length) = i.payload := by
    simpa using Item.slice_payload i [] rest
  have hsize := i.length_encode
  have hle := le_align4 i.payload.length
  have hne : i.encode ++ rest ≠ [] := by
    intro hnil
    have hzero := congrArg List.length hnil
    simp at hzero
  have hroom : 4 ≤ 4 + i.payload.length ∧ 4 + i.payload.length ≤ (i.encode ++ rest).length := by
    rw [List.length_append]
    omega
  have hdrop : (i.encode ++ rest).drop (align4 (4 + i.payload.length)) = rest := by
    rw [align4_four_add, ← hsize, List.drop_left]
  rw [decodeFrom, hlen, if_neg hne, if_pos hroom, htag, hpayload, hdrop]

theorem decodeFrom_encodeAll {items : List Item} (h : ∀ i ∈ items, i.Fits) {fuel : ℕ}
    (hfuel : items.length ≤ fuel) : decodeFrom fuel (encodeAll items) = some items := by
  induction items generalizing fuel with
  | nil => exact decodeFrom_nil fuel
  | cons i items ih =>
    obtain ⟨fuel, rfl⟩ : ∃ k, fuel = k + 1 := by
      rw [List.length_cons] at hfuel
      exact ⟨fuel - 1, by omega⟩
    rw [encodeAll_cons, decodeFrom_encode (h i (by simp)),
      ih (fun k hk => h k (by simp [hk])) (by simpa using hfuel)]
    rfl

/-- What is read has the length that its field can hold. -/
theorem fits_of_decodeFrom {fuel : ℕ} {data : List UInt8} {items : List Item}
    (h : decodeFrom fuel data = some items) : ∀ i ∈ items, i.Fits := by
  induction fuel generalizing data items with
  | zero =>
    rw [decodeFrom] at h
    split_ifs at h with hnil
    obtain rfl := Option.some.inj h
    simp
  | succ fuel ih =>
    rw [decodeFrom] at h
    split_ifs at h with hnil hroom
    · obtain rfl := Option.some.inj h
      simp
    · obtain ⟨rest, hrest, rfl⟩ := Option.map_eq_some_iff.mp h
      intro i hi
      rcases List.mem_cons.mp hi with rfl | hi
      · have htag := field_lt data 2 2
        have hlen := field_lt data 0 2
        have hslice : (slice data 4 (field data 0 2)).length ≤ field data 0 2 - 4 :=
          List.length_take_le _ _
        refine ⟨htag, ?_⟩
        show 4 + (slice data 4 (field data 0 2)).length < 2 ^ 16
        omega
      · exact ih hrest i hi

/-- The records come back exactly when they all fit. -/
theorem decodeAll_encodeAll_iff (items : List Item) :
    decodeAll (encodeAll items) = some items ↔ ∀ i ∈ items, i.Fits := by
  constructor
  · exact fits_of_decodeFrom
  · intro h
    exact decodeFrom_encodeAll h (length_le_encodeAll items)

end Wificond.PaddedTlv
