import Wificond.RequestLengths

/-!
# Contents of requests

A request holds the trees that were added to it if every reader finds them: the parser that
follows each `nla_len`, the lookups of the packet, and at every depth those of a nested
attribute. Values in the range of their types are held exactly if all lengths fit.
-/
namespace Wificond

open LittleEndian PaddedTlv

namespace AttrTree

mutual

/-- Every leaf has a value that its type can give back. -/
def HoldsDeep : AttrTree → Prop
  | leaf _ k value => k.Holds value
  | flag _ => True
  | nested _ children => AllHold children

def AllHold : List AttrTree → Prop
  | [] => True
  | t :: ts => HoldsDeep t ∧ AllHold ts

end

theorem allHold_iff {ts : List AttrTree} : AllHold ts ↔ ∀ t ∈ ts, t.HoldsDeep := by
  induction ts with
  | nil => simp [AllHold]
  | cons t ts ih => simp [AllHold, ih]

mutual

theorem wellFormed_of_fits (t : AttrTree) (hfits : t.FitsDeep) (hholds : t.HoldsDeep) :
    t.WellFormed := by
  cases t with
  | leaf id k value => exact .leaf hholds hfits
  | flag id => exact .flag hfits
  | nested id children =>
    rw [FitsDeep] at hfits
    rw [HoldsDeep] at hholds
    exact .nested (allWellFormed_of_fits children hfits.2 hholds) hfits.1

theorem allWellFormed_of_fits (ts : List AttrTree) (hfits : AllFit ts) (hholds : AllHold ts) :
    ∀ t ∈ ts, t.WellFormed := by
  cases ts with
  | nil => simp
  | cons t ts =>
    rw [AllFit] at hfits
    rw [AllHold] at hholds
    rw [List.forall_mem_cons]
    exact ⟨wellFormed_of_fits t hfits.1 hholds.1, allWellFormed_of_fits ts hfits.2 hholds.2⟩

end

theorem allHold_append {ts us : List AttrTree} : AllHold (ts ++ us) ↔ AllHold ts ∧ AllHold us := by
  simp only [allHold_iff, List.forall_mem_append]

theorem allHold_ite {t : AttrTree} (c : Prop) [Decidable c] (h : t.HoldsDeep) :
    AllHold (if c then [t] else []) := by
  split_ifs <;> simp [AllHold, h]

theorem holdsDeep_uint32 (id : ℕ) (value : UInt32) :
    (leaf id (.int .uint32) value.toNat).HoldsDeep := by
  have hlt := value.toNat_lt
  show IntType.uint32.InRange (value.toNat : ℤ)
  simp only [IntType.InRange, IntType.signed, IntType.size]
  norm_num
  omega

theorem holdsDeep_int32 (id : ℕ) (value : Int32) :
    (leaf id (.int .int32) value.toInt).HoldsDeep := by
  have hle := value.le_toInt
  have hlt := value.toInt_lt
  show IntType.int32.InRange value.toInt
  simp only [IntType.InRange, IntType.signed, IntType.size]
  norm_num at hle hlt ⊢
  omega

theorem holdsDeep_vector (id : ℕ) (bytes : List UInt8) : (leaf id .vector bytes).HoldsDeep :=
  trivial

theorem holdsDeep_indexedLeaves (id : ℕ) {k : ValueType} {values : List k.Value}
    (h : ∀ value ∈ values, k.Holds value) : (nested id (indexedLeaves k values)).HoldsDeep := by
  rw [HoldsDeep, allHold_iff]
  intro t ht
  obtain ⟨entry, hentry, rfl⟩ := List.mem_map.mp ht
  exact h entry.1 (List.fst_mem_of_mem_zipIdx hentry)

/-- A list of frequencies. -/
theorem holdsDeep_uint32s (id : ℕ) (values : List UInt32) :
    (nested id (indexedLeaves (.int .uint32)
      (values.map fun value => (value.toNat : ℤ)))).HoldsDeep := by
  apply holdsDeep_indexedLeaves
  intro value hvalue
  obtain ⟨freq, -, rfl⟩ := List.mem_map.mp hvalue
  exact holdsDeep_uint32 0 freq

theorem holdsDeep_vectors (id : ℕ) (values : List (List UInt8)) :
    (nested id (indexedLeaves .vector values)).HoldsDeep :=
  holdsDeep_indexedLeaves id fun _ _ => trivial

end AttrTree

/-- The bits of a flag are set. -/
def HasFlag (flags flag : UInt32) : Prop := flags &&& flag ≠ 0

instance (flags flag : UInt32) : Decidable (HasFlag flags flag) :=
  inferInstanceAs (Decidable (_ ≠ _))

/-- Every reader finds these trees. -/
structure NL80211Packet.Holds (packet : NL80211Packet) (roots : List AttrTree) : Prop where
  parses : packet.ParsesAs roots
  finds : AttrTree.FindsFirst packet.hasAttribute packet.getAttribute
    (fun k => packet.getTypedAttribute k.template) (fun k => packet.getAttributeValue k.template)
    roots
  children : ∀ root ∈ roots, ∀ id ts, AttrTree.Within (.nested id ts) root →
    AttrTree.ReadsChildren (AttrTree.nested id ts).attr ts

theorem NL80211Packet.HasArea.holds_iff {packet : NL80211Packet} {roots : List AttrTree}
    (h : packet.HasArea (AttrTree.area roots)) (hholds : AttrTree.AllHold roots) :
    packet.Holds roots ↔ AttrTree.AllFit roots := by
  refine ⟨fun hpacket => h.parsesAs_iff.mp hpacket.parses, fun hfits => ?_⟩
  have hroots := AttrTree.allWellFormed_of_fits roots hfits hholds
  obtain ⟨header, hlen, hdata⟩ := id h
  have hfind := AttrTree.findsFirst_area header hroots
  rw [hlen, ← hdata] at hfind
  exact ⟨h.parsesAs_iff.mpr hfits, hfind, fun root hroot id ts hwithin =>
    AttrTree.readsChildren ((hroots root hroot).within hwithin)⟩

end Wificond
