import Wificond.TypedReads
import Wificond.WalkerAgreement

/-!
# Lists in the payload of an attribute

A list is an attribute with other attributes in its payload. Its values are those of the
payloads behind the header that the search comes to. Where that header announces more than
the packet has, or less than a header, the packet is taken for one without a list.
-/
namespace Wificond

open LittleEndian PaddedTlv StepLoop

/-- The template takes a value from an attribute exactly by the payload. -/
def ReadsEntry {α : Type} (t : AttrTemplate α) (entry : List UInt8 → α → Prop) : Prop :=
  ∀ data ptr v, Inside data ptr →
    (NL80211NestedAttr.valueElement t (attributeAt data ptr) = .ok (some v) ↔
      nlaHdrlen ≤ nlaLen data ptr ∧ entry (itemAt data ptr).payload v)

/-- An entry whose payload is the value. -/
def bytesEntry (payload value : List UInt8) : Prop := value = payload

/-- An entry whose payload holds an integer of this type. -/
def intEntry (t : IntType) (payload : List UInt8) (value : ℤ) : Prop :=
  payload.length = t.size ∧ value = t.ofBytes payload

namespace NL80211Packet

/-- The two steps for a list: without the attribute the list stays empty. -/
def getList {α : Type} (packet : NL80211Packet) (t : AttrTemplate α) (id : ℕ) :
    Exec (Option (List α)) := do
  match ← packet.getAttribute id with
  | none => return some []
  | some attr => attr.getListOfAttributeValues t

/-- The search for the type comes to a header of it. -/
def HasHeader (packet : NL80211Packet) (id : ℕ) : Prop :=
  ∃ ptr, IsFirst packet.data attributeStart id ptr

/-- The attribute of that header is cut off by the end of the packet, or shorter than a
header. -/
def CutOff (packet : NL80211Packet) (id : ℕ) : Prop :=
  ∃ ptr, IsFirst packet.data attributeStart id ptr ∧
    ¬ (Inside packet.data ptr ∧ nlaHdrlen ≤ nlaLen packet.data ptr)

/-- The values of a list: none where the packet has no header for it, and else those of the
payloads that stand one behind the other in the attribute. -/
inductive HasList {α : Type} (packet : NL80211Packet) (id : ℕ) (entry : List UInt8 → α → Prop) :
    List α → Prop
  | absent (hends : NoZeroLength packet.data id attributeStart) (habsent : ¬ packet.HasHeader id) :
      HasList packet id entry []
  | present {ptr : ℕ} {items : List Item} {values : List α}
      (hfirst : IsFirst packet.data attributeStart id ptr) (hin : Inside packet.data ptr)
      (hlen : nlaHdrlen ≤ nlaLen packet.data ptr)
      (hitems : Listed (attributeAt packet.data ptr).data nlaHdrlen items)
      (hvalues : List.Forall₂ (fun item value => entry item.payload value) items values) :
      HasList packet id entry values

/-- What a list is taken for. -/
def TakesList {α : Type} (packet : NL80211Packet) (id : ℕ) (entry : List UInt8 → α → Prop)
    (values : List α) : Prop :=
  packet.HasList id entry values ∨ packet.CutOff id ∧ values = []

end NL80211Packet

section Entries
variable {data : List UInt8} {ptr : ℕ} {t : IntType}

theorem readsEntry_vector : ReadsEntry AttrTemplate.vector bytesEntry := by
  intro data ptr v hin
  obtain ⟨hempty, hshort, -⟩ := valueElement_attributeAt readsPayload_vector hin
  by_cases hlen : nlaHdrlen ≤ nlaLen data ptr
  · have hzero : nlaLen data ptr ≠ 0 := by
      unfold nlaHdrlen at hlen
      omega
    have hvalid := (isValid_attributeAt hin).mpr hzero
    have hbounds : InBounds (attributeAt data ptr) :=
      (inBounds_attributeAt hin hzero).mpr fun hshort => absurd hshort.2 (not_lt.mpr hlen)
    have hvalue : AttrTemplate.vector.getValue (attributeAt data ptr) =
        .ok (itemAt data ptr).payload := by
      rw [← payload_attributeAt hlen]
      exact if_pos hbounds
    rw [NL80211NestedAttr.valueElement, hvalue]
    simp [AttrTemplate.vector, hvalid, Except.map, hlen, bytesEntry, eq_comm]
  · by_cases hzero : nlaLen data ptr = 0
    · simp [hempty hzero, hlen]
    · simp [hshort ⟨hzero, not_le.mp hlen⟩, hlen]

theorem readsEntry_int : ReadsEntry (AttrTemplate.int t) (intEntry t) := by
  intro data ptr v hin
  have hvalid := int_isValid_attributeAt (t := t) hin
  by_cases hlen : nlaLen data ptr = nlaHdrlen + t.size
  · have hle : nlaHdrlen ≤ nlaLen data ptr := by omega
    have hpayload := length_payload_itemAt hle hin
    have hvalue := int_getValue_attributeAt hin hlen
    rw [NL80211NestedAttr.valueElement, hvalid.mpr hlen, hvalue]
    have hlength : (itemAt data ptr).payload.length = t.size := by omega
    simp only [Bool.not_true, Bool.false_eq_true, if_false, Except.map, Except.ok.injEq,
      Option.some.injEq, hle, true_and, intEntry, hlength]
    exact eq_comm
  · have hinvalid : (AttrTemplate.int t).isValid (attributeAt data ptr) = false := by
      rw [← Bool.not_eq_true, hvalid]
      exact hlen
    rw [NL80211NestedAttr.valueElement, hinvalid]
    refine iff_of_false (by simp) ?_
    rintro ⟨hle, hlength, -⟩
    have hpayload := length_payload_itemAt hle hin
    omega

end Entries

section Lists
variable {α : Type} {t : AttrTemplate α} {entry : List UInt8 → α → Prop} {data : List UInt8}
  {ptr n : ℕ} {items : List Item} {found values : List α}

open NL80211NestedAttr in
/-- A list walk that returns has made its values of the payloads up to the end. -/
theorem listed_of_run_getListStep (ht : ReadsEntry t entry)
    (h : run (getListStep (valueElement t) data) n (ptr, found) = some (.ok (some values))) :
    ∃ items rest, Listed data ptr items ∧
      List.Forall₂ (fun item value => entry item.payload value) items rest ∧
        values = found ++ rest := by
  induction n generalizing ptr found with
  | zero => simp [run] at h
  | succ n ih =>
    by_cases hhead : ptr + nlaHdrlen ≤ data.length
    · by_cases hin : Inside data ptr
      · have hstep : getListStep (valueElement t) data (ptr, found) = _ :=
          getListStep_of_inside hhead hin
        rcases helement : valueElement t (attributeAt data ptr) with fault | ⟨- | v⟩
        · rw [helement] at hstep
          simp [run_succ_leave hstep] at h
        · rw [helement] at hstep
          simp [run_succ_leave hstep] at h
        · obtain ⟨hlen, hentry⟩ := (ht data ptr v hin).mp helement
          rw [helement] at hstep
          rw [run_succ_continue hstep] at h
          obtain ⟨items, rest, hlisted, hrest, rfl⟩ := ih h
          exact ⟨itemAt data ptr :: items, v :: rest, .next hlen hin hlisted, .cons hentry hrest,
            by simp⟩
      · have hout : ptr + nlaAlign (nlaLen data ptr) > data.length := not_le.mp hin
        have hleave : getListStep (valueElement t) data (ptr, found) = .inr (.ok none) := by
          simp [getListStep, hhead, hout]
        simp [run_succ_leave hleave] at h
    · have hleave : getListStep (valueElement t) data (ptr, found) = .inr (.ok (some found)) :=
        if_neg hhead
      rw [run_succ_leave hleave] at h
      obtain rfl : found = values := by simpa using h
      exact ⟨[], [], .done (not_le.mp hhead), .nil, by simp⟩

open NL80211NestedAttr in
theorem Listed.run_getListStep (ht : ReadsEntry t entry) (h : Listed data ptr items)
    (hvalues : List.Forall₂ (fun item value => entry item.payload value) items values)
    (hn : items.length < n) :
    run (getListStep (valueElement t) data) n (ptr, found) =
      some (.ok (some (found ++ values))) := by
  induction h generalizing n found values with
  | @done ptr hend =>
    obtain ⟨n, rfl⟩ : ∃ k, n = k + 1 := ⟨n - 1, by omega⟩
    obtain rfl := List.forall₂_nil_left_iff.mp hvalues
    have hleave : getListStep (valueElement t) data (ptr, found) = .inr (.ok (some found)) :=
      if_neg (not_le.mpr hend)
    rw [run_succ_leave hleave, List.append_nil]
  | @next ptr items hlen hin hrest ih =>
    obtain ⟨n, rfl⟩ : ∃ k, n = k + 1 := ⟨n - 1, by omega⟩
    cases hvalues with
    | @cons item v items values hentry hvalues =>
      have hfour : 4 ≤ nlaAlign (nlaLen data ptr) := le_trans hlen (le_align4 _)
      have hroom : ptr + nlaAlign (nlaLen data ptr) ≤ data.length := hin
      have hhead : ptr + nlaHdrlen ≤ data.length := by
        unfold nlaHdrlen
        omega
      have hstep : getListStep (valueElement t) data (ptr, found) =
          .inl (ptr + nlaAlign (nlaLen data ptr), found ++ [v]) :=
        getListStep_eq_inl_iff.mpr
          ⟨hhead, hin, rfl, v, (ht data ptr v hin).mpr ⟨hlen, hentry⟩, rfl⟩
      rw [run_succ_continue hstep, ih hvalues (by simpa using hn), List.append_assoc,
        List.singleton_append]

/-- A list reads as these values exactly if they are those of the payloads in the attribute. -/
theorem getListOfAttributeValues_eq_some_iff (ht : ReadsEntry t entry)
    {attr : NL80211NestedAttr} :
    attr.getListOfAttributeValues t = .ok (some values) ↔ ∃ items,
      Listed attr.data nlaHdrlen items ∧
        List.Forall₂ (fun item value => entry item.payload value) items values := by
  rw [NL80211NestedAttr.getListOfAttributeValues, walk]
  constructor
  · intro h
    cases hrun : run (getListStep (NL80211NestedAttr.valueElement t) attr.data)
        (attr.data.length + 1) (nlaHdrlen, []) with
    | none => simp [hrun] at h
    | some result =>
      obtain rfl : result = .ok (some values) := by simpa only [hrun] using h
      obtain ⟨items, rest, hlisted, hrest, rfl⟩ := listed_of_run_getListStep ht hrun
      exact ⟨items, hlisted, hrest⟩
  · rintro ⟨items, hlisted, hvalues⟩
    have hlength := hlisted.length_encodeAll.1
    have hitems := length_le_encodeAll items
    rw [hlisted.run_getListStep ht hvalues (by omega), List.nil_append]

end Lists

namespace NL80211Packet

variable {α : Type} {packet : NL80211Packet} {id ptr : ℕ} {t : AttrTemplate α}
  {entry : List UInt8 → α → Prop} {values : List α}

theorem getAttribute_of_isFirst (h : IsFirst packet.data attributeStart id ptr) :
    packet.getAttribute id = .ok (if Inside packet.data ptr ∧ nlaLen packet.data ptr ≠ 0 then
      some (attributeAt packet.data ptr) else none) := by
  rw [getAttribute, getAttributeFrom_eq, getAttributeImpl_of_isFirst h]
  by_cases hin : Inside packet.data ptr
  · have hvalid : (attributeAt packet.data ptr).isValid = decide (nlaLen packet.data ptr ≠ 0) := by
      rw [Bool.eq_iff_iff, isValid_attributeAt hin, decide_eq_true_iff]
    rw [attributeAt] at hvalid ⊢
    rw [if_pos hin, Except.map, Option.bind_some, hvalid]
    simp only [hin, true_and, decide_eq_true_eq]
  · simp [Except.map, hin]

/-- A cut off attribute has no list. -/
theorem HasList.not_cutOff (h : packet.HasList id entry values) : ¬ packet.CutOff id := by
  rintro ⟨ptr, hfirst, hcut⟩
  cases h with
  | absent hends habsent => exact habsent ⟨ptr, hfirst⟩
  | present hfirst' hin hlen hitems hvalues =>
    obtain rfl := hfirst.eq hfirst'
    exact hcut ⟨hin, hlen⟩

/-- The list of an attribute that is found. -/
theorem getList_eq_some_iff_of_found (ht : ReadsEntry t entry)
    (hfirst : IsFirst packet.data attributeStart id ptr) (hin : Inside packet.data ptr)
    (hzero : nlaLen packet.data ptr ≠ 0) :
    packet.getList t id = .ok (some values) ↔ packet.TakesList id entry values := by
  have hget := getAttribute_of_isFirst hfirst
  rw [if_pos ⟨hin, hzero⟩] at hget
  have hlist : packet.getList t id =
      NL80211NestedAttr.getListOfAttributeValues (attributeAt packet.data ptr) t := by
    rw [getList, hget]
    rfl
  rw [hlist, getListOfAttributeValues_eq_some_iff ht]
  by_cases hlen : nlaHdrlen ≤ nlaLen packet.data ptr
  · constructor
    · rintro ⟨items, hlisted, hvalues⟩
      exact .inl (.present hfirst hin hlen hlisted hvalues)
    · rintro (hlist | ⟨⟨ptr', hfirst', hcut⟩, -⟩)
      · cases hlist with
        | absent hends habsent => exact absurd ⟨ptr, hfirst⟩ habsent
        | present hfirst' hin' hlen' hitems hvalues =>
          obtain rfl := hfirst.eq hfirst'
          exact ⟨_, hitems, hvalues⟩
      · obtain rfl := hfirst.eq hfirst'
        exact absurd ⟨hin, hlen⟩ hcut
  · -- the copy is no longer than a header
    have hcut : packet.CutOff id := ⟨ptr, hfirst, fun hwhole => hlen hwhole.2⟩
    have hsize : (attributeAt packet.data ptr).data.length < nlaHdrlen + nlaHdrlen := by
      rw [length_attributeAt hin]
      simp only [nlaAlign, align4, nlaHdrlen] at hlen ⊢
      omega
    constructor
    · rintro ⟨items, hlisted, hvalues⟩
      refine .inr ⟨hcut, ?_⟩
      cases hlisted with
      | done => exact List.forall₂_nil_left_iff.mp hvalues
      | next hitem hinside =>
        have hfour : nlaHdrlen ≤ nlaAlign (nlaLen (attributeAt packet.data ptr).data nlaHdrlen) :=
          le_trans hitem (le_align4 _)
        rw [Inside] at hinside
        omega
    · rintro (hlist | ⟨-, rfl⟩)
      · exact absurd hcut hlist.not_cutOff
      · exact ⟨[], .done hsize, .nil⟩

theorem getList_eq_some_iff_of_nil (h : packet.getList t id = .ok (some []))
    (htakes : packet.TakesList id entry []) (hno : ∀ values : List α,
      packet.HasList id entry values → values = []) :
    packet.getList t id = .ok (some values) ↔ packet.TakesList id entry values := by
  rw [h, Except.ok.injEq, Option.some.injEq]
  constructor
  · rintro rfl
    exact htakes
  · rintro (hlist | ⟨-, rfl⟩)
    · exact (hno values hlist).symm
    · rfl

/-- The code reads what a list is taken for. -/
theorem getList_eq_some_iff (ht : ReadsEntry t entry) :
    packet.getList t id = .ok (some values) ↔ packet.TakesList id entry values := by
  by_cases hheader : packet.HasHeader id
  · obtain ⟨ptr, hfirst⟩ := hheader
    by_cases hfound : Inside packet.data ptr ∧ nlaLen packet.data ptr ≠ 0
    · exact getList_eq_some_iff_of_found ht hfirst hfound.1 hfound.2
    · have hcut : packet.CutOff id := by
        refine ⟨ptr, hfirst, fun hwhole => hfound ⟨hwhole.1, ?_⟩⟩
        have hlen := hwhole.2
        unfold nlaHdrlen at hlen
        omega
      have hget := getAttribute_of_isFirst hfirst
      rw [if_neg hfound] at hget
      refine getList_eq_some_iff_of_nil ?_ (.inr ⟨hcut, rfl⟩) fun _ hlist =>
        absurd hcut hlist.not_cutOff
      rw [getList, hget]
      rfl
  · have hnone : ∀ ptr, ¬ IsFirst packet.data attributeStart id ptr := fun ptr hfirst =>
      hheader ⟨ptr, hfirst⟩
    by_cases hends : NoZeroLength packet.data id attributeStart
    · refine getList_eq_some_iff_of_nil ?_ (.inl (.absent hends hheader)) fun _ hlist => ?_
      · rw [getList, getAttribute, getAttributeFrom_eq, getAttributeImpl_of_noHeader hends hnone]
        rfl
      · cases hlist with
        | absent => rfl
        | present hfirst => exact absurd hfirst (hnone _)
    · have hlist : packet.getList t id = .error .spin := by
        rw [getList, getAttribute, getAttributeFrom_eq,
          (getAttributeImpl_eq_spin_iff packet.data id attributeStart).mpr hends]
        rfl
      rw [hlist]
      refine iff_of_false (by simp) ?_
      rintro (hlist | ⟨⟨ptr, hfirst, -⟩, -⟩)
      · cases hlist with
        | absent hends' => exact hends hends'
        | present hfirst => exact absurd hfirst (hnone _)
      · exact absurd hfirst (hnone ptr)

end NL80211Packet

end Wificond
