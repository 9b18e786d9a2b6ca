import Wificond.AttributeBuild

/-!
# Termination of the attribute walkers

The walkers take their step from `nla_len`. The list walkers and
`GetAllAttributes` leave the loop at a header whose length would not move them
on. `GetAttributeImpl` has no such test: a header of another type with
`nla_len` zero holds it in place.
-/
namespace Wificond

open LittleEndian PaddedTlv StepLoop

/-- A loop that returns from every run that starts in `s`, each pass on the way moving
its position forward. -/
def Terminates {σ ρ : Type} (step : σ → σ ⊕ ρ) (pos : σ → ℕ) (s : σ) : Prop :=
  Advances step pos s ∧ Halts step s

/-- No `IsValid` accepts an empty attribute. -/
theorem ValueType.isValid_nil (k : ValueType) : k.template.isValid ⟨[]⟩ = false := by
  cases k <;> rfl

/-- A header that is complete starts inside the buffer. -/
theorem lt_of_header_le {ptr size : ℕ} (h : ptr + nlaHdrlen ≤ size) : ptr < size := by
  unfold nlaHdrlen at h
  omega

theorem slice_self (data : List UInt8) (ptr : ℕ) : slice data ptr ptr = [] := by
  simp [slice]

/-- A walker over a list goes on only behind an attribute it accepted, and it accepts
no empty one. -/
theorem getListStep_advances {α : Type} {element : BaseNL80211Attr → Exec (Option α)}
    (hempty : element ⟨[]⟩ = .ok none) {data : List UInt8} {s s' : ℕ × List α}
    (h : getListStep element data s = .inl s') : s.1 < data.length ∧ s.1 < s'.1 := by
  obtain ⟨ptr, found⟩ := s
  simp only [getListStep] at h
  split at h
  case isFalse => simp at h
  case isTrue hhead =>
    split at h
    case isTrue => simp at h
    case isFalse hroom =>
      refine ⟨lt_of_header_le hhead, ?_⟩
      rcases Nat.eq_zero_or_pos (nlaAlign (nlaLen data ptr)) with hzero | hpos
      · rw [hzero, Nat.add_zero, slice_self, hempty] at h
        simp at h
      · split at h <;> simp at h
        rw [← h]
        dsimp only
        omega

theorem getListStep_terminates {α : Type} {element : BaseNL80211Attr → Exec (Option α)}
    (hempty : element ⟨[]⟩ = .ok none) (data : List UInt8) (start : ℕ) :
    Terminates (getListStep element data) Prod.fst (start, []) := by
  have hstep (a b) (hab : getListStep element data a = .inl b) := getListStep_advances hempty hab
  have hadv : Advances (getListStep element data) Prod.fst (start, []) :=
    advances_of_forall fun a b hab => (hstep a b hab).2
  exact ⟨hadv, halts_of_advances (fun a b hab => (hstep a b hab).1) hadv⟩

theorem getAllStep_advances {data : List UInt8} {s s' : ℕ × List BaseNL80211Attr}
    (h : NL80211Packet.getAllStep data s = .inl s') : s.1 < data.length ∧ s.1 < s'.1 := by
  obtain ⟨ptr, attributes⟩ := s
  simp only [NL80211Packet.getAllStep] at h
  split at h
  case isFalse => simp at h
  case isTrue hhead =>
    split at h
    case isTrue => simp at h
    case isFalse hbad =>
      split at h
      case isTrue => simp at h
      case isFalse =>
        simp only [Sum.inl.injEq] at h
        have hlen : nlaLen data ptr ≠ 0 := fun hzero => hbad (.inr hzero)
        have hpos : 4 ≤ nlaAlign (nlaLen data ptr) := four_le_align4 hlen
        rw [← h]
        refine ⟨lt_of_header_le hhead, ?_⟩
        dsimp only
        omega

theorem getAllStep_terminates (data : List UInt8) (start : ℕ) :
    Terminates (NL80211Packet.getAllStep data) Prod.fst (start, []) := by
  have hadv : Advances (NL80211Packet.getAllStep data) Prod.fst (start, []) :=
    advances_of_forall fun a b hab => (getAllStep_advances hab).2
  exact ⟨hadv, halts_of_advances (fun a b hab => (getAllStep_advances hab).1) hadv⟩

/-- The headers that a search for `id` meets from `start` on: the first one, and the one
behind each header of another type. -/
inductive MeetsHeader (data : List UInt8) (id start : ℕ) : ℕ → Prop
  | first (h : start + nlaHdrlen ≤ data.length) : MeetsHeader data id start start
  | behind {ptr : ℕ} (h : MeetsHeader data id start ptr) (htype : nlaType data ptr ≠ id)
      (hroom : ptr + nlaAlign (nlaLen data ptr) + nlaHdrlen ≤ data.length) :
      MeetsHeader data id start (ptr + nlaAlign (nlaLen data ptr))

/-- No header of another type that the search meets has length zero. -/
def NoZeroLength (data : List UInt8) (id start : ℕ) : Prop :=
  ∀ ptr, MeetsHeader data id start ptr → nlaType data ptr ≠ id → nlaLen data ptr ≠ 0

section Search
variable {data : List UInt8} {id start ptr ptr' : ℕ}

theorem getAttributeStep_inl :
    getAttributeStep data id ptr = .inl ptr' ↔ ptr + nlaHdrlen ≤ data.length ∧
      nlaType data ptr ≠ id ∧ ptr' = ptr + nlaAlign (nlaLen data ptr) := by
  unfold getAttributeStep
  split_ifs with hhead htype hroom
  · simp [htype]
  · simp [htype]
  · simp only [hhead, ne_eq, htype, not_false_eq_true, true_and, Sum.inl.injEq]
    exact eq_comm
  · simp [hhead]

theorem MeetsHeader.room (h : MeetsHeader data id start ptr) :
    ptr + nlaHdrlen ≤ data.length := by
  cases h <;> assumption

theorem MeetsHeader.visits (h : MeetsHeader data id start ptr) :
    Visits (getAttributeStep data id) start ptr := by
  induction h with
  | first => exact .refl
  | behind h htype _ ih => exact .tail ih (getAttributeStep_inl.mpr ⟨h.room, htype, rfl⟩)

theorem MeetsHeader.of_visits (h : Visits (getAttributeStep data id) start ptr)
    (hroom : ptr + nlaHdrlen ≤ data.length) : MeetsHeader data id start ptr := by
  induction h with
  | refl => exact .first hroom
  | tail _ hstep ih =>
    obtain ⟨hhead, htype, rfl⟩ := getAttributeStep_inl.mp hstep
    exact .behind (ih hhead) htype hroom

theorem MeetsHeader.standstill (h : MeetsHeader data id start ptr) (htype : nlaType data ptr ≠ id)
    (hzero : nlaLen data ptr = 0) : getAttributeStep data id ptr = .inl ptr :=
  getAttributeStep_inl.mpr ⟨h.room, htype, by rw [hzero]; rfl⟩

theorem getAttributeStep_bound (h : getAttributeStep data id ptr = .inl ptr') :
    ptr < data.length := by
  exact lt_of_header_le (getAttributeStep_inl.mp h).1

/-- The search terminates exactly when it meets no header of length zero. -/
theorem getAttributeStep_terminates_iff (data : List UInt8) (id start : ℕ) :
    Terminates (getAttributeStep data id) (fun ptr => ptr) start ↔
      NoZeroLength data id start := by
  constructor
  · intro hterm ptr hmeets htype hzero
    obtain ⟨hadv, _⟩ := hterm
    exact Nat.lt_irrefl _ (hadv ptr ptr hmeets.visits (hmeets.standstill htype hzero))
  · intro hcond
    have hadv : Advances (getAttributeStep data id) (fun ptr => ptr) start := by
      intro a b ha hab
      obtain ⟨hhead, htype, rfl⟩ := getAttributeStep_inl.mp hab
      have hlen := hcond a (.of_visits ha hhead) htype
      have hpos : 4 ≤ nlaAlign (nlaLen data a) := four_le_align4 hlen
      dsimp only
      omega
    exact ⟨hadv, halts_of_advances (fun a b hab => getAttributeStep_bound hab) hadv⟩

/-- The budget of `walk` is spent exactly by the searches that do not terminate. -/
theorem getAttributeImpl_eq_spin_iff (data : List UInt8) (id start : ℕ) :
    getAttributeImpl data start id = .error .spin ↔ ¬ NoZeroLength data id start := by
  rw [getAttributeImpl, walk]
  constructor
  · intro hspin hcond
    have hadv := ((getAttributeStep_terminates_iff data id start).mpr hcond).1
    have hsome := run_isSome_of_advances (fun a b hab => getAttributeStep_bound hab) hadv
    obtain ⟨result, hrun⟩ := Option.isSome_iff_exists.mp hsome
    obtain ⟨ptr, -, hleave⟩ := exists_leave_of_run hrun
    have hok : result ≠ .error .spin := by
      rintro rfl
      unfold getAttributeStep at hleave
      split_ifs at hleave <;> simp at hleave
    exact hok (by simpa only [hrun] using hspin)
  · intro hnot
    obtain ⟨ptr, hmeets, htype, hzero⟩ : ∃ ptr, MeetsHeader data id start ptr ∧
        nlaType data ptr ≠ id ∧ nlaLen data ptr = 0 := by
      simpa [NoZeroLength] using hnot
    have hstandstill := hmeets.standstill htype hzero
    rw [run_eq_none_of_visits_fixed hmeets.visits hstandstill]

end Search

/-- `HasAttribute`, `GetAttribute` and `GetAllAttributes` on a packet terminate. -/
def NL80211Packet.LookupsTerminate (packet : NL80211Packet) (id : ℕ) : Prop :=
  Terminates (getAttributeStep packet.data id) (fun ptr => ptr) attributeStart ∧
    Terminates (getAllStep packet.data) Prod.fst (attributeStart, [])

/-- `HasAttribute`, `GetAttribute` and the three list readers on a nested attribute
terminate. -/
def NL80211NestedAttr.LookupsTerminate (nested : NL80211NestedAttr) (id : ℕ) : Prop :=
  Terminates (getAttributeStep nested.data id) (fun ptr => ptr) nlaHdrlen ∧
    (∀ k : ValueType, Terminates (getListStep (valueElement k.template) nested.data) Prod.fst
      (nlaHdrlen, [])) ∧
    (∀ k : ValueType, Terminates (getListStep (attributeElement k.template.isValid) nested.data)
      Prod.fst (nlaHdrlen, [])) ∧
    Terminates (getListStep (attributeElement BaseNL80211Attr.isValid) nested.data) Prod.fst
      (nlaHdrlen, [])

/-- On every buffer the lookups terminate exactly when the search for `id` meets no
header of another type with `nla_len` zero. -/
theorem lookups_terminate_iff (data : List UInt8) (id : ℕ) :
    (NL80211Packet.LookupsTerminate ⟨data⟩ id ↔
      NoZeroLength data id NL80211Packet.attributeStart) ∧
    (NL80211NestedAttr.LookupsTerminate ⟨data⟩ id ↔ NoZeroLength data id nlaHdrlen) := by
  refine ⟨⟨fun h => ?_, fun h => ⟨?_, getAllStep_terminates _ _⟩⟩,
    ⟨fun h => ?_, fun h => ⟨?_, fun k => ?_, fun k => ?_, ?_⟩⟩⟩
  · exact (getAttributeStep_terminates_iff _ _ _).mp h.1
  · exact (getAttributeStep_terminates_iff _ _ _).mpr h
  · exact (getAttributeStep_terminates_iff _ _ _).mp h.1
  · exact (getAttributeStep_terminates_iff _ _ _).mpr h
  · apply getListStep_terminates
    rw [NL80211NestedAttr.valueElement, k.isValid_nil]
    rfl
  · apply getListStep_terminates
    rw [NL80211NestedAttr.attributeElement, k.isValid_nil]
    rfl
  · exact getListStep_terminates rfl _ _

/-- A valid message whose only attribute header is four zero bytes behind an attribute of
another kind. The search for a third id never leaves it. -/
theorem hasAttribute_spins :
    let packet : NL80211Packet := ⟨[28, 0, 0, 0, 19, 0, 0, 0, 0, 0, 0, 0, 0, 0, 0, 0, 7, 1, 0, 0,
      4, 0, 8, 0, 0, 0, 0, 0]⟩
    packet.isValid = true ∧ packet.hasAttribute 3 = .error .spin ∧
      ¬ packet.LookupsTerminate 3 := by
  intro packet
  refine ⟨by decide, by decide, fun h => ?_⟩
  have hfirst : getAttributeStep packet.data 3 20 = .inl 24 := by decide
  have hstuck : getAttributeStep packet.data 3 24 = .inl 24 := by decide
  exact not_halts_of_fixed hstuck ((halts_continue hfirst).mp h.1.2)

end Wificond
