import Wificond.Attribute

/-!
# The SSID among information elements

Information elements are records of one byte of id, one of length, and the value.
`GetSSIDFromInfoElement` walks over them, and what it finds is the value of the first
element with the id of an SSID, whatever follows.
-/
namespace Wificond

open LittleEndian StepLoop

structure InfoElement where
  id : UInt8
  value : List UInt8
  fits : value.length < 256

def InfoElement.encode (element : InfoElement) : List UInt8 :=
  element.id :: UInt8.ofNat element.value.length :: element.value

namespace ScanUtils

/-- `kElemIdSsid` -/
abbrev elemIdSsid : UInt8 := 0

/-- One pass of `GetSSIDFromInfoElement`. -/
def ssidStep (ie : List UInt8) (ptr : ℕ) : ℕ ⊕ Exec (Option (List UInt8)) :=
  if ptr + 1 < ie.length then
    let type := ie.getD ptr 0
    let length := (ie.getD (ptr + 1) 0).toNat
    if ie.length ≤ ptr + 1 + length then .inr (.ok none)
    else if type = elemIdSsid then
      .inr (.ok (some (if length = 0 then [] else slice ie (ptr + 2) (ptr + length + 2))))
    else .inl (ptr + 2 + length)
  else .inr (.ok none)

def getSSIDFromInfoElement (ie : List UInt8) : Exec (Option (List UInt8)) :=
  walk (ssidStep ie) ie.length 0

/-- The first SSID element of the bytes, behind whole elements of other ids. -/
def HasSsid (ie ssid : List UInt8) : Prop :=
  ∃ (others : List InfoElement) (element : InfoElement) (rest : List UInt8),
    (∀ other ∈ others, other.id ≠ elemIdSsid) ∧ element.id = elemIdSsid ∧
    element.value = ssid ∧ ie = others.flatMap InfoElement.encode ++ element.encode ++ rest

variable {ie tail rest ssid : List UInt8} {id length : UInt8} {element : InfoElement}

theorem encode_append_eq_iff : id :: length :: tail = element.encode ++ rest ↔
    element.id = id ∧ element.value.length = length.toNat ∧ tail = element.value ++ rest := by
  have hfits := element.fits
  have hlength : UInt8.ofNat element.value.length = length ↔
      element.value.length = length.toNat := by
    rw [← UInt8.toNat_inj, UInt8.toNat_ofNat_of_lt' hfits]
  simp only [InfoElement.encode, List.cons_append, List.cons.injEq, eq_comm (a := id),
    eq_comm (a := length), hlength]

theorem hasSsid_cons_iff : HasSsid (id :: length :: tail) ssid ↔ length.toNat ≤ tail.length ∧
    (id = elemIdSsid ∧ tail.take length.toNat = ssid ∨
      id ≠ elemIdSsid ∧ HasSsid (tail.drop length.toNat) ssid) := by
  constructor
  · intro h
    obtain ⟨others, element, rest, hothers, hid, hvalue, heq⟩ := h
    cases others with
    | nil =>
      obtain ⟨rfl, hlength, rfl⟩ := encode_append_eq_iff.mp heq
      refine ⟨by simp [← hlength], .inl ⟨hid, ?_⟩⟩
      rw [← hlength, List.take_left' rfl, hvalue]
    | cons other others =>
      rw [List.flatMap_cons, List.append_assoc, List.append_assoc] at heq
      obtain ⟨rfl, hlength, rfl⟩ := encode_append_eq_iff.mp heq
      refine ⟨by simp [← hlength], .inr ⟨hothers other (by simp), ?_⟩⟩
      rw [← hlength, List.drop_left' rfl, ← List.append_assoc]
      exact ⟨others, element, rest, fun o ho => hothers o (by simp [ho]), hid, hvalue, rfl⟩
  · intro h
    obtain ⟨hroom, hcases⟩ := h
    have hlength : (tail.take length.toNat).length = length.toNat := List.length_take_of_le hroom
    have hfits : (tail.take length.toNat).length < 256 := by
      have hbyte := length.toNat_lt
      omega
    have hfront : id :: length :: tail =
        (InfoElement.mk id (tail.take length.toNat) hfits).encode ++ tail.drop length.toNat :=
      encode_append_eq_iff.mpr ⟨rfl, hlength, (List.take_append_drop _ _).symm⟩
    rcases hcases with ⟨hid, hvalue⟩ | ⟨hid, others, element, rest, hothers, hown, hvalue, heq⟩
    · exact ⟨[], ⟨id, _, hfits⟩, _, by simp, hid, hvalue, hfront⟩
    · refine ⟨⟨id, _, hfits⟩ :: others, element, rest, fun o ho => ?_, hown, hvalue, ?_⟩
      · rcases List.mem_cons.mp ho with rfl | ho
        · exact hid
        · exact hothers o ho
      · rw [hfront, heq, List.flatMap_cons, List.append_assoc, List.append_assoc,
          List.append_assoc]

theorem not_hasSsid_of_short (h : ie.length < 2) : ¬ HasSsid ie ssid := by
  intro hssid
  obtain ⟨others, element, rest, -, -, -, rfl⟩ := hssid
  simp only [List.length_append, InfoElement.encode, List.length_cons] at h
  omega

theorem ssidStep_of_short {ptr : ℕ} (h : (ie.drop ptr).length < 2) :
    ssidStep ie ptr = .inr (.ok none) := by
  rw [List.length_drop] at h
  rw [ssidStep, if_neg (by omega)]

/-- The pass in terms of what is left of the bytes. -/
theorem ssidStep_of_drop {ptr : ℕ} (h : ie.drop ptr = id :: length :: tail) :
    ssidStep ie ptr = if tail.length < length.toNat then .inr (.ok none)
      else if id = elemIdSsid then .inr (.ok (some (tail.take length.toNat)))
      else .inl (ptr + 2 + length.toNat) := by
  have hlen := congrArg List.length h
  simp only [List.length_drop, List.length_cons] at hlen
  have hfirst : ie[ptr + 0]? = some id := by
    rw [← List.getElem?_drop, h]
    rfl
  have hsecond : ie[ptr + 1]? = some length := by
    rw [← List.getElem?_drop, h]
    rfl
  have hid : ie.getD ptr 0 = id := by
    rw [List.getD_eq_getElem?_getD]
    exact congrArg (fun byte? => byte?.getD 0) hfirst
  have hlength : ie.getD (ptr + 1) 0 = length := by
    rw [List.getD_eq_getElem?_getD, hsecond]
    rfl
  have htail : ie.drop (ptr + 2) = tail := by
    rw [← List.drop_drop, h]
    rfl
  have hvalue : slice ie (ptr + 2) (ptr + length.toNat + 2) = tail.take length.toNat := by
    rw [slice, htail]
    congr 1
    omega
  have hcond : ie.length ≤ ptr + 1 + length.toNat ↔ tail.length < length.toNat := by omega
  rw [ssidStep, if_pos (by omega)]
  simp only [hid, hlength, hcond, hvalue]
  have hempty : (if length.toNat = 0 then [] else tail.take length.toNat) =
      tail.take length.toNat := by
    split_ifs with hzero
    · rw [hzero, List.take_zero]
    · rfl
  rw [hempty]

/-- By induction on the budget, which exceeds the bytes that are left. -/
theorem run_ssidStep (n ptr : ℕ) (hn : (ie.drop ptr).length < n) :
    ∃ result, run (ssidStep ie) n ptr = some (.ok result) ∧
      ∀ ssid, result = some ssid ↔ HasSsid (ie.drop ptr) ssid := by
  induction n generalizing ptr with
  | zero => omega
  | succ n ih =>
    by_cases hshort : (ie.drop ptr).length < 2
    · refine ⟨none, run_succ_leave (ssidStep_of_short hshort) n, fun ssid => ?_⟩
      simp [not_hasSsid_of_short hshort]
    obtain ⟨id, length, tail, hdrop⟩ : ∃ id length tail, ie.drop ptr = id :: length :: tail := by
      rcases hbytes : ie.drop ptr with _ | ⟨id, _ | ⟨length, tail⟩⟩
      · simp [hbytes] at hshort
      · simp [hbytes] at hshort
      · exact ⟨id, length, tail, rfl⟩
    have hstep := ssidStep_of_drop hdrop
    rw [hdrop]
    simp only [hasSsid_cons_iff]
    by_cases hroom : tail.length < length.toNat
    · rw [if_pos hroom] at hstep
      refine ⟨none, run_succ_leave hstep n, fun ssid => ?_⟩
      simp [Nat.not_le.mpr hroom]
    rw [if_neg hroom] at hstep
    by_cases hid : id = elemIdSsid
    · rw [if_pos hid] at hstep
      refine ⟨_, run_succ_leave hstep n, fun ssid => ?_⟩
      simp [hid, Nat.not_lt.mp hroom]
    · rw [if_neg hid] at hstep
      have hnext : ie.drop (ptr + 2 + length.toNat) = tail.drop length.toNat := by
        rw [← List.drop_drop, ← List.drop_drop, hdrop]
        rfl
      have hless : (ie.drop (ptr + 2 + length.toNat)).length < n := by
        rw [hdrop] at hn
        rw [hnext, List.length_drop]
        simp only [List.length_cons] at hn
        omega
      obtain ⟨result, hrun, hiff⟩ := ih _ hless
      refine ⟨result, (run_succ_continue hstep n).trans hrun, fun ssid => ?_⟩
      rw [hiff, hnext]
      simp [hid, Nat.not_lt.mp hroom]

/-- The walk ends on all bytes, and returns the SSID that is there. -/
theorem getSSIDFromInfoElement_spec (ie : List UInt8) :
    ∃ result, getSSIDFromInfoElement ie = .ok result ∧
      ∀ ssid, result = some ssid ↔ HasSsid ie ssid := by
  obtain ⟨result, hrun, hiff⟩ := @run_ssidStep ie (ie.length + 1) 0 (by simp)
  refine ⟨result, ?_, hiff⟩
  rw [getSSIDFromInfoElement, walk, hrun]

/-- `*ptr` -/
def readByte (data : List UInt8) (ptr : ℕ) : Exec UInt8 :=
  match data[ptr]? with
  | some byte => .ok byte
  | none => .error .outOfRange

/-- `vector<uint8_t>(start, stop)` -/
def readRange (data : List UInt8) (start stop : ℕ) : Exec (List UInt8) :=
  if start ≤ stop ∧ stop ≤ data.length then .ok (slice data start stop) else .error .outOfRange

/-- The pass with every read checked, and with the caller's vector: go on at a pointer, or
return a result and what the vector holds then. -/
def readSsidStep (ie ssid : List UInt8) (ptr : ℕ) : Exec (ℕ ⊕ (Bool × List UInt8)) := do
  if ptr + 1 < ie.length then
    let type ← readByte ie ptr
    let length ← readByte ie (ptr + 1)
    if ptr + 1 + length.toNat ≥ ie.length then return .inr (false, ssid)
    if type = elemIdSsid then
      if length = 0 then return .inr (true, [])
      let value ← readRange ie (ptr + 2) (ptr + length.toNat + 2)
      return .inr (true, value)
    return .inl (ptr + 2 + length.toNat)
  return .inr (false, ssid)

/-- A loop leaves where a read is out of its range. -/
def leaveOnFault {σ α : Type} : Exec (σ ⊕ α) → σ ⊕ Exec α
  | .ok (.inl s) => .inl s
  | .ok (.inr a) => .inr (.ok a)
  | .error fault => .inr (.error fault)

/-- `GetSSIDFromInfoElement` with every read checked. What `*ssid` holds before is `ssid`. -/
def readSSIDFromInfoElement (ie ssid : List UInt8) : Exec (Bool × List UInt8) :=
  walk (fun ptr => leaveOnFault (readSsidStep ie ssid ptr)) ie.length 0

theorem readByte_of_lt {ptr : ℕ} (h : ptr < ie.length) : readByte ie ptr = .ok (ie.getD ptr 0) := by
  rw [readByte, List.getD_eq_getElem?_getD, List.getElem?_eq_getElem h, Option.getD_some]

/-- No read of a pass is out of its range. -/
theorem leaveOnFault_readSsidStep (ie ssid : List UInt8) (ptr : ℕ) :
    leaveOnFault (readSsidStep ie ssid ptr) =
    (ssidStep ie ptr).map (fun next => next)
      (Except.map fun found => (found.isSome, found.getD ssid)) := by
  unfold readSsidStep ssidStep
  by_cases hroom : ptr + 1 < ie.length
  · have hlength : (ie.getD (ptr + 1) 0).toNat = 0 ↔ ie.getD (ptr + 1) 0 = 0 := by
      rw [← UInt8.toNat_inj, UInt8.toNat_zero]
    rw [if_pos hroom, if_pos hroom, readByte_of_lt (by omega), readByte_of_lt hroom]
    simp only [bind, Except.bind, pure, Except.pure, ge_iff_le, hlength]
    by_cases hfits : ie.length ≤ ptr + 1 + (ie.getD (ptr + 1) 0).toNat
    · rw [if_pos hfits, if_pos hfits]
      rfl
    by_cases hid : ie.getD ptr 0 = elemIdSsid
    · by_cases hzero : ie.getD (ptr + 1) 0 = 0
      · rw [if_neg hfits, if_neg hfits, if_pos hid, if_pos hid, if_pos hzero, if_pos hzero]
        rfl
      · have hrange : readRange ie (ptr + 2) (ptr + (ie.getD (ptr + 1) 0).toNat + 2) =
            .ok (slice ie (ptr + 2) (ptr + (ie.getD (ptr + 1) 0).toNat + 2)) :=
          if_pos (by omega)
        rw [if_neg hfits, if_neg hfits, if_pos hid, if_pos hid, if_neg hzero, if_neg hzero, hrange]
        rfl
    · rw [if_neg hfits, if_neg hfits, if_neg hid, if_neg hid]
      rfl
  · rw [if_neg hroom, if_neg hroom]
    rfl

theorem readSSIDFromInfoElement_eq (ie ssid : List UInt8) : readSSIDFromInfoElement ie ssid =
    (getSSIDFromInfoElement ie).map fun found => (found.isSome, found.getD ssid) := by
  rw [readSSIDFromInfoElement, getSSIDFromInfoElement, walk, walk,
    run_map _ (leaveOnFault_readSsidStep ie ssid)]
  cases run (ssidStep ie) (ie.length + 1) 0 with
  | none => rfl
  | some result => rfl

/-- The walk ends without a read outside of the bytes: with the SSID of the first element
that has its id, where whole elements lead to it, and else with the vector as it was. -/
theorem readSSIDFromInfoElement_exact (ie before : List UInt8) :
    ∃ result, readSSIDFromInfoElement ie before = .ok result ∧
      (∀ ssid, result = (true, ssid) ↔ HasSsid ie ssid) ∧
      (result = (false, before) ↔ ∀ ssid, ¬ HasSsid ie ssid) := by
  obtain ⟨found, hfound, hiff⟩ := getSSIDFromInfoElement_spec ie
  refine ⟨(found.isSome, found.getD before), ?_, ?_⟩
  · rw [readSSIDFromInfoElement_eq, hfound]
    rfl
  cases found with
  | none =>
    have hnone : ∀ ssid, ¬ HasSsid ie ssid := by
      intro ssid hssid
      simpa using (hiff ssid).mpr hssid
    simp [hnone]
  | some value =>
    have hvalue := (hiff value).mp rfl
    constructor
    · intro ssid
      rw [← hiff]
      simp
    · constructor
      · intro h
        simp at h
      · intro hnone
        exact absurd hvalue (hnone value)

-- the last byte of the element is the last one of the vector, or missing
example : readSSIDFromInfoElement [1, 0, 0, 1, 65] [7] = .ok (true, [65]) ∧
    readSSIDFromInfoElement [1, 0, 0, 2, 65] [7] = .ok (false, [7]) := by decide

end ScanUtils

end Wificond
