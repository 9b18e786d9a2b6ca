import Wificond.AttributeBounds
import Wificond.AttributeBuild

/-!
# Agreement of the walkers

`GetAllAttributes` and the search for one attribute are loops of their own. Where the first
comes to the end of a packet, both go from header to header in the same steps: the search
finds the first element of the list, and the list laid out anew is the area it was read from.
-/
namespace Wificond

open LittleEndian PaddedTlv StepLoop

/-- The payload as the length field gives it. -/
def BaseNL80211Attr.payload (attr : BaseNL80211Attr) : List UInt8 :=
  slice attr.data nlaHdrlen (nlaLen attr.data 0)

/-- What `GetAllAttributes` takes from the header at `ptr` and the bytes behind it. -/
def itemAt (data : List UInt8) (ptr : ℕ) : Item :=
  ⟨nlaType data ptr, slice data (ptr + nlaHdrlen) (ptr + nlaLen data ptr)⟩

/-- From `ptr` to the end of the buffer there are these attributes, one behind the other, and
less than a header. -/
inductive Listed (data : List UInt8) : ℕ → List Item → Prop
  | done {ptr : ℕ} (hend : data.length < ptr + nlaHdrlen) : Listed data ptr []
  | next {ptr : ℕ} {items : List Item} (hlen : nlaHdrlen ≤ nlaLen data ptr)
      (hin : Inside data ptr) (hrest : Listed data (ptr + nlaAlign (nlaLen data ptr)) items) :
      Listed data ptr (itemAt data ptr :: items)

/-- The byte at `off` pads an attribute of the packet. -/
def IsPadding (data : List UInt8) (off : ℕ) : Prop :=
  ∃ ptr, Chain data NL80211Packet.attributeStart ptr ∧ ptr + nlaLen data ptr ≤ off ∧
    off < ptr + nlaAlign (nlaLen data ptr)

/-- The area of the second packet is that of the first, except for what pads its attributes
and up to three bytes at the end. -/
structure ReproducesArea (packet rebuilt : NL80211Packet) : Prop where
  length_le : rebuilt.data.length ≤ packet.data.length
  trailing : packet.data.length ≤ rebuilt.data.length + 3
  bytes : ∀ off, NL80211Packet.attributeStart ≤ off → off < rebuilt.data.length →
    ¬ IsPadding packet.data off → rebuilt.data[off]? = packet.data[off]?

section Item
variable {data : List UInt8} {ptr : ℕ}

theorem length_payload_itemAt (hlen : nlaHdrlen ≤ nlaLen data ptr) (hin : Inside data ptr) :
    nlaHdrlen + (itemAt data ptr).payload.length = nlaLen data ptr := by
  have hle : nlaLen data ptr ≤ nlaAlign (nlaLen data ptr) := le_align4 _
  rw [Inside] at hin
  rw [itemAt, length_slice_of_le (by omega)]
  omega

theorem fits_itemAt (hlen : nlaHdrlen ≤ nlaLen data ptr) (hin : Inside data ptr) :
    (itemAt data ptr).Fits := by
  have hpayload := length_payload_itemAt hlen hin
  have hlt : nlaLen data ptr < 2 ^ 16 := field_lt _ _ _
  rw [← hpayload] at hlt
  exact ⟨field_lt _ _ _, hlt⟩

theorem length_encode_itemAt (hlen : nlaHdrlen ≤ nlaLen data ptr) (hin : Inside data ptr) :
    (itemAt data ptr).encode.length = nlaAlign (nlaLen data ptr) := by
  rw [Item.length_encode, ← align4_four_add, ← length_payload_itemAt hlen hin]

/-- The bytes of a field are those of the buffer. -/
theorem bytesOf_field {w off : ℕ} (h : off + w ≤ data.length) :
    bytesOf w (field data off w) = slice data off (off + w) := by
  have hlength : ((data.drop off).take w).length = w := by simp; omega
  have hbytes := bytesOf_valueOf ((data.drop off).take w)
  rw [hlength] at hbytes
  rw [field, hbytes, slice, Nat.add_sub_cancel_left]

theorem slice_append_slice {start middle stop : ℕ} (h : start ≤ middle) (h' : middle ≤ stop) :
    slice data start middle ++ slice data middle stop = slice data start stop := by
  have hdrop : data.drop middle = (data.drop start).drop (middle - start) := by
    rw [List.drop_drop, Nat.add_sub_cancel' h]
  have hlength : stop - start = (middle - start) + (stop - middle) := by omega
  rw [slice, slice, slice, hdrop, hlength, List.take_add]

/-- Laid out anew, an attribute has its bytes, and zeros behind them. -/
theorem encode_itemAt (hlen : nlaHdrlen ≤ nlaLen data ptr) (hin : Inside data ptr) :
    (itemAt data ptr).encode = slice data ptr (ptr + nlaLen data ptr) ++
      List.replicate (itemAt data ptr).padding 0 := by
  have hpayload := length_payload_itemAt hlen hin
  have hle : nlaLen data ptr ≤ nlaAlign (nlaLen data ptr) := le_align4 _
  rw [Inside] at hin
  simp only [nlaHdrlen] at hlen hpayload
  have hlength : bytesOf 2 (4 + (itemAt data ptr).payload.length) =
      slice data ptr (ptr + 2) := by
    rw [hpayload]
    exact bytesOf_field (by omega)
  have htag : bytesOf 2 (itemAt data ptr).tag = slice data (ptr + 2) (ptr + 4) :=
    bytesOf_field (by omega)
  rw [Item.encode, hlength, htag, ← List.append_assoc, ← List.append_assoc,
    slice_append_slice (by omega) (by omega)]
  congr 1
  exact slice_append_slice (by omega) (by omega)

theorem getElem?_encode_itemAt (hlen : nlaHdrlen ≤ nlaLen data ptr) (hin : Inside data ptr)
    {k : ℕ} (hk : k < nlaLen data ptr) : (itemAt data ptr).encode[k]? = data[ptr + k]? := by
  have hle : nlaLen data ptr ≤ nlaAlign (nlaLen data ptr) := le_align4 _
  have hlength : (slice data ptr (ptr + nlaLen data ptr)).length = nlaLen data ptr := by
    rw [Inside] at hin
    rw [length_slice_of_le (by omega), Nat.add_sub_cancel_left]
  rw [encode_itemAt hlen hin, List.getElem?_append_left (by omega), slice,
    List.getElem?_take_of_lt (by omega), List.getElem?_drop]

theorem payload_encode {i : Item} (h : i.Fits) :
    BaseNL80211Attr.payload ⟨i.encode⟩ = i.payload := by
  rw [BaseNL80211Attr.payload, nlaLen_encode h]
  exact slice_encode i

theorem payload_attributeAt (hlen : nlaHdrlen ≤ nlaLen data ptr) :
    (attributeAt data ptr).payload = (itemAt data ptr).payload := by
  have hzero : nlaLen data ptr ≠ 0 := by
    unfold nlaHdrlen at hlen
    omega
  rw [BaseNL80211Attr.payload, nlaLen_attributeAt hzero, attributeAt,
    slice_slice (le_align4 _)]
  rfl

end Item

section Listed
variable {data : List UInt8} {ptr id n : ℕ} {items : List Item}

theorem Listed.fits (h : Listed data ptr items) : ∀ i ∈ items, i.Fits := by
  induction h with
  | done => simp
  | next hlen hin _ ih => exact List.forall_mem_cons.mpr ⟨fits_itemAt hlen hin, ih⟩

/-- The list covers the buffer but for less than a header. -/
theorem Listed.length_encodeAll (h : Listed data ptr items) :
    (encodeAll items).length ≤ data.length - ptr ∧
      data.length - ptr ≤ (encodeAll items).length + 3 := by
  induction h with
  | done hend =>
    simp only [nlaHdrlen, encodeAll_nil, List.length_nil] at hend ⊢
    omega
  | next hlen hin hrest ih =>
    rw [Inside] at hin
    rw [encodeAll_cons, List.length_append, length_encode_itemAt hlen hin]
    omega

/-- A walk over all attributes that comes to the end has made such a list. -/
theorem listed_of_run {found attributes : List BaseNL80211Attr}
    (h : run (NL80211Packet.getAllStep data) n (ptr, found) = some (.ok (true, attributes))) :
    ∃ items, Listed data ptr items ∧ attributes = found ++ items.map fun i => ⟨i.encode⟩ := by
  induction n generalizing ptr found with
  | zero => simp [run] at h
  | succ n ih =>
    by_cases hhead : ptr + nlaHdrlen ≤ data.length
    · by_cases hbad : ptr + nlaAlign (nlaLen data ptr) > data.length ∨ nlaLen data ptr = 0
      · simp [run, NL80211Packet.getAllStep, hhead, hbad] at h
      · by_cases hshort : nlaLen data ptr < nlaHdrlen
        · simp [run, NL80211Packet.getAllStep, hhead, hbad, hshort] at h
        · have hstep : NL80211Packet.getAllStep data (ptr, found) =
              .inl (ptr + nlaAlign (nlaLen data ptr),
                found ++ [BaseNL80211Attr.ofPayload (itemAt data ptr).tag
                  (itemAt data ptr).payload]) := by
            simp only [NL80211Packet.getAllStep, if_pos hhead, if_neg hbad, if_neg hshort]
            rfl
          rw [run_succ_continue hstep] at h
          obtain ⟨items, hlisted, rfl⟩ := ih h
          refine ⟨itemAt data ptr :: items, .next (not_lt.mp hshort)
            (not_lt.mp (not_or.mp hbad).1) hlisted, ?_⟩
          rw [ofPayload_eq_encode]
          simp
    · have hleave : NL80211Packet.getAllStep data (ptr, found) = .inr (.ok (true, found)) :=
        if_neg hhead
      rw [run_succ_leave hleave] at h
      obtain rfl : found = attributes := by simpa using h
      exact ⟨[], .done (not_le.mp hhead), by simp⟩

/-- The search steps over the same attributes, and takes the first with the id. -/
theorem Listed.run_getAttributeStep (h : Listed data ptr items) (id : ℕ) (hn : items.length < n) :
    (items.find? (·.tag = id) = none → run (getAttributeStep data id) n ptr = some (.ok none)) ∧
    ∀ i, items.find? (·.tag = id) = some i → ∃ first, i = itemAt data first ∧
      nlaHdrlen ≤ nlaLen data first ∧ Inside data first ∧
      run (getAttributeStep data id) n ptr =
        some (.ok (some (first, first + nlaAlign (nlaLen data first)))) := by
  induction h generalizing n with
  | @done ptr hend =>
    obtain ⟨n, rfl⟩ : ∃ k, n = k + 1 := ⟨n - 1, by omega⟩
    have hleave : getAttributeStep data id ptr = .inr (.ok none) := if_neg (not_le.mpr hend)
    exact ⟨fun _ => run_succ_leave hleave n, by simp⟩
  | @next ptr items hlen hin hrest ih =>
    obtain ⟨n, rfl⟩ : ∃ k, n = k + 1 := ⟨n - 1, by omega⟩
    have hfour : 4 ≤ nlaAlign (nlaLen data ptr) := le_trans hlen (le_align4 _)
    have hroom : ptr + nlaAlign (nlaLen data ptr) ≤ data.length := hin
    have hhead : ptr + nlaHdrlen ≤ data.length := by
      unfold nlaHdrlen
      omega
    by_cases htype : nlaType data ptr = id
    · have hleave : getAttributeStep data id ptr =
          .inr (.ok (some (ptr, ptr + nlaAlign (nlaLen data ptr)))) :=
        getAttributeStep_eq_some_iff.mpr ⟨hhead, htype, hin, rfl, rfl⟩
      have hfind : (itemAt data ptr :: items).find? (·.tag = id) = some (itemAt data ptr) := by
        simp [itemAt, htype]
      rw [hfind, run_succ_leave hleave]
      refine ⟨by simp, fun i hi => ⟨ptr, (Option.some.inj hi).symm, hlen, hin, rfl⟩⟩
    · have hstep : getAttributeStep data id ptr = .inl (ptr + nlaAlign (nlaLen data ptr)) := by
        simp only [getAttributeStep, if_pos hhead, if_neg htype]
      have hfind : (itemAt data ptr :: items).find? (·.tag = id) = items.find? (·.tag = id) := by
        simp [itemAt, htype]
      rw [hfind, run_succ_continue hstep]
      exact ih (by simpa using hn)

/-- Outside of padding the list, laid out anew, has the bytes of the buffer. -/
theorem Listed.getElem?_encodeAll (h : Listed data ptr items)
    (hchain : ptr + nlaHdrlen ≤ data.length → Chain data NL80211Packet.attributeStart ptr) {k : ℕ}
    (hk : k < (encodeAll items).length) (hpad : ¬ IsPadding data (ptr + k)) :
    (encodeAll items)[k]? = data[ptr + k]? := by
  induction h generalizing k with
  | done => simp at hk
  | @next ptr items hlen hin hrest ih =>
    have hencode := length_encode_itemAt hlen hin
    have hfour : 4 ≤ nlaAlign (nlaLen data ptr) := le_trans hlen (le_align4 _)
    have hroom : ptr + nlaAlign (nlaLen data ptr) ≤ data.length := hin
    have hat : Chain data NL80211Packet.attributeStart ptr := by
      apply hchain
      unfold nlaHdrlen
      omega
    rw [encodeAll_cons] at hk ⊢
    rw [List.length_append] at hk
    by_cases hown : k < nlaAlign (nlaLen data ptr)
    · have hbyte : k < nlaLen data ptr := by
        by_contra hbehind
        exact hpad ⟨ptr, hat, by omega, by omega⟩
      rw [List.getElem?_append_left (by omega), getElem?_encode_itemAt hlen hin hbyte]
    · have hoff :
          ptr + nlaAlign (nlaLen data ptr) + (k - nlaAlign (nlaLen data ptr)) = ptr + k := by
        omega
      have hrest := ih (k := k - nlaAlign (nlaLen data ptr)) (fun hnext => .behind hat hnext)
        (by omega) (by rwa [hoff])
      rw [List.getElem?_append_right (by omega), hencode, hrest, hoff]

end Listed

section Packet
variable {packet : NL80211Packet} {attributes : List BaseNL80211Attr} {items : List Item}

theorem listed_of_getAllAttributes (h : packet.getAllAttributes = .ok (true, attributes)) :
    ∃ items, Listed packet.data NL80211Packet.attributeStart items ∧
      attributes = items.map fun i => ⟨i.encode⟩ := by
  rw [NL80211Packet.getAllAttributes, walk] at h
  cases hrun : run (NL80211Packet.getAllStep packet.data) (packet.data.length + 1)
      (NL80211Packet.attributeStart, []) with
  | none => simp [hrun] at h
  | some result =>
    obtain rfl : result = .ok (true, attributes) := by simpa only [hrun] using h
    obtain ⟨items, hlisted, hattributes⟩ := listed_of_run hrun
    exact ⟨items, hlisted, by simpa using hattributes⟩

/-- The list behind a fresh header. -/
theorem Listed.reproducesArea
    (h : Listed packet.data NL80211Packet.attributeStart items)
    (hsize : NL80211Packet.attributeStart ≤ packet.data.length) (type : UInt16) (command : UInt8)
    (sequence pid : UInt32) :
    ReproducesArea packet ((items.map fun i => (⟨i.encode⟩ : BaseNL80211Attr)).foldl
      NL80211Packet.addAttribute (NL80211Packet.ofHeader type command sequence pid)) := by
  rw [List.foldl_map, NL80211Packet.ofHeader_eq_ofArea, NL80211Packet.foldl_addAttribute,
    List.nil_append]
  obtain ⟨hle, htrailing⟩ := h.length_encodeAll
  have hlength := NL80211Packet.length_ofArea type command sequence pid (encodeAll items)
  have hstart : NL80211Packet.attributeStart = 20 := rfl
  refine ⟨by omega, by omega, fun off hoff hend hpad => ?_⟩
  obtain ⟨k, rfl⟩ : ∃ k, off = NL80211Packet.attributeStart + k := ⟨off - 20, by omega⟩
  rw [← h.getElem?_encodeAll (fun hroom => .first hroom) (by omega) hpad,
    NL80211Packet.ofArea, ← List.append_assoc, List.getElem?_append_right]
  · congr 1
    simp only [List.length_append, length_bytesOf, NL80211Packet.length_headerTail]
    omega
  · simp only [List.length_append, length_bytesOf, NL80211Packet.length_headerTail]
    omega

/-- The search of a packet finds the first element of the list. -/
theorem Listed.lookups (h : Listed packet.data NL80211Packet.attributeStart items) (id : ℕ) :
    packet.hasAttribute id = .ok (items.find? (·.tag = id)).isSome ∧
    ∀ i, items.find? (·.tag = id) = some i → ∃ found, packet.getAttribute id = .ok (some found) ∧
      found.payload = i.payload := by
  have hn : items.length < packet.data.length + 1 := by
    have hlength := h.length_encodeAll.1
    have hitems := length_le_encodeAll items
    omega
  obtain ⟨habsent, hpresent⟩ := h.run_getAttributeStep id hn
  refine ⟨?_, fun i hfind => ?_⟩
  · rw [NL80211Packet.hasAttribute, hasAttributeFrom, getAttributeImpl, walk]
    cases hfind : items.find? (·.tag = id) with
    | none =>
      rw [habsent hfind]
      rfl
    | some i =>
      obtain ⟨first, -, -, -, hrun⟩ := hpresent i hfind
      rw [hrun]
      rfl
  · obtain ⟨first, rfl, hlen, hin, hrun⟩ := hpresent i hfind
    have himpl : getAttributeImpl packet.data NL80211Packet.attributeStart id =
        .ok (some (first, first + nlaAlign (nlaLen packet.data first))) := by
      rw [getAttributeImpl, walk, hrun]
    obtain ⟨hfirst, -, -⟩ := getAttributeImpl_eq_some_iff.mp himpl
    have hzero : nlaLen packet.data first ≠ 0 := by
      unfold nlaHdrlen at hlen
      omega
    exact ⟨attributeAt packet.data first, getAttributeFrom_eq_some_iff.mpr
      ⟨first, hfirst, hin, rfl, (isValid_attributeAt hin).mpr hzero⟩, payload_attributeAt hlen⟩

end Packet

/-- Where `GetAllAttributes` comes to the end of a packet, so that every header it met has a
length of at least four, its list added to a fresh packet gives the area again, and for every
id the other walkers find the first element of the list with that id, or nothing. -/
theorem walkers_agree {packet : NL80211Packet} {attributes : List BaseNL80211Attr}
    (hsize : NL80211Packet.attributeStart ≤ packet.data.length)
    (h : packet.getAllAttributes = .ok (true, attributes)) :
    (∀ type command sequence pid, ReproducesArea packet (attributes.foldl
      NL80211Packet.addAttribute (.ofHeader type command sequence pid))) ∧
    ∀ id, (packet.hasAttribute id = .ok true ↔ ∃ attr ∈ attributes, attr.getAttributeId = id) ∧
      (packet.hasAttribute id = .ok false ↔ ∀ attr ∈ attributes, attr.getAttributeId ≠ id) ∧
      ∀ attr, attributes.find? (·.getAttributeId = id) = some attr →
        ∃ found, packet.getAttribute id = .ok (some found) ∧ found.payload = attr.payload := by
  obtain ⟨items, hlisted, rfl⟩ := listed_of_getAllAttributes h
  refine ⟨fun type command sequence pid => hlisted.reproducesArea hsize type command sequence pid,
    fun id => ?_⟩
  have hid : ∀ i ∈ items, BaseNL80211Attr.getAttributeId ⟨i.encode⟩ = i.tag := fun i hi =>
    getAttributeId_encode (hlisted.fits i hi)
  obtain ⟨hhas, hget⟩ := hlisted.lookups id
  have hmem : (∃ attr ∈ items.map fun i => (⟨i.encode⟩ : BaseNL80211Attr),
      attr.getAttributeId = id) ↔ ∃ i ∈ items, i.tag = id := by
    constructor
    · rintro ⟨attr, hattr, hattrId⟩
      obtain ⟨i, hi, rfl⟩ := List.mem_map.mp hattr
      exact ⟨i, hi, (hid i hi).symm.trans hattrId⟩
    · rintro ⟨i, hi, htag⟩
      exact ⟨_, List.mem_map_of_mem hi, (hid i hi).trans htag⟩
  have hsome : (items.find? (·.tag = id)).isSome ↔ ∃ i ∈ items, i.tag = id := by
    simp [List.find?_isSome]
  refine ⟨?_, ?_, fun attr hattr => ?_⟩
  · rw [hmem, ← hsome, hhas, Except.ok.injEq]
  · have hnone : (∀ attr ∈ items.map fun i => (⟨i.encode⟩ : BaseNL80211Attr),
        attr.getAttributeId ≠ id) ↔ ¬ ∃ i ∈ items, i.tag = id := by
      rw [← hmem]
      simp only [not_exists, not_and, ne_eq]
    rw [hnone, ← hsome, hhas, Except.ok.injEq, Bool.not_eq_true]
  · rw [List.find?_map] at hattr
    obtain ⟨i, hfind, rfl⟩ := Option.map_eq_some_iff.mp hattr
    have htag : items.find? (·.tag = id) = some i := by
      rw [← hfind]
      exact List.find?_congr fun k hk => by simp [hid k hk]
    rw [payload_encode (hlisted.fits i (List.mem_of_find?_eq_some htag))]
    exact hget i htag

/-- A padded attribute, an empty one, and two bytes that are less than a header. -/
theorem walkers_agree_unaligned :
    let packet : NL80211Packet := ⟨List.replicate 20 0 ++
      [5, 0, 1, 0, 7, 9, 9, 9, 4, 0, 2, 0, 1, 2]⟩
    let attributes := [BaseNL80211Attr.ofPayload 1 [7], BaseNL80211Attr.ofPayload 2 []]
    ReproducesArea packet (attributes.foldl NL80211Packet.addAttribute (.ofHeader 0 0 0 0)) ∧
      ∃ found, packet.getAttribute 1 = .ok (some found) ∧ found.payload = [7] := by
  intro packet attributes
  have hall : packet.getAllAttributes = .ok (true, attributes) := by decide +kernel
  obtain ⟨hrebuilt, hlookups⟩ := walkers_agree (by decide) hall
  have hpayload : (BaseNL80211Attr.ofPayload 1 [7]).payload = [7] := by decide +kernel
  obtain ⟨found, hfound, hsame⟩ := (hlookups 1).2.2 (BaseNL80211Attr.ofPayload 1 [7]) (by
    decide +kernel)
  exact ⟨hrebuilt 0 0 0 0, found, hfound, hsame.trans hpayload⟩

end Wificond
