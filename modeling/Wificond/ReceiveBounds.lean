import Wificond.ReceiveLoop

/-!
# Which bytes are handed over

The loop copies as many bytes as a header claims and only then calls `IsValid`,
which compares the claim with the copy. Nothing compares it with the datagram,
nor with the array that the copy is taken from.
-/
namespace Wificond

open LittleEndian StepLoop

variable {H S : Type}

/-- The messages that come up one behind the other, each at its offset and with the state
that the handlers before it left. -/
inductive ComesTo (env : Handlers H S) (len : ℕ) (s₀ : NetlinkState H S) :
    ℕ → NetlinkState H S → Prop
  | start : ComesTo env len s₀ 0 s₀
  | broadcast {ptr : ℕ} {s t : NetlinkState H S} (h : ComesTo env len s₀ ptr s)
      (hadmitted : Admitted s.receiveBuffer len ptr)
      (hsequence : messageSequence s.receiveBuffer ptr = broadcastSequenceNumber)
      (hreturns : env.broadcast (packetAt s.receiveBuffer ptr) s = .ok t) :
      ComesTo env len s₀ (ptr + messageLen s.receiveBuffer ptr) t
  | handle {ptr : ℕ} {s t : NetlinkState H S} {handler : H} (h : ComesTo env len s₀ ptr s)
      (hadmitted : Admitted s.receiveBuffer len ptr)
      (hsequence : messageSequence s.receiveBuffer ptr ≠ broadcastSequenceNumber)
      (hhandler : s.messageHandlers[messageSequence s.receiveBuffer ptr]? = some handler)
      (htype : ¬ IsControl (messageType s.receiveBuffer ptr))
      (hreturns : afterHandler env (messageSequence s.receiveBuffer ptr) handler
        (packetAt s.receiveBuffer ptr) s = .ok t) :
      ComesTo env len s₀ (ptr + messageLen s.receiveBuffer ptr) t

/-- The header asks for a handler: a broadcast, or a message other than a control message
with a registered sequence number. -/
def Wanted (s : NetlinkState H S) (ptr : ℕ) : Prop :=
  Accepted s.receiveBuffer ptr ∧
    (messageSequence s.receiveBuffer ptr = broadcastSequenceNumber ∨
      messageSequence s.receiveBuffer ptr ∈ s.messageHandlers ∧
        ¬ IsControl (messageType s.receiveBuffer ptr))

/-- A message that claims more bytes than remain of the datagram claims none behind the end
of the array, and does not ask for a handler. -/
def OverlongHarmless (env : Handlers H S) (len : ℕ) (s₀ : NetlinkState H S) : Prop :=
  ∀ ptr s, ComesTo env len s₀ ptr s → ptr + nlmsgHdrlen ≤ len →
    len < ptr + messageLen s.receiveBuffer ptr →
      ptr + messageLen s.receiveBuffer ptr ≤ receiveBufferSize ∧ ¬ Wanted s ptr

section Pass
variable {env : Handlers H S} {len ptr ptr' : ℕ} {s s' : NetlinkState H S}
  {packet : NL80211Packet}

/-- The packets that are handed over. -/
theorem fate_packet?_eq_some : (fate len ptr s).packet? = some packet ↔
    ptr + nlmsgHdrlen ≤ len ∧ ptr + messageLen s.receiveBuffer ptr ≤ receiveBufferSize ∧
      Wanted s ptr ∧ packet = packetAt s.receiveBuffer ptr := by
  by_cases hadmitted : Admitted s.receiveBuffer len ptr
  · obtain ⟨hroom, hinside, haccepted⟩ := hadmitted
    simp only [fate_of_admitted ⟨hroom, hinside, haccepted⟩, Wanted, hroom, hinside, haccepted,
      true_and]
    by_cases hzero : messageSequence s.receiveBuffer ptr = broadcastSequenceNumber
    · simp [hzero, Fate.packet?, eq_comm]
    · cases hget : s.messageHandlers[messageSequence s.receiveBuffer ptr]? with
      | none => simp [hzero, Fate.packet?, Std.ExtTreeMap.mem_iff_isSome_getElem?, hget]
      | some handler =>
        by_cases htype : IsControl (messageType s.receiveBuffer ptr) <;>
          simp [hzero, htype, Fate.packet?, Std.ExtTreeMap.mem_iff_isSome_getElem?, hget, eq_comm]
  · refine iff_of_false ?_ fun h => hadmitted ⟨h.1, h.2.1, h.2.2.1.1⟩
    by_cases hout : fate len ptr s = .outOfRange
    · simp [hout, Fate.packet?]
    · simp [fate_of_not_admitted hadmitted hout, Fate.packet?]

theorem goOn_eq_inl {result : Exec (NetlinkState H S)} :
    goOn ptr result = .inl (ptr', s') ↔ ptr' = ptr ∧ result = .ok s' := by
  cases result with
  | error fault => simp [goOn]
  | ok t => simp [goOn, eq_comm]

/-- The passes that go round again. -/
theorem receiveStep_eq_inl : receiveStep env len (ptr, s) = .inl (ptr', s') ↔
    Admitted s.receiveBuffer len ptr ∧ ptr' = ptr + messageLen s.receiveBuffer ptr ∧
    (messageSequence s.receiveBuffer ptr = broadcastSequenceNumber ∧
        env.broadcast (packetAt s.receiveBuffer ptr) s = .ok s' ∨
      ∃ handler, messageSequence s.receiveBuffer ptr ≠ broadcastSequenceNumber ∧
        s.messageHandlers[messageSequence s.receiveBuffer ptr]? = some handler ∧
        ¬ IsControl (messageType s.receiveBuffer ptr) ∧
        afterHandler env (messageSequence s.receiveBuffer ptr) handler
          (packetAt s.receiveBuffer ptr) s = .ok s') := by
  by_cases hadmitted : Admitted s.receiveBuffer len ptr
  · have hlt := lt_of_header_fits hadmitted.1
    simp only [receiveStep, if_pos hlt, fate_of_admitted hadmitted, hadmitted, true_and]
    by_cases hzero : messageSequence s.receiveBuffer ptr = broadcastSequenceNumber
    · simp [hzero, length_packetAt, goOn_eq_inl]
    · cases hget : s.messageHandlers[messageSequence s.receiveBuffer ptr]? with
      | none => simp [hzero]
      | some handler =>
        by_cases htype : IsControl (messageType s.receiveBuffer ptr) <;>
          simp [hzero, htype, length_packetAt, goOn_eq_inl]
  · simp only [hadmitted, false_and, iff_false]
    rcases receiveStep_of_not_admitted env hadmitted with hleave | ⟨-, hleave⟩ <;> simp [hleave]

theorem ComesTo.visits {s₀ : NetlinkState H S} (h : ComesTo env len s₀ ptr s) :
    Visits (receiveStep env len) (0, s₀) (ptr, s) := by
  induction h with
  | start => exact .refl
  | broadcast _ hadmitted hsequence hreturns ih =>
    exact .tail ih (receiveStep_eq_inl.mpr ⟨hadmitted, rfl, .inl ⟨hsequence, hreturns⟩⟩)
  | handle _ hadmitted hsequence hhandler htype hreturns ih =>
    exact .tail ih (receiveStep_eq_inl.mpr
      ⟨hadmitted, rfl, .inr ⟨_, hsequence, hhandler, htype, hreturns⟩⟩)

theorem comesTo_of_visits {s₀ : NetlinkState H S} {t : ℕ × NetlinkState H S}
    (h : Visits (receiveStep env len) (0, s₀) t) : ComesTo env len s₀ t.1 t.2 := by
  induction h with
  | refl => exact .start
  | @tail a b _ hstep ih =>
    have hnext : receiveStep env len (a.1, a.2) = .inl (b.1, b.2) := hstep
    obtain ⟨hadmitted, hptr, hcase⟩ := receiveStep_eq_inl.mp hnext
    rw [hptr]
    rcases hcase with ⟨hsequence, hreturns⟩ | ⟨handler, hsequence, hhandler, htype, hreturns⟩
    · exact .broadcast ih hadmitted hsequence hreturns
    · exact .handle ih hadmitted hsequence hhandler htype hreturns

end Pass

/-- Every copy is taken inside the array, and every packet handed over consists of bytes of
the datagram, exactly when each message that claims more bytes than remain is harmless. -/
theorem handed_over_inside_iff (env : Handlers H S) (datagram : List UInt8)
    (s : NetlinkState H S) :
    let bytes := datagram.take receiveBufferSize
    (∀ ptr t, Visits (receiveStep env bytes.length) (0, s.read bytes) (ptr, t) →
      fate bytes.length ptr t ≠ .outOfRange ∧
      ∀ packet, (fate bytes.length ptr t).packet? = some packet →
        packet.data = bytesAt t.receiveBuffer ptr packet.data.length ∧
          ptr + packet.data.length ≤ bytes.length) ↔
      OverlongHarmless env bytes.length (s.read bytes) := by
  intro bytes
  have hfits : bytes.length ≤ receiveBufferSize := List.length_take_le _ _
  constructor
  · intro hinside ptr t hcomes hroom hoverlong
    obtain ⟨hrange, hpackets⟩ := hinside ptr t hcomes.visits
    have hend : ptr + messageLen t.receiveBuffer ptr ≤ receiveBufferSize := by
      by_contra hout
      exact hrange (fate_eq_outOfRange_iff.mpr ⟨hroom, not_le.mp hout⟩)
    refine ⟨hend, fun hwanted => ?_⟩
    have hpacket := fate_packet?_eq_some.mpr ⟨hroom, hend, hwanted, rfl⟩
    have hle := (hpackets _ hpacket).2
    rw [length_packetAt] at hle
    exact absurd hoverlong (not_lt.mpr hle)
  · intro hharmless ptr t hvisits
    have hcomes := comesTo_of_visits hvisits
    refine ⟨fun hrange => ?_, fun packet hpacket => ?_⟩
    · obtain ⟨hroom, hout⟩ := fate_eq_outOfRange_iff.mp hrange
      have hend := (hharmless ptr t hcomes hroom (lt_of_le_of_lt hfits hout)).1
      exact absurd hend (not_le.mpr hout)
    · obtain ⟨hroom, -, hwanted, rfl⟩ := fate_packet?_eq_some.mp hpacket
      rw [length_packetAt]
      refine ⟨packetAt_data _ _, ?_⟩
      by_contra hle
      exact (hharmless ptr t hcomes hroom (not_le.mp hle)).2 hwanted

/-- A broadcast of twenty bytes whose header claims twenty-four: the handler gets four
bytes that an earlier datagram left in the buffer. -/
theorem stale_bytes_handed_over :
    let env : Handlers Unit (List NL80211Packet) :=
      ⟨fun packet s => .ok { s with store := s.store ++ [packet] }, fun _ _ s => .ok s⟩
    let datagram : List UInt8 := [24, 0, 0, 0, 19, 0, 0, 0, 0, 0, 0, 0, 0, 0, 0, 0, 7, 1, 0, 0]
    let s : NetlinkState Unit (List NL80211Packet) := ⟨fun _ => 170, ∅, []⟩
    let bytes := datagram.take receiveBufferSize
    (receivePacketAndRunHandler env (some datagram) s).map NetlinkState.store =
        .ok [⟨datagram ++ [170, 170, 170, 170]⟩] ∧
      ¬ ∀ ptr t, Visits (receiveStep env bytes.length) (0, s.read bytes) (ptr, t) →
        fate bytes.length ptr t ≠ .outOfRange ∧
        ∀ packet, (fate bytes.length ptr t).packet? = some packet →
          packet.data = bytesAt t.receiveBuffer ptr packet.data.length ∧
            ptr + packet.data.length ≤ bytes.length := by
  intro env datagram s bytes
  refine ⟨by decide, fun h => ?_⟩
  have hfate : (fate bytes.length 0 (s.read bytes)).packet? =
      some ⟨datagram ++ [170, 170, 170, 170]⟩ := by decide
  have hle := ((h 0 (s.read bytes) .refl).2 _ hfate).2
  exact absurd hle (by decide)

end Wificond
