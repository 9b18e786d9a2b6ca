import Wificond.Packet
import Std.Data.ExtTreeMap

/-!
# The receive loop

The model of `NetlinkManager::ReceivePacketAndRunHandler`. The state is the array
`ReceiveBuffer`, the table `message_handlers_`, and whatever else the handlers
read or write. Handlers are arbitrary functions on this state, so a handler may
read the socket again and change buffer and table, and it may fail to return.

A message is copied out of the array before anything is known about its length.
A copy that runs over the end of the array ends the call with a fault.
-/
namespace Wificond

open LittleEndian StepLoop

/-- `kReceiveBufferSize` -/
abbrev receiveBufferSize : ℕ := 8 * 1024

/-- The array `ReceiveBuffer`. -/
abbrev ReceiveBuffer := Fin receiveBufferSize → UInt8

structure NetlinkState (H S : Type) where
  receiveBuffer : ReceiveBuffer
  messageHandlers : Std.ExtTreeMap ℕ H
  store : S

/-- What `BroadcastHandler` and a registered handler do when they are called. -/
structure Handlers (H S : Type) where
  broadcast : NL80211Packet → NetlinkState H S → Exec (NetlinkState H S)
  run : H → NL80211Packet → NetlinkState H S → Exec (NetlinkState H S)

/-- `kBroadcastSequenceNumber` -/
abbrev broadcastSequenceNumber : ℕ := 0

/-- The byte at a position of the array; no position behind its end is ever asked for. -/
def byteAt (buffer : ReceiveBuffer) (i : ℕ) : UInt8 :=
  if h : i < receiveBufferSize then buffer ⟨i, h⟩ else 0

/-- The bytes at positions `start` to `start + n - 1`. -/
def bytesAt (buffer : ReceiveBuffer) (start n : ℕ) : List UInt8 :=
  (List.range n).map fun i => byteAt buffer (start + i)

/-- What `read` leaves in the buffer: the new bytes, and older ones behind them. -/
def load (buffer : ReceiveBuffer) (bytes : List UInt8) : ReceiveBuffer :=
  fun i => bytes[i.val]?.getD (buffer i)

/-- The vector that is copied out of the buffer: as long as the header at `ptr` says. -/
def packetAt (buffer : ReceiveBuffer) (ptr : ℕ) : NL80211Packet :=
  ⟨bytesAt buffer ptr (valueOf (bytesAt buffer ptr 4))⟩

/-- What the loop does with the message at `ptr`. -/
inductive Fate (H : Type)
  /-- return -/
  | leave
  /-- the copy of the message runs over the end of `ReceiveBuffer` -/
  | outOfRange
  /-- erase the handler and return -/
  | finish (sequenceNumber : ℕ)
  | broadcast (packet : NL80211Packet)
  | handle (sequenceNumber : ℕ) (handler : H) (packet : NL80211Packet)
  deriving DecidableEq

variable {H S : Type}

def fate (len ptr : ℕ) (s : NetlinkState H S) : Fate H :=
  if ptr + nlmsgHdrlen > len then .leave
  else if ptr + valueOf (bytesAt s.receiveBuffer ptr 4) > receiveBufferSize then .outOfRange
  else
    let packet := packetAt s.receiveBuffer ptr
    if !packet.isValid then .leave
    else
      let sequenceNumber := packet.getMessageSequence
      if sequenceNumber = broadcastSequenceNumber then .broadcast packet
      else
        match s.messageHandlers[sequenceNumber]? with
        | none => .leave
        | some handler =>
          let messageType := packet.getMessageType
          if messageType = nlmsgDone ∨ messageType = nlmsgNoop then .finish sequenceNumber
          else if messageType = nlmsgOverrun then .finish sequenceNumber
          else .handle sequenceNumber handler packet

/-- `read` fills the buffer from its start. -/
def NetlinkState.read (s : NetlinkState H S) (bytes : List UInt8) : NetlinkState H S :=
  { s with receiveBuffer := load s.receiveBuffer bytes }

def NetlinkState.eraseHandler (s : NetlinkState H S) (sequenceNumber : ℕ) : NetlinkState H S :=
  { s with messageHandlers := s.messageHandlers.erase sequenceNumber }

/-- The state after the handler of a message has run. -/
def afterHandler (env : Handlers H S) (sequenceNumber : ℕ) (handler : H) (packet : NL80211Packet)
    (s : NetlinkState H S) : Exec (NetlinkState H S) := do
  let s ← env.run handler packet s
  return if packet.isMulti then s else s.eraseHandler sequenceNumber

/-- The loop goes on at `ptr` where the handler has returned. -/
def goOn (ptr : ℕ) : Exec (NetlinkState H S) → (ℕ × NetlinkState H S) ⊕ Exec (NetlinkState H S)
  | .ok s => .inl (ptr, s)
  | .error fault => .inr (.error fault)

/-- One pass of the loop over the messages of a datagram of `len` bytes. -/
def receiveStep (env : Handlers H S) (len : ℕ) :
    ℕ × NetlinkState H S → (ℕ × NetlinkState H S) ⊕ Exec (NetlinkState H S)
  | (ptr, s) =>
    if ptr < len then
      match fate len ptr s with
      | .leave => .inr (.ok s)
      | .outOfRange => .inr (.error .outOfRange)
      | .finish sequenceNumber => .inr (.ok (s.eraseHandler sequenceNumber))
      | .broadcast packet => goOn (ptr + packet.data.length) (env.broadcast packet s)
      | .handle sequenceNumber handler packet =>
        goOn (ptr + packet.data.length) (afterHandler env sequenceNumber handler packet s)
    else .inr (.ok s)

/-- The call, where `read` fails (`none`) or meets a datagram. It takes as many bytes of it
as the buffer has, and the rest is lost. -/
def receivePacketAndRunHandler (env : Handlers H S) (read : Option (List UInt8))
    (s : NetlinkState H S) : Exec (NetlinkState H S) :=
  match read with
  | none => .ok s
  | some datagram =>
    let bytes := datagram.take receiveBufferSize
    walk (receiveStep env bytes.length) bytes.length (0, s.read bytes)

def messageLen (buffer : ReceiveBuffer) (ptr : ℕ) : ℕ := field (bytesAt buffer ptr 16) 0 4

def messageType (buffer : ReceiveBuffer) (ptr : ℕ) : ℕ := field (bytesAt buffer ptr 16) 4 2

def messageSequence (buffer : ReceiveBuffer) (ptr : ℕ) : ℕ := field (bytesAt buffer ptr 16) 8 4

/-- The test that `IsValid` comes to on a vector sized by its own header. -/
def Accepted (buffer : ReceiveBuffer) (ptr : ℕ) : Prop :=
  nlmsgHdrlen ≤ messageLen buffer ptr ∧
    (nlmsgMinType ≤ messageType buffer ptr ∨ messageType buffer ptr = nlmsgError →
      20 ≤ messageLen buffer ptr)

instance (buffer : ReceiveBuffer) (ptr : ℕ) : Decidable (Accepted buffer ptr) :=
  inferInstanceAs (Decidable (_ ∧ (_ → _)))

/-- The control messages that end the call. -/
def IsControl (type : ℕ) : Prop := type = nlmsgDone ∨ type = nlmsgNoop ∨ type = nlmsgOverrun

instance (type : ℕ) : Decidable (IsControl type) := inferInstanceAs (Decidable (_ ∨ _ ∨ _))

@[simp] theorem length_bytesAt (buffer : ReceiveBuffer) (start n : ℕ) :
    (bytesAt buffer start n).length = n := by
  simp [bytesAt]

theorem bytesAt_append (buffer : ReceiveBuffer) (start n m : ℕ) :
    bytesAt buffer start (n + m) = bytesAt buffer start n ++ bytesAt buffer (start + n) m := by
  simp [bytesAt, List.range_add, Nat.add_assoc]

theorem valueOf_bytesAt (buffer : ReceiveBuffer) (ptr : ℕ) :
    valueOf (bytesAt buffer ptr 4) = messageLen buffer ptr := by
  rw [messageLen, show (16 : ℕ) = 4 + 12 from rfl, bytesAt_append,
    field_append_left _ (by simp), field, List.drop_zero, List.take_of_length_le (by simp)]

theorem packetAt_data (buffer : ReceiveBuffer) (ptr : ℕ) :
    (packetAt buffer ptr).data = bytesAt buffer ptr (messageLen buffer ptr) := by
  rw [packetAt, valueOf_bytesAt]

theorem length_packetAt (buffer : ReceiveBuffer) (ptr : ℕ) :
    (packetAt buffer ptr).data.length = messageLen buffer ptr := by
  rw [packetAt_data, length_bytesAt]

/-- The header fields of the copied vector are those in the buffer. -/
theorem field_packetAt {buffer : ReceiveBuffer} {ptr : ℕ}
    (hlen : nlmsgHdrlen ≤ messageLen buffer ptr) {off w : ℕ} (hoff : off + w ≤ 16) :
    field (packetAt buffer ptr).data off w = field (bytesAt buffer ptr 16) off w := by
  obtain ⟨rest, hrest⟩ : ∃ rest, messageLen buffer ptr = 16 + rest := Nat.exists_eq_add_of_le hlen
  rw [packetAt_data, hrest, bytesAt_append, field_append_left _ (by simpa using hoff)]

/-- `IsValid` never compares the message with the datagram it stands in. -/
theorem isValid_packetAt (buffer : ReceiveBuffer) (ptr : ℕ) :
    (packetAt buffer ptr).isValid = true ↔ Accepted buffer ptr := by
  by_cases hlen : nlmsgHdrlen ≤ messageLen buffer ptr
  · have hself : nlmsgLen (packetAt buffer ptr).data 0 = messageLen buffer ptr :=
      field_packetAt hlen (by norm_num)
    have htype : (packetAt buffer ptr).getMessageType = messageType buffer ptr :=
      field_packetAt hlen (by norm_num)
    simp only [NL80211Packet.isValid, length_packetAt, hself, htype, Accepted, nlmsgHdrlen,
      genlHdrlen] at hlen ⊢
    split_ifs <;> simp <;> omega
  · simp [NL80211Packet.isValid, length_packetAt, Accepted, hlen]

section Fate
variable {len ptr : ℕ} {s : NetlinkState H S} {packet : NL80211Packet}

/-- The packet that a handler is called with. -/
def Fate.packet? : Fate H → Option NL80211Packet
  | .broadcast packet => some packet
  | .handle _ _ packet => some packet
  | _ => none

/-- A header that stands in the datagram in full, of a message that ends inside the array
and passes `IsValid`. -/
def Admitted (buffer : ReceiveBuffer) (len ptr : ℕ) : Prop :=
  ptr + nlmsgHdrlen ≤ len ∧ ptr + messageLen buffer ptr ≤ receiveBufferSize ∧ Accepted buffer ptr

/-- A message header that is complete starts inside the datagram. -/
theorem lt_of_header_fits (h : ptr + nlmsgHdrlen ≤ len) : ptr < len := by
  unfold nlmsgHdrlen at h
  omega

/-- The two tests of the source for control messages have one outcome. -/
theorem ite_control {α : Type} (type : ℕ) (x y : α) :
    (if type = nlmsgDone ∨ type = nlmsgNoop then x else if type = nlmsgOverrun then x else y) =
      if IsControl type then x else y := by
  by_cases hfirst : type = nlmsgDone ∨ type = nlmsgNoop
  · have hcontrol : IsControl type := hfirst.elim .inl fun h => .inr (.inl h)
    rw [if_pos hfirst, if_pos hcontrol]
  · have hcontrol : IsControl type ↔ type = nlmsgOverrun := by
      simp only [IsControl]
      tauto
    simp only [if_neg hfirst, hcontrol]

/-- The decisions behind the validity test. -/
theorem fate_of_valid (hroom : ptr + nlmsgHdrlen ≤ len)
    (hinside : ptr + packet.data.length ≤ receiveBufferSize)
    (hpacket : packetAt s.receiveBuffer ptr = packet) (hvalid : packet.isValid = true) :
    fate len ptr s =
      if packet.getMessageSequence = broadcastSequenceNumber then .broadcast packet
      else
        match s.messageHandlers[packet.getMessageSequence]? with
        | none => .leave
        | some handler =>
          if IsControl packet.getMessageType then .finish packet.getMessageSequence
          else .handle packet.getMessageSequence handler packet := by
  rw [← hpacket, length_packetAt] at hinside
  simp only [fate, if_neg (not_lt.mpr hroom), valueOf_bytesAt, if_neg (not_lt.mpr hinside), hpacket,
    hvalid, Bool.not_true, Bool.false_eq_true, if_false]
  by_cases hzero : packet.getMessageSequence = broadcastSequenceNumber
  · rw [if_pos hzero, if_pos hzero]
  · rw [if_neg hzero, if_neg hzero]
    cases s.messageHandlers[packet.getMessageSequence]? with
    | none => rfl
    | some handler => exact ite_control _ _ _

/-- The same, read off the header in the buffer. -/
theorem fate_of_admitted (h : Admitted s.receiveBuffer len ptr) :
    fate len ptr s =
      if messageSequence s.receiveBuffer ptr = broadcastSequenceNumber then
        .broadcast (packetAt s.receiveBuffer ptr)
      else
        match s.messageHandlers[messageSequence s.receiveBuffer ptr]? with
        | none => .leave
        | some handler =>
          if IsControl (messageType s.receiveBuffer ptr) then
            .finish (messageSequence s.receiveBuffer ptr)
          else
            .handle (messageSequence s.receiveBuffer ptr) handler
              (packetAt s.receiveBuffer ptr) := by
  obtain ⟨hroom, hinside, haccepted⟩ := h
  have hsequence : (packetAt s.receiveBuffer ptr).getMessageSequence =
      messageSequence s.receiveBuffer ptr := field_packetAt haccepted.1 (by norm_num)
  have htype : (packetAt s.receiveBuffer ptr).getMessageType = messageType s.receiveBuffer ptr :=
    field_packetAt haccepted.1 (by norm_num)
  rw [← length_packetAt] at hinside
  rw [fate_of_valid hroom hinside rfl ((isValid_packetAt _ _).mpr haccepted), hsequence, htype]

/-- A complete header that claims more than the array has. -/
theorem fate_eq_outOfRange_iff : fate len ptr s = .outOfRange ↔
    ptr + nlmsgHdrlen ≤ len ∧ receiveBufferSize < ptr + messageLen s.receiveBuffer ptr := by
  by_cases hroom : ptr + nlmsgHdrlen ≤ len
  · by_cases hout : receiveBufferSize < ptr + messageLen s.receiveBuffer ptr
    · simp [fate, not_lt.mpr hroom, valueOf_bytesAt, hroom, hout]
    · refine iff_of_false ?_ fun h => hout h.2
      by_cases haccepted : Accepted s.receiveBuffer ptr
      · rw [fate_of_admitted ⟨hroom, not_lt.mp hout, haccepted⟩]
        by_cases hzero : messageSequence s.receiveBuffer ptr = broadcastSequenceNumber
        · simp [hzero]
        · cases s.messageHandlers[messageSequence s.receiveBuffer ptr]? with
          | none => simp [hzero]
          | some handler =>
            by_cases htype : IsControl (messageType s.receiveBuffer ptr) <;> simp [hzero, htype]
      · have hvalid := (isValid_packetAt s.receiveBuffer ptr).not.mpr haccepted
        simp [fate, not_lt.mpr hroom, valueOf_bytesAt, hout, hvalid]
  · refine iff_of_false ?_ fun h => hroom h.1
    simp [fate, not_le.mp hroom]

theorem fate_of_not_admitted (h : ¬ Admitted s.receiveBuffer len ptr)
    (hinside : fate len ptr s ≠ .outOfRange) : fate len ptr s = .leave := by
  by_cases hroom : ptr + nlmsgHdrlen ≤ len
  · have hout : ¬ receiveBufferSize < ptr + messageLen s.receiveBuffer ptr := fun hout =>
      hinside (fate_eq_outOfRange_iff.mpr ⟨hroom, hout⟩)
    have hvalid : ¬ (packetAt s.receiveBuffer ptr).isValid = true := fun hv =>
      h ⟨hroom, not_lt.mp hout, (isValid_packetAt _ _).mp hv⟩
    simp [fate, not_lt.mpr hroom, valueOf_bytesAt, hout, hvalid]
  · simp [fate, not_le.mp hroom]

/-- Where a header is not in the datagram in full, the call returns. -/
theorem receiveStep_of_header_cut (env : Handlers H S) (s : NetlinkState H S)
    (h : ¬ ptr + nlmsgHdrlen ≤ len) : receiveStep env len (ptr, s) = .inr (.ok s) := by
  have hfate : fate len ptr s = .leave := by simp [fate, not_le.mp h]
  simp only [receiveStep, hfate]
  split_ifs <;> rfl

/-- Where no message is admitted, the call is at its end. -/
theorem receiveStep_of_not_admitted (env : Handlers H S) (h : ¬ Admitted s.receiveBuffer len ptr) :
    receiveStep env len (ptr, s) = .inr (.ok s) ∨
      fate len ptr s = .outOfRange ∧ receiveStep env len (ptr, s) = .inr (.error .outOfRange) := by
  by_cases hout : fate len ptr s = .outOfRange
  · have hlt := lt_of_header_fits (fate_eq_outOfRange_iff.mp hout).1
    exact .inr ⟨hout, by simp only [receiveStep, if_pos hlt, hout]⟩
  · refine .inl ?_
    simp only [receiveStep, fate_of_not_admitted h hout]
    split_ifs <;> rfl

end Fate

end Wificond
