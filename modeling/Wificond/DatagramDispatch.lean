import Wificond.OrderedMap
import Wificond.ReceiveLoop
import Wificond.Runs

/-!
# Dispatch of a datagram

A datagram is a concatenation of messages, of which `read` takes as many bytes as the
receive buffer has. Observed through handlers that only record what they are
called with, the receive loop works through the messages that were taken whole,
until one of them makes it return. If none does, it comes to the message that
was cut, which is out of range if its header was not.
-/
namespace Wificond

open LittleEndian StepLoop

/-- A well-formed message: its header gives its length. -/
structure Message where
  packet : NL80211Packet
  valid : packet.isValid = true
  length_eq : nlmsgLen packet.data 0 = packet.data.length

namespace Message

def sequence (m : Message) : ℕ := m.packet.getMessageSequence

def type (m : Message) : ℕ := m.packet.getMessageType

def multi (m : Message) : Bool := m.packet.isMulti

theorem header_le (m : Message) : nlmsgHdrlen ≤ m.packet.data.length := by
  have h := m.valid
  unfold NL80211Packet.isValid at h
  by_contra hlt
  simp [not_le.mp hlt] at h

end Message

def datagram (messages : List Message) : List UInt8 := messages.flatMap fun m => m.packet.data

theorem length_le_datagram (messages : List Message) :
    messages.length ≤ (datagram messages).length := by
  induction messages with
  | nil => simp
  | cons m messages ih =>
    have hm : 0 < m.packet.data.length := Nat.lt_of_lt_of_le (by decide) m.header_le
    simp only [datagram, List.flatMap_cons, List.length_append, List.length_cons] at ih ⊢
    omega

/-- What reaches the handlers. -/
inductive Delivery (H : Type)
  | broadcast (packet : NL80211Packet)
  | handler (handler : H) (packet : NL80211Packet)
  deriving DecidableEq

variable {H : Type}

/-- Handlers that record their calls. -/
def recording : Handlers H (List (Delivery H)) where
  broadcast packet s := .ok { s with store := s.store ++ [.broadcast packet] }
  run handler packet s := .ok { s with store := s.store ++ [.handler handler packet] }

/-- The loop over whole messages: the table it leaves and what it delivers. -/
def dispatch (table : Std.ExtTreeMap ℕ H) :
    List Message → Std.ExtTreeMap ℕ H × List (Delivery H)
  | [] => (table, [])
  | m :: messages =>
    if m.sequence = broadcastSequenceNumber then
      let rest := dispatch table messages
      (rest.1, .broadcast m.packet :: rest.2)
    else
      match table[m.sequence]? with
      | none => (table, [])
      | some handler =>
        if IsControl m.type then (table.erase m.sequence, [])
        else
          let rest := dispatch (if m.multi then table else table.erase m.sequence) messages
          (rest.1, .handler handler m.packet :: rest.2)

/-- The table of handlers that still wait behind a message, by the meaning of the message:
done, overrun and the last part of an answer finish a sequence, no-op does not. -/
def settle (table : Std.ExtTreeMap ℕ H) (m : Message) : Std.ExtTreeMap ℕ H :=
  if m.sequence = broadcastSequenceNumber ∨ m.type = nlmsgNoop then table
  else if m.type = nlmsgDone ∨ m.type = nlmsgOverrun ∨ ¬ m.multi then table.erase m.sequence
  else table

/-- A broadcast is owed to `BroadcastHandler`, and a message that is not a control message
to the handler that waits for its sequence. -/
def owedFor (table : Std.ExtTreeMap ℕ H) (m : Message) : Option (Delivery H) :=
  if m.sequence = broadcastSequenceNumber then some (.broadcast m.packet)
  else if IsControl m.type then none
  else table[m.sequence]?.map fun handler => .handler handler m.packet

/-- The messages at which the loop returns. -/
def Stops (table : Std.ExtTreeMap ℕ H) (m : Message) : Prop :=
  m.sequence ≠ broadcastSequenceNumber ∧ (m.sequence ∉ table ∨ IsControl m.type)

instance (table : Std.ExtTreeMap ℕ H) (m : Message) : Decidable (Stops table m) :=
  inferInstanceAs (Decidable (_ ∧ (_ ∨ _)))

section Message
variable {table : Std.ExtTreeMap ℕ H} {m : Message}

theorem Stops.cases (h : Stops table m) : m.sequence ≠ broadcastSequenceNumber ∧
    (table[m.sequence]? = none ∧ table.erase m.sequence = table ∨
      ∃ handler, table[m.sequence]? = some handler ∧ IsControl m.type) := by
  obtain ⟨hzero, hcase⟩ := h
  refine ⟨hzero, ?_⟩
  by_cases hknown : m.sequence ∈ table
  · obtain ⟨handler, hget⟩ := OrderedMap.mem_iff_exists.mp hknown
    exact .inr ⟨handler, hget, hcase.resolve_left fun hunknown => hunknown hknown⟩
  · exact .inl ⟨OrderedMap.notMem_iff.mp hknown, OrderedMap.erase_eq_self hknown⟩

/-- A message with a sequence that does not stop the loop has a handler, which it is owed
to and which waits on exactly for a further part. -/
theorem exists_handler_of_not_stops (h : ¬ Stops table m)
    (hzero : m.sequence ≠ broadcastSequenceNumber) :
    ∃ handler, table[m.sequence]? = some handler ∧ ¬ IsControl m.type ∧
      owedFor table m = some (.handler handler m.packet) ∧
      settle table m = if m.multi then table else table.erase m.sequence := by
  obtain ⟨hknown, hcontrol⟩ : m.sequence ∈ table ∧ ¬ IsControl m.type := by
    simpa [Stops, hzero] using h
  obtain ⟨handler, hget⟩ := OrderedMap.mem_iff_exists.mp hknown
  have htypes : m.type ≠ nlmsgDone ∧ m.type ≠ nlmsgNoop ∧ m.type ≠ nlmsgOverrun := by
    simpa [IsControl] using hcontrol
  refine ⟨handler, hget, hcontrol, by simp [owedFor, hzero, hcontrol, hget], ?_⟩
  cases hmulti : m.multi <;> simp [settle, hzero, htypes, hmulti]

theorem dispatch_of_stops (h : Stops table m) (messages : List Message) :
    dispatch table (m :: messages) = (table.erase m.sequence, []) := by
  obtain ⟨hzero, ⟨hget, herase⟩ | ⟨handler, hget, hcontrol⟩⟩ := h.cases
  · simp [dispatch, hzero, hget, herase]
  · simp [dispatch, hzero, hget, hcontrol]

/-- A message that does not stop the loop is delivered as owed. -/
theorem dispatch_of_not_stops (h : ¬ Stops table m) (messages : List Message) :
    dispatch table (m :: messages) =
      ((dispatch (settle table m) messages).1,
        (owedFor table m).toList ++ (dispatch (settle table m) messages).2) := by
  by_cases hzero : m.sequence = broadcastSequenceNumber
  · simp [dispatch, owedFor, settle, hzero]
  · obtain ⟨handler, hget, hcontrol, howed, hsettle⟩ := exists_handler_of_not_stops h hzero
    simp [dispatch, hzero, hget, hcontrol, howed, hsettle]

end Message

/-- The messages that a buffer with this room takes whole. -/
def received : ℕ → List Message → List Message
  | _, [] => []
  | room, m :: messages =>
    if m.packet.data.length ≤ room then m :: received (room - m.packet.data.length) messages else []

/-- The messages that it takes in part or not at all. -/
def cutOff (room : ℕ) (messages : List Message) : List Message :=
  messages.drop (received room messages).length

/-- No message stops the loop before it comes to one that was cut behind its header. -/
def Overruns (room : ℕ) (table : Std.ExtTreeMap ℕ H) : List Message → Prop
  | [] => False
  | m :: messages =>
    if m.packet.data.length ≤ room then
      ¬ Stops table m ∧ Overruns (room - m.packet.data.length) (settle table m) messages
    else nlmsgHdrlen ≤ room

instance decidableOverruns (room : ℕ) (table : Std.ExtTreeMap ℕ H) (messages : List Message) :
    Decidable (Overruns room table messages) := by
  induction messages generalizing room table with
  | nil => exact instDecidableFalse
  | cons m messages ih =>
    have := ih (room - m.packet.data.length) (settle table m)
    unfold Overruns
    infer_instance

section Received
variable {room : ℕ} {table : Std.ExtTreeMap ℕ H} {m : Message} {messages : List Message}

theorem received_append_cutOff (room : ℕ) (messages : List Message) :
    received room messages ++ cutOff room messages = messages := by
  induction messages generalizing room with
  | nil => rfl
  | cons m messages ih =>
    have hrest := ih (room - m.packet.data.length)
    rw [cutOff] at hrest ⊢
    rw [received]
    split_ifs
    · rw [List.cons_append, List.length_cons, List.drop_succ_cons, hrest]
    · rfl

theorem length_datagram_received_le (room : ℕ) (messages : List Message) :
    (datagram (received room messages)).length ≤ room := by
  induction messages generalizing room with
  | nil => simp [received, datagram]
  | cons m messages ih =>
    have hrest := ih (room - m.packet.data.length)
    rw [received]
    split_ifs with hwhole
    · simp only [datagram, List.flatMap_cons, List.length_append] at hrest ⊢
      omega
    · simp [datagram]

/-- A datagram that the buffer has room for is received whole. -/
theorem received_of_fits (h : (datagram messages).length ≤ room) :
    received room messages = messages := by
  induction messages generalizing room with
  | nil => rfl
  | cons m messages ih =>
    simp only [datagram, List.flatMap_cons, List.length_append] at h ih
    rw [received, if_pos (by omega), ih (by omega)]

theorem not_overruns_of_fits (h : (datagram messages).length ≤ room)
    (table : Std.ExtTreeMap ℕ H) : ¬ Overruns room table messages := by
  induction messages generalizing room table with
  | nil => exact id
  | cons m messages ih =>
    simp only [datagram, List.flatMap_cons, List.length_append] at h ih
    rw [Overruns, if_pos (by omega)]
    exact fun hover => ih (by omega) _ hover.2

end Received

theorem byteAt_load (buffer : ReceiveBuffer) {bytes : List UInt8} {i : ℕ}
    (hbuffer : i < receiveBufferSize) (h : i < bytes.length) :
    byteAt (load buffer bytes) i = bytes[i] := by
  simp [byteAt, load, hbuffer, h]

/-- Bytes that were read stand where they were read to. -/
theorem bytesAt_load (buffer : ReceiveBuffer) (pre mid post : List UInt8)
    (hinside : pre.length + mid.length ≤ receiveBufferSize) :
    bytesAt (load buffer (pre ++ (mid ++ post))) pre.length mid.length = mid := by
  apply List.ext_getElem
  · simp
  · intro i hi hmid
    have hbyte : pre.length + i < (pre ++ (mid ++ post)).length := by
      simp only [List.length_append]
      omega
    simp only [bytesAt, List.getElem_map, List.getElem_range,
      byteAt_load buffer (show pre.length + i < receiveBufferSize by omega) hbyte]
    rw [List.getElem_append_right (by omega), List.getElem_append_left (by omega)]
    simp

/-- `read` keeps what the buffer has room for. -/
theorem load_take (buffer : ReceiveBuffer) (bytes : List UInt8) :
    load buffer (bytes.take receiveBufferSize) = load buffer bytes := by
  funext i
  rw [load, load, List.getElem?_take_of_lt i.isLt]

/-- Where the bytes of a message stand in the buffer, the vector copied is the message. -/
theorem packetAt_of_bytesAt {buffer : ReceiveBuffer} {ptr : ℕ} (m : Message)
    (h : bytesAt buffer ptr m.packet.data.length = m.packet.data) :
    packetAt buffer ptr = m.packet := by
  obtain ⟨rest, hrest⟩ : ∃ rest, m.packet.data.length = 4 + rest :=
    Nat.exists_eq_add_of_le (le_trans (by decide) m.header_le)
  have hsplit : bytesAt buffer ptr 4 ++ bytesAt buffer (ptr + 4) rest = m.packet.data := by
    rw [← bytesAt_append, ← hrest, h]
  have hlen : valueOf (bytesAt buffer ptr 4) = m.packet.data.length := by
    have hfield := m.length_eq
    rw [nlmsgLen, field, ← hsplit, List.drop_zero, List.take_left' (by simp), hsplit] at hfield
    exact hfield
  rw [packetAt, hlen, h]

/-- Where its header stands, its length is read. -/
theorem messageLen_of_bytesAt {buffer : ReceiveBuffer} {ptr : ℕ} (m : Message)
    (h : bytesAt buffer ptr nlmsgHdrlen = m.packet.data.take nlmsgHdrlen) :
    messageLen buffer ptr = m.packet.data.length := by
  have hheader : (16 : ℕ) ≤ m.packet.data.length := m.header_le
  have hfield := m.length_eq
  rw [nlmsgLen, field, List.drop_zero] at hfield
  rw [messageLen, h, field, List.drop_zero, List.take_take, min_eq_left (by norm_num), hfield]

section Pass
variable {buffer : ReceiveBuffer} {pre post : List UInt8} {m : Message} {len : ℕ}
variable {s : NetlinkState H (List (Delivery H))}

/-- What `fate` decides about a message in its place in the buffer. -/
theorem fate_message (hs : s.receiveBuffer = load buffer (pre ++ (m.packet.data ++ post)))
    (hinside : pre.length + m.packet.data.length ≤ receiveBufferSize)
    (hroom : pre.length + nlmsgHdrlen ≤ len) :
    fate len pre.length s =
      if m.sequence = broadcastSequenceNumber then .broadcast m.packet
      else
        match s.messageHandlers[m.sequence]? with
        | none => .leave
        | some handler =>
          if IsControl m.type then .finish m.sequence else .handle m.sequence handler m.packet := by
  have hpacket : packetAt s.receiveBuffer pre.length = m.packet := by
    rw [hs]
    exact packetAt_of_bytesAt m (bytesAt_load buffer pre m.packet.data post hinside)
  exact fate_of_valid hroom hinside hpacket m.valid

theorem receiveStep_of_stops (hs : s.receiveBuffer = load buffer (pre ++ (m.packet.data ++ post)))
    (hinside : pre.length + m.packet.data.length ≤ receiveBufferSize)
    (hroom : pre.length + nlmsgHdrlen ≤ len) (h : Stops s.messageHandlers m) :
    receiveStep recording len (pre.length, s) = .inr (.ok (s.eraseHandler m.sequence)) := by
  have hlt := lt_of_header_fits hroom
  have hfate := fate_message hs hinside hroom
  obtain ⟨hzero, ⟨hget, herase⟩ | ⟨handler, hget, hcontrol⟩⟩ := h.cases
  · rw [if_neg hzero, hget] at hfate
    simp only [receiveStep, if_pos hlt, hfate, NetlinkState.eraseHandler, herase]
  · rw [if_neg hzero, hget] at hfate
    simp only [if_pos hcontrol] at hfate
    simp only [receiveStep, if_pos hlt, hfate]

/-- A message that does not stop the loop is delivered and passed over. -/
theorem receiveStep_of_not_stops
    (hs : s.receiveBuffer = load buffer (pre ++ (m.packet.data ++ post)))
    (hinside : pre.length + m.packet.data.length ≤ receiveBufferSize)
    (hroom : pre.length + nlmsgHdrlen ≤ len) (h : ¬ Stops s.messageHandlers m) :
    receiveStep recording len (pre.length, s) = .inl ((pre ++ m.packet.data).length,
      { s with
        messageHandlers := settle s.messageHandlers m
        store := s.store ++ (owedFor s.messageHandlers m).toList }) := by
  have hlt := lt_of_header_fits hroom
  have hfate := fate_message hs hinside hroom
  have hptr : pre.length + m.packet.data.length = (pre ++ m.packet.data).length := by simp
  by_cases hzero : m.sequence = broadcastSequenceNumber
  · rw [if_pos hzero] at hfate
    simp only [receiveStep, if_pos hlt, hfate, hptr]
    simp [recording, goOn, settle, owedFor, hzero]
  · obtain ⟨handler, hget, hcontrol, howed, hsettle⟩ := exists_handler_of_not_stops h hzero
    rw [if_neg hzero, hget] at hfate
    simp only [if_neg hcontrol] at hfate
    simp only [receiveStep, if_pos hlt, hfate, hptr, howed, hsettle]
    cases hmulti : m.packet.isMulti <;>
      simp [afterHandler, recording, goOn, bind, Except.bind, pure, Except.pure, Message.multi,
        hmulti, NetlinkState.eraseHandler]

/-- A message that is cut behind its header is out of range. -/
theorem receiveStep_of_cut (hs : s.receiveBuffer = load buffer (pre ++ (m.packet.data ++ post)))
    (hcut : receiveBufferSize < pre.length + m.packet.data.length)
    (hbuffer : pre.length + nlmsgHdrlen ≤ receiveBufferSize)
    (hroom : pre.length + nlmsgHdrlen ≤ len) :
    receiveStep recording len (pre.length, s) = .inr (.error .outOfRange) := by
  have hheader : bytesAt s.receiveBuffer pre.length nlmsgHdrlen =
      m.packet.data.take nlmsgHdrlen := by
    have htake : (m.packet.data.take nlmsgHdrlen).length = nlmsgHdrlen :=
      List.length_take_of_le m.header_le
    have hread := bytesAt_load buffer pre (m.packet.data.take nlmsgHdrlen)
      (m.packet.data.drop nlmsgHdrlen ++ post) (by rw [htake]; exact hbuffer)
    rwa [htake, ← List.append_assoc (m.packet.data.take nlmsgHdrlen), List.take_append_drop,
      ← hs] at hread
  have hfate : fate len pre.length s = .outOfRange := by
    rw [fate_eq_outOfRange_iff, messageLen_of_bytesAt m hheader]
    exact ⟨hroom, hcut⟩
  simp only [receiveStep, if_pos (lt_of_header_fits hroom), hfate]

end Pass

/-- The state behind a datagram that does not lead out of range. -/
def NetlinkState.afterDatagram (s : NetlinkState H (List (Delivery H))) (messages : List Message) :
    NetlinkState H (List (Delivery H)) :=
  let result := dispatch s.messageHandlers (received receiveBufferSize messages)
  ⟨load s.receiveBuffer (datagram messages), result.1, s.store ++ result.2⟩

/-- The loop from a message on does what `dispatch` does with those received whole, a message
a pass. -/
theorem run_receiveStep_messages (buffer : ReceiveBuffer) (messages : List Message)
    (pre : List UInt8) (hpre : pre.length ≤ receiveBufferSize)
    (s : NetlinkState H (List (Delivery H)))
    (hs : s.receiveBuffer = load buffer (pre ++ datagram messages)) (n : ℕ)
    (hn : (received (receiveBufferSize - pre.length) messages).length < n) :
    let room := receiveBufferSize - pre.length
    let result := dispatch s.messageHandlers (received room messages)
    run (receiveStep recording ((pre ++ datagram messages).take receiveBufferSize).length) n
        (pre.length, s) =
      some (if Overruns room s.messageHandlers messages then .error .outOfRange
        else .ok ⟨s.receiveBuffer, result.1, s.store ++ result.2⟩) := by
  induction messages generalizing pre s n with
  | nil =>
    obtain ⟨n, rfl⟩ : ∃ k, n = k + 1 := ⟨n - 1, by omega⟩
    rw [run_succ_leave (r := .ok s) (by simp [receiveStep, datagram])]
    simp [dispatch, received, Overruns]
  | cons m messages ih =>
    intro room result
    replace hn : (received room (m :: messages)).length < n := hn
    obtain ⟨n, rfl⟩ : ∃ k, n = k + 1 := ⟨n - 1, by omega⟩
    have hsplit : pre ++ datagram (m :: messages) =
        pre ++ (m.packet.data ++ datagram messages) := rfl
    have hnext : pre ++ (m.packet.data ++ datagram messages) =
        (pre ++ m.packet.data) ++ datagram messages := by simp
    have hheader := m.header_le
    rw [hsplit] at hs ⊢
    have hlen : ((pre ++ (m.packet.data ++ datagram messages)).take receiveBufferSize).length =
        min receiveBufferSize (pre.length + m.packet.data.length + (datagram messages).length) := by
      simp [Nat.add_assoc]
    by_cases hwhole : m.packet.data.length ≤ room
    · have hinside : pre.length + m.packet.data.length ≤ receiveBufferSize := by omega
      have hroom : pre.length + nlmsgHdrlen ≤
          ((pre ++ (m.packet.data ++ datagram messages)).take receiveBufferSize).length := by
        rw [hlen]
        omega
      have hreceived : received room (m :: messages) =
          m :: received (room - m.packet.data.length) messages := if_pos hwhole
      have hroomNext : receiveBufferSize - (pre ++ m.packet.data).length =
          room - m.packet.data.length := by
        rw [List.length_append, Nat.sub_add_eq]
      simp only [result, hreceived, Overruns, if_pos hwhole]
      by_cases hstops : Stops s.messageHandlers m
      · rw [run_succ_leave (receiveStep_of_stops hs hinside hroom hstops),
          dispatch_of_stops hstops, if_neg fun h => h.1 hstops]
        simp [NetlinkState.eraseHandler]
      · have hrest := ih (pre ++ m.packet.data) (by simpa using hinside)
          { s with
            messageHandlers := settle s.messageHandlers m
            store := s.store ++ (owedFor s.messageHandlers m).toList }
          (by rw [← hnext]; exact hs) n (by rw [hroomNext]; simpa [hreceived] using hn)
        rw [run_succ_continue (receiveStep_of_not_stops hs hinside hroom hstops), hnext, hrest,
          hroomNext, dispatch_of_not_stops hstops]
        simp [hstops]
    · have hcut : receiveBufferSize < pre.length + m.packet.data.length := by omega
      have hreceived : received room (m :: messages) = [] := if_neg hwhole
      simp only [result, hreceived, Overruns, if_neg hwhole]
      by_cases hroom : nlmsgHdrlen ≤ room
      · have hbuffer : pre.length + nlmsgHdrlen ≤ receiveBufferSize := by omega
        rw [run_succ_leave (receiveStep_of_cut hs hcut hbuffer (by rw [hlen]; omega)),
          if_pos hroom]
      · have hend : ¬ pre.length + nlmsgHdrlen ≤
            ((pre ++ (m.packet.data ++ datagram messages)).take receiveBufferSize).length := by
          rw [hlen]
          omega
        rw [run_succ_leave (receiveStep_of_header_cut recording s hend), if_neg hroom]
        simp [dispatch]

/-- The call on a datagram of messages. -/
theorem receive_datagram_eq (messages : List Message) (s : NetlinkState H (List (Delivery H))) :
    receivePacketAndRunHandler recording (some (datagram messages)) s =
      if Overruns receiveBufferSize s.messageHandlers messages then .error .outOfRange
      else .ok (s.afterDatagram messages) := by
  let bytes := (datagram messages).take receiveBufferSize
  have hbuffer : (s.read bytes).receiveBuffer = load s.receiveBuffer ([] ++ datagram messages) :=
    load_take s.receiveBuffer (datagram messages)
  have hn : (received receiveBufferSize messages).length < bytes.length + 1 := by
    have hcount := length_le_datagram (received receiveBufferSize messages)
    have hroom := length_datagram_received_le receiveBufferSize messages
    have hall := congrArg (fun l => (datagram l).length)
      (received_append_cutOff receiveBufferSize messages)
    simp only [datagram, List.flatMap_append, List.length_append] at hcount hroom hall
    simp only [bytes, datagram, List.length_take]
    omega
  let result := dispatch s.messageHandlers (received receiveBufferSize messages)
  have hafter : (⟨(s.read bytes).receiveBuffer, result.1, s.store ++ result.2⟩ :
      NetlinkState H (List (Delivery H))) = s.afterDatagram messages := by
    rw [hbuffer]
    rfl
  have hrun : run (receiveStep recording bytes.length) (bytes.length + 1) (0, s.read bytes) =
      some (if Overruns receiveBufferSize s.messageHandlers messages then .error .outOfRange
        else .ok ⟨(s.read bytes).receiveBuffer, result.1, s.store ++ result.2⟩) :=
    run_receiveStep_messages s.receiveBuffer messages [] (Nat.zero_le _) (s.read bytes) hbuffer
      (bytes.length + 1) hn
  rw [hafter] at hrun
  simp only [receivePacketAndRunHandler, walk]
  rw [hrun]

theorem receive_datagram {messages : List Message} {s : NetlinkState H (List (Delivery H))}
    (h : ¬ Overruns receiveBufferSize s.messageHandlers messages) :
    receivePacketAndRunHandler recording (some (datagram messages)) s =
      .ok (s.afterDatagram messages) := by
  rw [receive_datagram_eq, if_neg h]

theorem receive_datagram_of_overruns {messages : List Message}
    {s : NetlinkState H (List (Delivery H))}
    (h : Overruns receiveBufferSize s.messageHandlers messages) :
    receivePacketAndRunHandler recording (some (datagram messages)) s = .error .outOfRange := by
  rw [receive_datagram_eq, if_pos h]

end Wificond
