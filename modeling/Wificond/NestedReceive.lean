import Wificond.MlmeEvents
import Wificond.ReceiveBounds
import Wificond.SyncExchange

/-!
# Reads within a read

There is one receive buffer. A handler that sends a synchronous request reads the answer
into it while the loop over an asynchronous datagram still has messages to come to. What
the loop hands over is then what the nested reads have left of the datagram.
-/
namespace Wificond

open LittleEndian StepLoop

variable {H S : Type}

/-- Handlers with the datagrams that they read while they run, in order. No handler gets at
the buffer in another way. -/
structure BufferHandlers (H S : Type) extends Handlers H S where
  broadcastReads : NL80211Packet → NetlinkState H S → List (List UInt8)
  runReads : H → NL80211Packet → NetlinkState H S → List (List UInt8)
  buffer_broadcast : ∀ packet s t, broadcast packet s = .ok t →
    t.receiveBuffer = (broadcastReads packet s).foldl load s.receiveBuffer
  buffer_run : ∀ handler packet s t, run handler packet s = .ok t →
    t.receiveBuffer = (runReads handler packet s).foldl load s.receiveBuffer

/-- The packet that a handler is called with in a pass. -/
def handedOver (len : ℕ) (t : ℕ × NetlinkState H S) : Option NL80211Packet :=
  (fate len t.1 t.2).packet?

/-- The packets that the loop hands over, in order. -/
def dispatched (env : Handlers H S) (bytes : List UInt8) (s : NetlinkState H S) :
    List NL80211Packet :=
  (visited (receiveStep env bytes.length) (bytes.length + 1) (0, s.read bytes)).filterMap
    (handedOver bytes.length)

section Reads
variable {env : Handlers H S} {len ptr : ℕ} {s t : NetlinkState H S}

/-- A pass that goes round moves by a message header at least. -/
theorem run_receiveStep_isSome (env : Handlers H S) (len : ℕ) (s : NetlinkState H S) :
    (run (receiveStep env len) (len + 1) (0, s)).isSome := by
  have hnext (a b : ℕ × NetlinkState H S) (hab : receiveStep env len a = .inl b) :
      Admitted a.2.receiveBuffer len a.1 ∧ b.1 = a.1 + messageLen a.2.receiveBuffer a.1 := by
    have h := receiveStep_eq_inl.mp (show receiveStep env len (a.1, a.2) = .inl (b.1, b.2) from hab)
    exact ⟨h.1, h.2.1⟩
  have hadvances : Advances (receiveStep env len) Prod.fst (0, s) := by
    apply advances_of_forall
    intro a b hab
    obtain ⟨hadmitted, hpos⟩ := hnext a b hab
    have hheader : 16 ≤ messageLen a.2.receiveBuffer a.1 := hadmitted.2.2.1
    omega
  exact run_isSome_of_advances (fun a b hab => lt_of_header_fits (hnext a b hab).1.1) hadvances

theorem walk_eq_ok_iff {bytes : List UInt8} :
    walk (receiveStep env bytes.length) bytes.length (0, s) = .ok t ↔
      run (receiveStep env bytes.length) (bytes.length + 1) (0, s) = some (.ok t) := by
  obtain ⟨result, hresult⟩ :=
    Option.isSome_iff_exists.mp (run_receiveStep_isSome env bytes.length s)
  rw [walk, hresult, Option.some.injEq]

end Reads

namespace BufferHandlers

/-- What the handler of a pass reads. -/
def passReads (env : BufferHandlers H S) (len : ℕ) (t : ℕ × NetlinkState H S) :
    List (List UInt8) :=
  match fate len t.1 t.2 with
  | .leave | .outOfRange | .finish _ => []
  | .broadcast packet => env.broadcastReads packet t.2
  | .handle _ handler packet => env.runReads handler packet t.2

/-- The reads of a call, with those of the handlers that it runs. -/
def receiveReads (env : BufferHandlers H S) (read : Option (List UInt8)) (s : NetlinkState H S) :
    List (List UInt8) :=
  match read with
  | none => []
  | some datagram =>
    let bytes := datagram.take receiveBufferSize
    bytes :: (visited (receiveStep env.toHandlers bytes.length) (bytes.length + 1)
      (0, s.read bytes)).flatMap (env.passReads bytes.length)

section Buffer
variable {env : BufferHandlers H S} {s t : NetlinkState H S} {len : ℕ}

theorem buffer_afterHandler {sequenceNumber : ℕ} {handler : H} {packet : NL80211Packet}
    (h : afterHandler env.toHandlers sequenceNumber handler packet s = .ok t) :
    t.receiveBuffer = (env.runReads handler packet s).foldl load s.receiveBuffer := by
  obtain ⟨u, hrun, hafter⟩ := Runs.bind_eq_ok.mp h
  rw [← env.buffer_run handler packet s u hrun, ← Except.ok.inj hafter]
  split_ifs <;> rfl

/-- A pass changes the buffer by the reads of its handler, if that returns. -/
theorem buffer_goOn {ptr : ℕ} {result : Exec (NetlinkState H S)} {reads : List (List UInt8)}
    (h : ∀ t, result = .ok t → t.receiveBuffer = reads.foldl load s.receiveBuffer)
    {next : ℕ × NetlinkState H S} (hnext : goOn ptr result = .inl next) :
    next.2.receiveBuffer = reads.foldl load s.receiveBuffer :=
  h next.2 (goOn_eq_inl.mp (show goOn ptr result = .inl (next.1, next.2) from hnext)).2

theorem buffer_of_continue {a b : ℕ × NetlinkState H S}
    (h : receiveStep env.toHandlers len a = .inl b) :
    b.2.receiveBuffer = (env.passReads len a).foldl load a.2.receiveBuffer := by
  obtain ⟨ptr, s⟩ := a
  simp only [receiveStep] at h
  simp only [passReads]
  split_ifs at h
  cases hfate : fate len ptr s with
  | leave => simp [hfate] at h
  | outOfRange => simp [hfate] at h
  | finish sequenceNumber => simp [hfate] at h
  | broadcast packet =>
    rw [hfate] at h
    exact buffer_goOn (env.buffer_broadcast packet s) h
  | handle sequenceNumber handler packet =>
    rw [hfate] at h
    exact buffer_goOn (fun t => buffer_afterHandler) h

theorem buffer_of_leave {a : ℕ × NetlinkState H S}
    (h : receiveStep env.toHandlers len a = .inr (.ok t)) :
    t.receiveBuffer = (env.passReads len a).foldl load a.2.receiveBuffer := by
  obtain ⟨ptr, s⟩ := a
  have hnone : env.passReads len (ptr, s) = [] ∧ t.receiveBuffer = s.receiveBuffer := by
    simp only [receiveStep] at h
    simp only [passReads]
    split_ifs at h with hlt
    · cases hfate : fate len ptr s with
      | leave =>
        rw [hfate] at h
        simp_all
      | outOfRange => simp [hfate] at h
      | finish sequenceNumber =>
        rw [hfate] at h
        exact ⟨rfl, by rw [← Except.ok.inj (Sum.inr.inj h)]; rfl⟩
      | broadcast packet =>
        rw [hfate] at h
        cases hresult : env.broadcast packet s <;> simp [hresult, goOn] at h
      | handle sequenceNumber handler packet =>
        rw [hfate] at h
        cases hresult : afterHandler env.toHandlers sequenceNumber handler packet s <;>
          simp [hresult, goOn] at h
    · have hend : ¬ ptr + nlmsgHdrlen ≤ len := fun hroom => hlt (lt_of_header_fits hroom)
      have hfate : fate len ptr s = .leave := by simp [fate, not_le.mp hend]
      rw [hfate]
      simp_all
  rw [hnone.1, hnone.2, List.foldl_nil]

theorem buffer_receive {read : Option (List UInt8)}
    (h : receivePacketAndRunHandler env.toHandlers read s = .ok t) :
    t.receiveBuffer = (env.receiveReads read s).foldl load s.receiveBuffer := by
  cases read with
  | none =>
    obtain rfl := Except.ok.inj h
    rfl
  | some datagram =>
    have hbuffer := run_eq_foldl_visited (fun t : ℕ × NetlinkState H S => t.2.receiveBuffer)
      NetlinkState.receiveBuffer
      (fun buffer t => (env.passReads (datagram.take receiveBufferSize).length t).foldl load buffer)
      (fun a b => buffer_of_continue) (fun a r => buffer_of_leave) (walk_eq_ok_iff.mp h)
    rw [hbuffer]
    simp only [receiveReads, List.foldl_cons, List.foldl_flatMap]
    rfl

/-- The reads of the waiting loop. -/
def responseReads (env : BufferHandlers H S) (sequence : ℕ) (timeRemaining : ℤ)
    (polls : List Poll) (s : NetlinkState H S) : List (List UInt8) :=
  if timeRemaining ≤ 0 then []
  else if sequence ∉ s.messageHandlers then []
  else
    match polls with
    | [] | .timeout :: _ | .error :: _ => []
    | .ready read elapsed :: rest =>
      env.receiveReads read s ++
        match receivePacketAndRunHandler env.toHandlers read s with
        | .ok s => env.responseReads sequence (timeRemaining - elapsed) rest s
        | .error _ => []

theorem buffer_responseLoop {sequence : ℕ} {time : ℤ} {polls rest : List Poll} {success : Bool}
    (h : responseLoop env.toHandlers sequence time polls s = .ok (success, t, rest)) :
    t.receiveBuffer = (env.responseReads sequence time polls s).foldl load s.receiveBuffer := by
  induction polls generalizing time s with
  | nil =>
    rw [responseLoop] at h
    rw [responseReads]
    split_ifs at h ⊢ <;> (obtain ⟨-, rfl, -⟩ := Except.ok.inj h; rfl)
  | cons poll polls ih =>
    rw [responseLoop.eq_def] at h
    rw [responseReads.eq_def]
    by_cases hlate : time ≤ 0
    · rw [if_pos hlate] at h ⊢
      obtain ⟨-, rfl, -⟩ := Except.ok.inj h
      rfl
    rw [if_neg hlate] at h ⊢
    by_cases hdone : sequence ∉ s.messageHandlers
    · rw [if_pos hdone] at h ⊢
      obtain ⟨-, rfl, -⟩ := Except.ok.inj h
      rfl
    rw [if_neg hdone] at h ⊢
    cases poll with
    | timeout =>
      obtain ⟨-, rfl, -⟩ := Except.ok.inj h
      rfl
    | error =>
      obtain ⟨-, rfl, -⟩ := Except.ok.inj h
      rfl
    | ready read elapsed =>
      obtain ⟨next, hreceive, hloop⟩ := Runs.bind_eq_ok.mp h
      rw [ih hloop, buffer_receive hreceive, List.foldl_append]
      simp only [hreceive]

end Buffer

end BufferHandlers

/-- A call of `SendMessageAndGetResponses`, with what the socket answers. -/
structure SyncRequest (H : Type) where
  sent : Bool
  packet : NL80211Packet
  handler : H
  polls : List Poll

def SyncRequest.run (env : Handlers H S) (request : SyncRequest H) (s : NetlinkState H S) :
    Exec (NetlinkState H S) := do
  let (_, s, _) ← sendMessageAndGetResponses env request.sent request.packet request.handler
    request.polls s
  return s

namespace BufferHandlers

def requestReads (env : BufferHandlers H S) (request : SyncRequest H) (s : NetlinkState H S) :
    List (List UInt8) :=
  if !request.sent then []
  else
    let sequence := request.packet.getMessageSequence
    env.responseReads sequence maximumNetlinkMessageWait request.polls
      { s with messageHandlers := s.messageHandlers.insert sequence request.handler }

/-- The reads of requests that are sent one after the other, each in view of what the ones
before it have brought. -/
def requestsReads (env : BufferHandlers H S) :
    List (NetlinkState H S → SyncRequest H) → NetlinkState H S → List (List UInt8)
  | [], _ => []
  | request :: rest, s =>
    env.requestReads (request s) s ++
      match (request s).run env.toHandlers s with
      | .ok s => env.requestsReads rest s
      | .error _ => []

section Requests
variable {env : BufferHandlers H S} {s t : NetlinkState H S}

theorem buffer_request {request : SyncRequest H} (h : request.run env.toHandlers s = .ok t) :
    t.receiveBuffer = (env.requestReads request s).foldl load s.receiveBuffer := by
  obtain ⟨⟨success, u, rest⟩, hsend, hu⟩ := Runs.bind_eq_ok.mp h
  obtain rfl : u = t := Except.ok.inj hu
  rw [sendMessageAndGetResponses] at hsend
  rw [requestReads]
  cases hsent : request.sent with
  | false =>
    rw [hsent] at hsend
    obtain ⟨-, rfl, -⟩ := Except.ok.inj hsend
    rfl
  | true =>
    rw [hsent] at hsend
    exact buffer_responseLoop hsend

theorem buffer_requests {requests : List (NetlinkState H S → SyncRequest H)}
    (h : requests.foldlM (fun s request => (request s).run env.toHandlers s) s = .ok t) :
    t.receiveBuffer = (env.requestsReads requests s).foldl load s.receiveBuffer := by
  induction requests generalizing s with
  | nil =>
    obtain rfl := Except.ok.inj h
    rfl
  | cons request rest ih =>
    obtain ⟨u, hrun, hrest⟩ := Runs.foldlM_cons_eq_ok.mp h
    rw [ih hrest, buffer_request hrun, requestsReads, List.foldl_append]
    simp only [hrun]

end Requests

/-- Handlers whose broadcast handler sends synchronous requests. The answers are received
with the handlers of the layer below. -/
def sending (env : BufferHandlers H S)
    (requests : NL80211Packet → NetlinkState H S → Exec (List (NetlinkState H S → SyncRequest H))) :
    BufferHandlers H S where
  broadcast packet s := do
    let requests ← requests packet s
    requests.foldlM (fun s request => (request s).run env.toHandlers s) s
  run := env.run
  broadcastReads packet s :=
    match requests packet s with
    | .ok requests => env.requestsReads requests s
    | .error _ => []
  runReads := env.runReads
  buffer_broadcast packet s t h := by
    obtain ⟨sent, hrequests, hrun⟩ := Runs.bind_eq_ok.mp h
    simp only [hrequests]
    exact buffer_requests hrun
  buffer_run := env.buffer_run

end BufferHandlers

/-- `AppendPacket`, with the response vector as the store. -/
def appending : BufferHandlers Unit (List NL80211Packet) where
  broadcast _ s := .ok s
  run _ packet s := .ok { s with store := s.store ++ [packet] }
  broadcastReads _ _ := []
  runReads _ _ _ := []
  buffer_broadcast _ _ _ h := by rw [← Except.ok.inj h]; rfl
  buffer_run _ _ _ _ h := by rw [← Except.ok.inj h]; rfl

/-- The clients of the registered interfaces take MLME events. An event that reports an
association makes the client ask for the scan results (`RefreshAssociateFreq`). -/
def refreshing (header : RequestHeader) (registered : List UInt32) (polls : List Poll) :
    BufferHandlers Unit (List NL80211Packet) :=
  appending.sending fun packet _ => do
    if packet.getMessageType ≠ header.familyId.toNat then return []
    else
      match ← NetlinkManager.mlmeEvent packet with
      | some (ifIndex, event) =>
        if ifIndex ∈ registered ∧ event.Succeeds then
          return [fun _ => ⟨true, ScanUtils.scanResultRequest header ifIndex, (), polls⟩]
        else return []
      | none => return []

section Pass
variable {env : Handlers H S} {len ptr n : ℕ} {s : NetlinkState H S} {m : Message}

/-- A broadcast is handed over exactly where its header is complete, its end is in the buffer
and its bytes stand there. -/
theorem fate_eq_broadcast_iff (hm : m.sequence = broadcastSequenceNumber) :
    fate len ptr s = .broadcast m.packet ↔ ptr + nlmsgHdrlen ≤ len ∧
      ptr + m.packet.data.length ≤ receiveBufferSize ∧
      bytesAt s.receiveBuffer ptr m.packet.data.length = m.packet.data := by
  constructor
  · intro h
    have hpacket : (fate len ptr s).packet? = some m.packet := by rw [h, Fate.packet?]
    obtain ⟨hroom, hinside, -, heq⟩ := fate_packet?_eq_some.mp hpacket
    have hlen := length_packetAt s.receiveBuffer ptr
    rw [← heq] at hlen
    rw [← hlen] at hinside
    refine ⟨hroom, hinside, ?_⟩
    rw [hlen, ← packetAt_data, ← heq]
  · intro h
    obtain ⟨hroom, hinside, hbytes⟩ := h
    rw [fate_of_valid hroom hinside (packetAt_of_bytesAt m hbytes) m.valid]
    exact if_pos hm

theorem fate_eq_broadcast_of_packet? (hm : m.sequence = broadcastSequenceNumber)
    (h : handedOver len (ptr, s) = some m.packet) : fate len ptr s = .broadcast m.packet := by
  obtain ⟨hroom, hinside, hwanted, heq⟩ := fate_packet?_eq_some.mp h
  rw [← length_packetAt, ← heq] at hinside
  rw [fate_of_valid hroom hinside heq.symm m.valid]
  exact if_pos hm

/-- Where no packet is handed over, the call is at its end. -/
theorem visited_of_not_handedOver (h : handedOver len (ptr, s) = none) :
    visited (receiveStep env len) (n + 1) (ptr, s) = [(ptr, s)] := by
  obtain ⟨result, hleave⟩ : ∃ result, receiveStep env len (ptr, s) = .inr result := by
    rw [receiveStep]
    split_ifs
    · cases hfate : fate len ptr s with
      | leave => exact ⟨_, rfl⟩
      | outOfRange => exact ⟨_, rfl⟩
      | finish sequenceNumber => exact ⟨_, rfl⟩
      | broadcast packet => simp [handedOver, hfate, Fate.packet?] at h
      | handle sequenceNumber handler packet => simp [handedOver, hfate, Fate.packet?] at h
    · exact ⟨_, rfl⟩
  exact visited_succ_leave hleave n

theorem receiveStep_of_broadcast (h : fate len ptr s = .broadcast m.packet) :
    receiveStep env len (ptr, s) =
      goOn (ptr + m.packet.data.length) (env.broadcast m.packet s) := by
  have hpacket : (fate len ptr s).packet? = some m.packet := by rw [h, Fate.packet?]
  have hroom := (fate_packet?_eq_some.mp hpacket).1
  simp only [receiveStep, if_pos (lt_of_header_fits hroom), h]

end Pass

namespace BufferHandlers
variable {env : BufferHandlers H S} {len start : ℕ} {messages : List Message}
  {s : NetlinkState H S} {m : Message}

/-- The reads of the handlers of some broadcasts, one after the other. -/
def nestedReads (env : BufferHandlers H S) :
    List Message → NetlinkState H S → List (List UInt8)
  | [], _ => []
  | m :: messages, s =>
    env.broadcastReads m.packet s ++
      match env.broadcast m.packet s with
      | .ok s => env.nestedReads messages s
      | .error _ => []

/-- The handlers of some broadcasts return, one after the other. -/
def Return (env : BufferHandlers H S) (messages : List Message) (s : NetlinkState H S) : Prop :=
  ∃ t, messages.foldlM (fun s m => env.broadcast m.packet s) s = .ok t

theorem return_of_isOk
    (h : (messages.foldlM (fun s m => env.broadcast m.packet s) s).isOk = true) :
    env.Return messages s := by
  cases hrun : messages.foldlM (fun s m => env.broadcast m.packet s) s with
  | error fault => simp [hrun, Except.isOk, Except.toBool] at h
  | ok t => exact ⟨t, hrun⟩

/-- Every message was received, its header in the datagram and its end in the buffer, and the
handlers of the messages before it return and leave its bytes there, with what they read. -/
def Intact (env : BufferHandlers H S) (len start : ℕ) (messages : List Message)
    (s : NetlinkState H S) : Prop :=
  ∀ pre m post, messages = pre ++ m :: post →
    (start + (datagram pre).length + nlmsgHdrlen ≤ len ∧
      start + (datagram pre).length + m.packet.data.length ≤ receiveBufferSize) ∧
    env.Return pre s ∧
    bytesAt ((env.nestedReads pre s).foldl load s.receiveBuffer) (start + (datagram pre).length)
      m.packet.data.length = m.packet.data

theorem intact_cons : env.Intact len start (m :: messages) s ↔
    (start + nlmsgHdrlen ≤ len ∧ start + m.packet.data.length ≤ receiveBufferSize ∧
      bytesAt s.receiveBuffer start m.packet.data.length = m.packet.data) ∧
    (messages = [] ∨ ∃ t, env.broadcast m.packet s = .ok t ∧
      env.Intact len (start + m.packet.data.length) messages t) := by
  have hstart (pre : List Message) : start + (datagram (m :: pre)).length =
      start + m.packet.data.length + (datagram pre).length := by
    simp [datagram, Nat.add_assoc]
  rw [Intact, Runs.forall_split_cons_iff]
  simp only [hstart]
  refine and_congr ?_ ?_
  · rw [and_assoc]
    refine and_congr Iff.rfl (and_congr Iff.rfl (and_iff_right ⟨s, rfl⟩))
  · cases hbroadcast : env.broadcast m.packet s with
    | error fault =>
      have hnone (pre : List Message) : ¬ env.Return (m :: pre) s := by
        rintro ⟨t, hreturn⟩
        obtain ⟨u, hu, -⟩ := Runs.foldlM_cons_eq_ok.mp hreturn
        simp [hbroadcast] at hu
      simp only [hnone, false_and, and_false, imp_false, reduceCtorEq, exists_false, or_false]
      constructor
      · intro h
        cases messages with
        | nil => rfl
        | cons m' messages => exact absurd rfl (h [] m' messages)
      · rintro rfl pre b post hsplit
        simp at hsplit
    | ok t =>
      have hreads (pre : List Message) : (env.nestedReads (m :: pre) s).foldl load s.receiveBuffer =
          (env.nestedReads pre t).foldl load t.receiveBuffer := by
        rw [nestedReads, List.foldl_append, ← env.buffer_broadcast m.packet s t hbroadcast]
        simp only [hbroadcast]
      have hreturn (pre : List Message) : env.Return (m :: pre) s ↔ env.Return pre t := by
        simp only [Return, Runs.foldlM_cons_eq_ok, hbroadcast, Except.ok.injEq, exists_eq_left']
      simp only [hreads, hreturn, Except.ok.injEq, exists_eq_left']
      constructor
      · exact .inr
      · rintro (rfl | h)
        · intro pre b post hsplit
          simp at hsplit
        · exact h

theorem bytesAt_load_of_length_le (buffer : ReceiveBuffer) {bytes : List UInt8} {start : ℕ}
    (h : bytes.length ≤ start) (n : ℕ) :
    bytesAt (load buffer bytes) start n = bytesAt buffer start n := by
  apply List.map_congr_left
  intro i _
  have hout : bytes[start + i]? = none := List.getElem?_eq_none (by omega)
  rw [byteAt, byteAt]
  split_ifs
  · rw [load, hout, Option.getD_none]
  · rfl

theorem bytesAt_foldl_load_of_length_le (buffer : ReceiveBuffer) {reads : List (List UInt8)}
    {start : ℕ} (h : ∀ read ∈ reads, read.length ≤ start) (n : ℕ) :
    bytesAt (reads.foldl load buffer) start n = bytesAt buffer start n := by
  induction reads generalizing buffer with
  | nil => rfl
  | cons read reads ih =>
    rw [List.foldl_cons, ih _ fun r hr => h r (by simp [hr]),
      bytesAt_load_of_length_le buffer (h read (by simp))]

/-- Handlers that return, with nested reads that are no longer than what the call has come
past, do no harm. -/
theorem intact_of_short_reads (hfit : (datagram messages).length ≤ receiveBufferSize) :
    let bytes := (datagram messages).take receiveBufferSize
    (∀ pre m post, messages = pre ++ m :: post → env.Return pre (s.read bytes) ∧
      ∀ read ∈ env.nestedReads pre (s.read bytes), read.length ≤ (datagram pre).length) →
    env.Intact bytes.length 0 messages (s.read bytes) := by
  intro bytes hshort pre m post hsplit
  obtain ⟨hreturn, hreads⟩ := hshort pre m post hsplit
  have hheader := m.header_le
  have hbytes : bytes = datagram pre ++ (m.packet.data ++ datagram post) := by
    rw [show bytes = datagram messages from List.take_of_length_le hfit, hsplit]
    simp [datagram]
  have hlen : bytes.length ≤ receiveBufferSize := List.length_take_le _ _
  have hsum : bytes.length =
      (datagram pre).length + (m.packet.data.length + (datagram post).length) := by
    rw [hbytes, List.length_append, List.length_append]
  have hinside : (datagram pre).length + m.packet.data.length ≤ receiveBufferSize := by omega
  rw [Nat.zero_add]
  refine ⟨⟨by omega, hinside⟩, hreturn, ?_⟩
  rw [bytesAt_foldl_load_of_length_le _ hreads]
  show bytesAt (load s.receiveBuffer bytes) _ _ = _
  rw [hbytes, bytesAt_load _ _ _ _ hinside]

/-- The loop from a message on hands over exactly this and the following messages if and only
if they are intact. -/
theorem visited_packets_iff (hb : ∀ m ∈ messages, m.sequence = broadcastSequenceNumber)
    (hend : len ≤ start + (datagram messages).length) {n : ℕ} (hn : messages.length < n) :
    (visited (receiveStep env.toHandlers len) n (start, s)).filterMap (handedOver len) =
        messages.map Message.packet ↔
      env.Intact len start messages s := by
  induction messages generalizing start s n with
  | nil =>
    obtain ⟨n, rfl⟩ : ∃ k, n = k + 1 := ⟨n - 1, by omega⟩
    have hroom : ¬ start + nlmsgHdrlen ≤ len := fun hroom =>
      not_lt.mpr hend (by simpa [datagram] using lt_of_header_fits hroom)
    have hnone : handedOver len (start, s) = none := by
      rw [handedOver]
      have hfate : fate len start s = .leave := by simp [fate, not_le.mp hroom]
      rw [hfate]
      rfl
    rw [visited_of_not_handedOver hnone]
    simp [hnone, Intact]
  | cons m messages ih =>
    obtain ⟨n, rfl⟩ : ∃ k, n = k + 1 := ⟨n - 1, by omega⟩
    have hm := hb m (by simp)
    rw [intact_cons, ← fate_eq_broadcast_iff hm]
    by_cases hfate : fate len start s = .broadcast m.packet
    · have hpacket : handedOver len (start, s) = some m.packet := by
        rw [handedOver, hfate, Fate.packet?]
      have hstep : receiveStep env.toHandlers len (start, s) = _ := receiveStep_of_broadcast hfate
      rw [and_iff_right hfate]
      cases hbroadcast : env.broadcast m.packet s with
      | error fault =>
        rw [hbroadcast] at hstep
        rw [visited_succ_leave hstep, List.filterMap_cons_some hpacket, List.map_cons,
          List.cons_inj_right]
        simp only [reduceCtorEq, false_and, exists_false, or_false]
        exact ⟨fun h => List.map_eq_nil_iff.mp h.symm, fun h => (List.map_eq_nil_iff.mpr h).symm⟩
      | ok t =>
        rw [hbroadcast] at hstep
        have hrest := @ih (start + m.packet.data.length) t (fun k hk => hb k (by simp [hk]))
          (by simpa [datagram, Nat.add_assoc] using hend) n (by simpa using hn)
        rw [visited_succ_continue hstep, List.filterMap_cons_some hpacket, List.map_cons,
          List.cons_inj_right, hrest]
        simp only [Except.ok.injEq, exists_eq_left']
        refine ⟨.inr, ?_⟩
        rintro (rfl | h)
        · simp [Intact]
        · exact h
    · refine iff_of_false (fun heq => hfate ?_) fun h => hfate h.1
      cases hpacket : handedOver len (start, s) with
      | none =>
        rw [visited_of_not_handedOver hpacket] at heq
        simp [hpacket] at heq
      | some packet =>
        rw [visited, List.filterMap_cons_some hpacket, List.map_cons] at heq
        obtain rfl := (List.cons.inj heq).1
        exact fate_eq_broadcast_of_packet? hm hpacket

/-- A call hands over exactly the broadcasts of its own datagram, once each and in order, if
and only if nested reads leave the bytes of every message until the call has come to it. -/
theorem dispatched_datagram_iff (env : BufferHandlers H S) (messages : List Message)
    (s : NetlinkState H S) (hb : ∀ m ∈ messages, m.sequence = broadcastSequenceNumber) :
    let bytes := (datagram messages).take receiveBufferSize
    dispatched env.toHandlers bytes s = messages.map Message.packet ↔
      env.Intact bytes.length 0 messages (s.read bytes) := by
  intro bytes
  have hend : bytes.length ≤ 0 + (datagram messages).length := by
    simp [bytes]
  have hn : messages.length < bytes.length + 1 + messages.length := by omega
  rw [← visited_packets_iff hb hend hn, dispatched,
    visited_add (run_receiveStep_isSome env.toHandlers bytes.length (s.read bytes))]

/-- The answer is a done message of twenty bytes, which the call has come past. -/
theorem dispatched_with_short_answer :
    let roamEvent : Message := ⟨⟨[28, 0, 0, 0, 19, 0, 0, 0, 0, 0, 0, 0, 0, 0, 0, 0, 47, 1, 0, 0,
      8, 0, 3, 0, 7, 0, 0, 0]⟩, by decide, by decide⟩
    let scanEvent : Message := ⟨⟨[28, 0, 0, 0, 19, 0, 0, 0, 0, 0, 0, 0, 0, 0, 0, 0, 34, 1, 0, 0,
      8, 0, 3, 0, 7, 0, 0, 0]⟩, by decide, by decide⟩
    let answer : List UInt8 := [20, 0, 0, 0, 3, 0, 2, 0, 5, 0, 0, 0, 0, 0, 0, 0, 0, 0, 0, 0]
    dispatched (refreshing ⟨19, 5, 77⟩ [7] [.ready (some answer) 1]).toHandlers
      ((datagram [roamEvent, scanEvent]).take receiveBufferSize) ⟨fun _ => 0, ∅, []⟩ =
        [roamEvent.packet, scanEvent.packet] := by
  intro roamEvent scanEvent answer
  refine (dispatched_datagram_iff _ [roamEvent, scanEvent] _ (by decide)).mpr
    (intact_of_short_reads (by decide) ?_)
  intro pre m post hsplit
  match pre with
  | [] => exact ⟨⟨_, rfl⟩, by simp [nestedReads]⟩
  | [first] =>
    obtain ⟨rfl, -⟩ := List.cons.inj hsplit
    exact ⟨return_of_isOk (by decide), by decide⟩
  | first :: second :: pre =>
    have hlen := congrArg List.length hsplit
    simp at hlen

/-- A scan result and the done message reach into the event behind the one that is handled,
and the call ends on what it finds there. -/
theorem broadcast_lost_to_nested_read :
    let roamEvent : Message := ⟨⟨[28, 0, 0, 0, 19, 0, 0, 0, 0, 0, 0, 0, 0, 0, 0, 0, 47, 1, 0, 0,
      8, 0, 3, 0, 7, 0, 0, 0]⟩, by decide, by decide⟩
    let scanEvent : Message := ⟨⟨[28, 0, 0, 0, 19, 0, 0, 0, 0, 0, 0, 0, 0, 0, 0, 0, 34, 1, 0, 0,
      8, 0, 3, 0, 7, 0, 0, 0]⟩, by decide, by decide⟩
    let answer : List UInt8 := [28, 0, 0, 0, 19, 0, 2, 0, 5, 0, 0, 0, 0, 0, 0, 0, 34, 1, 0, 0,
      8, 0, 3, 0, 7, 0, 0, 0, 20, 0, 0, 0, 3, 0, 2, 0, 5, 0, 0, 0, 0, 0, 0, 0, 0, 0, 0, 0]
    let bytes := (datagram [roamEvent, scanEvent]).take receiveBufferSize
    let env := refreshing ⟨19, 5, 77⟩ [7] [.ready (some answer) 1]
    dispatched env.toHandlers bytes ⟨fun _ => 0, ∅, []⟩ = [roamEvent.packet] ∧
      dispatched env.toHandlers bytes ⟨fun _ => 0, ∅, []⟩ ≠
        [roamEvent, scanEvent].map Message.packet := by
  intro roamEvent scanEvent answer bytes env
  have hlost : dispatched env.toHandlers bytes ⟨fun _ => 0, ∅, []⟩ = [roamEvent.packet] := by
    decide
  refine ⟨hlost, fun heq => ?_⟩
  rw [hlost] at heq
  simp at heq

end BufferHandlers

end Wificond
