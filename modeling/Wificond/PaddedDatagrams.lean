import Wificond.NestedReceive

/-!
# Padded messages

Netlink lays the messages of a datagram out on word boundaries. The loop goes from a message
to the next by its bare length, so the padding of a message is taken for the start of the
one behind it, whose length then begins with zeros.
-/
namespace Wificond

open LittleEndian PaddedTlv StepLoop

namespace Message

/-- The message with the zeros behind it, up to the next word boundary. -/
def padded (m : Message) : List UInt8 :=
  m.packet.data ++ List.replicate (align4 m.packet.data.length - m.packet.data.length) 0

/-- A part of the multipart answer of this sequence. -/
structure IsPart (m : Message) (sequence : ℕ) : Prop where
  sequence_eq : m.sequence = sequence
  multi : m.multi = true
  notControl : ¬ IsControl m.type

instance (m : Message) (sequence : ℕ) : Decidable (m.IsPart sequence) :=
  decidable_of_iff (m.sequence = sequence ∧ m.multi = true ∧ ¬ IsControl m.type)
    ⟨fun h => ⟨h.1, h.2.1, h.2.2⟩, fun h => ⟨h.sequence_eq, h.multi, h.notControl⟩⟩

theorem length_padded (m : Message) : m.padded.length = align4 m.packet.data.length := by
  have hle := le_align4 m.packet.data.length
  simp only [padded, List.length_append, List.length_replicate]
  omega

theorem padded_of_dvd {m : Message} (h : 4 ∣ m.packet.data.length) : m.padded = m.packet.data := by
  simp [padded, align4_of_dvd h]

end Message

/-- The datagram of these messages. -/
def paddedDatagram (messages : List Message) : List UInt8 := messages.flatMap Message.padded

/-- Every message but the last ends on a word boundary by itself. -/
def WordAligned (messages : List Message) : Prop :=
  ∀ m ∈ messages.dropLast, 4 ∣ m.packet.data.length

instance (messages : List Message) : Decidable (WordAligned messages) :=
  inferInstanceAs (Decidable (∀ m ∈ messages.dropLast, _))

/-- The header of every message was received, the buffer has room for the message, and its
bytes stand in their place: what was cut off of the last one is there already. -/
def ReceivedWhole (buffer : ReceiveBuffer) (len start : ℕ) (messages : List Message) : Prop :=
  ∀ pre m post, messages = pre ++ m :: post →
    start + (paddedDatagram pre).length + nlmsgHdrlen ≤ len ∧
      start + (paddedDatagram pre).length + m.packet.data.length ≤ receiveBufferSize ∧
      bytesAt buffer (start + (paddedDatagram pre).length) m.packet.data.length = m.packet.data

section Conditions
variable {buffer : ReceiveBuffer} {len start : ℕ} {m : Message} {messages : List Message}

theorem wordAligned_cons_cons {m' : Message} : WordAligned (m :: m' :: messages) ↔
    4 ∣ m.packet.data.length ∧ WordAligned (m' :: messages) := by
  simp [WordAligned]

theorem wordAligned_cons_of_dvd (h : 4 ∣ m.packet.data.length) :
    WordAligned (m :: messages) ↔ WordAligned messages := by
  cases messages with
  | nil => simp [WordAligned]
  | cons m' messages =>
    rw [wordAligned_cons_cons]
    exact and_iff_right h

theorem receivedWhole_cons : ReceivedWhole buffer len start (m :: messages) ↔
    (start + nlmsgHdrlen ≤ len ∧ start + m.packet.data.length ≤ receiveBufferSize ∧
        bytesAt buffer start m.packet.data.length = m.packet.data) ∧
      ReceivedWhole buffer len (start + m.padded.length) messages := by
  have hstart (pre : List Message) : start + (paddedDatagram (m :: pre)).length =
      start + m.padded.length + (paddedDatagram pre).length := by
    simp [paddedDatagram, Nat.add_assoc]
  rw [ReceivedWhole, Runs.forall_split_cons_iff]
  simp only [hstart]
  rfl

end Conditions

/-- The length of a message does not begin with zeros all through: moved by a few zero bytes
it is not the length of the same message. -/
theorem packetAt_padding_ne {buffer : ReceiveBuffer} {ptr p : ℕ} {tail : List UInt8} (m : Message)
    (hp : 0 < p) (hbytes : ∀ i < 4, byteAt buffer (ptr + i) =
      (List.replicate p 0 ++ (m.packet.data ++ tail)).getD i 0) :
    packetAt buffer ptr ≠ m.packet := by
  intro hpacket
  have hheader : 16 ≤ m.packet.data.length := m.header_le
  have hdata : m.packet.data = bytesAt buffer ptr m.packet.data.length := by
    have hlen := length_packetAt buffer ptr
    rw [hpacket] at hlen
    rw [hlen, ← packetAt_data, hpacket]
  have hread : ∀ i < 4, m.packet.data.getD i 0 = byteAt buffer (ptr + i) := by
    intro i hi
    have hlt : i < m.packet.data.length := by omega
    rw [hdata]
    simp [bytesAt, hlt]
  have hzero : ∀ i < 4, m.packet.data.getD i 0 = 0 := by
    intro i
    induction i using Nat.strong_induction_on with
    | h i ih =>
      intro hi
      rw [hread i hi, hbytes i hi, List.getD_eq_getElem?_getD]
      by_cases hip : i < p
      · rw [List.getElem?_append_left (by simpa using hip)]
        simp [hip]
      · rw [List.getElem?_append_right (by simpa using hip), List.length_replicate,
          List.getElem?_append_left (by omega), ← List.getD_eq_getElem?_getD]
        exact ih (i - p) (by omega) (by omega)
  have hlen : nlmsgLen m.packet.data 0 = 0 := by
    have htake : m.packet.data.take 4 = [0, 0, 0, 0] := by
      apply List.ext_getElem
      · simp
        omega
      · intro i hi hi'
        have hfour : i < 4 := by simpa using hi'
        have hlt : i < m.packet.data.length := by omega
        have hat := hzero i hfour
        rw [List.getD_eq_getElem?_getD, List.getElem?_eq_getElem hlt, Option.getD_some] at hat
        have hcases : i = 0 ∨ i = 1 ∨ i = 2 ∨ i = 3 := by omega
        rcases hcases with rfl | rfl | rfl | rfl <;> simpa using hat
    rw [nlmsgLen, field, List.drop_zero, htake]
    rfl
  rw [m.length_eq] at hlen
  omega

variable {H : Type} {len ptr n : ℕ} {s t : NetlinkState H (List (Delivery H))}

theorem store_of_leave (h : receiveStep recording len (ptr, s) = .inr (.ok t)) :
    t.store = s.store := by
  simp only [receiveStep] at h
  split_ifs at h
  · split at h
    · rw [← Except.ok.inj (Sum.inr.inj h)]
    · cases h
    · rw [← Except.ok.inj (Sum.inr.inj h)]
      rfl
    · cases h
    · -- the recording handlers always return
      unfold afterHandler at h
      cases h
  · rw [← Except.ok.inj (Sum.inr.inj h)]

/-- A pass that goes round delivers the packet at its place. -/
theorem store_of_continue {ptr' : ℕ} {s' : NetlinkState H (List (Delivery H))}
    (h : receiveStep recording len (ptr, s) = .inl (ptr', s')) :
    Admitted s.receiveBuffer len ptr ∧ ∃ delivery, s'.store = s.store ++ [delivery] ∧
      (delivery = .broadcast (packetAt s.receiveBuffer ptr) ∨
        ∃ handler, delivery = .handler handler (packetAt s.receiveBuffer ptr)) := by
  obtain ⟨hadmitted, -, ⟨-, hreturns⟩ | ⟨handler, -, -, -, hreturns⟩⟩ := receiveStep_eq_inl.mp h
  · rw [← Except.ok.inj hreturns]
    exact ⟨hadmitted, _, rfl, .inl rfl⟩
  · rw [← Except.ok.inj hreturns]
    refine ⟨hadmitted, .handler handler (packetAt s.receiveBuffer ptr), ?_, .inr ⟨handler, rfl⟩⟩
    split_ifs <;> rfl

/-- What has been delivered stays delivered. -/
theorem prefix_of_run (h : run (receiveStep recording len) n (ptr, s) = some (.ok t)) :
    s.store <+: t.store := by
  induction n generalizing ptr s with
  | zero => simp [run] at h
  | succ n ih =>
    cases hstep : receiveStep recording len (ptr, s) with
    | inl next =>
      obtain ⟨ptr', s'⟩ := next
      obtain ⟨-, delivery, hstore, -⟩ := store_of_continue hstep
      rw [run_succ_continue hstep] at h
      exact List.IsPrefix.trans (by rw [hstore]; exact List.prefix_append _ _) (ih h)
    | inr last =>
      rw [run_succ_leave hstep, Option.some.injEq] at h
      rw [h] at hstep
      rw [store_of_leave hstep]

/-- Where there is no header to read, the loop ends with what was delivered before. -/
theorem run_of_header_cut {result : Exec (NetlinkState H (List (Delivery H)))}
    (hend : ¬ ptr + nlmsgHdrlen ≤ len)
    (h : run (receiveStep recording len) n (ptr, s) = some result) : result = .ok s := by
  cases n with
  | zero => simp [run] at h
  | succ n =>
    rw [run_succ_leave (receiveStep_of_header_cut recording s hend), Option.some.injEq] at h
    exact h.symm

/-- What is delivered first is the packet at the place where the loop is. -/
theorem first_of_run {handler : H} {packet : NL80211Packet} {rest : List (Delivery H)}
    (h : run (receiveStep recording len) n (ptr, s) = some (.ok t))
    (hstore : t.store = s.store ++ .handler handler packet :: rest) :
    Admitted s.receiveBuffer len ptr ∧ packetAt s.receiveBuffer ptr = packet := by
  cases n with
  | zero => simp [run] at h
  | succ n =>
    cases hstep : receiveStep recording len (ptr, s) with
    | inl next =>
      obtain ⟨ptr', s'⟩ := next
      obtain ⟨hadmitted, delivery, hnext, hdelivery⟩ := store_of_continue hstep
      rw [run_succ_continue hstep] at h
      have hprefix := prefix_of_run h
      rw [hnext, hstore, List.prefix_append_right_inj] at hprefix
      have hsame : delivery = .handler handler packet := by
        simpa using hprefix
      refine ⟨hadmitted, ?_⟩
      rcases hdelivery with rfl | ⟨other, rfl⟩
      · cases hsame
      · exact (Delivery.handler.inj hsame).2
    | inr last =>
      rw [run_succ_leave hstep, Option.some.injEq] at h
      rw [h] at hstep
      rw [store_of_leave hstep] at hstore
      simp at hstore

/-- The bytes of the datagram stand in the buffer from `start` on, as far as they were received. -/
structure LaidOut (buffer : ReceiveBuffer) (len start : ℕ) (bytes : List UInt8) : Prop where
  len_le : len ≤ start + bytes.length
  at_eq : ∀ i, start + i < len → byteAt buffer (start + i) = bytes.getD i 0

theorem LaidOut.drop {buffer : ReceiveBuffer} {len start : ℕ} {bytes rest : List UInt8}
    (h : LaidOut buffer len start (bytes ++ rest)) :
    LaidOut buffer len (start + bytes.length) rest where
  len_le := by simpa [Nat.add_assoc] using h.len_le
  at_eq i hi := by
    rw [Nat.add_assoc] at hi ⊢
    rw [h.at_eq _ hi, List.getD_eq_getElem?_getD, List.getElem?_append_right (by omega),
      Nat.add_sub_cancel_left, List.getD_eq_getElem?_getD]

/-- A part of the answer that stands in its place is delivered, and the loop goes on by its
bare length. -/
theorem receiveStep_of_part {m : Message} {sequence : ℕ} {handler : H}
    (hsequence : sequence ≠ broadcastSequenceNumber)
    (hwaits : s.messageHandlers[sequence]? = some handler) (hpart : m.IsPart sequence)
    (hroom : ptr + nlmsgHdrlen ≤ len) (hinside : ptr + m.packet.data.length ≤ receiveBufferSize)
    (hbytes : bytesAt s.receiveBuffer ptr m.packet.data.length = m.packet.data) :
    receiveStep recording len (ptr, s) = .inl (ptr + m.packet.data.length,
      { s with store := s.store ++ [.handler handler m.packet] }) := by
  have hseq : m.packet.getMessageSequence = sequence := hpart.sequence_eq
  have hmulti : m.packet.isMulti = true := hpart.multi
  have hcontrol : ¬ IsControl m.packet.getMessageType := hpart.notControl
  have hfate := fate_of_valid hroom hinside (packetAt_of_bytesAt m hbytes) m.valid
  rw [hseq, if_neg hsequence, hwaits] at hfate
  dsimp only at hfate
  rw [if_neg hcontrol] at hfate
  simp only [receiveStep, if_pos (lt_of_header_fits hroom), hfate, afterHandler, hmulti, if_true,
    recording, bind, Except.bind, pure, Except.pure, goOn]

/-- Behind the last part there is no room for a header, but for padding. -/
theorem header_cut_behind_last {buffer : ReceiveBuffer} {m : Message}
    (hlaid : LaidOut buffer len ptr (paddedDatagram [m])) :
    ¬ ptr + m.packet.data.length + nlmsgHdrlen ≤ len := by
  intro hroom
  have hlen := hlaid.len_le
  simp only [paddedDatagram, List.flatMap_cons, List.flatMap_nil, List.append_nil,
    Message.length_padded, align4] at hlen
  unfold nlmsgHdrlen at hroom
  omega

/-- Behind a part that does not end on a word boundary the next header is read from the padding
on, and is not that of the next part. -/
theorem store_ne_behind_padding {m m' : Message} {messages : List Message} {handler : H}
    {rest : List (Delivery H)}
    (hlaid : LaidOut s.receiveBuffer len ptr (paddedDatagram (m :: m' :: messages)))
    (hword : ¬ 4 ∣ m.packet.data.length)
    (hrun : run (receiveStep recording len) n (ptr + m.packet.data.length, s) = some (.ok t)) :
    t.store ≠ s.store ++ .handler handler m'.packet :: rest := by
  intro hstore
  obtain ⟨⟨hroom, -⟩, hpacket⟩ := first_of_run hrun hstore
  let p := align4 m.packet.data.length - m.packet.data.length
  let p' := align4 m'.packet.data.length - m'.packet.data.length
  have hp : 0 < p := by
    simp only [p, align4]
    omega
  have hbytes : paddedDatagram (m :: m' :: messages) = m.packet.data ++
      (List.replicate p 0 ++
        (m'.packet.data ++ (List.replicate p' 0 ++ paddedDatagram messages))) := by
    simp [paddedDatagram, Message.padded, p, p']
  rw [hbytes] at hlaid
  refine packetAt_padding_ne m' hp (fun i hi => hlaid.drop.at_eq i ?_) hpacket
  unfold nlmsgHdrlen at hroom
  omega

theorem exists_of_map_store_eq {result : Exec (NetlinkState H (List (Delivery H)))}
    {deliveries : List (Delivery H)} (h : result.map NetlinkState.store = .ok deliveries) :
    ∃ t, result = .ok t ∧ t.store = deliveries := by
  cases result with
  | error fault => cases h
  | ok t => exact ⟨t, rfl, Except.ok.inj h⟩

theorem run_store_iff {messages : List Message} {sequence : ℕ} {handler : H}
    {result : Exec (NetlinkState H (List (Delivery H)))}
    (hsequence : sequence ≠ broadcastSequenceNumber)
    (hwaits : s.messageHandlers[sequence]? = some handler)
    (hparts : ∀ m ∈ messages, m.IsPart sequence)
    (hlaid : LaidOut s.receiveBuffer len ptr (paddedDatagram messages))
    (hrun : run (receiveStep recording len) n (ptr, s) = some result) :
    result.map NetlinkState.store =
        .ok (s.store ++ messages.map (fun m => .handler handler m.packet)) ↔
      WordAligned messages ∧ ReceivedWhole s.receiveBuffer len ptr messages := by
  induction messages generalizing ptr s n with
  | nil =>
    have hend : ¬ ptr + nlmsgHdrlen ≤ len := fun hroom => by
      have hlt := lt_of_header_fits hroom
      have hle : len ≤ ptr := by simpa [paddedDatagram] using hlaid.len_le
      omega
    rw [run_of_header_cut hend hrun]
    exact iff_of_true (by simp [Except.map]) ⟨by simp [WordAligned], by simp [ReceivedWhole]⟩
  | cons m messages ih =>
    rw [receivedWhole_cons]
    by_cases hwhole : ptr + nlmsgHdrlen ≤ len ∧ ptr + m.packet.data.length ≤ receiveBufferSize ∧
        bytesAt s.receiveBuffer ptr m.packet.data.length = m.packet.data
    · obtain ⟨hroom, hinside, hbytes⟩ := hwhole
      have hstep :=
        receiveStep_of_part hsequence hwaits (hparts m (by simp)) hroom hinside hbytes
      cases n with
      | zero => simp [run] at hrun
      | succ n =>
        let next : NetlinkState H (List (Delivery H)) :=
          { s with store := s.store ++ [.handler handler m.packet] }
        replace hrun : run (receiveStep recording len) n (ptr + m.packet.data.length, next) =
            some result := by
          rwa [run_succ_continue hstep] at hrun
        by_cases hword : 4 ∣ m.packet.data.length
        · have hrest : LaidOut s.receiveBuffer len (ptr + m.packet.data.length)
              (paddedDatagram messages) := by
            rw [← Message.padded_of_dvd hword]
            exact hlaid.drop
          have hiff := ih (s := next) hwaits (fun k hk => hparts k (by simp [hk])) hrest hrun
          rw [wordAligned_cons_of_dvd hword, Message.padded_of_dvd hword,
            and_iff_right (⟨hroom, hinside, hbytes⟩ : _ ∧ _ ∧ _), ← hiff]
          simp [next]
        · cases messages with
          | nil =>
            have hend : ¬ ptr + m.packet.data.length + nlmsgHdrlen ≤ len :=
              header_cut_behind_last hlaid
            rw [run_of_header_cut hend hrun]
            refine iff_of_true (by simp [next, Except.map])
              ⟨by simp [WordAligned], ⟨hroom, hinside, hbytes⟩, by simp [ReceivedWhole]⟩
          | cons m' messages =>
            refine iff_of_false (fun hstore => ?_) fun h => hword (wordAligned_cons_cons.mp h.1).1
            obtain ⟨t, rfl, hdelivered⟩ := exists_of_map_store_eq hstore
            have hsecond : t.store = next.store ++ .handler handler m'.packet ::
                messages.map (fun m => .handler handler m.packet) := by
              simp [hdelivered, next]
            exact store_ne_behind_padding (s := next) hlaid hword hrun hsecond
    · refine iff_of_false (fun hstore => hwhole ?_) fun h => hwhole h.2.1
      obtain ⟨t, rfl, hdelivered⟩ := exists_of_map_store_eq hstore
      obtain ⟨⟨hroom, hinside, -⟩, hpacket⟩ := first_of_run hrun hdelivered
      rw [← length_packetAt] at hinside
      rw [hpacket] at hinside
      refine ⟨hroom, hinside, ?_⟩
      rw [← hpacket, length_packetAt, ← packetAt_data]

/-- A datagram that fits the buffer is received whole. -/
theorem receivedWhole_of_fits {messages : List Message}
    (hfit : (paddedDatagram messages).length ≤ receiveBufferSize) (buffer : ReceiveBuffer) :
    let bytes := (paddedDatagram messages).take receiveBufferSize
    ReceivedWhole (load buffer bytes) bytes.length 0 messages := by
  intro bytes pre m post hsplit
  have hheader := m.header_le
  let padding : List UInt8 :=
    List.replicate (align4 m.packet.data.length - m.packet.data.length) 0
  have hbytes : bytes = paddedDatagram pre ++
      (m.packet.data ++ (padding ++ paddedDatagram post)) := by
    rw [show bytes = paddedDatagram messages from List.take_of_length_le hfit, hsplit]
    simp [paddedDatagram, Message.padded, padding]
  have hlen : bytes.length ≤ receiveBufferSize := List.length_take_le _ _
  have hsum : bytes.length = (paddedDatagram pre).length +
      (m.packet.data.length + (padding ++ paddedDatagram post).length) := by
    rw [hbytes, List.length_append, List.length_append]
  have hinside : (paddedDatagram pre).length + m.packet.data.length ≤ receiveBufferSize := by
    omega
  rw [Nat.zero_add]
  refine ⟨by omega, hinside, ?_⟩
  rw [hbytes]
  exact bytesAt_load buffer _ m.packet.data _ hinside

/-- The parts of an answer in one datagram are all handed to the handler that waits for them,
in order and with their own bytes, exactly when all but the last end on a word boundary by
themselves and the messages were received. -/
theorem receive_padded_iff (messages : List Message) (s : NetlinkState H (List (Delivery H)))
    {sequence : ℕ} {handler : H} (hsequence : sequence ≠ broadcastSequenceNumber)
    (hwaits : s.messageHandlers[sequence]? = some handler)
    (hparts : ∀ m ∈ messages, m.IsPart sequence) :
    let bytes := (paddedDatagram messages).take receiveBufferSize
    (receivePacketAndRunHandler recording (some (paddedDatagram messages)) s).map
          NetlinkState.store =
        .ok (s.store ++ messages.map (fun m => .handler handler m.packet)) ↔
      WordAligned messages ∧
        ReceivedWhole (load s.receiveBuffer bytes) bytes.length 0 messages := by
  intro bytes
  have hlaid : LaidOut (s.read bytes).receiveBuffer bytes.length 0 (paddedDatagram messages) := by
    refine ⟨by simp [bytes], fun i hi => ?_⟩
    rw [Nat.zero_add] at hi ⊢
    have hbuffer : i < receiveBufferSize := by
      simp only [bytes, List.length_take] at hi
      omega
    have hsame : bytes[i]? = (paddedDatagram messages)[i]? := List.getElem?_take_of_lt hbuffer
    have hsome : bytes[i]?.isSome := by simpa using hi
    rw [byteAt, dif_pos hbuffer]
    show bytes[i]?.getD _ = _
    rw [List.getD_eq_getElem?_getD, ← hsame]
    obtain ⟨byte, hbyte⟩ := Option.isSome_iff_exists.mp hsome
    rw [hbyte, Option.getD_some, Option.getD_some]
  obtain ⟨result, hrun⟩ :=
    Option.isSome_iff_exists.mp (run_receiveStep_isSome recording bytes.length (s.read bytes))
  have hstore := run_store_iff (s := s.read bytes) hsequence hwaits hparts hlaid hrun
  have hcall : receivePacketAndRunHandler recording (some (paddedDatagram messages)) s =
      result := by
    rw [receivePacketAndRunHandler, walk, hrun]
  rw [hcall]
  exact hstore

/-- Two parts of twenty-four and twenty-one bytes: the padding of the last one does no harm. -/
theorem receive_padded_last_unaligned :
    let first : Message := ⟨⟨[24, 0, 0, 0, 19, 0, 2, 0, 5, 0, 0, 0, 0, 0, 0, 0, 34, 1, 0, 0,
      4, 0, 1, 0]⟩, by decide, by decide⟩
    let second : Message := ⟨⟨[21, 0, 0, 0, 19, 0, 2, 0, 5, 0, 0, 0, 0, 0, 0, 0, 34, 1, 0, 0,
      7]⟩, by decide, by decide⟩
    let s : NetlinkState ℕ (List (Delivery ℕ)) :=
      ⟨fun _ => 0, Std.ExtTreeMap.empty.insert 5 1, []⟩
    (receivePacketAndRunHandler recording (some (paddedDatagram [first, second])) s).map
        NetlinkState.store =
      .ok [.handler 1 first.packet, .handler 1 second.packet] := by
  intro first second s
  exact (receive_padded_iff [first, second] s (by decide : 5 ≠ broadcastSequenceNumber)
    (by decide) (by decide)).mpr ⟨by decide, receivedWhole_of_fits (by decide) s.receiveBuffer⟩

/-- A part of twenty-three bytes in front of one of twenty bytes, whose length is read as
twenty times 256: the second part is lost. -/
theorem part_lost_behind_padding :
    let first : Message := ⟨⟨[23, 0, 0, 0, 19, 0, 2, 0, 5, 0, 0, 0, 0, 0, 0, 0, 34, 1, 0, 0,
      7, 0, 1]⟩, by decide, by decide⟩
    let second : Message := ⟨⟨[20, 0, 0, 0, 19, 0, 2, 0, 5, 0, 0, 0, 0, 0, 0, 0, 34, 1, 0, 0]⟩,
      by decide, by decide⟩
    let s : NetlinkState ℕ (List (Delivery ℕ)) :=
      ⟨fun _ => 0, Std.ExtTreeMap.empty.insert 5 1, []⟩
    let poll := some (paddedDatagram [first, second])
    let result := (receivePacketAndRunHandler recording poll s).map NetlinkState.store
    (∀ m ∈ [first, second], m.IsPart 5) ∧ result = .ok [.handler 1 first.packet] ∧
      result ≠ .ok (s.store ++ [first, second].map fun m => .handler 1 m.packet) := by
  intro first second s poll result
  have hlost : result = .ok [.handler 1 first.packet] := by
    decide +kernel
  refine ⟨by decide, hlost, fun heq => ?_⟩
  rw [hlost, Except.ok.injEq] at heq
  exact absurd (congrArg List.length heq) (by decide)

end Wificond
