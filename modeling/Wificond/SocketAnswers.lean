import Wificond.SyncExchange

/-!
# Answers from the socket

What a synchronous request is answered with, as a function of the datagrams that arrive
while it waits. A stream closes the exchange of the request when the loop comes, in time,
to the message at which it gives up the handler, and no datagram leads it out of range; the
packets that it came to before are the answer. An answer arrives whole only in datagrams that
the receive buffer has room for.
-/
namespace Wificond

/-- The result of `SendMessageAndGetResponses` and the packets in the response vector. -/
abbrev Answer := Bool × List NL80211Packet

variable {H : Type}

/-- `SendMessageAndGetResponses` on a socket on which these datagrams arrive, with the state
behind it. -/
def exchangeOn (packet : NL80211Packet) (handler : H) (arrivals : List Arrival)
    (s : NetlinkState H (List (Delivery H))) : Exec (Answer × NetlinkState H (List (Delivery H))) :=
  do
    let (success, s', _) ← sendMessageAndGetResponses recording true packet handler
      (arrivals.map Arrival.poll) s
    return ((success, responses packet.getMessageSequence (s'.store.drop s.store.length)), s')

def answerFrom (packet : NL80211Packet) (handler : H) (arrivals : List Arrival)
    (s : NetlinkState H (List (Delivery H))) : Exec Answer :=
  (exchangeOn packet handler arrivals s).map Prod.fst

/-- The stream closes the exchange in time, and the loop came to `packets` of it. -/
inductive Closes (sequence : ℕ) :
    ℤ → Std.ExtTreeMap ℕ H → List Arrival → List NL80211Packet → Prop
  | last {time : ℤ} {table : Std.ExtTreeMap ℕ H} {elapsed : ℕ} {messages pre post : List Message}
      {e : Message} {rest : List Arrival} (hleft : (elapsed : ℤ) < time)
      (hrange : ¬ Overruns receiveBufferSize table messages)
      (hwhole : received receiveBufferSize messages = pre ++ e :: post)
      (hreached : pre ++ [e] <+: reached table (pre ++ e :: post))
      (hpre : ∀ m ∈ pre, ¬ Ends sequence m) (he : Ends sequence e) :
      Closes sequence time table (.datagram messages elapsed :: rest)
        (meant sequence pre ++ lastPart e)
  | readError {time : ℤ} {table : Std.ExtTreeMap ℕ H} {elapsed : ℕ} {rest : List Arrival}
      {packets : List NL80211Packet} (htime : 0 < time)
      (h : Closes sequence (time - elapsed) table rest packets) :
      Closes sequence time table (.readError elapsed :: rest) packets
  | more {time : ℤ} {table : Std.ExtTreeMap ℕ H} {elapsed : ℕ} {messages : List Message}
      {rest : List Arrival} {packets : List NL80211Packet} (htime : 0 < time)
      (hrange : ¬ Overruns receiveBufferSize table messages)
      (hnone : ∀ m ∈ reached table (received receiveBufferSize messages), ¬ Ends sequence m)
      (h : Closes sequence (time - elapsed)
        (dispatch table (received receiveBufferSize messages)).1 rest packets) :
      Closes sequence time table (.datagram messages elapsed :: rest)
        (meant sequence (reached table (received receiveBufferSize messages)) ++ packets)

section Closes
variable {sequence : ℕ} {time : ℤ} {table : Std.ExtTreeMap ℕ H} {arrivals : List Arrival}
  {packets : List NL80211Packet} {s : NetlinkState H (List (Delivery H))}

theorem Closes.time_pos (h : Closes sequence time table arrivals packets) : 0 < time := by
  cases h with
  | last hleft => omega
  | readError htime => exact htime
  | more htime => exact htime

theorem Closes.sequence_ne (h : Closes sequence time table arrivals packets) :
    sequence ≠ broadcastSequenceNumber := by
  induction h with
  | last _ _ _ _ _ he => exact he.1
  | readError _ _ ih => exact ih
  | more _ _ _ _ ih => exact ih

/-- A stream that closes the exchange makes the loop succeed with its packets. -/
theorem Closes.responseLoop (h : Closes sequence time table arrivals packets)
    (htable : s.messageHandlers = table) (hmem : sequence ∈ table) :
    ∃ s' polls appended,
      Wificond.responseLoop recording sequence time (arrivals.map Arrival.poll) s =
        .ok (true, s', polls) ∧
      s'.store = s.store ++ appended ∧ responses sequence appended = packets := by
  induction h generalizing s with
  | @last time table elapsed messages pre post e rest hleft hrange hwhole hreached hpre he =>
    subst htable
    obtain ⟨hgone, hresponses⟩ := dispatch_of_ends hmem hreached hpre he
    rw [← hwhole] at hgone hresponses
    refine ⟨s.afterDatagram messages, rest.map Arrival.poll, _, ?_, rfl, hresponses⟩
    rw [responseLoop_datagram (by omega) hmem hrange]
    exact responseLoop_done recording (by omega) hgone _
  | @readError time table elapsed rest packets htime h ih =>
    obtain ⟨s', polls, appended, hloop, hstore⟩ := ih htable hmem
    refine ⟨s', polls, appended, ?_, hstore⟩
    rw [List.map_cons, Arrival.poll, responseLoop_ready recording htime (htable ▸ hmem)]
    exact hloop
  | @more time table elapsed messages rest packets htime hrange hnone h ih =>
    subst htable
    obtain ⟨hstay, hresponses⟩ := dispatch_of_not_ends hmem hnone
    obtain ⟨s', polls, appended, hloop, hstore, hpackets⟩ :=
      ih (s := s.afterDatagram messages) rfl hstay
    refine ⟨s', polls, (dispatch s.messageHandlers (received receiveBufferSize messages)).2 ++
      appended, ?_, ?_, ?_⟩
    · rw [responseLoop_datagram htime hmem hrange]
      exact hloop
    · rw [hstore, NetlinkState.afterDatagram, List.append_assoc]
    · rw [responses_append, hresponses h.sequence_ne, hpackets]

/-- Only such a stream makes the loop succeed. -/
theorem exists_closes {s' : NetlinkState H (List (Delivery H))} {polls : List Poll}
    (hmem : sequence ∈ s.messageHandlers)
    (h : responseLoop recording sequence time (arrivals.map Arrival.poll) s =
      .ok (true, s', polls)) :
    ∃ packets, Closes sequence time s.messageHandlers arrivals packets := by
  induction arrivals generalizing time s with
  | nil =>
    rw [List.map_nil, responseLoop] at h
    split_ifs at h <;> simp at h
  | cons a arrivals ih =>
    by_cases hlate : time ≤ 0
    · simp [responseLoop_late recording hlate] at h
    have htime : 0 < time := not_le.mp hlate
    cases a with
    | timeout => simp [responseLoop, hlate, hmem, Arrival.poll] at h
    | error => simp [responseLoop, hlate, hmem, Arrival.poll] at h
    | readError elapsed =>
      rw [List.map_cons, Arrival.poll, responseLoop_ready recording htime hmem] at h
      obtain ⟨packets, hcloses⟩ := ih hmem h
      exact ⟨packets, .readError htime hcloses⟩
    | datagram messages elapsed =>
      by_cases hover : Overruns receiveBufferSize s.messageHandlers messages
      · rw [List.map_cons, Arrival.poll, responseLoop_ready recording htime hmem,
          receive_datagram_of_overruns hover] at h
        simp [bind, Except.bind] at h
      rw [responseLoop_datagram htime hmem hover] at h
      by_cases hstay : sequence ∈ (s.afterDatagram messages).messageHandlers
      · obtain ⟨packets, hcloses⟩ := ih hstay h
        exact ⟨_, .more htime hover ((mem_dispatch_iff hmem).mp hstay) hcloses⟩
      · have hends : ∃ m ∈ reached s.messageHandlers (received receiveBufferSize messages),
            Ends sequence m := by
          by_contra hnone
          push Not at hnone
          exact hstay ((mem_dispatch_iff hmem).mpr hnone)
        obtain ⟨pre, e, post, hwhole, hreached, hpre, he⟩ := exists_first_ends hends
        rw [hwhole] at hreached
        refine ⟨_, .last ?_ hover hwhole hreached hpre he⟩
        by_contra hout
        have hlater : time - elapsed ≤ 0 := by omega
        simp [responseLoop_late recording hlater] at h

theorem answerFrom_eq_ok_iff {packet : NL80211Packet} {handler : H} {answer : Answer} :
    answerFrom packet handler arrivals s = .ok answer ↔
      ∃ s', exchangeOn packet handler arrivals s = .ok (answer, s') := by
  rw [answerFrom]
  cases exchangeOn packet handler arrivals s with
  | error fault => simp [Except.map]
  | ok result => simp [Except.map, Prod.ext_iff]

/-- The answer to a request is what its stream closes with. -/
theorem answerFrom_eq_true_iff {packet : NL80211Packet} {handler : H} :
    answerFrom packet handler arrivals s = .ok (true, packets) ↔
      Closes packet.getMessageSequence maximumNetlinkMessageWait
        (s.messageHandlers.insert packet.getMessageSequence handler) arrivals packets := by
  let s' : NetlinkState H (List (Delivery H)) :=
    { s with messageHandlers := s.messageHandlers.insert packet.getMessageSequence handler }
  have hmem : packet.getMessageSequence ∈ s'.messageHandlers := by simp [s']
  have hanswer {packets : List NL80211Packet} (h : Closes packet.getMessageSequence
      maximumNetlinkMessageWait s'.messageHandlers arrivals packets) :
      answerFrom packet handler arrivals s = .ok (true, packets) := by
    obtain ⟨s'', polls, appended, hloop, hstore, hpackets⟩ := h.responseLoop (s := s') rfl hmem
    have hcall : sendMessageAndGetResponses recording true packet handler
        (arrivals.map Arrival.poll) s = .ok (true, s'', polls) := hloop
    have hdrop : s''.store.drop s.store.length = appended := by
      rw [hstore, List.drop_left]
    rw [answerFrom, exchangeOn, hcall]
    show Except.ok _ = _
    rw [hdrop, hpackets]
  constructor
  · intro h
    obtain ⟨t, hexchange⟩ := answerFrom_eq_ok_iff.mp h
    obtain ⟨⟨success, s'', polls⟩, hloop, hresult⟩ := Runs.bind_eq_ok.mp hexchange
    obtain ⟨rfl, -⟩ : success = true ∧ _ :=
      Prod.mk.inj (congrArg Prod.fst (Except.ok.inj hresult))
    obtain ⟨packets', hcloses⟩ := exists_closes (s := s') hmem hloop
    have hsame : packets' = packets :=
      congrArg Prod.snd (Except.ok.inj ((hanswer hcloses).symm.trans h))
    rwa [hsame] at hcloses
  · exact hanswer

end Closes

/-- A message that leaves the loop and the exchange going: a broadcast, or a part. -/
def Passes (sequence : ℕ) (m : Message) : Prop :=
  m.sequence = broadcastSequenceNumber ∨
    m.sequence = sequence ∧ m.multi = true ∧ ¬ IsControl m.type

/-- The last message of an answer: a done message, or a message that is no part. -/
def Concludes (sequence : ℕ) (m : Message) : Prop :=
  m.sequence = sequence ∧ (m.type = nlmsgDone ∨ m.multi = false ∧ ¬ IsControl m.type)

/-- The datagrams bring the parts of an answer and its last message in order and in time, and
nothing else but broadcasts, and the receive buffer has room for each of them. -/
structure Arrives (sequence : ℕ) (time : ℤ) (parts : List Message) (last : Message)
    (arrivals : List Arrival) : Prop where
  sequence_ne : sequence ≠ broadcastSequenceNumber
  parts_pass : ∀ m ∈ parts, m.sequence = sequence ∧ m.multi = true ∧ ¬ IsControl m.type
  concludes : Concludes sequence last
  only : ∀ m ∈ messagesOf arrivals, m.sequence = broadcastSequenceNumber ∨ m.sequence = sequence
  order : (messagesOf arrivals).filter (fun m => m.sequence = sequence) = parts ++ [last]
  inTime : ∃ left, remaining time arrivals = some left ∧ 0 < left
  fits : ∀ a ∈ arrivals, (datagram a.messages).length ≤ receiveBufferSize

section Whole
variable {sequence : ℕ} {time : ℤ} {table : Std.ExtTreeMap ℕ H} {arrivals : List Arrival}
  {messages parts : List Message} {m last : Message}

theorem Passes.not_stops (h : Passes sequence m) (hmem : sequence ∈ table) : ¬ Stops table m := by
  rintro ⟨hne, hcase⟩
  obtain ⟨rfl, -, hcontrol⟩ := h.resolve_left hne
  exact hcase.elim (fun hunknown => hunknown hmem) hcontrol

theorem Passes.not_ends (h : Passes sequence m) : ¬ Ends sequence m := by
  rintro ⟨hne, rfl, hcase⟩
  obtain ⟨-, hmulti, hcontrol⟩ := h.resolve_left hne
  exact hcase.elim hcontrol fun hlast => hlast hmulti

theorem Passes.settle_eq (h : Passes sequence m) : settle table m = table := by
  rcases h with hzero | ⟨-, hmulti, hcontrol⟩
  · rw [settle, if_pos (.inl hzero)]
  · have htypes : m.type ≠ nlmsgDone ∧ m.type ≠ nlmsgNoop ∧ m.type ≠ nlmsgOverrun := by
      simpa [IsControl] using hcontrol
    rw [settle]
    split_ifs with hskip hend
    · rfl
    · exact absurd hend (by simp [htypes, hmulti])
    · rfl

/-- The loop comes to whatever stands behind messages that pass. -/
theorem reached_append_of_passes (hmem : sequence ∈ table) (h : ∀ m ∈ messages, Passes sequence m)
    (rest : List Message) : reached table (messages ++ rest) = messages ++ reached table rest := by
  induction messages with
  | nil => rfl
  | cons m messages ih =>
    have hm := h m (by simp)
    rw [List.cons_append, reached, if_neg (hm.not_stops hmem), hm.settle_eq,
      ih fun k hk => h k (by simp [hk]), List.cons_append]

theorem reached_of_passes (hmem : sequence ∈ table) (h : ∀ m ∈ messages, Passes sequence m) :
    reached table messages = messages := by
  simpa [reached] using reached_append_of_passes hmem h []

theorem Concludes.ends (h : Concludes sequence m) (hne : sequence ≠ broadcastSequenceNumber) :
    Ends sequence m := by
  obtain ⟨hm, hdone | ⟨hmulti, -⟩⟩ := h
  · exact ⟨hne, hm, .inl (.inl hdone)⟩
  · exact ⟨hne, hm, .inr (by simp [hmulti])⟩

/-- What the messages of the sequence mean, where none of them is a no-op. -/
theorem meant_of_filter (h : messages.filter (fun m => m.sequence = sequence) = parts)
    (hparts : ∀ m ∈ parts, ¬ IsControl m.type) :
    meant sequence messages = parts.map Message.packet := by
  have hsplit : messages.filter (fun m => m.sequence = sequence ∧ m.type ≠ nlmsgNoop) =
      parts.filter fun m => m.type ≠ nlmsgNoop := by
    rw [← h, List.filter_filter]
    apply List.filter_congr
    intro m _
    simp [Bool.and_comm]
  have hall : parts.filter (fun m => m.type ≠ nlmsgNoop) = parts := by
    rw [List.filter_eq_self]
    intro m hm
    simpa using fun hnoop => hparts m hm (.inr (.inl hnoop))
  rw [meant, hsplit, hall]

/-- Of the messages before the last one of the answer, none ends the exchange. -/
theorem passes_of_filter (honly : ∀ m ∈ messages, m.sequence = broadcastSequenceNumber ∨
      m.sequence = sequence)
    (hfilter : messages.filter (fun m => m.sequence = sequence) = parts)
    (hparts : ∀ m ∈ parts, m.sequence = sequence ∧ m.multi = true ∧ ¬ IsControl m.type) :
    ∀ m ∈ messages, Passes sequence m := by
  intro m hm
  rcases honly m hm with hzero | hsequence
  · exact .inl hzero
  · refine .inr (hparts m ?_)
    rw [← hfilter]
    exact List.mem_filter.mpr ⟨hm, by simpa using hsequence⟩

theorem prefix_reached (table : Std.ExtTreeMap ℕ H) (m : Message) (messages : List Message) :
    [m] <+: reached table (m :: messages) := by
  rw [reached]
  split_ifs
  · exact List.prefix_rfl
  · exact ⟨reached (settle table m) messages, rfl⟩

theorem time_pos_of_remaining {left : ℤ} (h : remaining time arrivals = some left)
    (hpos : 0 < left) : 0 < time := by
  cases arrivals with
  | nil =>
    rw [remaining, Option.some.injEq] at h
    omega
  | cons a arrivals =>
    cases a with
    | timeout => simp [remaining] at h
    | error => simp [remaining] at h
    | readError elapsed =>
      rw [remaining] at h
      split_ifs at h with hlate
      omega
    | datagram messages elapsed =>
      rw [remaining] at h
      split_ifs at h with hlate
      omega

section First
variable {elapsed : ℕ} {others : List Message}

theorem Arrives.only_first (h : Arrives sequence time parts last
    (.datagram messages elapsed :: arrivals)) :
    ∀ m ∈ messages, m.sequence = broadcastSequenceNumber ∨ m.sequence = sequence := by
  intro m hm
  apply h.only
  simp [messagesOf, Arrival.messages, hm]

/-- A datagram in front that brings some of the parts. -/
theorem Arrives.passes (h : Arrives sequence time parts last
    (.datagram messages elapsed :: arrivals))
    (hparts : parts = messages.filter (fun m => m.sequence = sequence) ++ others) :
    ∀ m ∈ messages, Passes sequence m := by
  apply passes_of_filter h.only_first rfl
  intro m hm
  apply h.parts_pass
  rw [hparts]
  exact List.mem_append_left _ hm

theorem Arrives.later (h : Arrives sequence time parts last
    (.datagram messages elapsed :: arrivals))
    (hparts : parts = messages.filter (fun m => m.sequence = sequence) ++ others)
    (hothers : (messagesOf arrivals).filter (fun m => m.sequence = sequence) = others ++ [last]) :
    Arrives sequence (time - elapsed) others last arrivals where
  sequence_ne := h.sequence_ne
  parts_pass m hm := h.parts_pass m (by rw [hparts]; exact List.mem_append_right _ hm)
  concludes := h.concludes
  only m hm := by
    apply h.only
    rw [messagesOf, List.flatMap_cons]
    exact List.mem_append_right _ hm
  order := hothers
  inTime := by
    obtain ⟨left, hleft, hpos⟩ := h.inTime
    rw [remaining] at hleft
    split_ifs at hleft
    exact ⟨left, hleft, hpos⟩
  fits a ha := h.fits a (List.mem_cons_of_mem _ ha)

theorem Arrives.time_pos (h : Arrives sequence time parts last arrivals) : 0 < time := by
  obtain ⟨left, hleft, hpos⟩ := h.inTime
  exact time_pos_of_remaining hleft hpos

theorem Arrives.elapsed_lt (h : Arrives sequence time parts last
    (.datagram messages elapsed :: arrivals)) : (elapsed : ℤ) < time := by
  obtain ⟨left, hleft, hpos⟩ := h.inTime
  rw [remaining] at hleft
  split_ifs at hleft
  have htime := time_pos_of_remaining hleft hpos
  omega

end First

/-- The datagram that brings the last message. -/
theorem closes_of_last {elapsed : ℕ} (hmem : sequence ∈ table) (hleft : (elapsed : ℤ) < time)
    (hfits : (datagram messages).length ≤ receiveBufferSize)
    (hne : sequence ≠ broadcastSequenceNumber)
    (honly : ∀ m ∈ messages, m.sequence = broadcastSequenceNumber ∨ m.sequence = sequence)
    (hparts : ∀ m ∈ parts, m.sequence = sequence ∧ m.multi = true ∧ ¬ IsControl m.type)
    (hlast : Concludes sequence last)
    (hfilter : messages.filter (fun m => m.sequence = sequence) = parts ++ [last])
    (rest : List Arrival) : Closes sequence time table (.datagram messages elapsed :: rest)
      (parts.map Message.packet ++ lastPart last) := by
  obtain ⟨front, back, rfl, hfront, hback⟩ := List.filter_eq_append_iff.mp hfilter
  obtain ⟨mid, post, rfl, hmid, -, -⟩ := List.filter_eq_cons_iff.mp hback
  have hbefore : (front ++ mid).filter (fun m => m.sequence = sequence) = parts := by
    rw [List.filter_append, hfront, List.filter_eq_nil_iff.mpr hmid, List.append_nil]
  have hpass := passes_of_filter (fun m hm => honly m (by simp at hm ⊢; tauto)) hbefore hparts
  have hmeant := meant_of_filter hbefore fun m hm => (hparts m hm).2.2
  have hreached : front ++ mid ++ [last] <+: reached table (front ++ mid ++ last :: post) := by
    rw [reached_append_of_passes hmem hpass, List.prefix_append_right_inj]
    exact prefix_reached table last post
  rw [← List.append_assoc] at hfits
  have hcloses : Closes sequence time table
      (.datagram (front ++ mid ++ last :: post) elapsed :: rest) _ :=
    .last hleft (not_overruns_of_fits hfits table) (received_of_fits hfits) hreached
      (fun m hm => (hpass m hm).not_ends) (hlast.ends hne)
  rwa [hmeant, List.append_assoc] at hcloses

/-- An answer that arrives whole closes its exchange with all of its parts, whatever arrives
behind it. -/
theorem Arrives.closes (h : Arrives sequence time parts last arrivals) (hmem : sequence ∈ table)
    (rest : List Arrival) :
    Closes sequence time table (arrivals ++ rest) (parts.map Message.packet ++ lastPart last) := by
  induction arrivals generalizing time table parts with
  | nil =>
    have hnone := h.order
    simp [messagesOf] at hnone
  | cons a arrivals ih =>
    cases a with
    | timeout =>
      obtain ⟨left, hleft, -⟩ := h.inTime
      simp [remaining] at hleft
    | error =>
      obtain ⟨left, hleft, -⟩ := h.inTime
      simp [remaining] at hleft
    | readError elapsed =>
      obtain ⟨left, hleft, hpos⟩ := h.inTime
      rw [remaining] at hleft
      split_ifs at hleft with hlate
      exact .readError (by omega) (ih { h with
        inTime := ⟨left, hleft, hpos⟩
        fits := fun a ha => h.fits a (List.mem_cons_of_mem _ ha) } hmem)
    | datagram messages elapsed =>
      have hfits : (datagram messages).length ≤ receiveBufferSize :=
        h.fits (.datagram messages elapsed) (by simp)
      have horder : messages.filter (fun m => m.sequence = sequence) ++
          (messagesOf arrivals).filter (fun m => m.sequence = sequence) = parts ++ [last] := by
        rw [← List.filter_append]
        exact h.order
      have hlater {others : List Message}
          (hparts : parts = messages.filter (fun m => m.sequence = sequence) ++ others)
          (hothers : (messagesOf arrivals).filter (fun m => m.sequence = sequence) =
            others ++ [last]) :
          Closes sequence time table (.datagram messages elapsed :: (arrivals ++ rest))
            (parts.map Message.packet ++ lastPart last) := by
        have hpass := h.passes hparts
        have hreached := reached_of_passes hmem hpass
        have hnone : ∀ m ∈ reached table messages, ¬ Ends sequence m := by
          rw [hreached]
          exact fun m hm => (hpass m hm).not_ends
        have hmeant := meant_of_filter rfl fun m hm => by
          have hm' : m ∈ parts := by
            rw [hparts]
            exact List.mem_append_left _ hm
          exact (h.parts_pass m hm').2.2
        have hwhole : received receiveBufferSize messages = messages := received_of_fits hfits
        rw [← hwhole] at hnone
        have hmore := Closes.more h.time_pos (not_overruns_of_fits hfits table) hnone
          (ih (h.later hparts hothers) (dispatch_of_not_ends hmem hnone).1)
        rw [hwhole, hreached, hmeant, ← List.append_assoc, ← List.map_append, ← hparts] at hmore
        exact hmore
      -- the last message is in a later datagram or in this one
      rcases List.append_eq_append_iff.mp horder with ⟨others, hparts, hothers⟩ | ⟨others, hfilter,
        hothers⟩
      · exact hlater hparts hothers
      · cases others with
        | nil => exact @hlater [] (by simpa using hfilter.symm) hothers.symm
        | cons first others =>
          obtain ⟨rfl, -⟩ := List.cons.inj hothers
          obtain ⟨rfl, -⟩ : others = [] ∧ (messagesOf arrivals).filter
              (fun m => m.sequence = sequence) = [] := by simpa using hothers
          exact closes_of_last hmem h.elapsed_lt hfits h.sequence_ne h.only_first h.parts_pass
            h.concludes hfilter (arrivals ++ rest)

/-- A request whose answer arrives whole is answered with all of its parts. -/
theorem Arrives.answerFrom_eq {packet : NL80211Packet} {s : NetlinkState H (List (Delivery H))}
    (h : Arrives packet.getMessageSequence maximumNetlinkMessageWait parts last arrivals)
    (handler : H) (rest : List Arrival) : answerFrom packet handler (arrivals ++ rest) s =
      .ok (true, parts.map Message.packet ++ lastPart last) := by
  have hmem : packet.getMessageSequence ∈
      s.messageHandlers.insert packet.getMessageSequence handler := by simp
  exact answerFrom_eq_true_iff.mpr (h.closes hmem rest)

/-- What a request meets: the datagrams that arrive once it is sent, and the socket. -/
structure Traffic (H : Type) where
  handler : H
  arrivals : NL80211Packet → List Arrival
  socket : NetlinkState H (List (Delivery H))

namespace Traffic
variable {e : Traffic H} {request : NL80211Packet}

/-- `SendMessageAndGetResponses` for the request. -/
def call (e : Traffic H) (request : NL80211Packet) : Exec Answer :=
  answerFrom request e.handler (e.arrivals request) e.socket

/-- The answer that the caller goes on with. Behind a call that ends in a fault nobody goes on;
it stands for one that fails. -/
def answer (e : Traffic H) (request : NL80211Packet) : Answer :=
  match e.call request with
  | .ok answer => answer
  | .error _ => (false, [])

/-- The packets of the response vector, for a caller that gives up where there is no success. -/
def responses (e : Traffic H) (request : NL80211Packet) : Option (List NL80211Packet) :=
  let answer := e.answer request
  if answer.1 then some answer.2 else none

/-- The answer to the request arrives whole, whatever arrives behind it. -/
def Brings (e : Traffic H) (request : NL80211Packet) (parts : List Message) (last : Message) :
    Prop :=
  ∃ arrivals rest, e.arrivals request = arrivals ++ rest ∧
    Arrives request.getMessageSequence maximumNetlinkMessageWait parts last arrivals

theorem Brings.call_eq (h : e.Brings request parts last) :
    e.call request = .ok (true, parts.map Message.packet ++ lastPart last) := by
  obtain ⟨arrivals, rest, harrivals, harrives⟩ := h
  rw [call, harrivals, harrives.answerFrom_eq]

theorem Brings.answer_eq (h : e.Brings request parts last) :
    e.answer request = (true, parts.map Message.packet ++ lastPart last) := by
  rw [answer, h.call_eq]

theorem Brings.responses_eq (h : e.Brings request parts last) :
    e.responses request = some (parts.map Message.packet ++ lastPart last) := by
  rw [responses, h.answer_eq]
  rfl

theorem Brings.responses_of_done (h : e.Brings request parts last) (hdone : last.type = nlmsgDone) :
    e.responses request = some (parts.map Message.packet) := by
  rw [h.responses_eq, lastPart, if_pos (.inl hdone), List.append_nil]

end Traffic

end Whole

end Wificond
