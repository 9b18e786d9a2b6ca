import Wificond.DatagramDispatch

/-!
# The exchange of one request

The messages of one sequence number form an exchange: data messages up to the
last part or to a done message, with no-op messages in between that mean
nothing, or an overrun. What the receive loop makes of such an exchange depends
on which messages of a datagram it comes to.
-/
namespace Wificond

inductive Exchange
  | pending (packets : List NL80211Packet)
  | ended (packets : List NL80211Packet)
  | overrun
  deriving DecidableEq

/-- Follow the exchange of `sequence` through messages; `packets` arrived before. -/
def exchange (sequence : ℕ) (packets : List NL80211Packet) : List Message → Exchange
  | [] => .pending packets
  | m :: messages =>
    if m.sequence ≠ sequence ∨ m.type = nlmsgNoop then exchange sequence packets messages
    else if m.type = nlmsgOverrun then .overrun
    else if m.type = nlmsgDone then .ended packets
    else if m.multi then exchange sequence (packets ++ [m.packet]) messages
    else .ended (packets ++ [m.packet])

/-- The packets of the exchange that mean something. -/
def meant (sequence : ℕ) (messages : List Message) : List NL80211Packet :=
  (messages.filter fun m => m.sequence = sequence ∧ m.type ≠ nlmsgNoop).map Message.packet

/-- The messages that make the receive loop erase the handler of `sequence`. -/
def Ends (sequence : ℕ) (m : Message) : Prop :=
  sequence ≠ broadcastSequenceNumber ∧ m.sequence = sequence ∧ (IsControl m.type ∨ ¬ m.multi)

instance (sequence : ℕ) (m : Message) : Decidable (Ends sequence m) :=
  inferInstanceAs (Decidable (_ ∧ _ ∧ (_ ∨ _)))

section Exchange
variable {sequence : ℕ} {packets : List NL80211Packet} {messages : List Message}

theorem meant_append (sequence : ℕ) (a b : List Message) :
    meant sequence (a ++ b) = meant sequence a ++ meant sequence b := by
  simp [meant]

end Exchange

/-- What the handler gets of the message itself. -/
def lastPart (e : Message) : List NL80211Packet := if IsControl e.type then [] else [e.packet]

section Through
variable {sequence : ℕ} {packets : List NL80211Packet} {pre post : List Message} {e : Message}

end Through

variable {H : Type}

/-- The messages of a datagram that the loop comes to, with the one that stops it. -/
def reached (table : Std.ExtTreeMap ℕ H) : List Message → List Message
  | [] => []
  | m :: messages => if Stops table m then [m] else m :: reached (settle table m) messages

/-- The messages behind the one that stops the loop. -/
def skipped (table : Std.ExtTreeMap ℕ H) (messages : List Message) : List Message :=
  messages.drop (reached table messages).length

/-- What `AppendPacket` appends for the handler of `sequence`. -/
def responses (sequence : ℕ) (deliveries : List (Delivery H)) : List NL80211Packet :=
  deliveries.filterMap fun
    | .broadcast _ => none
    | .handler _ packet => if packet.getMessageSequence = sequence then some packet else none

section Dispatch
variable {sequence : ℕ} {table : Std.ExtTreeMap ℕ H} {messages : List Message} {m : Message}

theorem reached_append_skipped (table : Std.ExtTreeMap ℕ H) (messages : List Message) :
    reached table messages ++ skipped table messages = messages := by
  induction messages generalizing table with
  | nil => rfl
  | cons m messages ih =>
    by_cases hstops : Stops table m
    · simp [reached, skipped, hstops]
    · have h := ih (settle table m)
      simp only [skipped] at h
      simpa [reached, skipped, hstops] using h

theorem responses_append (sequence : ℕ) (a b : List (Delivery H)) :
    responses sequence (a ++ b) = responses sequence a ++ responses sequence b := by
  simp [responses]

/-- A message that does not stop the loop keeps every handler but those it ends. -/
theorem mem_settle (hstops : ¬ Stops table m) :
    sequence ∈ settle table m ↔ sequence ∈ table ∧ ¬ Ends sequence m := by
  by_cases hzero : m.sequence = broadcastSequenceNumber
  · have hends : ¬ Ends sequence m := fun h => h.1 (h.2.1.symm.trans hzero)
    simp [settle, hzero, hends]
  · obtain ⟨handler, -, hcontrol, -, hsettle⟩ := exists_handler_of_not_stops hstops hzero
    cases hmulti : m.multi
    · have hends : Ends sequence m ↔ m.sequence = sequence := by
        constructor
        · exact fun h => h.2.1
        · intro heq
          exact ⟨heq ▸ hzero, heq, .inr (by simp [hmulti])⟩
      rw [hends]
      simp [hsettle, hmulti, and_comm]
    · simp [hsettle, hmulti, Ends, hcontrol]

theorem responses_owedFor (hsequence : sequence ≠ broadcastSequenceNumber)
    (hstops : ¬ Stops table m) :
    responses sequence (owedFor table m).toList = meant sequence [m] := by
  by_cases hzero : m.sequence = broadcastSequenceNumber
  · have hne : broadcastSequenceNumber ≠ sequence := hsequence.symm
    simp [owedFor, responses, meant, hzero, hne]
  · obtain ⟨handler, -, hcontrol, howed, -⟩ := exists_handler_of_not_stops hstops hzero
    have hnoop : m.type ≠ nlmsgNoop := fun h => hcontrol (.inr (.inl h))
    have hpacket : m.packet.getMessageSequence = m.sequence := rfl
    by_cases hm : m.sequence = sequence
    · subst hm
      simp [howed, responses, meant, hnoop, hpacket]
    · simp [howed, responses, meant, hpacket, hm]

/-- A sequence without a handler gets nothing. -/
theorem dispatch_of_not_mem (messages : List Message)
    (hsequence : sequence ≠ broadcastSequenceNumber)
    (htable : sequence ∉ table) : sequence ∉ (dispatch table messages).1 ∧
      responses sequence (dispatch table messages).2 = [] := by
  induction messages generalizing table with
  | nil => exact ⟨htable, rfl⟩
  | cons m messages ih =>
    by_cases hstops : Stops table m
    · rw [dispatch_of_stops hstops]
      exact ⟨by simp [htable], rfl⟩
    · have hrest := @ih (settle table m) fun h => htable ((mem_settle hstops).mp h).1
      have hm : m.sequence ≠ sequence := by
        rintro rfl
        exact hstops ⟨hsequence, .inl htable⟩
      rw [dispatch_of_not_stops hstops, responses_append, responses_owedFor hsequence hstops]
      exact ⟨hrest.1, by simp [meant, hm, hrest.2]⟩

/-- While no message that the loop comes to ends the exchange, the handler stays and gets
all of the exchange among these messages. -/
theorem dispatch_of_not_ends (htable : sequence ∈ table)
    (h : ∀ m ∈ reached table messages, ¬ Ends sequence m) :
    sequence ∈ (dispatch table messages).1 ∧ (sequence ≠ broadcastSequenceNumber →
      responses sequence (dispatch table messages).2 =
        meant sequence (reached table messages)) := by
  induction messages generalizing table with
  | nil => exact ⟨htable, fun _ => rfl⟩
  | cons m messages ih =>
    by_cases hstops : Stops table m
    · have hends : ¬ Ends sequence m := h m (by simp [reached, hstops])
      have hm : m.sequence ≠ sequence := by
        rintro rfl
        obtain ⟨hzero, hcase⟩ := hstops
        exact hends ⟨hzero, rfl, .inl (hcase.resolve_left fun hunknown => hunknown htable)⟩
      rw [dispatch_of_stops hstops]
      refine ⟨by simpa [hm] using htable, fun _ => ?_⟩
      simp [reached, hstops, meant, hm, responses]
    · have hreached : reached table (m :: messages) = m :: reached (settle table m) messages := by
        simp [reached, hstops]
      rw [hreached] at h ⊢
      have hends : ¬ Ends sequence m := h m (by simp)
      obtain ⟨hmem, hresponses⟩ := ih ((mem_settle hstops).mpr ⟨htable, hends⟩)
        fun k hk => h k (by simp [hk])
      rw [dispatch_of_not_stops hstops]
      refine ⟨hmem, fun hsequence => ?_⟩
      rw [responses_append, responses_owedFor hsequence hstops, hresponses hsequence]
      exact (meant_append sequence [m] _).symm

/-- At the first message that ends the exchange the handler goes, with this message if it
is not a control message. -/
theorem dispatch_of_ends (htable : sequence ∈ table) {pre post : List Message} {e : Message}
    (hreached : pre ++ [e] <+: reached table (pre ++ e :: post))
    (hpre : ∀ m ∈ pre, ¬ Ends sequence m) (he : Ends sequence e) :
    sequence ∉ (dispatch table (pre ++ e :: post)).1 ∧
      responses sequence (dispatch table (pre ++ e :: post)).2 =
        meant sequence pre ++ lastPart e := by
  induction pre generalizing table with
  | nil =>
    obtain ⟨hsequence, rfl, hcase⟩ := he
    by_cases hcontrol : IsControl e.type
    · rw [List.nil_append, dispatch_of_stops ⟨hsequence, .inr hcontrol⟩]
      exact ⟨by simp, by simp [responses, meant, lastPart, hcontrol]⟩
    · have hstops : ¬ Stops table e := fun h => h.2.elim (fun hu => hu htable) hcontrol
      have hgone : e.sequence ∉ settle table e := fun h =>
        ((mem_settle hstops).mp h).2 ⟨hsequence, rfl, hcase⟩
      obtain ⟨hmem, hnone⟩ := dispatch_of_not_mem post hsequence hgone
      rw [List.nil_append, dispatch_of_not_stops hstops, responses_append,
        responses_owedFor hsequence hstops, hnone]
      have hnoop : e.type ≠ nlmsgNoop := fun h => hcontrol (.inr (.inl h))
      exact ⟨hmem, by simp [meant, lastPart, hcontrol, hnoop]⟩
  | cons m pre ih =>
    have hends : ¬ Ends sequence m := hpre m (by simp)
    simp only [List.cons_append, reached] at hreached
    by_cases hstops : Stops table m
    · rw [if_pos hstops] at hreached
      have hlen := hreached.length_le
      simp at hlen
    · rw [if_neg hstops] at hreached
      obtain ⟨hmem, hresponses⟩ := ih ((mem_settle hstops).mpr ⟨htable, hends⟩)
        (List.cons_prefix_cons.mp hreached).2 (fun k hk => hpre k (by simp [hk]))
      rw [List.cons_append, dispatch_of_not_stops hstops]
      refine ⟨hmem, ?_⟩
      rw [responses_append, responses_owedFor he.1 hstops, hresponses, ← List.append_assoc,
        ← meant_append]
      rfl

theorem exists_first_ends (h : ∃ m ∈ reached table messages, Ends sequence m) :
    ∃ pre e post, messages = pre ++ e :: post ∧ pre ++ [e] <+: reached table messages ∧
      (∀ m ∈ pre, ¬ Ends sequence m) ∧ Ends sequence e := by
  obtain ⟨e, hfind⟩ : ∃ e, (reached table messages).find? (Ends sequence ·) = some e := by
    rw [← Option.isSome_iff_exists, List.find?_isSome]
    simpa using h
  obtain ⟨he, pre, rest, hsplit, hpre⟩ := List.find?_eq_some_iff_append.mp hfind
  simp only [decide_eq_true_eq, Bool.not_eq_true', decide_eq_false_iff_not] at he hpre
  refine ⟨pre, e, rest ++ skipped table messages, ?_, ?_, hpre, he⟩
  · have hall := reached_append_skipped table messages
    rw [hsplit] at hall
    simpa using hall.symm
  · rw [hsplit]
    exact ⟨rest, by simp⟩

/-- The handler stays exactly when the loop comes to no message that ends the exchange. -/
theorem mem_dispatch_iff (htable : sequence ∈ table) :
    sequence ∈ (dispatch table messages).1 ↔ ∀ m ∈ reached table messages, ¬ Ends sequence m := by
  constructor
  · intro hmem m hm hends
    obtain ⟨pre, e, post, rfl, hreached, hpre, he⟩ := exists_first_ends ⟨m, hm, hends⟩
    exact (dispatch_of_ends htable hreached hpre he).1 hmem
  · intro h
    exact (dispatch_of_not_ends htable h).1

end Dispatch

end Wificond
