import Wificond.NestedReceive

/-!
# The handlers of requests

A request registers a handler that writes into a vector of its caller, so the entry must be
gone when the call returns. Meanwhile the waiting loop, and the requests that are nested in
it, receive messages of other sequences, and those may end other entries. A request with
what it receives is described by the entries that it may take away.
-/
namespace Wificond

open StepLoop

variable {H S : Type}

/-- The second table is the first less entries of sequences in the log. -/
def Sheds (log : List ℕ) (s t : NetlinkState H S) : Prop :=
  ∀ q : ℕ, t.messageHandlers[q]? = s.messageHandlers[q]? ∨ q ∈ log ∧ t.messageHandlers[q]? = none

section Sheds
variable {s t u : NetlinkState H S} {log log' : List ℕ}

theorem Sheds.refl (log : List ℕ) (s : NetlinkState H S) : Sheds log s s := fun _ => .inl rfl

theorem Sheds.of_table_eq (h : t.messageHandlers = s.messageHandlers) (log : List ℕ) :
    Sheds log s t := by
  intro q
  rw [h]
  exact .inl rfl

theorem Sheds.mono (h : Sheds log s t) (hsub : log ⊆ log') : Sheds log' s t :=
  fun q => (h q).imp_right fun hgone => ⟨hsub hgone.1, hgone.2⟩

theorem Sheds.trans (h : Sheds log s t) (h' : Sheds log' t u) : Sheds (log ++ log') s u := by
  intro q
  rcases h' q with hsame' | ⟨hlog', hnone'⟩
  · rw [hsame']
    exact (h q).imp_right fun hgone => ⟨List.mem_append_left log' hgone.1, hgone.2⟩
  · exact .inr ⟨List.mem_append_right log hlog', hnone'⟩

theorem sheds_eraseHandler (s : NetlinkState H S) (q : ℕ) : Sheds [q] s (s.eraseHandler q) := by
  intro q'
  rw [NetlinkState.eraseHandler, Std.ExtTreeMap.getElem?_erase]
  by_cases hq : compare q q' = .eq
  · rw [if_pos hq, Std.LawfulEqCmp.compare_eq_iff_eq.mp hq]
    exact .inr ⟨by simp, rfl⟩
  · rw [if_neg hq]
    exact .inl rfl

theorem not_mem_eraseHandler (s : NetlinkState H S) (q : ℕ) :
    q ∉ (s.eraseHandler q).messageHandlers := by
  simp [NetlinkState.eraseHandler]

end Sheds

/-- Handlers with the sequences that are received and requested while they run. Nothing else
happens to the table. -/
structure LoggedHandlers (H S : Type) extends Handlers H S where
  broadcastLog : NL80211Packet → NetlinkState H S → List ℕ
  runLog : H → NL80211Packet → NetlinkState H S → List ℕ
  sheds_broadcast : ∀ packet s t, broadcast packet s = .ok t → Sheds (broadcastLog packet s) s t
  sheds_run : ∀ handler packet s t, run handler packet s = .ok t →
    Sheds (runLog handler packet s) s t

namespace LoggedHandlers

/-- The sequences that are received, with an entry in the table, and requested in a pass. -/
def passLog (env : LoggedHandlers H S) (len : ℕ) (t : ℕ × NetlinkState H S) : List ℕ :=
  match fate len t.1 t.2 with
  | .leave | .outOfRange => []
  | .finish sequenceNumber => [sequenceNumber]
  | .broadcast packet => env.broadcastLog packet t.2
  | .handle sequenceNumber handler packet => sequenceNumber :: env.runLog handler packet t.2

def receiveLog (env : LoggedHandlers H S) (read : Option (List UInt8)) (s : NetlinkState H S) :
    List ℕ :=
  match read with
  | none => []
  | some datagram =>
    let bytes := datagram.take receiveBufferSize
    (visited (receiveStep env.toHandlers bytes.length) (bytes.length + 1)
      (0, s.read bytes)).flatMap (env.passLog bytes.length)

def responseLog (env : LoggedHandlers H S) (sequence : ℕ) (timeRemaining : ℤ)
    (polls : List Poll) (s : NetlinkState H S) : List ℕ :=
  if timeRemaining ≤ 0 then []
  else if sequence ∉ s.messageHandlers then []
  else
    match polls with
    | [] | .timeout :: _ | .error :: _ => []
    | .ready read elapsed :: rest =>
      env.receiveLog read s ++
        match receivePacketAndRunHandler env.toHandlers read s with
        | .ok s => env.responseLog sequence (timeRemaining - elapsed) rest s
        | .error _ => []

/-- The sequences that are received during a request, and those of the requests nested in it. -/
def requestLog (env : LoggedHandlers H S) (request : SyncRequest H) (s : NetlinkState H S) :
    List ℕ :=
  if !request.sent then []
  else
    let sequence := request.packet.getMessageSequence
    env.responseLog sequence maximumNetlinkMessageWait request.polls
      { s with messageHandlers := s.messageHandlers.insert sequence request.handler }

/-- Requests that are sent one after the other, each in view of what the ones before it have
brought. -/
def requestsLog (env : LoggedHandlers H S) :
    List (NetlinkState H S → SyncRequest H) → NetlinkState H S → List ℕ
  | [], _ => []
  | request :: rest, s =>
    (request s).packet.getMessageSequence :: env.requestLog (request s) s ++
      match (request s).run env.toHandlers s with
      | .ok s => env.requestsLog rest s
      | .error _ => []

section Shedding
variable {env : LoggedHandlers H S} {s t : NetlinkState H S} {len : ℕ}

theorem sheds_afterHandler {sequenceNumber : ℕ} {handler : H} {packet : NL80211Packet}
    (h : afterHandler env.toHandlers sequenceNumber handler packet s = .ok t) :
    Sheds (sequenceNumber :: env.runLog handler packet s) s t := by
  obtain ⟨u, hrun, hafter⟩ := Runs.bind_eq_ok.mp h
  have hsheds := env.sheds_run handler packet s u hrun
  rw [← Except.ok.inj hafter]
  split_ifs
  · exact hsheds.mono (List.subset_cons_self _ _)
  · exact (hsheds.trans (sheds_eraseHandler _ _)).mono (by simp)

/-- A pass that goes round takes away what it receives, and what its handlers take away. -/
theorem sheds_of_continue {a b : ℕ × NetlinkState H S}
    (h : receiveStep env.toHandlers len a = .inl b) : Sheds (env.passLog len a) a.2 b.2 := by
  obtain ⟨ptr, s⟩ := a
  obtain ⟨ptr', s'⟩ := b
  simp only [receiveStep] at h
  simp only [passLog]
  split_ifs at h
  cases hfate : fate len ptr s with
  | leave => simp [hfate] at h
  | outOfRange => simp [hfate] at h
  | finish sequenceNumber => simp [hfate] at h
  | broadcast packet =>
    rw [hfate] at h
    exact env.sheds_broadcast packet s s' (goOn_eq_inl.mp h).2
  | handle sequenceNumber handler packet =>
    rw [hfate] at h
    exact sheds_afterHandler (goOn_eq_inl.mp h).2

/-- The last pass runs no handler. -/
theorem sheds_of_leave {a : ℕ × NetlinkState H S}
    (h : receiveStep env.toHandlers len a = .inr (.ok t)) : Sheds (env.passLog len a) a.2 t := by
  obtain ⟨ptr, s⟩ := a
  simp only [receiveStep] at h
  simp only [passLog]
  split_ifs at h
  · cases hfate : fate len ptr s with
    | leave =>
      rw [hfate] at h
      obtain rfl := Except.ok.inj (Sum.inr.inj h)
      exact Sheds.refl _ s
    | outOfRange => simp [hfate] at h
    | finish sequenceNumber =>
      rw [hfate] at h
      obtain rfl := Except.ok.inj (Sum.inr.inj h)
      exact sheds_eraseHandler s sequenceNumber
    | broadcast packet =>
      rw [hfate] at h
      cases hresult : env.broadcast packet s <;> simp [hresult, goOn] at h
    | handle sequenceNumber handler packet =>
      rw [hfate] at h
      cases hresult : afterHandler env.toHandlers sequenceNumber handler packet s <;>
        simp [hresult, goOn] at h
  · obtain rfl := Except.ok.inj (Sum.inr.inj h)
    exact Sheds.refl _ s

theorem sheds_run_receiveStep {n : ℕ} {a : ℕ × NetlinkState H S}
    (h : run (receiveStep env.toHandlers len) n a = some (.ok t)) :
    Sheds ((visited (receiveStep env.toHandlers len) n a).flatMap (env.passLog len)) a.2 t := by
  induction n generalizing a with
  | zero => simp [run] at h
  | succ n ih =>
    cases hstep : receiveStep env.toHandlers len a with
    | inl next =>
      rw [run_succ_continue hstep] at h
      rw [visited_succ_continue hstep, List.flatMap_cons]
      exact (sheds_of_continue hstep).trans (ih h)
    | inr last =>
      rw [run_succ_leave hstep, Option.some.injEq] at h
      rw [visited_succ_leave hstep, List.flatMap_cons]
      rw [h] at hstep
      exact (sheds_of_leave hstep).mono (List.subset_append_left _ _)

theorem sheds_receive {read : Option (List UInt8)}
    (h : receivePacketAndRunHandler env.toHandlers read s = .ok t) :
    Sheds (env.receiveLog read s) s t := by
  cases read with
  | none =>
    obtain rfl := Except.ok.inj h
    exact Sheds.refl _ s
  | some datagram => exact sheds_run_receiveStep (walk_eq_ok_iff.mp h)

theorem sheds_responseLoop {sequence : ℕ} {time : ℤ} {polls rest : List Poll} {success : Bool}
    (h : responseLoop env.toHandlers sequence time polls s = .ok (success, t, rest)) :
    Sheds (sequence :: env.responseLog sequence time polls s) s t := by
  have herase (log : List ℕ) (s : NetlinkState H S) :
      Sheds (sequence :: log) s (s.eraseHandler sequence) :=
    (sheds_eraseHandler s sequence).mono (by simp)
  induction polls generalizing time s with
  | nil =>
    rw [responseLoop] at h
    split_ifs at h <;> obtain ⟨-, rfl, -⟩ := Except.ok.inj h
    · exact herase _ s
    · exact herase _ s
    · exact Sheds.refl _ _
  | cons poll polls ih =>
    rw [responseLoop.eq_def] at h
    rw [responseLog.eq_def]
    by_cases hlate : time ≤ 0
    · rw [if_pos hlate] at h ⊢
      obtain ⟨-, rfl, -⟩ := Except.ok.inj h
      exact herase _ s
    rw [if_neg hlate] at h ⊢
    by_cases hdone : sequence ∉ s.messageHandlers
    · rw [if_pos hdone] at h ⊢
      obtain ⟨-, rfl, -⟩ := Except.ok.inj h
      exact Sheds.refl _ _
    rw [if_neg hdone] at h ⊢
    cases poll with
    | timeout =>
      obtain ⟨-, rfl, -⟩ := Except.ok.inj h
      exact herase _ s
    | error =>
      obtain ⟨-, rfl, -⟩ := Except.ok.inj h
      exact herase _ s
    | ready read elapsed =>
      obtain ⟨next, hreceive, hloop⟩ := Runs.bind_eq_ok.mp h
      refine ((sheds_receive hreceive).trans (ih hloop)).mono ?_
      simp only [hreceive]
      intro q hq
      simp only [List.mem_append, List.mem_cons] at hq ⊢
      tauto

end Shedding

/-- Whichever way the loop ends, the entry is gone. -/
theorem not_mem_responseLoop {env : Handlers H S} {sequence : ℕ} {time : ℤ}
    {polls rest : List Poll} {success : Bool} {s t : NetlinkState H S}
    (h : responseLoop env sequence time polls s = .ok (success, t, rest)) :
    sequence ∉ t.messageHandlers := by
  induction polls generalizing time s with
  | nil =>
    rw [responseLoop] at h
    split_ifs at h with hlate hwaits <;> obtain ⟨-, rfl, -⟩ := Except.ok.inj h
    · exact not_mem_eraseHandler s sequence
    · exact not_mem_eraseHandler s sequence
    · exact hwaits
  | cons poll polls ih =>
    rw [responseLoop.eq_def] at h
    by_cases hlate : time ≤ 0
    · rw [if_pos hlate] at h
      obtain ⟨-, rfl, -⟩ := Except.ok.inj h
      exact not_mem_eraseHandler s sequence
    rw [if_neg hlate] at h
    by_cases hdone : sequence ∉ s.messageHandlers
    · rw [if_pos hdone] at h
      obtain ⟨-, rfl, -⟩ := Except.ok.inj h
      exact hdone
    rw [if_neg hdone] at h
    cases poll with
    | timeout =>
      obtain ⟨-, rfl, -⟩ := Except.ok.inj h
      exact not_mem_eraseHandler s sequence
    | error =>
      obtain ⟨-, rfl, -⟩ := Except.ok.inj h
      exact not_mem_eraseHandler s sequence
    | ready read elapsed =>
      obtain ⟨next, -, hloop⟩ := Runs.bind_eq_ok.mp h
      exact ih hloop

section Request
variable {request : SyncRequest H} {s t : NetlinkState H S}

theorem not_mem_request {env : Handlers H S} (hreturns : request.run env s = .ok t)
    (h : request.sent = true ∨ request.packet.getMessageSequence ∉ s.messageHandlers) :
    request.packet.getMessageSequence ∉ t.messageHandlers := by
  obtain ⟨⟨success, u, rest⟩, hsend, hu⟩ := Runs.bind_eq_ok.mp hreturns
  obtain rfl : u = t := Except.ok.inj hu
  rw [sendMessageAndGetResponses] at hsend
  cases hsent : request.sent with
  | false =>
    rw [hsent] at hsend
    obtain ⟨-, rfl, -⟩ := Except.ok.inj hsend
    exact h.resolve_left (by simp [hsent])
  | true =>
    rw [hsent] at hsend
    exact not_mem_responseLoop hsend

/-- A request leaves the entries of other sequences that are not in its log, and its own
only where it was not sent. -/
theorem sheds_request {env : LoggedHandlers H S} (h : request.run env.toHandlers s = .ok t) :
    Sheds (request.packet.getMessageSequence :: env.requestLog request s) s t := by
  have hgone := not_mem_request h
  obtain ⟨⟨success, u, rest⟩, hsend, hu⟩ := Runs.bind_eq_ok.mp h
  obtain rfl : u = t := Except.ok.inj hu
  rw [sendMessageAndGetResponses] at hsend
  rw [requestLog]
  cases hsent : request.sent with
  | false =>
    rw [hsent] at hsend
    obtain ⟨-, rfl, -⟩ := Except.ok.inj hsend
    exact Sheds.refl _ _
  | true =>
    rw [hsent] at hsend
    intro q
    by_cases hown : q = request.packet.getMessageSequence
    · subst hown
      exact .inr ⟨by simp, OrderedMap.notMem_iff.mp (hgone (.inl hsent))⟩
    · have hother : (s.messageHandlers.insert request.packet.getMessageSequence
          request.handler)[q]? = s.messageHandlers[q]? := by
        rw [Std.ExtTreeMap.getElem?_insert, if_neg]
        rw [Std.LawfulEqCmp.compare_eq_iff_eq]
        exact fun heq => hown heq.symm
      rw [← hother]
      exact sheds_responseLoop hsend q

theorem sheds_requests {env : LoggedHandlers H S}
    {requests : List (NetlinkState H S → SyncRequest H)}
    (h : requests.foldlM (fun s request => (request s).run env.toHandlers s) s = .ok t) :
    Sheds (env.requestsLog requests s) s t := by
  induction requests generalizing s with
  | nil =>
    obtain rfl := Except.ok.inj h
    exact Sheds.refl _ s
  | cons request rest ih =>
    obtain ⟨u, hrun, hrest⟩ := Runs.foldlM_cons_eq_ok.mp h
    rw [requestsLog]
    simp only [hrun]
    exact (sheds_request hrun).trans (ih hrest)

end Request

end LoggedHandlers

/-- What the handlers do besides reading messages. `BroadcastHandler` sends requests and keeps
what it learns, and a registered handler keeps something of its packet. Each may fail on what it
reads of the packet. -/
structure HandlerProgram (H S : Type) where
  requests : NL80211Packet → NetlinkState H S → Exec (List (NetlinkState H S → SyncRequest H))
  learn : NL80211Packet → NetlinkState H S → Exec S
  append : H → NL80211Packet → NetlinkState H S → Exec S

/-- A handler that only changes what is kept besides the table. -/
def NetlinkState.keep (s : NetlinkState H S) (result : Exec S) : Exec (NetlinkState H S) := do
  let store ← result
  return { s with store }

theorem sheds_keep {s t : NetlinkState H S} {result : Exec S} (h : s.keep result = .ok t)
    (log : List ℕ) : Sheds log s t := by
  obtain ⟨store, -, ht⟩ := Runs.bind_eq_ok.mp h
  obtain rfl := Except.ok.inj ht
  exact Sheds.of_table_eq rfl log

namespace HandlerProgram

/-- The handlers, with requests nested to a depth. Broadcasts below it send no requests. -/
def handlers (program : HandlerProgram H S) : ℕ → LoggedHandlers H S
  | 0 =>
    { broadcast := fun packet s => s.keep (program.learn packet s)
      run := fun handler packet s => s.keep (program.append handler packet s)
      broadcastLog := fun _ _ => []
      runLog := fun _ _ _ => []
      sheds_broadcast := fun _ _ _ h => sheds_keep h _
      sheds_run := fun _ _ _ _ h => sheds_keep h _ }
  | depth + 1 =>
    let below := program.handlers depth
    { broadcast := fun packet s => do
        let requests ← program.requests packet s
        let s ← requests.foldlM (fun s request => (request s).run below.toHandlers s) s
        s.keep (program.learn packet s)
      run := fun handler packet s => s.keep (program.append handler packet s)
      broadcastLog := fun packet s =>
        match program.requests packet s with
        | .ok requests => below.requestsLog requests s
        | .error _ => []
      runLog := fun _ _ _ => []
      sheds_broadcast := fun packet s t h => by
        obtain ⟨requests, hrequests, hrest⟩ := Runs.bind_eq_ok.mp h
        obtain ⟨u, hrun, hkeep⟩ := Runs.bind_eq_ok.mp hrest
        simp only [hrequests]
        exact ((LoggedHandlers.sheds_requests hrun).trans (sheds_keep hkeep [])).mono (by simp)
      sheds_run := fun _ _ _ _ h => sheds_keep h _ }

end HandlerProgram

/-- `RegisterHandlerAndSendMessage` -/
def registerHandlerAndSendMessage (sent : Bool) (packet : NL80211Packet) (handler : H)
    (s : NetlinkState H S) : Bool × NetlinkState H S :=
  if packet.isDump then (false, s)
  else if !sent then (false, s)
  else
    (true, { s with
      messageHandlers := s.messageHandlers.insert packet.getMessageSequence handler })

/-- What the manager is called for, from outside of a handler. -/
inductive ManagerCall (H : Type)
  | request (request : SyncRequest H)
  | register (sent : Bool) (packet : NL80211Packet) (handler : H)
  | receive (read : Option (List UInt8))

/-- The state, and the sequences of the handlers that were registered to stay. -/
structure ManagerRun (H S : Type) where
  state : NetlinkState H S
  registered : List ℕ

namespace ManagerRun

def step (env : LoggedHandlers H S) (m : ManagerRun H S) :
    ManagerCall H → Exec (ManagerRun H S)
  | .request request => do
    let state ← request.run env.toHandlers m.state
    return { m with state }
  | .register sent packet handler =>
    return { state := (registerHandlerAndSendMessage sent packet handler m.state).2
             registered := packet.getMessageSequence :: m.registered }
  | .receive read => do
    let state ← receivePacketAndRunHandler env.toHandlers read m.state
    return { m with state }

/-- No request waits between calls. -/
def Idle (m : ManagerRun H S) : Prop := ∀ q ∈ m.state.messageHandlers, q ∈ m.registered

/-- A request that returns leaves no entry of its sequence, if that was registered for nothing
else. -/
def LeavesNoEntry (env : LoggedHandlers H S) (m : ManagerRun H S) : Prop :=
  ∀ (request : SyncRequest H) t, request.packet.getMessageSequence ∉ m.registered →
    request.run env.toHandlers m.state = .ok t →
    request.packet.getMessageSequence ∉ t.messageHandlers

variable {env : LoggedHandlers H S} {m m' : ManagerRun H S} {call : ManagerCall H}

theorem idle_of_sheds {log : List ℕ} {t : NetlinkState H S} (hidle : m.Idle)
    (h : Sheds log m.state t) : Idle { m with state := t } := by
  intro q hq
  rcases h q with hsame | ⟨-, hnone⟩
  · apply hidle q
    rwa [Std.ExtTreeMap.mem_iff_isSome_getElem?, ← hsame,
      ← Std.ExtTreeMap.mem_iff_isSome_getElem?]
  · exact absurd hq (OrderedMap.notMem_iff.mpr hnone)

theorem idle_step (hidle : m.Idle) (h : m.step env call = .ok m') : m'.Idle := by
  cases call with
  | request request =>
    obtain ⟨t, hrun, ht⟩ := Runs.bind_eq_ok.mp h
    obtain rfl := Except.ok.inj ht
    exact idle_of_sheds hidle (LoggedHandlers.sheds_request hrun)
  | receive read =>
    obtain ⟨t, hreceive, ht⟩ := Runs.bind_eq_ok.mp h
    obtain rfl := Except.ok.inj ht
    exact idle_of_sheds hidle (LoggedHandlers.sheds_receive hreceive)
  | register sent packet handler =>
    obtain rfl := Except.ok.inj h
    simp only [registerHandlerAndSendMessage]
    intro q hq
    split_ifs at hq
    · exact List.mem_cons_of_mem _ (hidle q hq)
    · exact List.mem_cons_of_mem _ (hidle q hq)
    · rcases Std.ExtTreeMap.mem_insert.mp hq with hnew | hold
      · rw [← Std.LawfulEqCmp.compare_eq_iff_eq.mp hnew]
        exact List.mem_cons_self
      · exact List.mem_cons_of_mem _ (hidle q hold)

theorem leavesNoEntry_of_idle (hidle : m.Idle) : m.LeavesNoEntry env :=
  fun _ _ hunregistered hrun =>
    LoggedHandlers.not_mem_request hrun (.inr fun hmem => hunregistered (hidle _ hmem))

end ManagerRun

/-- Whatever arrives while a request waits, and however requests are nested in it, no entry of
its sequence is left when it returns, unless it was not sent and there was one before. Entries
of other sequences stay as they are where no message of the sequence is received meanwhile and
no nested request has it. In a run from an empty table there is no entry before, but for those
of handlers that were registered to stay. -/
theorem request_entries (program : HandlerProgram H S) (depth : ℕ) :
    let env := program.handlers depth
    (∀ (request : SyncRequest H) s t, request.run env.toHandlers s = .ok t →
      (request.sent = true ∨ request.packet.getMessageSequence ∉ s.messageHandlers) →
      request.packet.getMessageSequence ∉ t.messageHandlers) ∧
    (∀ (request : SyncRequest H) s t (q : ℕ), request.run env.toHandlers s = .ok t →
      q ≠ request.packet.getMessageSequence → q ∉ env.requestLog request s →
      t.messageHandlers[q]? = s.messageHandlers[q]?) ∧
    ∀ (buffer : ReceiveBuffer) (store : S) (calls : List (ManagerCall H)) (m : ManagerRun H S),
      calls.foldlM (ManagerRun.step env) ⟨⟨buffer, ∅, store⟩, []⟩ = .ok m →
      m.LeavesNoEntry env := by
  intro env
  refine ⟨fun request s t => LoggedHandlers.not_mem_request, ?_, ?_⟩
  · intro request s t q hreturns hother hlog
    apply (LoggedHandlers.sheds_request hreturns q).resolve_right
    rintro ⟨hmem, -⟩
    exact (List.mem_cons.mp hmem).elim hother hlog
  · intro buffer store calls m hrun
    have hidle : (⟨⟨buffer, ∅, store⟩, []⟩ : ManagerRun H S).Idle := by simp [ManagerRun.Idle]
    exact ManagerRun.leavesNoEntry_of_idle
      (Runs.foldlM_keeps ManagerRun.Idle (fun _ _ _ _ h hstep => ManagerRun.idle_step h hstep)
        hidle hrun)

end Wificond
