import Wificond.MessageExchange

/-!
# Synchronous requests

The model of `NetlinkManager::SendMessageAndGetResponses`. The handler that
appends to the response vector is registered under the sequence number of the
request, and the call reads the socket until the entry is gone or the time is
used up. Of a datagram that is longer than the receive buffer it gets what
`read` takes of it.
-/
namespace Wificond

variable {H S : Type}

/-- What one pass of the waiting loop meets: the outcome of `poll`, the datagram for `read` or
its failure, and the milliseconds the pass takes. -/
inductive Poll
  | timeout
  | error
  | ready (read : Option (List UInt8)) (elapsed : ℕ)

/-- `kMaximumNetlinkMessageWaitMilliSeconds` -/
abbrev maximumNetlinkMessageWait : ℤ := 4000

/-- The waiting loop. Where the list of polls ends, nothing arrives any more and the next
`poll` times out. Returns the polls that were not made. -/
def responseLoop (env : Handlers H S) (sequence : ℕ) (timeRemaining : ℤ) (polls : List Poll)
    (s : NetlinkState H S) : Exec (Bool × NetlinkState H S × List Poll) :=
  if timeRemaining ≤ 0 then .ok (false, s.eraseHandler sequence, polls)
  else if sequence ∉ s.messageHandlers then .ok (true, s, polls)
  else
    match polls with
    | [] => .ok (false, s.eraseHandler sequence, [])
    | .timeout :: rest => .ok (false, s.eraseHandler sequence, rest)
    | .error :: rest => .ok (false, s.eraseHandler sequence, rest)
    | .ready read elapsed :: rest => do
      let s ← receivePacketAndRunHandler env read s
      responseLoop env sequence (timeRemaining - elapsed) rest s

/-- `SendMessageAndGetResponses` for a request that `sendto` accepts or not; `handler` is
`AppendPacket` bound to the response vector. -/
def sendMessageAndGetResponses (env : Handlers H S) (sent : Bool) (packet : NL80211Packet)
    (handler : H) (polls : List Poll) (s : NetlinkState H S) :
    Exec (Bool × NetlinkState H S × List Poll) :=
  if !sent then .ok (false, s, polls)
  else
    let sequence := packet.getMessageSequence
    responseLoop env sequence maximumNetlinkMessageWait polls
      { s with messageHandlers := s.messageHandlers.insert sequence handler }

/-- A pass of the waiting loop on a socket that carries well-formed messages. -/
inductive Arrival
  | timeout
  | error
  | readError (elapsed : ℕ)
  | datagram (messages : List Message) (elapsed : ℕ)

namespace Arrival

def poll : Arrival → Poll
  | timeout => .timeout
  | error => .error
  | readError elapsed => .ready none elapsed
  | datagram messages elapsed => .ready (some (Wificond.datagram messages)) elapsed

def messages : Arrival → List Message
  | datagram messages _ => messages
  | _ => []

/-- The messages that the receive buffer takes whole. -/
def received (a : Arrival) : List Message := Wificond.received receiveBufferSize a.messages

/-- The messages that it does not. -/
def cutOff (a : Arrival) : List Message := Wificond.cutOff receiveBufferSize a.messages

end Arrival

/-- The time that is left after some passes, if each was still made in time and none of
them failed to poll. -/
def remaining (time : ℤ) : List Arrival → Option ℤ
  | [] => some time
  | .timeout :: _ => none
  | .error :: _ => none
  | .readError elapsed :: rest => if time ≤ 0 then none else remaining (time - elapsed) rest
  | .datagram _ elapsed :: rest => if time ≤ 0 then none else remaining (time - elapsed) rest

/-- The table of handlers after some datagrams. -/
def tableAfter (table : Std.ExtTreeMap ℕ H) : List Arrival → Std.ExtTreeMap ℕ H
  | [] => table
  | a :: rest => tableAfter (dispatch table a.received).1 rest

/-- The messages that the loop comes to in some datagrams. -/
def reachedBy (table : Std.ExtTreeMap ℕ H) : List Arrival → List Message
  | [] => []
  | a :: rest => reached table a.received ++ reachedBy (dispatch table a.received).1 rest

def messagesOf (arrivals : List Arrival) : List Message := arrivals.flatMap Arrival.messages

/-- No datagram that is read while the handler waits leads the loop out of range. -/
def InRange (sequence : ℕ) (time : ℤ) (table : Std.ExtTreeMap ℕ H) (arrivals : List Arrival) :
    Prop :=
  ∀ read a rest, arrivals = read ++ a :: rest →
    ∀ t, remaining time read = some t → 0 < t → (∀ m ∈ reachedBy table read, ¬ Ends sequence m) →
      ¬ Overruns receiveBufferSize (tableAfter table read) a.messages

section Passes
variable {sequence : ℕ} {table : Std.ExtTreeMap ℕ H} {arrivals : List Arrival}

end Passes

section Loop
variable {sequence : ℕ} {time t : ℤ} {messages : List Message} {elapsed : ℕ}

theorem responseLoop_ready (env : Handlers H S) (htime : 0 < time) {s : NetlinkState H S}
    (htable : sequence ∈ s.messageHandlers) (read : Option (List UInt8)) (rest : List Poll) :
    responseLoop env sequence time (.ready read elapsed :: rest) s =
      (receivePacketAndRunHandler env read s >>=
        responseLoop env sequence (time - elapsed) rest) := by
  rw [responseLoop, if_neg (not_le.mpr htime), if_neg (not_not.mpr htable)]

theorem responseLoop_done (env : Handlers H S) (htime : 0 < time) {s : NetlinkState H S}
    (htable : sequence ∉ s.messageHandlers) (polls : List Poll) :
    responseLoop env sequence time polls s = .ok (true, s, polls) := by
  unfold responseLoop
  rw [if_neg (not_le.mpr htime), if_pos htable]

theorem responseLoop_late (env : Handlers H S) (htime : time ≤ 0) (polls : List Poll)
    (s : NetlinkState H S) :
    responseLoop env sequence time polls s = .ok (false, s.eraseHandler sequence, polls) := by
  unfold responseLoop
  rw [if_pos htime]

section Recording
variable {s : NetlinkState H (List (Delivery H))}

/-- A datagram that stays in range is dispatched, and the loop goes on. -/
theorem responseLoop_datagram (htime : 0 < time) (htable : sequence ∈ s.messageHandlers)
    (hrange : ¬ Overruns receiveBufferSize s.messageHandlers messages) (rest : List Arrival) :
    responseLoop recording sequence time
        ((Arrival.datagram messages elapsed :: rest).map Arrival.poll) s =
      responseLoop recording sequence (time - elapsed) (rest.map Arrival.poll)
        (s.afterDatagram messages) := by
  rw [List.map_cons, Arrival.poll, responseLoop_ready recording htime htable,
    receive_datagram hrange]
  rfl

end Recording

end Loop

section Result
variable {sequence : ℕ} {arrivals : List Arrival} {s : NetlinkState H (List (Delivery H))}

end Result

end Wificond
