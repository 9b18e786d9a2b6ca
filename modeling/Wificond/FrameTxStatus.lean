import Wificond.NetlinkRequests
import Wificond.Runs

/-!
# Transmissions of management frames

A client interface waits for the status of one transmission, the last one that the kernel
took. The status arrives as a broadcast with the cookie of the transmission and is told to
the callback of the call that sent it.
-/
namespace Wificond

/-- The error codes of `ISendMgmtFrameEvent` that are used. -/
inductive SendMgmtFrameError
  | unknown
  | mcsUnsupported
  | noAck
  deriving DecidableEq

/-- The calls of a callback. -/
inductive SendMgmtFrameEvent
  | onAck
  | onFailure (reason : SendMgmtFrameError)
  deriving DecidableEq

/-- The fields of a client interface for transmissions, and what the callbacks were told.
Calls of `SendMgmtFrame` are numbered in order. The stored handler goes by the call that
stored it; `none` is the empty lambda. -/
structure FrameTx where
  frameTxInProgress : Bool
  frameTxStatusCookie : UInt64
  onFrameTxStatusEventHandler : Option ℕ
  calls : ℕ
  told : List (ℕ × SendMgmtFrameEvent)
  deriving DecidableEq

namespace FrameTx

def construct : FrameTx := ⟨false, 0, none, 0, []⟩

def tell (call : ℕ) (event : SendMgmtFrameEvent) (tx : FrameTx) : FrameTx :=
  { tx with told := tx.told ++ [(call, event)] }

/-- A call is turned down at once. -/
def refuse (reason : SendMgmtFrameError) (tx : FrameTx) : FrameTx :=
  { tx with calls := tx.calls + 1 }.tell tx.calls (.onFailure reason)

/-- The kernel took the frame: whatever was waited for before is forgotten. -/
def await (cookie : UInt64) (tx : FrameTx) : FrameTx :=
  { tx with
    frameTxInProgress := true
    frameTxStatusCookie := cookie
    onFrameTxStatusEventHandler := some tx.calls
    calls := tx.calls + 1 }

/-- `ClientInterfaceImpl::SendMgmtFrame` -/
def sendMgmtFrame (header : RequestHeader) (respond : SingleResponse) (interfaceIndex : UInt32)
    (supportsTxMgmtFrameMcs : Bool) (frame : List UInt8) (mcs : ℤ) (tx : FrameTx) :
    Exec FrameTx :=
  if 0 ≤ mcs ∧ !supportsTxMgmtFrameMcs then .ok (tx.refuse .mcsUnsupported)
  else do
    match ← NetlinkUtils.sendMgmtFrame header respond interfaceIndex frame with
    | none => return tx.refuse .unknown
    | some cookie => return tx.await cookie

/-- What the stored handler does with the status. -/
def runHandler (wasAcked : Bool) (tx : FrameTx) : FrameTx :=
  match tx.onFrameTxStatusEventHandler with
  | none => tx
  | some call => tx.tell call (if wasAcked then .onAck else .onFailure .noAck)

/-- The handler that the constructor subscribes. -/
def onFrameTxStatus (cookie : UInt64) (wasAcked : Bool) (tx : FrameTx) : FrameTx :=
  if tx.frameTxInProgress ∧ tx.frameTxStatusCookie = cookie then
    { tx.runHandler wasAcked with
      frameTxInProgress := false
      frameTxStatusCookie := 0
      onFrameTxStatusEventHandler := none }
  else tx

end FrameTx

/-- `NetlinkManager::OnFrameTxStatusEvent` up to the lookup of the handler: the interface,
the cookie, and whether the frame was acknowledged. -/
def NetlinkManager.frameTxStatus (packet : NL80211Packet) :
    Exec (Option (UInt32 × UInt64 × Bool)) := do
  match ← packet.getAttributeValue (AttrTemplate.int .uint32) attrIfindex with
  | none => return none
  | some ifIndex =>
    match ← packet.getAttributeValue (AttrTemplate.int .uint64) attrCookie with
    | none => return none
    | some cookie =>
      let wasAcked ← packet.hasAttribute attrAck
      return some (UInt32.ofInt ifIndex, UInt64.ofInt cookie, wasAcked)

/-- `NetlinkManager::OnFrameTxStatusEvent`, for a client interface that subscribed under
`interfaceIndex`. -/
def FrameTx.onFrameTxStatusEvent (interfaceIndex : UInt32) (packet : NL80211Packet)
    (tx : FrameTx) : Exec FrameTx := do
  match ← NetlinkManager.frameTxStatus packet with
  | none => return tx
  | some (ifIndex, cookie, wasAcked) =>
    return if ifIndex = interfaceIndex then tx.onFrameTxStatus cookie wasAcked else tx

/-- A call of `SendMgmtFrame`, or a status event of the interface, with what was read from
the packets of the kernel. -/
inductive TxStep
  | sendMgmtFrame (supportsTxMgmtFrameMcs : Bool) (mcs : ℤ) (answer : Option UInt64)
  | frameTxStatus (cookie : UInt64) (wasAcked : Bool)
  deriving DecidableEq

/-- The reason to turn a call down, or the cookie under which the kernel took the frame. -/
def verdict (supportsTxMgmtFrameMcs : Bool) (mcs : ℤ) (answer : Option UInt64) :
    Except SendMgmtFrameError UInt64 :=
  if 0 ≤ mcs ∧ !supportsTxMgmtFrameMcs then .error .mcsUnsupported
  else
    match answer with
    | none => .error .unknown
    | some cookie => .ok cookie

def FrameTx.step (tx : FrameTx) : TxStep → FrameTx
  | .sendMgmtFrame supports mcs answer =>
    match verdict supports mcs answer with
    | .error reason => tx.refuse reason
    | .ok cookie => tx.await cookie
  | .frameTxStatus cookie wasAcked => tx.onFrameTxStatus cookie wasAcked

namespace TxStep

def isCall : TxStep → Bool
  | sendMgmtFrame .. => true
  | frameTxStatus .. => false

/-- The kernel takes the frame of the call under this cookie. -/
def Accepts (cookie : UInt64) : TxStep → Prop
  | sendMgmtFrame supports mcs answer => verdict supports mcs answer = .ok cookie
  | frameTxStatus .. => False

/-- An event that carries this cookie. -/
def Carries (cookie : UInt64) : TxStep → Prop
  | sendMgmtFrame .. => False
  | frameTxStatus carried _ => carried = cookie

end TxStep

/-- The steps hold a call that was accepted under this cookie, no call was accepted since,
and no event since carried the cookie. The call goes by the number of calls before it. -/
def Awaited (steps : List TxStep) (call : ℕ) (cookie : UInt64) : Prop :=
  ∃ pre accepted post, steps = pre ++ accepted :: post ∧ pre.countP TxStep.isCall = call ∧
    accepted.Accepts cookie ∧
    ∀ step ∈ post, (∀ other, ¬ step.Accepts other) ∧ ¬ step.Carries cookie

/-- What the callbacks are told by a step that comes after these steps. -/
def Tells (pre : List TxStep) (step : TxStep) (told : List (ℕ × SendMgmtFrameEvent)) : Prop :=
  match step with
  | .sendMgmtFrame supports mcs answer =>
    match verdict supports mcs answer with
    | .error reason => told = [(pre.countP TxStep.isCall, .onFailure reason)]
    | .ok _ => told = []
  | .frameTxStatus cookie wasAcked =>
    (∀ call, Awaited pre call cookie →
      told = [(call, if wasAcked then .onAck else .onFailure .noAck)]) ∧
    ((∀ call, ¬ Awaited pre call cookie) → told = [])

/-- The same transmission is waited for. -/
structure SamePending (tx tx' : FrameTx) : Prop where
  inProgress : tx'.frameTxInProgress = tx.frameTxInProgress
  cookie : tx'.frameTxStatusCookie = tx.frameTxStatusCookie
  handler : tx'.onFrameTxStatusEventHandler = tx.onFrameTxStatusEventHandler

section Awaited
variable {steps : List TxStep} {step : TxStep} {call : ℕ} {cookie : UInt64}

theorem not_awaited_nil : ¬ Awaited [] call cookie := by
  rintro ⟨pre, accepted, post, h, -⟩
  simp at h

/-- An accepted call is waited for, and no other. -/
theorem awaited_append_of_accepts {taken : UInt64} (h : step.Accepts taken) :
    Awaited (steps ++ [step]) call cookie ↔
      call = steps.countP TxStep.isCall ∧ cookie = taken := by
  constructor
  · rintro ⟨pre, accepted, post, hsplit, hcall, hacc, hpost⟩
    rcases Runs.append_singleton_split hsplit with ⟨rfl, rfl, -⟩ | ⟨rest, rfl, -⟩
    · refine ⟨hcall.symm, ?_⟩
      cases step with
      | sendMgmtFrame supports mcs answer => exact Except.ok.inj (hacc.symm.trans h)
      | frameTxStatus carried wasAcked => exact h.elim
    · exact absurd h ((hpost step (by simp)).1 taken)
  · rintro ⟨rfl, rfl⟩
    exact ⟨steps, step, [], rfl, rfl, h, by simp⟩

/-- A step that is no accepted call ends the waiting exactly if it carries the cookie. -/
theorem awaited_append_of_not_accepts (h : ∀ taken, ¬ step.Accepts taken) :
    Awaited (steps ++ [step]) call cookie ↔ Awaited steps call cookie ∧ ¬ step.Carries cookie := by
  constructor
  · rintro ⟨pre, accepted, post, hsplit, hcall, hacc, hpost⟩
    rcases Runs.append_singleton_split hsplit with ⟨-, rfl, -⟩ | ⟨rest, rfl, rfl⟩
    · exact absurd hacc (h cookie)
    · refine ⟨⟨pre, accepted, rest, rfl, hcall, hacc, fun k hk => hpost k (by simp [hk])⟩, ?_⟩
      exact (hpost step (by simp)).2
  · rintro ⟨⟨pre, accepted, post, rfl, hcall, hacc, hpost⟩, hcarries⟩
    refine ⟨pre, accepted, post ++ [step], by simp, hcall, hacc, fun k hk => ?_⟩
    rcases List.mem_append.mp hk with hk | hk
    · exact hpost k hk
    · obtain rfl : k = step := by simpa using hk
      exact ⟨h, hcarries⟩

end Awaited

/-- The fields hold the call that is waited for, if there is one. The callbacks that were
told are those of earlier calls, each of them once, and not that of the call waited for. -/
structure Tracks (steps : List TxStep) (tx : FrameTx) : Prop where
  calls_eq : tx.calls = steps.countP TxStep.isCall
  awaited_iff : ∀ call cookie, Awaited steps call cookie ↔ tx.frameTxInProgress = true ∧
    tx.frameTxStatusCookie = cookie ∧ tx.onFrameTxStatusEventHandler = some call
  handler_isSome : tx.frameTxInProgress = true → tx.onFrameTxStatusEventHandler.isSome
  handler_lt : ∀ call, tx.onFrameTxStatusEventHandler = some call → call < tx.calls
  handler_untold : ∀ call, tx.onFrameTxStatusEventHandler = some call →
    call ∉ tx.told.map Prod.fst
  told_lt : ∀ call ∈ tx.told.map Prod.fst, call < tx.calls
  told_nodup : (tx.told.map Prod.fst).Nodup

section Step
variable {steps : List TxStep} {tx : FrameTx}

theorem tracks_construct : Tracks [] FrameTx.construct where
  calls_eq := rfl
  awaited_iff call cookie := by simp [not_awaited_nil, FrameTx.construct]
  handler_isSome := by simp [FrameTx.construct]
  handler_lt := by simp [FrameTx.construct]
  handler_untold := by simp [FrameTx.construct]
  told_lt := by simp [FrameTx.construct]
  told_nodup := by simp [FrameTx.construct]

theorem Tracks.refuse (h : Tracks steps tx) {step : TxStep} (hcall : step.isCall = true)
    (hrefused : ∀ taken, ¬ step.Accepts taken) (hcarries : ∀ cookie, ¬ step.Carries cookie)
    (reason : SendMgmtFrameError) : Tracks (steps ++ [step]) (tx.refuse reason) := by
  have hfresh : tx.calls ∉ tx.told.map Prod.fst := fun hmem => by
    have hlt := h.told_lt _ hmem
    omega
  constructor
  case calls_eq => simp [FrameTx.refuse, FrameTx.tell, h.calls_eq, hcall]
  case awaited_iff =>
    intro call cookie
    rw [awaited_append_of_not_accepts hrefused, h.awaited_iff]
    simp [FrameTx.refuse, FrameTx.tell, hcarries]
  case handler_isSome => exact h.handler_isSome
  case handler_lt =>
    intro call hhandler
    have hlt := h.handler_lt call hhandler
    show call < tx.calls + 1
    omega
  case handler_untold =>
    intro call hhandler
    have hlt := h.handler_lt call hhandler
    have huntold := h.handler_untold call hhandler
    simp only [FrameTx.refuse, FrameTx.tell, List.map_append, List.mem_append, not_or]
    refine ⟨huntold, ?_⟩
    simp only [List.map_cons, List.map_nil, List.mem_singleton]
    omega
  case told_lt =>
    intro call hmem
    simp only [FrameTx.refuse, FrameTx.tell, List.map_append, List.mem_append] at hmem
    show call < tx.calls + 1
    rcases hmem with hmem | hmem
    · have hlt := h.told_lt call hmem
      omega
    · simp only [List.map_cons, List.map_nil, List.mem_singleton] at hmem
      omega
  case told_nodup =>
    simp only [FrameTx.refuse, FrameTx.tell, List.map_append]
    apply List.Nodup.append h.told_nodup (by simp)
    simpa using hfresh

theorem Tracks.await (h : Tracks steps tx) {step : TxStep} (hcall : step.isCall = true)
    {cookie : UInt64} (haccepts : step.Accepts cookie) :
    Tracks (steps ++ [step]) (tx.await cookie) := by
  constructor
  case calls_eq => simp [FrameTx.await, h.calls_eq, hcall]
  case awaited_iff =>
    intro call other
    rw [awaited_append_of_accepts haccepts, ← h.calls_eq]
    simp [FrameTx.await, and_comm, eq_comm]
  case handler_isSome => simp [FrameTx.await]
  case handler_lt => simp [FrameTx.await]
  case handler_untold =>
    intro call hhandler hmem
    have hlt := h.told_lt call hmem
    obtain rfl : tx.calls = call := by simpa [FrameTx.await] using hhandler
    omega
  case told_lt =>
    intro call hmem
    have hlt := h.told_lt call hmem
    show call < tx.calls + 1
    omega
  case told_nodup => exact h.told_nodup

/-- An event with another cookie, or with no transmission in progress. -/
theorem Tracks.ignore (h : Tracks steps tx) {cookie : UInt64} {wasAcked : Bool}
    (hother : ∀ call, ¬ Awaited steps call cookie) :
    Tracks (steps ++ [.frameTxStatus cookie wasAcked]) tx where
  calls_eq := by simp [h.calls_eq, TxStep.isCall]
  awaited_iff call other := by
    rw [awaited_append_of_not_accepts (by simp [TxStep.Accepts]), ← h.awaited_iff]
    refine ⟨And.left, fun hawaited => ⟨hawaited, fun hcarries => ?_⟩⟩
    obtain rfl : cookie = other := hcarries
    exact hother call hawaited
  handler_isSome := h.handler_isSome
  handler_lt := h.handler_lt
  handler_untold := h.handler_untold
  told_lt := h.told_lt
  told_nodup := h.told_nodup

/-- An event with no call that waits for its cookie leaves the fields alone. -/
theorem Tracks.onFrameTxStatus_of_not_awaited (h : Tracks steps tx) {cookie : UInt64}
    (hother : ∀ call, ¬ Awaited steps call cookie) (wasAcked : Bool) :
    tx.onFrameTxStatus cookie wasAcked = tx := by
  rw [FrameTx.onFrameTxStatus, if_neg]
  rintro ⟨hprogress, hcookie⟩
  obtain ⟨call, hcall⟩ := Option.isSome_iff_exists.mp (h.handler_isSome hprogress)
  exact hother call ((h.awaited_iff call cookie).mpr ⟨hprogress, hcookie, hcall⟩)

/-- The event that a call waits for is told to its callback, and the call is forgotten. -/
theorem Tracks.onFrameTxStatus_of_awaited (h : Tracks steps tx) {cookie : UInt64} {call : ℕ}
    (hawaited : Awaited steps call cookie) (wasAcked : Bool) :
    tx.onFrameTxStatus cookie wasAcked =
      { tx.tell call (if wasAcked then .onAck else .onFailure .noAck) with
        frameTxInProgress := false
        frameTxStatusCookie := 0
        onFrameTxStatusEventHandler := none } := by
  obtain ⟨hprogress, hcookie, hcall⟩ := (h.awaited_iff call cookie).mp hawaited
  rw [FrameTx.onFrameTxStatus, if_pos ⟨hprogress, hcookie⟩, FrameTx.runHandler, hcall]

theorem Tracks.report (h : Tracks steps tx) {cookie : UInt64} {call : ℕ}
    (hawaited : Awaited steps call cookie) (wasAcked : Bool) :
    Tracks (steps ++ [.frameTxStatus cookie wasAcked]) (tx.onFrameTxStatus cookie wasAcked) := by
  obtain ⟨hprogress, hcookie, hcall⟩ := (h.awaited_iff call cookie).mp hawaited
  rw [h.onFrameTxStatus_of_awaited hawaited]
  constructor
  case calls_eq => simp [FrameTx.tell, h.calls_eq, TxStep.isCall]
  case awaited_iff =>
    intro other carried
    rw [awaited_append_of_not_accepts (by simp [TxStep.Accepts]), h.awaited_iff]
    constructor
    · rintro ⟨⟨-, hcarried, -⟩, hcarries⟩
      exact absurd (hcookie.symm.trans hcarried) hcarries
    · rintro ⟨hnone, -⟩
      exact absurd hnone Bool.false_ne_true
  case handler_isSome => simp
  case handler_lt => simp
  case handler_untold => simp
  case told_lt =>
    intro other hmem
    simp only [FrameTx.tell, List.map_append, List.mem_append] at hmem
    show other < tx.calls
    rcases hmem with hmem | hmem
    · exact h.told_lt other hmem
    · simp only [List.map_cons, List.map_nil, List.mem_singleton] at hmem
      have hlt := h.handler_lt call hcall
      omega
  case told_nodup =>
    simp only [FrameTx.tell, List.map_append]
    apply List.Nodup.append h.told_nodup (by simp)
    simpa using h.handler_untold call hcall

theorem Tracks.step (h : Tracks steps tx) (step : TxStep) :
    Tracks (steps ++ [step]) (tx.step step) := by
  cases step with
  | sendMgmtFrame supports mcs answer =>
    rw [FrameTx.step]
    cases hverdict : verdict supports mcs answer with
    | error reason =>
      have hrefused : ∀ taken, ¬ (TxStep.sendMgmtFrame supports mcs answer).Accepts taken := by
        simp [TxStep.Accepts, hverdict]
      exact h.refuse rfl hrefused (by simp [TxStep.Carries]) reason
    | ok cookie => exact h.await rfl hverdict
  | frameTxStatus cookie wasAcked =>
    rw [FrameTx.step]
    by_cases hany : ∃ call, Awaited steps call cookie
    · obtain ⟨call, hawaited⟩ := hany
      exact h.report hawaited wasAcked
    · push Not at hany
      rw [h.onFrameTxStatus_of_not_awaited hany]
      exact h.ignore hany

/-- One call is waited for at a time. -/
theorem Tracks.awaited_unique (h : Tracks steps tx) {call other : ℕ} {cookie : UInt64}
    (hawaited : Awaited steps call cookie) (hother : Awaited steps other cookie) :
    call = other := by
  have hcall := ((h.awaited_iff call cookie).mp hawaited).2.2
  have hsame := ((h.awaited_iff other cookie).mp hother).2.2
  exact Option.some.inj (hcall.symm.trans hsame)

theorem Tracks.tells (h : Tracks steps tx) (step : TxStep) :
    ∃ now, (tx.step step).told = tx.told ++ now ∧ Tells steps step now := by
  cases step with
  | sendMgmtFrame supports mcs answer =>
    rw [FrameTx.step]
    simp only [Tells]
    cases hverdict : verdict supports mcs answer with
    | error reason => exact ⟨_, rfl, by rw [h.calls_eq]⟩
    | ok cookie => exact ⟨[], by simp [FrameTx.await], rfl⟩
  | frameTxStatus cookie wasAcked =>
    rw [FrameTx.step]
    by_cases hany : ∃ call, Awaited steps call cookie
    · obtain ⟨call, hawaited⟩ := hany
      rw [h.onFrameTxStatus_of_awaited hawaited]
      refine ⟨_, rfl, fun other hother => ?_, fun hnone => absurd hawaited (hnone call)⟩
      rw [h.awaited_unique hawaited hother]
    · push Not at hany
      rw [h.onFrameTxStatus_of_not_awaited hany]
      exact ⟨[], by simp, fun call hawaited => absurd hawaited (hany call), fun _ => rfl⟩

theorem samePending_of_refused {step : TxStep} (hcall : step.isCall = true)
    (hrefused : ∀ taken, ¬ step.Accepts taken) : SamePending tx (tx.step step) := by
  cases step with
  | sendMgmtFrame supports mcs answer =>
    rw [FrameTx.step]
    cases hverdict : verdict supports mcs answer with
    | error reason => exact ⟨rfl, rfl, rfl⟩
    | ok cookie => exact absurd hverdict (hrefused cookie)
  | frameTxStatus cookie wasAcked => simp [TxStep.isCall] at hcall

end Step

theorem tracks_foldl (steps : List TxStep) :
    Tracks steps (steps.foldl FrameTx.step FrameTx.construct) := by
  induction steps using List.reverseRecOn with
  | nil => exact tracks_construct
  | append_singleton steps step ih =>
    rw [List.foldl_concat]
    exact ih.step step

/-- In any run no callback is told twice, and the next step tells exactly the callbacks it
should: a call that is turned down its own, and leaves the pending transmission alone, a
status event that of the call waiting for its cookie. -/
theorem callbacks_of_steps (steps : List TxStep) (next : TxStep) :
    let tx := steps.foldl FrameTx.step FrameTx.construct
    (tx.told.map Prod.fst).Nodup ∧
    (∃ now, (tx.step next).told = tx.told ++ now ∧ Tells steps next now) ∧
    (next.isCall = true → (∀ taken, ¬ next.Accepts taken) → SamePending tx (tx.step next)) := by
  have htracks := tracks_foldl steps
  exact ⟨htracks.told_nodup, htracks.tells next, samePending_of_refused⟩

-- the event of the first call comes too late: the second call is the one waited for
example : ([.sendMgmtFrame false (-1) (some 7), .sendMgmtFrame false (-1) (some 9),
    .frameTxStatus 7 true, .frameTxStatus 9 false, .frameTxStatus 9 true].foldl
      FrameTx.step FrameTx.construct).told = [(1, .onFailure .noAck)] := by decide

/-- A call of `SendMgmtFrame` with all it uses, or a received `NL80211_CMD_FRAME_TX_STATUS`. -/
inductive TxIncoming
  | sendMgmtFrame (header : RequestHeader) (respond : SingleResponse)
    (supportsTxMgmtFrameMcs : Bool) (frame : List UInt8) (mcs : ℤ)
  | frameTxStatus (packet : NL80211Packet)

/-- The step that is made of it, if any. A call that names an unsupported rate sends no
request. -/
def TxIncoming.read (interfaceIndex : UInt32) : TxIncoming → Exec (Option TxStep)
  | sendMgmtFrame header respond supports frame mcs =>
    if 0 ≤ mcs ∧ !supports then .ok (some (.sendMgmtFrame supports mcs none))
    else (NetlinkUtils.sendMgmtFrame header respond interfaceIndex frame).map
      fun answer => some (.sendMgmtFrame supports mcs answer)
  | frameTxStatus packet => (NetlinkManager.frameTxStatus packet).map fun status =>
    status.bind fun (ifIndex, cookie, wasAcked) =>
      if ifIndex = interfaceIndex then some (.frameTxStatus cookie wasAcked) else none

def FrameTx.receive (interfaceIndex : UInt32) (tx : FrameTx) : TxIncoming → Exec FrameTx
  | .sendMgmtFrame header respond supports frame mcs =>
    tx.sendMgmtFrame header respond interfaceIndex supports frame mcs
  | .frameTxStatus packet => tx.onFrameTxStatusEvent interfaceIndex packet

section Receive
variable {interfaceIndex : UInt32} {tx : FrameTx}

theorem FrameTx.receive_eq (incoming : TxIncoming) :
    tx.receive interfaceIndex incoming =
      (incoming.read interfaceIndex).map fun step => step.elim tx tx.step := by
  cases incoming with
  | sendMgmtFrame header respond supports frame mcs =>
    rw [FrameTx.receive, FrameTx.sendMgmtFrame, TxIncoming.read]
    by_cases hmcs : 0 ≤ mcs ∧ !supports
    · rw [if_pos hmcs, if_pos hmcs]
      simp [Except.map, FrameTx.step, verdict, hmcs]
    · rw [if_neg hmcs, if_neg hmcs]
      cases NetlinkUtils.sendMgmtFrame header respond interfaceIndex frame with
      | error fault => rfl
      | ok answer =>
        cases answer with
        | none =>
          have hverdict : verdict supports mcs none = .error .unknown := by
            rw [verdict, if_neg hmcs]
          simp only [Except.map, Option.elim, FrameTx.step, hverdict]
          rfl
        | some cookie =>
          have hverdict : verdict supports mcs (some cookie) = .ok cookie := by
            rw [verdict, if_neg hmcs]
          simp only [Except.map, Option.elim, FrameTx.step, hverdict]
          rfl
  | frameTxStatus packet =>
    rw [FrameTx.receive, FrameTx.onFrameTxStatusEvent, TxIncoming.read]
    cases NetlinkManager.frameTxStatus packet with
    | error fault => rfl
    | ok status =>
      cases status with
      | none => rfl
      | some status =>
        obtain ⟨ifIndex, cookie, wasAcked⟩ := status
        by_cases hindex : ifIndex = interfaceIndex
        · simp [bind, Except.bind, Except.map, FrameTx.step, hindex]
          rfl
        · simp [bind, Except.bind, Except.map, hindex]
          rfl

/-- A run over packets comes to its end exactly if every packet can be read, and is the run
over the steps that were read. -/
theorem FrameTx.foldlM_receive (incoming : List TxIncoming) :
    incoming.foldlM (FrameTx.receive interfaceIndex) tx =
      (incoming.mapM (TxIncoming.read interfaceIndex)).map fun steps =>
        steps.reduceOption.foldl FrameTx.step tx := by
  induction incoming generalizing tx with
  | nil => rfl
  | cons first incoming ih =>
    rw [List.foldlM_cons, List.mapM_cons, FrameTx.receive_eq]
    cases first.read interfaceIndex with
    | error fault => rfl
    | ok step =>
      simp only [Except.map, bind, Except.bind, ih]
      cases incoming.mapM (TxIncoming.read interfaceIndex) with
      | error fault => rfl
      | ok steps =>
        cases step with
        | none => rfl
        | some step => rfl

end Receive

/-- In any run over calls of `SendMgmtFrame` and packets with status events that returns, no
callback is told twice, and what comes next tells exactly the callbacks it should; a call that
is turned down leaves the pending transmission alone, and an event of another interface, or
one that lacks a value, changes nothing. -/
theorem frame_tx_callbacks (interfaceIndex : UInt32) (incoming : List TxIncoming)
    (next : TxIncoming) {tx tx' : FrameTx}
    (hrun : incoming.foldlM (FrameTx.receive interfaceIndex) FrameTx.construct = .ok tx)
    (hnext : tx.receive interfaceIndex next = .ok tx') :
    ∃ read step, incoming.mapM (TxIncoming.read interfaceIndex) = .ok read ∧
      next.read interfaceIndex = .ok step ∧ (tx.told.map Prod.fst).Nodup ∧
      (step = none → tx' = tx) ∧
      ∀ taken, step = some taken →
        (∃ now, tx'.told = tx.told ++ now ∧ Tells read.reduceOption taken now) ∧
        (taken.isCall = true → (∀ cookie, ¬ taken.Accepts cookie) → SamePending tx tx') := by
  rw [FrameTx.foldlM_receive] at hrun
  rw [FrameTx.receive_eq] at hnext
  cases hread : incoming.mapM (TxIncoming.read interfaceIndex) with
  | error fault => simp [hread, Except.map] at hrun
  | ok read =>
    rw [hread] at hrun
    obtain rfl := Except.ok.inj hrun
    cases hstep : next.read interfaceIndex with
    | error fault => simp [hstep, Except.map] at hnext
    | ok step =>
      rw [hstep] at hnext
      obtain rfl := Except.ok.inj hnext
      refine ⟨read, step, rfl, rfl, (tracks_foldl read.reduceOption).told_nodup, ?_, ?_⟩
      · rintro rfl
        rfl
      · rintro taken rfl
        exact (callbacks_of_steps read.reduceOption taken).2

/-- The kernel takes the first frame under cookie 7, the second call names a rate that is not
supported, and the status of the first then tells its callback that no one acknowledged. -/
theorem frame_tx_callbacks_no_ack :
    let answer := (NL80211Packet.ofHeader 24 59 0 0).addAttribute
      (NL80211Attr.ofInt .uint64 attrCookie 7)
    let status := ((NL80211Packet.ofHeader 24 60 0 0).addAttribute
      (NL80211Attr.ofInt .uint32 attrIfindex 3)).addAttribute
      (NL80211Attr.ofInt .uint64 attrCookie 7)
    let calls : List TxIncoming := [.sendMgmtFrame ⟨24, 1, 0⟩ (fun _ => some answer) false [] (-1),
      .sendMgmtFrame ⟨24, 2, 0⟩ (fun _ => none) false [] 3]
    ∃ tx tx', calls.foldlM (FrameTx.receive 3) FrameTx.construct = .ok tx ∧
      tx.receive 3 (.frameTxStatus status) = .ok tx' ∧
      tx'.told = tx.told ++ [(0, .onFailure .noAck)] := by
  intro answer status calls
  let tx : FrameTx := ⟨true, 7, some 0, 2, [(1, .onFailure .mcsUnsupported)]⟩
  let tx' : FrameTx :=
    ⟨false, 0, none, 2, [(1, .onFailure .mcsUnsupported), (0, .onFailure .noAck)]⟩
  have hrun : calls.foldlM (FrameTx.receive 3) FrameTx.construct = .ok tx := by decide +kernel
  have hnext : tx.receive 3 (.frameTxStatus status) = .ok tx' := by decide +kernel
  refine ⟨tx, tx', hrun, hnext, ?_⟩
  obtain ⟨read, step, hread, hstep, -, -, htells⟩ :=
    frame_tx_callbacks 3 calls (.frameTxStatus status) hrun hnext
  have hread' : calls.mapM (TxIncoming.read 3) =
      .ok [some (.sendMgmtFrame false (-1) (some 7)), some (.sendMgmtFrame false 3 none)] := by
    decide +kernel
  have hstep' : (TxIncoming.frameTxStatus status).read 3 = .ok (some (.frameTxStatus 7 false)) := by
    decide +kernel
  obtain rfl := Except.ok.inj (hread'.symm.trans hread)
  obtain rfl := Except.ok.inj (hstep'.symm.trans hstep)
  obtain ⟨⟨now, htold, htell, -⟩, -⟩ := htells _ rfl
  rw [htold, htell 0 ⟨[], _, [.sendMgmtFrame false 3 none], rfl, rfl, rfl, ?_⟩]
  · rfl
  · simp [TxStep.Accepts, TxStep.Carries, verdict]

end Wificond
