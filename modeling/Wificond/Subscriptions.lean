import Wificond.ObjectNumbers
import Wificond.RetainedObjects
import Wificond.ServerOwners

/-!
# Subscribers of scanners

A scanner has one subscriber for the scans that are asked for and one for scheduled scans. A
remote process may change them at any time, but with a scanner whose client is gone nobody can
subscribe any more.
-/
namespace Wificond

/-- The subscriptions that a scanner has. -/
inductive Subscription
  | scan | pno
  deriving DecidableEq

namespace Subscription

def subscribe : Subscription → ℕ → ScannerMethod
  | scan => .subscribeScanEvents
  | pno => .subscribePnoScanEvents

def unsubscribe : Subscription → ScannerMethod
  | scan => .unsubscribeScanEvents
  | pno => .unsubscribePnoScanEvents

/-- The method subscribes somebody or unsubscribes. -/
def Changes (kind : Subscription) (method : ScannerMethod) : Prop :=
  method = kind.unsubscribe ∨ ∃ handler, method = kind.subscribe handler

end Subscription

def Scanner.handlerOf (scanner : Scanner) : Subscription → Option ℕ
  | .scan => scanner.scanEventHandler
  | .pno => scanner.pnoScanEventHandler

theorem Subscription.subscribe_injective (kind : Subscription) :
    Function.Injective kind.subscribe := by
  intro handler other h
  cases kind with
  | scan => exact ScannerMethod.subscribeScanEvents.inj h
  | pno => exact ScannerMethod.subscribePnoScanEvents.inj h

theorem Subscription.unsubscribe_ne_subscribe (kind : Subscription) (handler : ℕ) :
    kind.unsubscribe ≠ kind.subscribe handler := by
  cases kind <;> simp [unsubscribe, subscribe]

namespace Scanner

variable {scanner after : Scanner} {kind : Subscription} {method : ScannerMethod}

theorem handlerOf_scanRequest {reply : Except ℕ Unit}
    (h : scanner.scanRequest reply = some after) (kind : Subscription) :
    after.handlerOf kind = scanner.handlerOf kind := by
  unfold scanRequest at h
  split_ifs at h with hvalid
  · obtain rfl := Option.some.inj h
    rfl
  · cases reply with
    | error errorCode =>
      dsimp only at h
      split_ifs at h <;> obtain rfl := Option.some.inj h <;> cases kind <;> rfl
    | ok _ =>
      obtain rfl := Option.some.inj h
      cases kind <;> rfl

theorem pnoScanEventHandler_startPnoScan {impl : ScannerImpl} {reply : Except ℕ Unit}
    {result : Bool × ScannerImpl} (h : impl.startPnoScan reply = some result) :
    result.2.pnoScanEventHandler = impl.pnoScanEventHandler := by
  unfold ScannerImpl.startPnoScan at h
  split_ifs at h with hvalid
  · obtain rfl := Option.some.inj h
    rfl
  · cases reply with
    | error errorCode =>
      dsimp only at h
      split_ifs at h <;> obtain rfl := Option.some.inj h <;> rfl
    | ok _ =>
      obtain rfl := Option.some.inj h
      rfl

theorem pnoScanEventHandler_stopPnoScan (impl : ScannerImpl) (reply : Except ℕ Unit) :
    (impl.stopPnoScan reply).2.pnoScanEventHandler = impl.pnoScanEventHandler := by
  unfold ScannerImpl.stopPnoScan
  split_ifs
  · rfl
  · cases reply <;> rfl

theorem pnoScanEventHandler_onSchedScanResultsReady (impl : ScannerImpl) (scanStopped : Bool) :
    (impl.onSchedScanResultsReady scanStopped).2.pnoScanEventHandler =
      impl.pnoScanEventHandler := by
  unfold ScannerImpl.onSchedScanResultsReady
  cases hhandler : impl.pnoScanEventHandler with
  | none => exact hhandler
  | some handler => cases scanStopped <;> simp [hhandler]

/-- Only its own two methods change a subscription. -/
theorem handlerOf_call_of_not_changes (h : scanner.call method = some after)
    (hmethod : ¬ kind.Changes method) : after.handlerOf kind = scanner.handlerOf kind := by
  cases method with
  | getScanResults | getPnoScanResults | getMaxSsidsPerScan | abortScan =>
    obtain rfl := Option.some.inj h
    rfl
  | onScanResultsReady =>
    obtain rfl := Option.some.inj h
    cases kind <;> rfl
  | scan random reply | scanRequest random reply => exact handlerOf_scanRequest h kind
  | startPnoScan random reply =>
    obtain ⟨result, hresult, rfl⟩ := Option.map_eq_some_iff.mp h
    cases kind with
    | scan => rfl
    | pno => exact pnoScanEventHandler_startPnoScan hresult
  | stopPnoScan reply =>
    obtain rfl := Option.some.inj h
    cases kind with
    | scan => rfl
    | pno => exact pnoScanEventHandler_stopPnoScan _ _
  | onSchedScanResultsReady scanStopped =>
    obtain rfl := Option.some.inj h
    cases kind with
    | scan => rfl
    | pno => exact pnoScanEventHandler_onSchedScanResultsReady _ _
  | subscribeScanEvents handler =>
    cases kind with
    | scan => exact absurd (.inr ⟨handler, rfl⟩) hmethod
    | pno =>
      obtain rfl := Option.some.inj h
      split_ifs <;> rfl
  | unsubscribeScanEvents =>
    cases kind with
    | scan => exact absurd (.inl rfl) hmethod
    | pno =>
      obtain rfl := Option.some.inj h
      rfl
  | subscribePnoScanEvents handler =>
    cases kind with
    | scan =>
      obtain rfl := Option.some.inj h
      rfl
    | pno => exact absurd (.inr ⟨handler, rfl⟩) hmethod
  | unsubscribePnoScanEvents =>
    cases kind with
    | scan =>
      obtain rfl := Option.some.inj h
      rfl
    | pno => exact absurd (.inl rfl) hmethod

theorem handlerOf_call_unsubscribe (h : scanner.call kind.unsubscribe = some after) :
    after.handlerOf kind = none := by
  cases kind with
  | scan =>
    obtain rfl := Option.some.inj h
    rfl
  | pno =>
    obtain rfl := Option.some.inj h
    rfl

theorem handlerOf_call_subscribe {handler : ℕ}
    (h : scanner.call (kind.subscribe handler) = some after) (hvalid : after.valid = true) :
    after.handlerOf kind = some handler := by
  have hbefore : scanner.valid = true := (call_keeps h).1 ▸ hvalid
  cases kind with
  | scan =>
    have hcall : (if !scanner.valid then scanner else { scanner with
      scanEventHandler := some handler }) = after := Option.some.inj h
    rw [if_neg (by simp [hbefore])] at hcall
    rw [← hcall]
    rfl
  | pno =>
    obtain rfl := Option.some.inj h
    show (scanner.toScannerImpl.subscribePnoScanEvents handler).pnoScanEventHandler = _
    rw [ScannerImpl.subscribePnoScanEvents, if_neg (by simp [hbefore])]

end Scanner

namespace World

variable {w w' : World} {call : Call} {id : ObjectId} {kind : Subscription}

/-- The subscriber of a scanner, where there is the scanner. -/
def subscriber (w : World) (kind : Subscription) (id : ObjectId) : Option ℕ :=
  (w.scanner id).bind fun scanner => scanner.handlerOf kind

/-- A scanner of this number, if there is one, is not that of a client that is gone. -/
def Usable (w : World) (id : ObjectId) : Prop :=
  ∀ scanner, w.scanner id = some scanner → scanner.valid = true

theorem scanner_observe (w : World) (event : LifecycleEvent) (id : ObjectId) :
    (w.observe event).scanner id =
      if event = .clientConstructed id then some (Scanner.construct id)
      else if event = .clientDestroyed id then (w.scanner id).map Scanner.invalidate
      else w.scanner id := by
  cases event with
  | clientConstructed new =>
    by_cases hid : id = new
    · simp [observe, hid]
    · simp [observe, hid, Ne.symm hid]
  | clientDestroyed dead =>
    by_cases hid : id = dead
    · simp [observe, hid]
    · simp [observe, hid, Ne.symm hid]
  | apConstructed new => rfl
  | apDestroyed dead => rfl

theorem isSome_scanner_observe (event : LifecycleEvent) :
    ((w.observe event).scanner id).isSome ↔
      (w.scanner id).isSome ∨ event = .clientConstructed id := by
  rw [scanner_observe]
  split_ifs with hnew hdead
  · simp [hnew]
  · simp [hnew]
  · simp [hnew]

/-- Of the events of a call only a construction concerns the subscribers. -/
theorem subscriber_observe (event : LifecycleEvent) :
    (w.observe event).subscriber kind id =
      if event = .clientConstructed id then none else w.subscriber kind id := by
  rw [subscriber, subscriber, scanner_observe]
  split_ifs with hnew hdead
  · cases kind <;> rfl
  · rw [Option.bind_map]
    cases kind <;> rfl
  · rfl

theorem isSome_scanner_foldl_observe (events : List LifecycleEvent) (w : World) :
    ((events.foldl observe w).scanner id).isSome ↔
      (w.scanner id).isSome ∨ .clientConstructed id ∈ events := by
  induction events generalizing w with
  | nil => simp
  | cons event events ih =>
    rw [List.foldl_cons, ih, isSome_scanner_observe, List.mem_cons, or_assoc,
      eq_comm (a := event)]

theorem subscriber_foldl_observe (events : List LifecycleEvent) (w : World) :
    (events.foldl observe w).subscriber kind id =
      if .clientConstructed id ∈ events then none else w.subscriber kind id := by
  induction events generalizing w with
  | nil => simp
  | cons event events ih =>
    rw [List.foldl_cons, ih, subscriber_observe]
    by_cases hlater : .clientConstructed id ∈ events
    · simp [hlater]
    · by_cases hnow : event = .clientConstructed id <;> simp [hlater, hnow, eq_comm]

/-- What is not usable before is not usable behind, where it is not constructed. -/
theorem usable_of_foldl_observe {events : List LifecycleEvent}
    (hnew : .clientConstructed id ∉ events) (h : (events.foldl observe w).Usable id) :
    w.Usable id := by
  induction events generalizing w with
  | nil => exact h
  | cons event events ih =>
    have hnext := ih (fun hmem => hnew (List.mem_cons_of_mem _ hmem)) h
    have hevent : event ≠ .clientConstructed id := by
      rintro rfl
      exact hnew (by simp)
    intro scanner hscanner
    by_contra hinvalid
    have hobserve := scanner_observe w event id
    rw [if_neg hevent, hscanner, Option.map_some] at hobserve
    split_ifs at hobserve with hdead
    · exact absurd (hnext _ hobserve) (by simp [Scanner.invalidate])
    · exact hinvalid (hnext _ hobserve)

/-- Scanners are those of clients that were constructed, and the scanner of a client that is
live is valid; and every handler is that of a live object. -/
structure Scanners (w : World) : Prop where
  wellNamed : w.server.WellNamed
  owned : w.server.HandlersOwned
  numbered : ∀ id, (w.scanner id).isSome → id < w.server.platform.created
  live : ∀ id ∈ w.server.live.clients, ∃ scanner, w.scanner id = some scanner ∧
    scanner.valid = true

theorem scanners_fresh : fresh.Scanners where
  wellNamed := Server.wellNamed_fresh
  owned := Server.handlersOwned_fresh
  numbered id h := by simp [fresh] at h
  live id h := by
    obtain ⟨name, client, hc, -⟩ := h
    simp [fresh, Server.fresh] at hc

/-- The scanners of live clients are valid through the events of a call. -/
theorem live_foldl_observe {live : LiveObjects} (events : List LifecycleEvent)
    (h : ∀ id ∈ live.clients, ∃ scanner, w.scanner id = some scanner ∧ scanner.valid = true) :
    ∀ id ∈ (events.foldl LiveObjects.after live).clients, ∃ scanner,
      (events.foldl observe w).scanner id = some scanner ∧ scanner.valid = true := by
  induction events generalizing live w with
  | nil => exact h
  | cons event events ih =>
    apply ih
    intro id hid
    rw [scanner_observe]
    cases event with
    | clientConstructed new =>
      by_cases heq : new = id
      · subst heq
        exact ⟨Scanner.construct new, by simp, rfl⟩
      · obtain ⟨scanner, hscanner, hvalid⟩ :=
          h id ((Set.mem_insert_iff.mp hid).resolve_left (Ne.symm heq))
        exact ⟨scanner, by simp [heq, hscanner], hvalid⟩
    | clientDestroyed dead =>
      have hne : dead ≠ id := fun heq => hid.2 heq.symm
      obtain ⟨scanner, hscanner, hvalid⟩ := h id hid.1
      exact ⟨scanner, by simp [hne, hscanner], hvalid⟩
    | apConstructed new => simpa using h id hid
    | apDestroyed dead => simpa using h id hid

/-- The subscriber stays the same, and no scanner becomes usable again. -/
structure Quiet (kind : Subscription) (id : ObjectId) (w w' : World) : Prop where
  scanners : w'.Scanners
  subscriber_eq : w'.subscriber kind id = w.subscriber kind id
  usable : w'.Usable id → w.Usable id

theorem Quiet.trans {w'' : World} (h : Quiet kind id w w') (h' : Quiet kind id w' w'') :
    Quiet kind id w w'' :=
  ⟨h'.scanners, h'.subscriber_eq.trans h.subscriber_eq, h.usable ∘ h'.usable⟩

theorem quiet_serve (h : w.Scanners) (kind : Subscription) (id : ObjectId) (call : Call) :
    Quiet kind id w (w.serve call) := by
  have hnone (hnew : .clientConstructed id ∈ w.server.lifecycle call) : w.scanner id = none := by
    rw [← Option.not_isSome_iff_eq_none]
    intro hsome
    have hlt := h.numbered id hsome
    exact absurd (Server.eq_created_of_constructed hnew rfl).1 (Nat.ne_of_lt hlt)
  refine ⟨⟨?_, ?_, fun id' hid => ?_, ?_⟩, ?_, fun husable => ?_⟩
  · rw [server_serve]
    exact Server.wellNamed_serve h.wellNamed
  · rw [server_serve]
    exact Server.handlersOwned_serve h.owned
  · rw [server_serve]
    rcases (isSome_scanner_foldl_observe _ _).mp hid with hold | hnew
    · exact lt_of_lt_of_le (h.numbered id' hold) Server.created_le_serve
    · obtain ⟨rfl, hcreated⟩ := Server.eq_created_of_constructed hnew rfl
      rw [hcreated]
      exact Nat.lt_succ_self _
  · rw [server_serve, Server.live_serve h.wellNamed]
    exact live_foldl_observe _ h.live
  · rw [serve, subscriber_foldl_observe]
    split_ifs with hnew
    · simp [subscriber, hnone hnew]
    · rfl
  · by_cases hnew : .clientConstructed id ∈ w.server.lifecycle call
    · intro scanner hscanner
      simp [hnone hnew] at hscanner
    · exact usable_of_foldl_observe (w := { w with server := w.server.serve call }) hnew husable

theorem server_callScanner (id : ObjectId) (method : ScannerMethod) :
    (w.callScanner id method).server = w.server := by
  unfold callScanner
  cases w.scanner id with
  | none => rfl
  | some scanner =>
    dsimp only
    cases scanner.call method <;> rfl

/-- What a call of a method leaves of the scanner of any number. -/
theorem scanner_callScanner (id id' : ObjectId) (method : ScannerMethod) :
    (w.callScanner id' method).scanner id = w.scanner id ∨
      id = id' ∧ ∃ before after, w.scanner id = some before ∧ before.call method = some after ∧
        (w.callScanner id' method).scanner id = some after := by
  unfold callScanner
  cases hs : w.scanner id' with
  | none => exact .inl rfl
  | some scanner =>
    dsimp only
    cases hcall : scanner.call method with
    | none => exact .inl rfl
    | some after =>
      by_cases hid : id = id'
      · subst hid
        exact .inr ⟨rfl, scanner, after, hs, hcall, by simp⟩
      · exact .inl (by simp [hid])

theorem scanners_callScanner (h : w.Scanners) (id' : ObjectId) (method : ScannerMethod) :
    (w.callScanner id' method).Scanners := by
  refine ⟨?_, ?_, fun id hid => ?_, fun id hid => ?_⟩
  · rw [server_callScanner]
    exact h.wellNamed
  · rw [server_callScanner]
    exact h.owned
  · rw [server_callScanner]
    apply h.numbered id
    rcases scanner_callScanner id id' method with hsame | ⟨-, before, after, hbefore, -⟩
    · rwa [hsame] at hid
    · simp [hbefore]
  · rw [server_callScanner] at hid
    obtain ⟨scanner, hscanner, hvalid⟩ := h.live id hid
    rcases scanner_callScanner id id' method with
      hsame | ⟨-, before, after, hbefore, hcall, hafter⟩
    · exact ⟨scanner, hsame.trans hscanner, hvalid⟩
    · obtain rfl : before = scanner := by simpa [hbefore] using hscanner
      exact ⟨after, hafter, (Scanner.call_keeps hcall).1.trans hvalid⟩

theorem usable_of_callScanner {id' : ObjectId} {method : ScannerMethod}
    (h : (w.callScanner id' method).Usable id) : w.Usable id := by
  intro scanner hscanner
  rcases scanner_callScanner id id' method with
    hsame | ⟨-, before, after, hbefore, hcall, hafter⟩
  · exact h scanner (hsame.trans hscanner)
  · obtain rfl : before = scanner := by simpa [hbefore] using hscanner
    exact (Scanner.call_keeps hcall).1 ▸ h after hafter

theorem quiet_callScanner (h : w.Scanners) {id' : ObjectId} {method : ScannerMethod}
    (hquiet : id' = id → ¬ kind.Changes method) :
    Quiet kind id w (w.callScanner id' method) := by
  refine ⟨scanners_callScanner h id' method, ?_, usable_of_callScanner⟩
  rcases scanner_callScanner id id' method with
    hsame | ⟨hid, before, after, hbefore, hcall, hafter⟩
  · rw [subscriber, hsame, subscriber]
  · rw [subscriber, subscriber, hafter, hbefore, Option.bind_some, Option.bind_some]
    exact Scanner.handlerOf_call_of_not_changes hcall (hquiet hid.symm)

theorem quiet_foldl_serve {calls : List Call} (h : w.Scanners) (kind : Subscription)
    (id : ObjectId) : Quiet kind id w (calls.foldl (fun w call => w.serve call) w) := by
  induction calls generalizing w with
  | nil => exact ⟨h, rfl, fun husable => husable⟩
  | cons call calls ih =>
    have hfirst := quiet_serve h kind id call
    exact hfirst.trans (ih hfirst.scanners)

/-- What a method that changes the subscription leaves, where its scanner is usable and the
process goes on. -/
theorem subscriber_callScanner_of_changes {method : ScannerMethod} {handler : ℕ}
    (hchanges : kind.Changes method) (husable : (w.callScanner id method).Usable id)
    (hrunning : (w.callScanner id method).aborted = false) :
    (w.callScanner id method).subscriber kind id = some handler ↔
      method = kind.subscribe handler ∧ (w.scanner id).isSome := by
  unfold callScanner at husable hrunning ⊢
  cases hs : w.scanner id with
  | none => simp [subscriber, hs]
  | some scanner =>
    rw [hs] at husable hrunning
    dsimp only at husable hrunning ⊢
    cases hcall : scanner.call method with
    | none => simp [hcall] at hrunning
    | some after =>
      rw [hcall] at husable
      have hvalid : after.valid = true := husable after (by simp)
      have hsubscriber : ({ w with scanner := Function.update w.scanner id (some after) } :
          World).subscriber kind id = after.handlerOf kind := by
        simp [subscriber]
      rw [hsubscriber]
      rcases hchanges with rfl | ⟨other, rfl⟩
      · have hne := kind.unsubscribe_ne_subscribe handler
        simp [Scanner.handlerOf_call_unsubscribe hcall, hne]
      · rw [Scanner.handlerOf_call_subscribe hcall hvalid]
        simp [kind.subscribe_injective.eq_iff]

end World

end Wificond
