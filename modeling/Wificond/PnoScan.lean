import Wificond.Runs

/-!
# Scheduled scans

The scanner asks the kernel to start and stop a scheduled scan and learns of its end
by a notification that travels apart from the replies. One flag is all it has to tell
its own stop from another end, and a notification may be delivered after the scan
that followed was started.
-/
namespace Wificond

/-- `ENODEV`. -/
def enodev : ℕ := 19

/-- `EINPROGRESS`. -/
def einprogress : ℕ := 115

/-- The calls of a scan event handler. -/
inductive PnoScanEvent
  | onPnoScanFailed
  | onPnoNetworkFound
  deriving DecidableEq

/-- The part of the scanner that deals with scheduled scans. -/
structure ScannerImpl where
  valid : Bool
  pnoScanStarted : Bool
  nodevCounter : UInt32
  pnoScanEventHandler : Option ℕ
  deriving DecidableEq

namespace ScannerImpl

def construct : ScannerImpl := ⟨true, false, 0, none⟩

/-- With the kernel's reply to the request; the process may be aborted by a `CHECK`. -/
def startPnoScan (reply : Except ℕ Unit) (scanner : ScannerImpl) : Option (Bool × ScannerImpl) :=
  if !scanner.valid then some (false, scanner)
  else
    match reply with
    | .error errorCode =>
      let scanner :=
        if errorCode = enodev then { scanner with nodevCounter := scanner.nodevCounter + 1 }
        else scanner
      if errorCode ≠ enodev ∨ scanner.nodevCounter ≤ 3 then some (false, scanner) else none
    | .ok () => some (true, { scanner with nodevCounter := 0, pnoScanStarted := true })

def stopPnoScan (reply : Except ℕ Unit) (scanner : ScannerImpl) : Bool × ScannerImpl :=
  if !scanner.valid then (false, scanner)
  else
    match reply with
    | .error _ => (false, scanner)
    | .ok () => (true, { scanner with pnoScanStarted := false })

def subscribePnoScanEvents (handler : ℕ) (scanner : ScannerImpl) : ScannerImpl :=
  if !scanner.valid then scanner else { scanner with pnoScanEventHandler := some handler }

def unsubscribePnoScanEvents (scanner : ScannerImpl) : ScannerImpl :=
  { scanner with pnoScanEventHandler := none }

/-- Without a handler the notification is ignored altogether. -/
def onSchedScanResultsReady (scanStopped : Bool) (scanner : ScannerImpl) :
    Option PnoScanEvent × ScannerImpl :=
  match scanner.pnoScanEventHandler with
  | none => (none, scanner)
  | some _ =>
    if scanStopped then
      (if scanner.pnoScanStarted then some .onPnoScanFailed else none,
        { scanner with pnoScanStarted := false })
    else (some .onPnoNetworkFound, scanner)

end ScannerImpl

/-- A notification on its way: results, or the end of a scan, with its cause. -/
inductive SchedScanNotification
  | results
  | stopped (scan : ℕ) (onItsOwn : Bool)
  deriving DecidableEq

/-- Scans are numbered in the order the kernel accepts them. -/
structure PnoSystem where
  scanner : ScannerImpl
  aborted : Bool
  running : Option ℕ
  accepted : ℕ
  inFlight : List SchedScanNotification
  /-- The scan of the last successful `startPnoScan`. -/
  lastStarted : Option ℕ
  /-- The notifications at which the handler was told of a failure. -/
  failures : List SchedScanNotification

inductive PnoStep
  /-- The kernel may refuse with an error of its own. -/
  | startPnoScan (refusal : Option ℕ)
  | stopPnoScan (refusal : Option ℕ)
  | subscribePnoScanEvents (handler : ℕ)
  | unsubscribePnoScanEvents
  | resultsAvailable
  | endOnItsOwn
  | deliver
  deriving DecidableEq

namespace PnoSystem

def initial : PnoSystem := ⟨.construct, false, none, 0, [], none, []⟩

/-- The kernel runs one scheduled scan at a time. -/
def startReply (refusal : Option ℕ) (s : PnoSystem) : Except ℕ Unit :=
  match refusal, s.running with
  | some errorCode, _ => .error errorCode
  | none, some _ => .error einprogress
  | none, none => .ok ()

def start (refusal : Option ℕ) (s : PnoSystem) : PnoSystem :=
  match s.scanner.startPnoScan (s.startReply refusal) with
  | none => { s with aborted := true }
  | some (false, scanner) => { s with scanner := scanner }
  | some (true, scanner) =>
    { s with
      scanner := scanner
      running := some s.accepted
      accepted := s.accepted + 1
      lastStarted := some s.accepted }

/-- A running scan ends, and a notification of it sets out. -/
def finish (onItsOwn : Bool) (s : PnoSystem) : PnoSystem :=
  match s.running with
  | none => s
  | some scan =>
    { s with running := none, inFlight := s.inFlight ++ [.stopped scan onItsOwn] }

/-- `ENOENT` when no scan is running. -/
def stop (refusal : Option ℕ) (s : PnoSystem) : PnoSystem :=
  match refusal, s.running with
  | some errorCode, _ => { s with scanner := (s.scanner.stopPnoScan (.error errorCode)).2 }
  | none, none => { s with scanner := (s.scanner.stopPnoScan (.error 2)).2 }
  | none, some _ =>
    let stopped := s.scanner.stopPnoScan (.ok ())
    { (if stopped.1 then s.finish false else s) with scanner := stopped.2 }

def deliver (s : PnoSystem) : PnoSystem :=
  match s.inFlight with
  | [] => s
  | notification :: inFlight =>
    let told := s.scanner.onSchedScanResultsReady (notification != .results)
    { s with
      scanner := told.2
      inFlight := inFlight
      failures :=
        if told.1 = some .onPnoScanFailed then s.failures ++ [notification] else s.failures }

def step (s : PnoSystem) (event : PnoStep) : PnoSystem :=
  if s.aborted then s
  else
    match event with
    | .startPnoScan refusal => s.start refusal
    | .stopPnoScan refusal => s.stop refusal
    | .subscribePnoScanEvents handler =>
      { s with scanner := s.scanner.subscribePnoScanEvents handler }
    | .unsubscribePnoScanEvents => { s with scanner := s.scanner.unsubscribePnoScanEvents }
    | .resultsAvailable =>
      match s.running with
      | none => s
      | some _ => { s with inFlight := s.inFlight ++ [.results] }
    | .endOnItsOwn => s.finish true
    | .deliver => s.deliver

variable {s : PnoSystem} {event : PnoStep} {refusal : Option ℕ}

theorem start_cases (refusal : Option ℕ) (hvalid : s.scanner.valid = true) :
    (∃ counter aborted, s.start refusal =
      { s with scanner := { s.scanner with nodevCounter := counter }, aborted := aborted }) ∨
    s.running = none ∧ s.start refusal =
      { s with
        scanner := { s.scanner with nodevCounter := 0, pnoScanStarted := true }
        running := some s.accepted
        accepted := s.accepted + 1
        lastStarted := some s.accepted } := by
  cases hreply : s.startReply refusal with
  | error errorCode =>
    left
    simp only [start, hreply, ScannerImpl.startPnoScan, hvalid]
    by_cases hnodev : errorCode = enodev
    · by_cases hcount : s.scanner.nodevCounter + 1 ≤ 3
      · exact ⟨s.scanner.nodevCounter + 1, s.aborted, by simp [hnodev, hcount]⟩
      · exact ⟨s.scanner.nodevCounter, true, by simp [hnodev, hcount, ← hvalid]⟩
    · exact ⟨s.scanner.nodevCounter, s.aborted, by simp [hnodev, ← hvalid]⟩
  | ok =>
    right
    refine ⟨?_, by simp [start, hreply, ScannerImpl.startPnoScan, hvalid]⟩
    unfold startReply at hreply
    split at hreply
    · cases hreply
    · cases hreply
    · assumption

theorem stop_cases (refusal : Option ℕ) (hvalid : s.scanner.valid = true) :
    s.stop refusal = s ∨ ∃ scan, s.running = some scan ∧ s.stop refusal =
      { s with
        scanner := { s.scanner with pnoScanStarted := false }
        running := none
        inFlight := s.inFlight ++ [.stopped scan false] } := by
  unfold stop
  split
  · simp [ScannerImpl.stopPnoScan, hvalid]
  · simp [ScannerImpl.stopPnoScan, hvalid]
  · next scan hrunning =>
    exact .inr ⟨scan, hrunning, by simp [ScannerImpl.stopPnoScan, hvalid, finish, hrunning]⟩

theorem finish_cases (onItsOwn : Bool) :
    s.finish onItsOwn = s ∨ ∃ scan, s.running = some scan ∧ s.finish onItsOwn =
      { s with running := none, inFlight := s.inFlight ++ [.stopped scan onItsOwn] } := by
  unfold finish
  split
  · exact .inl rfl
  · next scan hrunning => exact .inr ⟨scan, hrunning, rfl⟩

/-- A delivery removes a notification, and touches the flag when it is the end of a scan
and a handler is there. -/
theorem deliver_cases :
    (∃ inFlight, s.deliver = { s with inFlight := inFlight }) ∧
      (s.scanner.pnoScanEventHandler.isSome →
        ∀ scan onItsOwn inFlight, s.inFlight ≠ .stopped scan onItsOwn :: inFlight) ∨
    ∃ scan onItsOwn inFlight, s.inFlight = .stopped scan onItsOwn :: inFlight ∧
      s.scanner.pnoScanEventHandler.isSome ∧ s.deliver =
        { s with
          scanner := { s.scanner with pnoScanStarted := false }
          inFlight := inFlight
          failures :=
            if s.scanner.pnoScanStarted then s.failures ++ [.stopped scan onItsOwn]
            else s.failures } := by
  cases hqueue : s.inFlight with
  | nil =>
    have hsame : s.deliver = s := by
      unfold deliver
      rw [hqueue]
    exact .inl ⟨⟨s.inFlight, hsame⟩, by simp⟩
  | cons notification inFlight =>
    cases hhandler : s.scanner.pnoScanEventHandler with
    | none =>
      left
      exact ⟨⟨inFlight, by simp [deliver, hqueue, ScannerImpl.onSchedScanResultsReady, hhandler]⟩,
        by simp⟩
    | some handler =>
      cases notification with
      | results =>
        left
        exact ⟨⟨inFlight, by
          simp [deliver, hqueue, ScannerImpl.onSchedScanResultsReady, hhandler]⟩, by simp⟩
      | stopped scan onItsOwn =>
        right
        refine ⟨scan, onItsOwn, inFlight, rfl, rfl, ?_⟩
        cases hstarted : s.scanner.pnoScanStarted <;>
          simp [deliver, hqueue, ScannerImpl.onSchedScanResultsReady, hhandler, hstarted]

/-- Failures are reported for scans that ended on their own only, and the flag is set
while the scan of the last successful start is running. -/
structure Faithful (s : PnoSystem) : Prop where
  failures : ∀ notification ∈ s.failures, ∃ scan, notification = .stopped scan true
  started : ∀ scan, s.running = some scan → s.lastStarted = some scan →
    s.scanner.pnoScanStarted = true

/-- What holds in every state: the running scan is the last one started. -/
structure Consistent (s : PnoSystem) : Prop where
  valid : s.scanner.valid = true
  running : ∀ scan, s.running = some scan → s.lastStarted = some scan

/-- The end of a scan is not taken in by the handler while another scan is running, nor,
where it is the end of a scan that was stopped on request, with the flag set again. -/
def EndsInTime (s : PnoSystem) (event : PnoStep) : Prop :=
  event = .deliver → s.aborted = false → s.scanner.pnoScanEventHandler.isSome →
    ∀ scan onItsOwn inFlight, s.inFlight = .stopped scan onItsOwn :: inFlight →
      s.running = none ∧ (s.scanner.pnoScanStarted = true → onItsOwn = true)

theorem consistent_step (h : s.Consistent) : (s.step event).Consistent := by
  unfold step
  split
  · exact h
  · cases event with
    | startPnoScan refusal =>
      dsimp only
      rcases start_cases refusal h.valid with ⟨counter, aborted, heq⟩ | ⟨-, heq⟩
      · rw [heq]
        exact ⟨h.valid, h.running⟩
      · rw [heq]
        exact ⟨h.valid, fun scan hscan => hscan⟩
    | stopPnoScan refusal =>
      dsimp only
      rcases stop_cases refusal h.valid with heq | ⟨scan, -, heq⟩
      · rwa [heq]
      · rw [heq]
        exact ⟨h.valid, by simp⟩
    | subscribePnoScanEvents handler =>
      exact ⟨by simp [ScannerImpl.subscribePnoScanEvents, h.valid], h.running⟩
    | unsubscribePnoScanEvents => exact ⟨h.valid, h.running⟩
    | resultsAvailable =>
      dsimp only
      split <;> exact ⟨h.valid, h.running⟩
    | endOnItsOwn =>
      dsimp only
      rcases finish_cases (s := s) true with heq | ⟨scan, -, heq⟩
      · rwa [heq]
      · rw [heq]
        exact ⟨h.valid, by simp⟩
    | deliver =>
      dsimp only
      rcases deliver_cases (s := s) with
        ⟨⟨inFlight, heq⟩, -⟩ | ⟨scan, onItsOwn, inFlight, -, -, heq⟩
      · rw [heq]
        exact ⟨h.valid, h.running⟩
      · rw [heq]
        exact ⟨h.valid, h.running⟩

/-- Only a delivery can go wrong. -/
theorem faithful_step_of_ne_deliver (hc : s.Consistent) (h : s.Faithful) (hne : event ≠ .deliver) :
    (s.step event).Faithful := by
  unfold step
  split
  · exact h
  · cases event with
    | startPnoScan refusal =>
      dsimp only
      rcases start_cases refusal hc.valid with ⟨counter, aborted, heq⟩ | ⟨-, heq⟩
      · rw [heq]
        exact ⟨h.failures, h.started⟩
      · rw [heq]
        exact ⟨h.failures, fun _ _ _ => rfl⟩
    | stopPnoScan refusal =>
      dsimp only
      rcases stop_cases refusal hc.valid with heq | ⟨scan, -, heq⟩
      · rwa [heq]
      · rw [heq]
        exact ⟨h.failures, by simp⟩
    | subscribePnoScanEvents handler =>
      refine ⟨h.failures, ?_⟩
      simpa [ScannerImpl.subscribePnoScanEvents, hc.valid] using h.started
    | unsubscribePnoScanEvents => exact ⟨h.failures, h.started⟩
    | resultsAvailable =>
      dsimp only
      split <;> exact ⟨h.failures, h.started⟩
    | endOnItsOwn =>
      dsimp only
      rcases finish_cases (s := s) true with heq | ⟨scan, -, heq⟩
      · rwa [heq]
      · rw [heq]
        exact ⟨h.failures, by simp⟩
    | deliver => exact absurd rfl hne

theorem faithful_deliver (hc : s.Consistent) (h : s.Faithful) :
    s.deliver.Faithful ↔ (s.scanner.pnoScanEventHandler.isSome →
      ∀ scan onItsOwn inFlight, s.inFlight = .stopped scan onItsOwn :: inFlight →
        s.running = none ∧ (s.scanner.pnoScanStarted = true → onItsOwn = true)) := by
  rcases deliver_cases (s := s) with
    ⟨⟨inFlight, heq⟩, hquiet⟩ | ⟨scan, onItsOwn, inFlight, hqueue, hhandler, heq⟩
  · rw [heq]
    exact iff_of_true ⟨h.failures, h.started⟩ fun hhandler scan onItsOwn inFlight hqueue =>
      absurd hqueue (hquiet hhandler scan onItsOwn inFlight)
  · rw [heq]
    constructor
    · rintro ⟨hfailures, hstarted⟩ - scan' onItsOwn' inFlight' hqueue'
      obtain ⟨hhead, -⟩ := List.cons.inj (hqueue.symm.trans hqueue')
      obtain ⟨rfl, rfl⟩ := SchedScanNotification.stopped.inj hhead
      constructor
      · rw [Option.eq_none_iff_forall_ne_some]
        intro running hrunning
        exact absurd (hstarted running hrunning (hc.running running hrunning)) (by simp)
      · intro hflag
        obtain ⟨scan', hown⟩ := hfailures (.stopped scan onItsOwn) (by simp [hflag])
        exact (SchedScanNotification.stopped.inj hown).2
    · intro hcond
      obtain ⟨hnone, hown⟩ := hcond hhandler scan onItsOwn inFlight hqueue
      refine ⟨?_, by simp [hnone]⟩
      dsimp only
      split_ifs with hflag
      · intro notification hmem
        rcases List.mem_append.mp hmem with hold | hnew
        · exact h.failures notification hold
        · exact ⟨scan, by rw [List.mem_singleton.mp hnew, hown hflag]⟩
      · exact h.failures

theorem faithful_step (hc : s.Consistent) (h : s.Faithful) :
    (s.step event).Faithful ↔ s.EndsInTime event := by
  by_cases hdeliver : event = .deliver
  · subst hdeliver
    unfold step
    split
    · next haborted => exact iff_of_true h fun _ halive => by simp [halive] at haborted
    · next halive =>
      rw [faithful_deliver hc h]
      simp [EndsInTime, halive]
  · exact iff_of_true (faithful_step_of_ne_deliver hc h hdeliver) fun heq => absurd heq hdeliver

theorem consistent_initial : initial.Consistent := ⟨rfl, by simp [initial]⟩

theorem faithful_initial : initial.Faithful := ⟨by simp [initial], by simp [initial]⟩

/-- A run is faithful in every state exactly when all ends of scans are taken in in time. -/
theorem faithful_iff_endsInTime (events : List PnoStep) :
    Runs.Always step Faithful initial events ↔ Runs.Along step EndsInTime initial events :=
  Runs.always_iff_along Consistent (fun _ => True)
    (fun _ _ hc _ => consistent_step hc) (fun _ _ hc _ h => faithful_step hc h)
    consistent_initial faithful_initial fun _ _ => trivial

/-- Stopping and starting again before the first scan's end is delivered: the own stop is
reported as a failure, and the flag is cleared under the running scan. -/
theorem restart_crosses_own_stop :
    (List.foldl step initial
        [.subscribePnoScanEvents 1, .startPnoScan none, .stopPnoScan none, .startPnoScan none,
          .deliver]).failures = [.stopped 0 false] ∧
      ¬ (List.foldl step initial
        [.subscribePnoScanEvents 1, .startPnoScan none, .stopPnoScan none, .startPnoScan none,
          .deliver]).Faithful := by
  refine ⟨by decide, fun h => ?_⟩
  exact absurd (h.started 1 (by decide) (by decide)) (by decide)

/-- No start is requested while the end of a scan is in flight. -/
def StartsSettled (s : PnoSystem) (event : PnoStep) : Prop :=
  ∀ refusal, event = .startPnoScan refusal → ∀ scan onItsOwn, .stopped scan onItsOwn ∉ s.inFlight

/-- Under such starts a running scan has no end in flight, and with the flag set there is
no end in flight that was requested. -/
structure Settled (s : PnoSystem) : Prop extends Consistent s where
  none_running : s.running.isSome → ∀ scan onItsOwn, .stopped scan onItsOwn ∉ s.inFlight
  own : s.scanner.pnoScanStarted = true → ∀ scan, .stopped scan false ∉ s.inFlight

theorem inFlight_deliver_subset : s.deliver.inFlight ⊆ s.inFlight := by
  unfold deliver
  split
  · exact fun n hn => hn
  · next notification inFlight hqueue =>
    rw [hqueue]
    exact fun n hn => List.mem_cons_of_mem _ hn

theorem settled_finish (h : s.Settled) (onItsOwn : Bool)
    (hown : s.scanner.pnoScanStarted = true → onItsOwn = true) :
    (s.finish onItsOwn).Settled := by
  rcases finish_cases (s := s) onItsOwn with heq | ⟨scan, hrunning, heq⟩
  · rwa [heq]
  · rw [heq]
    refine ⟨⟨h.valid, by simp⟩, by simp, fun hflag scan' hmem => ?_⟩
    rcases List.mem_append.mp hmem with hold | hnew
    · exact h.none_running (by simp [hrunning]) scan' false hold
    · simp [hown hflag] at hnew

theorem settled_step (h : s.Settled) (hstart : s.StartsSettled event) :
    (s.step event).Settled := by
  unfold step
  split
  · exact h
  · cases event with
    | startPnoScan refusal =>
      have hnone := hstart refusal rfl
      dsimp only
      rcases start_cases refusal h.valid with ⟨counter, aborted, heq⟩ | ⟨-, heq⟩
      · rw [heq]
        exact ⟨⟨h.valid, h.running⟩, h.none_running, h.own⟩
      · rw [heq]
        exact ⟨⟨h.valid, fun scan hscan => hscan⟩, fun _ => hnone, fun _ scan => hnone scan false⟩
    | stopPnoScan refusal =>
      dsimp only
      rcases stop_cases refusal h.valid with heq | ⟨scan, -, heq⟩
      · rwa [heq]
      · rw [heq]
        exact ⟨⟨h.valid, by simp⟩, by simp, by simp⟩
    | subscribePnoScanEvents handler =>
      refine ⟨⟨by simp [ScannerImpl.subscribePnoScanEvents, h.valid], h.running⟩,
        h.none_running, ?_⟩
      simpa [ScannerImpl.subscribePnoScanEvents, h.valid] using h.own
    | unsubscribePnoScanEvents => exact ⟨⟨h.valid, h.running⟩, h.none_running, h.own⟩
    | resultsAvailable =>
      dsimp only
      split
      · exact h
      · refine ⟨⟨h.valid, h.running⟩, fun hrunning scan onItsOwn hmem => ?_,
          fun hflag scan hmem => ?_⟩
        · exact h.none_running hrunning scan onItsOwn (by simpa using hmem)
        · exact h.own hflag scan (by simpa using hmem)
    | endOnItsOwn => exact settled_finish h true fun _ => rfl
    | deliver =>
      have hsub := inFlight_deliver_subset (s := s)
      dsimp only
      rcases deliver_cases (s := s) with
        ⟨⟨inFlight, heq⟩, -⟩ | ⟨scan, onItsOwn, inFlight, -, -, heq⟩
      · rw [heq] at hsub ⊢
        exact ⟨⟨h.valid, h.running⟩, fun hr scan own hm => h.none_running hr scan own (hsub hm),
          fun hflag scan hm => h.own hflag scan (hsub hm)⟩
      · rw [heq] at hsub ⊢
        exact ⟨⟨h.valid, h.running⟩, fun hr scan own hm => h.none_running hr scan own (hsub hm),
          by simp⟩

theorem endsInTime_of_settled (h : s.Settled) : s.EndsInTime event := by
  intro _ _ _ scan onItsOwn inFlight hqueue
  constructor
  · rw [← Option.not_isSome_iff_eq_none]
    exact fun hrunning => h.none_running hrunning scan onItsOwn (by simp [hqueue])
  · intro hflag
    cases onItsOwn with
    | true => rfl
    | false => exact absurd (by simp [hqueue]) (h.own hflag scan)

/-- It is enough that no start is requested while the end of a scan is in flight. -/
theorem endsInTime_of_startsSettled {events : List PnoStep}
    (h : Runs.Along step StartsSettled initial events) :
    Runs.Along step EndsInTime initial events :=
  Runs.along_of_along Settled (fun _ _ hs hstart => settled_step hs hstart)
    (fun _ _ hs _ => endsInTime_of_settled hs)
    ⟨consistent_initial, by simp [initial], by simp [initial]⟩ h

end PnoSystem

end Wificond
