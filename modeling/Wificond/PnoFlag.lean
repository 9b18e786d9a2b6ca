import Wificond.PnoScan

/-!
# The flag of the scheduled scan

The scanner keeps one flag for the scheduled scan, which a start sets and which a stop or
the notification of an end clears. A notification that finds no handler is dropped whole,
and with it the end of the scan. A notification received while a request waits for its
reply comes before the end of that request.
-/
namespace Wificond

/-- What the scanner is called with, the kernel's replies included. -/
inductive PnoCall
  | startPnoScan (reply : Except ℕ Unit)
  | stopPnoScan (reply : Except ℕ Unit)
  | subscribePnoScanEvents (handler : ℕ)
  | unsubscribePnoScanEvents
  | onSchedScanResultsReady (scanStopped : Bool)
  deriving DecidableEq

/-- A successful start, a successful stop, and a notification that the scan stopped. -/
inductive PnoMark
  | started
  | stopped
  | scanStopped
  deriving DecidableEq

/-- The scanner, and the last of the marks that it came by. -/
structure PnoHistory where
  scanner : ScannerImpl
  aborted : Bool
  latest : Option PnoMark
  deriving DecidableEq

namespace PnoHistory

def initial : PnoHistory := ⟨.construct, false, none⟩

def start (reply : Except ℕ Unit) (h : PnoHistory) : PnoHistory :=
  match h.scanner.startPnoScan reply with
  | none => { h with aborted := true }
  | some (started, scanner) =>
    { h with scanner := scanner, latest := if started then some .started else h.latest }

def stop (reply : Except ℕ Unit) (h : PnoHistory) : PnoHistory :=
  let stopped := h.scanner.stopPnoScan reply
  { h with
    scanner := stopped.2
    latest := if stopped.1 then some .stopped else h.latest }

def step (h : PnoHistory) (call : PnoCall) : PnoHistory :=
  if h.aborted then h
  else
    match call with
    | .startPnoScan reply => h.start reply
    | .stopPnoScan reply => h.stop reply
    | .subscribePnoScanEvents handler =>
      { h with scanner := h.scanner.subscribePnoScanEvents handler }
    | .unsubscribePnoScanEvents => { h with scanner := h.scanner.unsubscribePnoScanEvents }
    | .onSchedScanResultsReady scanStopped =>
      { h with
        scanner := (h.scanner.onSchedScanResultsReady scanStopped).2
        latest := if scanStopped then some .scanStopped else h.latest }

/-- The flag tells whether a start is the last that happened to the scan. -/
def FlagTells (h : PnoHistory) : Prop :=
  h.scanner.pnoScanStarted = true ↔ h.latest = some .started

/-- A scan does not end unheard: there is a handler when the notification comes. -/
def EndHeard (h : PnoHistory) (call : PnoCall) : Prop :=
  h.aborted = false → call = .onSchedScanResultsReady true → h.scanner.pnoScanStarted = true →
    h.scanner.pnoScanEventHandler.isSome

variable {h g : PnoHistory} {call : PnoCall} {calls others : List PnoCall}

theorem start_error (errorCode : ℕ) (hvalid : h.scanner.valid = true) :
    h.start (.error errorCode) =
      if errorCode = enodev then
        if h.scanner.nodevCounter + 1 ≤ 3 then
          { h with scanner := { h.scanner with nodevCounter := h.scanner.nodevCounter + 1 } }
        else { h with aborted := true }
      else h := by
  simp only [start, ScannerImpl.startPnoScan, hvalid]
  by_cases hnodev : errorCode = enodev
  · by_cases hcount : h.scanner.nodevCounter + 1 ≤ 3
    · simp [hnodev, hcount]
    · simp [hnodev, hcount]
  · simp [hnodev]

theorem start_ok (hvalid : h.scanner.valid = true) :
    h.start (.ok ()) =
      { h with
        scanner := { h.scanner with nodevCounter := 0, pnoScanStarted := true }
        latest := some .started } := by
  simp [start, ScannerImpl.startPnoScan, hvalid]

theorem start_cases (reply : Except ℕ Unit) (hvalid : h.scanner.valid = true) :
    (∃ counter aborted, h.start reply =
      { h with scanner := { h.scanner with nodevCounter := counter }, aborted := aborted }) ∨
    h.start reply =
      { h with
        scanner := { h.scanner with nodevCounter := 0, pnoScanStarted := true }
        latest := some .started } := by
  cases reply with
  | error errorCode =>
    left
    rw [start_error errorCode hvalid]
    split_ifs
    · exact ⟨h.scanner.nodevCounter + 1, h.aborted, rfl⟩
    · exact ⟨h.scanner.nodevCounter, true, rfl⟩
    · exact ⟨h.scanner.nodevCounter, h.aborted, rfl⟩
  | ok => exact .inr (start_ok hvalid)

theorem stop_error (errorCode : ℕ) (hvalid : h.scanner.valid = true) :
    h.stop (.error errorCode) = h := by
  simp [stop, ScannerImpl.stopPnoScan, hvalid]

theorem stop_ok (hvalid : h.scanner.valid = true) :
    h.stop (.ok ()) =
      { h with
        scanner := { h.scanner with pnoScanStarted := false }
        latest := some .stopped } := by
  simp [stop, ScannerImpl.stopPnoScan, hvalid]

theorem stop_cases (reply : Except ℕ Unit) (hvalid : h.scanner.valid = true) :
    h.stop reply = h ∨ h.stop reply =
      { h with
        scanner := { h.scanner with pnoScanStarted := false }
        latest := some .stopped } := by
  cases reply with
  | error errorCode => exact .inl (stop_error errorCode hvalid)
  | ok => exact .inr (stop_ok hvalid)

theorem onSchedScanResultsReady_frame (scanStopped : Bool) (scanner : ScannerImpl) :
    (scanner.onSchedScanResultsReady scanStopped).2.valid = scanner.valid ∧
      (scanner.onSchedScanResultsReady scanStopped).2.nodevCounter = scanner.nodevCounter := by
  unfold ScannerImpl.onSchedScanResultsReady
  split
  · exact ⟨rfl, rfl⟩
  · split_ifs <;> exact ⟨rfl, rfl⟩

theorem valid_step (hvalid : h.scanner.valid = true) : (h.step call).scanner.valid = true := by
  unfold step
  split
  · exact hvalid
  · cases call with
    | startPnoScan reply =>
      dsimp only
      rcases start_cases reply hvalid with ⟨counter, aborted, heq⟩ | heq
      · rw [heq]
        exact hvalid
      · rw [heq]
        exact hvalid
    | stopPnoScan reply =>
      dsimp only
      rcases stop_cases reply hvalid with heq | heq
      · rwa [heq]
      · rw [heq]
        exact hvalid
    | subscribePnoScanEvents handler => simp [ScannerImpl.subscribePnoScanEvents, hvalid]
    | unsubscribePnoScanEvents => exact hvalid
    | onSchedScanResultsReady scanStopped =>
      exact (onSchedScanResultsReady_frame scanStopped h.scanner).1.trans hvalid

theorem flagTells_step (hvalid : h.scanner.valid = true) (htells : h.FlagTells) :
    (h.step call).FlagTells ↔ h.EndHeard call := by
  unfold step EndHeard
  split
  · next haborted => simp [haborted, htells]
  · next halive =>
    simp only [halive, true_implies]
    cases call with
    | startPnoScan reply =>
      rcases start_cases reply hvalid with ⟨counter, aborted, heq⟩ | heq
      · simpa [heq, FlagTells] using htells
      · simp [heq, FlagTells]
    | stopPnoScan reply =>
      rcases stop_cases reply hvalid with heq | heq
      · simpa [heq, FlagTells] using htells
      · simp [heq, FlagTells]
    | subscribePnoScanEvents handler =>
      simpa [FlagTells, ScannerImpl.subscribePnoScanEvents, hvalid] using htells
    | unsubscribePnoScanEvents =>
      simpa [FlagTells, ScannerImpl.unsubscribePnoScanEvents] using htells
    | onSchedScanResultsReady scanStopped =>
      cases hhandler : h.scanner.pnoScanEventHandler with
      | none =>
        cases scanStopped with
        | false => simpa [FlagTells, ScannerImpl.onSchedScanResultsReady, hhandler] using htells
        | true => simp [FlagTells, ScannerImpl.onSchedScanResultsReady, hhandler]
      | some handler =>
        cases scanStopped with
        | false => simpa [FlagTells, ScannerImpl.onSchedScanResultsReady, hhandler] using htells
        | true => simp [FlagTells, ScannerImpl.onSchedScanResultsReady, hhandler]

def isSubscription : PnoCall → Bool
  | .subscribePnoScanEvents _ | .unsubscribePnoScanEvents => true
  | _ => false

/-- Agreement in all that does not hang on the handler. -/
structure Agree (h g : PnoHistory) : Prop where
  valid : h.scanner.valid = true ∧ g.scanner.valid = true
  nodevCounter : h.scanner.nodevCounter = g.scanner.nodevCounter
  aborted : h.aborted = g.aborted
  latest : h.latest = g.latest

theorem agree_subscription (hagree : Agree h g) (hsub : isSubscription call = true) :
    Agree (h.step call) g := by
  unfold step
  split
  · exact hagree
  · cases call with
    | subscribePnoScanEvents handler =>
      have hsame : h.scanner.subscribePnoScanEvents handler =
          { h.scanner with pnoScanEventHandler := some handler } :=
        if_neg (by simp [hagree.valid.1])
      dsimp only
      rw [hsame]
      exact ⟨hagree.valid, hagree.nodevCounter, hagree.aborted, hagree.latest⟩
    | unsubscribePnoScanEvents =>
      exact ⟨hagree.valid, hagree.nodevCounter, hagree.aborted, hagree.latest⟩
    | startPnoScan reply => simp [isSubscription] at hsub
    | stopPnoScan reply => simp [isSubscription] at hsub
    | onSchedScanResultsReady scanStopped => simp [isSubscription] at hsub

theorem agree_start (hagree : Agree h g) (reply : Except ℕ Unit) :
    Agree (h.start reply) (g.start reply) := by
  have hcounter := hagree.nodevCounter
  cases reply with
  | error errorCode =>
    rw [start_error errorCode hagree.valid.1, start_error errorCode hagree.valid.2, hcounter]
    split_ifs
    · exact ⟨hagree.valid, rfl, hagree.aborted, hagree.latest⟩
    · exact ⟨hagree.valid, hcounter, rfl, hagree.latest⟩
    · exact hagree
  | ok =>
    rw [start_ok hagree.valid.1, start_ok hagree.valid.2]
    exact ⟨hagree.valid, rfl, hagree.aborted, rfl⟩

theorem agree_stop (hagree : Agree h g) (reply : Except ℕ Unit) :
    Agree (h.stop reply) (g.stop reply) := by
  cases reply with
  | error errorCode =>
    rw [stop_error errorCode hagree.valid.1, stop_error errorCode hagree.valid.2]
    exact hagree
  | ok =>
    rw [stop_ok hagree.valid.1, stop_ok hagree.valid.2]
    exact ⟨hagree.valid, hagree.nodevCounter, hagree.aborted, rfl⟩

theorem agree_step (hagree : Agree h g) (hsub : isSubscription call = false) :
    Agree (h.step call) (g.step call) := by
  by_cases haborted : h.aborted = true
  · have gaborted : g.aborted = true := hagree.aborted ▸ haborted
    simpa [step, haborted, gaborted] using hagree
  · have galive : ¬ g.aborted = true := hagree.aborted ▸ haborted
    simp only [step, if_neg haborted, if_neg galive]
    cases call with
    | startPnoScan reply => exact agree_start hagree reply
    | stopPnoScan reply => exact agree_stop hagree reply
    | subscribePnoScanEvents handler => simp [isSubscription] at hsub
    | unsubscribePnoScanEvents => simp [isSubscription] at hsub
    | onSchedScanResultsReady scanStopped =>
      obtain ⟨hvalid, hcounter⟩ := onSchedScanResultsReady_frame scanStopped h.scanner
      obtain ⟨gvalid, gcounter⟩ := onSchedScanResultsReady_frame scanStopped g.scanner
      exact {
        valid := ⟨hvalid.trans hagree.valid.1, gvalid.trans hagree.valid.2⟩
        nodevCounter := by
          dsimp only
          rw [hcounter, gcounter, hagree.nodevCounter]
        aborted := hagree.aborted
        latest := by
          dsimp only
          rw [hagree.latest] }

/-- Subscriptions may be left out of a run. -/
theorem agree_foldl_filter (hagree : Agree h g) (calls : List PnoCall) :
    Agree (calls.foldl step h) ((calls.filter (!isSubscription ·)).foldl step g) := by
  induction calls generalizing h g with
  | nil => exact hagree
  | cons call calls ih =>
    cases hsub : isSubscription call with
    | true =>
      rw [List.filter_cons_of_neg (by simp [hsub])]
      exact ih (agree_subscription hagree hsub)
    | false =>
      rw [List.filter_cons_of_pos (by simp [hsub])]
      exact ih (agree_step hagree hsub)

theorem agree_initial : Agree initial initial := ⟨⟨rfl, rfl⟩, rfl, rfl, rfl⟩

theorem latest_eq_of_filter_eq
    (heq : calls.filter (!isSubscription ·) = others.filter (!isSubscription ·)) :
    (calls.foldl step initial).latest = (others.foldl step initial).latest := by
  have hcalls := (agree_foldl_filter agree_initial calls).latest
  have hothers := (agree_foldl_filter agree_initial others).latest
  rw [hcalls, hothers, heq]

theorem always_flagTells_iff (calls : List PnoCall) :
    Runs.Always step FlagTells initial calls ↔ Runs.Along step EndHeard initial calls :=
  Runs.always_iff_along (fun h => h.scanner.valid = true) (fun _ => True)
    (fun _ _ hvalid _ => valid_step hvalid) (fun _ _ hvalid _ => flagTells_step hvalid)
    rfl (by simp [FlagTells, initial, ScannerImpl.construct]) fun _ _ => trivial

/-- The flag tells of the last of starts, stops and ends in all states of a run exactly if
no scan ends unheard. In such runs it is the same whatever the subscriptions are. -/
theorem flag_iff_endHeard (calls : List PnoCall) :
    (Runs.Always step FlagTells initial calls ↔ Runs.Along step EndHeard initial calls) ∧
      ∀ others : List PnoCall,
        calls.filter (!isSubscription ·) = others.filter (!isSubscription ·) →
        Runs.Along step EndHeard initial calls → Runs.Along step EndHeard initial others →
        (calls.foldl step initial).scanner.pnoScanStarted =
          (others.foldl step initial).scanner.pnoScanStarted := by
  refine ⟨always_flagTells_iff calls, fun others heq hcalls hothers => ?_⟩
  have hends : ∀ run : List PnoCall, Runs.Along step EndHeard initial run →
      (run.foldl step initial).FlagTells := by
    intro run hrun
    exact Runs.always_iff_foldl.mp ((always_flagTells_iff run).mpr hrun) run (List.prefix_refl run)
  have hflag : (calls.foldl step initial).scanner.pnoScanStarted = true ↔
      (others.foldl step initial).scanner.pnoScanStarted = true :=
    calc
      _ ↔ (calls.foldl step initial).latest = some .started := hends calls hcalls
      _ ↔ (others.foldl step initial).latest = some .started := by
        rw [latest_eq_of_filter_eq heq]
      _ ↔ _ := (hends others hothers).symm
  exact Bool.eq_iff_iff.mpr hflag

/-- Without a handler the end of the scan leaves the flag set. -/
theorem flag_survives_unheard_end :
    ¬ Runs.Always step FlagTells initial
      [.startPnoScan (.ok ()), .onSchedScanResultsReady true] := by
  rw [Runs.always_iff_foldl]
  intro h
  have hend := h _ (List.prefix_refl _)
  exact absurd (hend.mp rfl) (by decide)

end PnoHistory

end Wificond
