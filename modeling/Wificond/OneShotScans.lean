import Wificond.Runs
import Wificond.SingleScan

/-!
# Completion of one-shot scans

The scanner is told of the end of every scan of its interface, also of those that other
processes asked for. One flag is all it keeps of a scan of its own, and any notification
clears it: that of an earlier scan, delivered late, makes it forget the scan that runs.
-/
namespace Wificond

namespace ScanUtils

/-- The request of `AbortScan`. -/
def abortScanRequest (header : RequestHeader) (interfaceIndex : UInt32) : NL80211Packet :=
  let packet := (header.request cmdAbortScan).addFlag nlmFAck
  packet.addAttribute (NL80211Attr.ofInt .uint32 attrIfindex interfaceIndex.toNat)

theorem abortScanRequest_requests (header : RequestHeader) (interfaceIndex : UInt32) :
    (abortScanRequest header interfaceIndex).Requests cmdAbortScan
      [.leaf attrIfindex (.int .uint32) interfaceIndex.toNat] := by
  have hempty := (requests_request header cmdAbortScan).addFlag nlmFAck
  exact hempty.addTree (t := .leaf attrIfindex (.int .uint32) interfaceIndex.toNat) rfl

end ScanUtils

/-- The calls of a scan event handler. -/
inductive ScanEvent
  | onScanResultReady
  /-- With `SCAN_STATUS_FAILED_ABORT`. -/
  | onScanRequestFailed
  deriving DecidableEq

/-- The part of `ScannerImpl` that deals with one-shot scans, and their subscriber. -/
structure OneShotScanner extends SingleScanner where
  scanEventHandler : Option ℕ
  deriving DecidableEq

namespace OneShotScanner

def construct (interfaceIndex : UInt32) (scanCapabilities : ScanCapabilities)
    (wiphyFeatures : WiphyFeatures) : OneShotScanner :=
  ⟨⟨true, false, 0, interfaceIndex, scanCapabilities, wiphyFeatures⟩, none⟩

/-- The packet that is sent to the kernel, if any. -/
def abortScan (header : RequestHeader) (scanner : OneShotScanner) : Option NL80211Packet :=
  if !scanner.valid then none
  else if !scanner.scanStarted then none
  else some (ScanUtils.abortScanRequest header scanner.interfaceIndex)

/-- `abortScan` asks the kernel to end the scan of the interface. -/
def AbortsScans (scanner : OneShotScanner) : Prop :=
  ∀ header, ∃ packet, scanner.abortScan header = some packet ∧
    packet.Requests cmdAbortScan [.leaf attrIfindex (.int .uint32) scanner.interfaceIndex.toNat]

theorem abortsScans_iff {scanner : OneShotScanner} (hvalid : scanner.valid = true) :
    scanner.AbortsScans ↔ scanner.scanStarted = true := by
  unfold AbortsScans abortScan
  cases hstarted : scanner.scanStarted with
  | true =>
    simp only [hvalid, Bool.not_true, Bool.false_eq_true, if_false, iff_true]
    exact fun header => ⟨_, rfl, ScanUtils.abortScanRequest_requests header _⟩
  | false =>
    simp only [hvalid, Bool.not_true, Bool.not_false, Bool.false_eq_true, if_false, if_true,
      iff_false]
    intro h
    obtain ⟨packet, hpacket, -⟩ := h ⟨0, 0, 0⟩
    cases hpacket

def subscribeScanEvents (handler : ℕ) (scanner : OneShotScanner) : OneShotScanner :=
  if !scanner.valid then scanner else { scanner with scanEventHandler := some handler }

def unsubscribeScanEvents (scanner : OneShotScanner) : OneShotScanner :=
  { scanner with scanEventHandler := none }

/-- Whose scan has ended is not looked at. -/
def onScanResultsReady (aborted : Bool) (scanner : OneShotScanner) :
    Option ScanEvent × OneShotScanner :=
  let scanner := { scanner with scanStarted := false }
  match scanner.scanEventHandler with
  | none => (none, scanner)
  | some _ => (some (if aborted then .onScanRequestFailed else .onScanResultReady), scanner)

end OneShotScanner

/-- A scan that the kernel has accepted, of the scanner itself or of another process. -/
structure KernelScan where
  number : ℕ
  own : Bool
  deriving DecidableEq

/-- `NL80211_CMD_NEW_SCAN_RESULTS` or `NL80211_CMD_SCAN_ABORTED`, on its way. -/
structure ScanNotification where
  scan : KernelScan
  aborted : Bool
  deriving DecidableEq

/-- A call of the handler at the notification of a scan, and the scan that the handler waits
for: the first of the scanner's own whose notification has not arrived. -/
structure ScanReport where
  event : ScanEvent
  notified : KernelScan
  awaited : Option KernelScan
  deriving DecidableEq

/-- Scans are numbered in the order the kernel accepts them. -/
structure ScanSystem where
  scanner : OneShotScanner
  crashed : Bool
  running : Option KernelScan
  accepted : ℕ
  inFlight : List ScanNotification
  /-- The scans of the scanner whose notifications have not arrived. -/
  awaited : List KernelScan
  reports : List ScanReport
  abortRequests : List NL80211Packet

inductive ScanStep
  /-- With the kernel's answer, unless a scan is running: none, or an error code. -/
  | scanRequest (header : RequestHeader) (associated : Bool) (settings : SingleScanSettings)
      (answer : Option ℤ)
  | abortScan (header : RequestHeader)
  | subscribeScanEvents (handler : ℕ)
  | unsubscribeScanEvents
  /-- Another process asks for a scan. -/
  | foreignScan
  | scanEnds (aborted : Bool)
  | deliver

namespace ScanSystem

def initial (interfaceIndex : UInt32) (scanCapabilities : ScanCapabilities)
    (wiphyFeatures : WiphyFeatures) : ScanSystem :=
  ⟨.construct interfaceIndex scanCapabilities wiphyFeatures, false, none, 0, [], [], [], []⟩

/-- `EBUSY` where the request would be accepted while a scan is running. -/
def reply (answer : Option ℤ) (s : ScanSystem) : Option ℤ :=
  if answer = some 0 ∧ s.running.isSome then some 16 else answer

def accept (s : ScanSystem) : ScanSystem :=
  { s with
    running := some ⟨s.accepted, true⟩
    accepted := s.accepted + 1
    awaited := s.awaited ++ [⟨s.accepted, true⟩] }

/-- The kernel answers the packet of the scanner, and the scanner takes in the answer. -/
def request (header : RequestHeader) (associated : Bool) (settings : SingleScanSettings)
    (answer : Option ℤ) (s : ScanSystem) : ScanSystem :=
  let sent := s.scanner.valid && (s.scanner.requestPacket header associated settings).isSome
  let answered := if sent ∧ s.reply answer = some 0 then s.accept else s
  match s.scanner.scanRequest header (fun _ => s.reply answer) associated settings with
  | none => { answered with crashed := true }
  | some (_, scanner) => { answered with scanner := { s.scanner with toSingleScanner := scanner } }

/-- The kernel runs one scan at a time, whoever asks for it. -/
def startForeign (s : ScanSystem) : ScanSystem :=
  match s.running with
  | some _ => s
  | none => { s with running := some ⟨s.accepted, false⟩, accepted := s.accepted + 1 }

def finish (aborted : Bool) (s : ScanSystem) : ScanSystem :=
  match s.running with
  | none => s
  | some scan => { s with running := none, inFlight := s.inFlight ++ [⟨scan, aborted⟩] }

def deliver (s : ScanSystem) : ScanSystem :=
  match s.inFlight with
  | [] => s
  | notification :: inFlight =>
    let told := s.scanner.onScanResultsReady notification.aborted
    { s with
      scanner := told.2
      inFlight := inFlight
      awaited := s.awaited.erase notification.scan
      reports := s.reports ++
        (told.1.map fun event => ⟨event, notification.scan, s.awaited.head?⟩).toList }

def step (s : ScanSystem) (event : ScanStep) : ScanSystem :=
  if s.crashed then s
  else
    match event with
    | .scanRequest header associated settings answer =>
      s.request header associated settings answer
    | .abortScan header =>
      { s with abortRequests := s.abortRequests ++ (s.scanner.abortScan header).toList }
    | .subscribeScanEvents handler =>
      { s with scanner := s.scanner.subscribeScanEvents handler }
    | .unsubscribeScanEvents => { s with scanner := s.scanner.unsubscribeScanEvents }
    | .foreignScan => s.startForeign
    | .scanEnds aborted => s.finish aborted
    | .deliver => s.deliver

variable {s : ScanSystem} {event : ScanStep} {header : RequestHeader} {associated : Bool}
  {settings : SingleScanSettings} {answer : Option ℤ}

/-- A scanner whose request is not granted differs in its count of errors only. -/
theorem scanRequest_refused {scanner : SingleScanner} {refusal : Option ℤ}
    (hvalid : scanner.valid = true) (hrefusal : refusal ≠ some 0) {status : ScanStatus}
    {after : SingleScanner}
    (h : scanner.scanRequest header (fun _ => refusal) associated settings =
      some (status, after)) :
    ∃ counter, after = { scanner with nodevCounter := counter } := by
  have hrefused : (ScanUtils.scanResult refusal).1 = false := by
    cases refusal with
    | none => rfl
    | some errorCode => simpa [ScanUtils.scanResult] using hrefusal
  rw [SingleScanner.scanRequest, if_neg (by simp [hvalid])] at h
  obtain ⟨packet, -, h⟩ := Option.bind_eq_some_iff.mp h
  simp only [hrefused, Bool.false_eq_true, if_false] at h
  by_cases hnodev : (ScanUtils.scanResult refusal).2 = enodev
  · rw [if_pos hnodev] at h
    split_ifs at h
    obtain ⟨-, rfl⟩ := Prod.mk.inj (Option.some.inj h)
    exact ⟨scanner.nodevCounter + 1, rfl⟩
  · rw [if_neg hnodev] at h
    split_ifs at h
    obtain ⟨-, rfl⟩ := Prod.mk.inj (Option.some.inj h)
    exact ⟨scanner.nodevCounter, rfl⟩

/-- A request that the kernel does not accept changes the count of errors only, unless the
process is aborted. One that it accepts sets the flag. -/
theorem request_cases (hvalid : s.scanner.valid = true) :
    (∃ counter crashed, s.request header associated settings answer =
      { s with
        scanner := { s.scanner with nodevCounter := counter }
        crashed := crashed }) ∨
    s.running = none ∧ s.request header associated settings answer =
      { s.accept with
        scanner := { s.scanner with nodevCounter := 0, scanStarted := true }
        crashed := s.crashed } := by
  by_cases hsent : (s.scanner.requestPacket header associated settings).isSome ∧
      s.reply answer = some 0
  · obtain ⟨hpacket, hreply⟩ := hsent
    obtain ⟨packet, hpacket⟩ := Option.isSome_iff_exists.mp hpacket
    right
    constructor
    · by_cases hbusy : answer = some 0 ∧ s.running.isSome
      · rw [reply, if_pos hbusy] at hreply
        exact absurd hreply (by decide)
      · rw [reply, if_neg hbusy] at hreply
        simpa [hreply] using hbusy
    · simp [request, SingleScanner.scanRequest, hpacket, hvalid, hreply, ScanUtils.scanResult,
        accept]
  · left
    have hanswered : ¬ ((s.scanner.valid &&
        (s.scanner.requestPacket header associated settings).isSome) ∧
        s.reply answer = some 0) := by
      rwa [hvalid, Bool.true_and]
    simp only [request, if_neg hanswered]
    cases hresult : s.scanner.scanRequest header (fun _ => s.reply answer) associated settings with
    | none => exact ⟨s.scanner.nodevCounter, true, rfl⟩
    | some result =>
      by_cases hreply : s.reply answer = some 0
      · have hpacket : s.scanner.requestPacket header associated settings = none := by
          simpa [hreply] using hsent
        simp [SingleScanner.scanRequest, hpacket, hvalid] at hresult
      · obtain ⟨counter, hafter⟩ := scanRequest_refused hvalid hreply hresult
        exact ⟨counter, s.crashed, by simp only [hafter]⟩

theorem finish_cases (aborted : Bool) :
    s.finish aborted = s ∨ ∃ scan, s.running = some scan ∧ s.finish aborted =
      { s with running := none, inFlight := s.inFlight ++ [⟨scan, aborted⟩] } := by
  unfold finish
  split
  · exact .inl rfl
  · next scan hrunning => exact .inr ⟨scan, hrunning, rfl⟩

theorem startForeign_cases :
    s.startForeign = s ∨ s.running = none ∧ s.startForeign =
      { s with running := some ⟨s.accepted, false⟩, accepted := s.accepted + 1 } := by
  unfold startForeign
  split
  · exact .inl rfl
  · next hrunning => exact .inr ⟨hrunning, rfl⟩

theorem deliver_of_nil (hqueue : s.inFlight = []) : s.deliver = s := by
  unfold deliver
  rw [hqueue]

/-- Any notification clears the flag, and a handler hears of it. -/
theorem deliver_of_cons {notification : ScanNotification} {inFlight : List ScanNotification}
    (hqueue : s.inFlight = notification :: inFlight) :
    ∃ event, s.deliver =
      { s with
        scanner := { s.scanner with scanStarted := false }
        inFlight := inFlight
        awaited := s.awaited.erase notification.scan
        reports :=
          if s.scanner.scanEventHandler.isSome then
            s.reports ++ [⟨event, notification.scan, s.awaited.head?⟩]
          else s.reports } := by
  refine ⟨if notification.aborted then .onScanRequestFailed else .onScanResultReady, ?_⟩
  cases hhandler : s.scanner.scanEventHandler <;>
    simp [deliver, hqueue, OneShotScanner.onScanResultsReady, hhandler]

/-- While a scan of the scanner is running, `abortScan` asks the kernel to end it, and the
handler hears of the scan that it waits for, not of another one before. -/
structure Punctual (s : ScanSystem) : Prop where
  aborts : ∀ scan, s.running = some scan → scan.own = true → s.scanner.AbortsScans
  reports : ∀ report ∈ s.reports, ∀ scan, report.awaited = some scan → report.notified = scan

/-- The scans of the scanner whose notifications have not arrived: those on their way, in
the order in which they set out, and the one that is running. -/
def due (inFlight : List ScanNotification) (running : Option KernelScan) : List KernelScan :=
  (inFlight.map ScanNotification.scan ++ running.toList).filter KernelScan.own

/-- What holds in every state. -/
structure Consistent (s : ScanSystem) : Prop where
  valid : s.scanner.valid = true
  awaited : s.awaited = due s.inFlight s.running

/-- No notification arrives while a scan of the scanner is running, nor, with a handler, that
of a foreign scan with one of the scanner's own behind it. -/
def HeardInTime (s : ScanSystem) (event : ScanStep) : Prop :=
  event = .deliver → s.crashed = false →
    ∀ notification inFlight, s.inFlight = notification :: inFlight →
      (∀ scan, s.running = some scan → scan.own = false) ∧
      (s.scanner.scanEventHandler.isSome → notification.scan.own = false →
        ∀ later ∈ inFlight, later.scan.own = false)

theorem due_finish (inFlight : List ScanNotification) (scan : KernelScan) (aborted : Bool) :
    due (inFlight ++ [⟨scan, aborted⟩]) none = due inFlight (some scan) := by
  simp [due]

theorem due_cons (notification : ScanNotification) (inFlight : List ScanNotification)
    (running : Option KernelScan) :
    (due (notification :: inFlight) running).erase notification.scan = due inFlight running := by
  rw [due, List.map_cons, List.cons_append]
  cases hown : notification.scan.own with
  | true =>
    rw [List.filter_cons_of_pos hown, List.erase_cons_head]
    rfl
  | false =>
    rw [List.filter_cons_of_neg (by simp [hown])]
    exact List.erase_of_not_mem fun hmem => by simp [hown] at hmem

theorem due_eq_nil_iff (inFlight : List ScanNotification) (running : Option KernelScan) :
    due inFlight running = [] ↔ (∀ later ∈ inFlight, later.scan.own = false) ∧
      ∀ scan, running = some scan → scan.own = false := by
  simp only [due, List.filter_eq_nil_iff, List.mem_append, List.mem_map, Option.mem_toList,
    Bool.not_eq_true]
  constructor
  · intro h
    exact ⟨fun later hlater => h later.scan (.inl ⟨later, hlater, rfl⟩),
      fun scan hscan => h scan (.inr hscan)⟩
  · rintro ⟨hqueue, hrunning⟩ scan (⟨later, hlater, rfl⟩ | hscan)
    · exact hqueue later hlater
    · exact hrunning scan hscan

theorem consistent_step (h : s.Consistent) : (s.step event).Consistent := by
  unfold step
  split
  · exact h
  · cases event with
    | scanRequest header associated settings answer =>
      dsimp only
      rcases request_cases h.valid with ⟨counter, crashed, heq⟩ | ⟨hnone, heq⟩
      · rw [heq]
        exact ⟨h.valid, h.awaited⟩
      · rw [heq]
        refine ⟨h.valid, ?_⟩
        show s.awaited ++ [⟨s.accepted, true⟩] = due s.inFlight (some ⟨s.accepted, true⟩)
        rw [h.awaited, hnone]
        simp [due]
    | abortScan header => exact ⟨h.valid, h.awaited⟩
    | subscribeScanEvents handler =>
      exact ⟨by simp [OneShotScanner.subscribeScanEvents, h.valid], h.awaited⟩
    | unsubscribeScanEvents => exact ⟨h.valid, h.awaited⟩
    | foreignScan =>
      dsimp only
      rcases startForeign_cases (s := s) with heq | ⟨hnone, heq⟩
      · rwa [heq]
      · rw [heq]
        refine ⟨h.valid, ?_⟩
        show s.awaited = due s.inFlight (some ⟨s.accepted, false⟩)
        rw [h.awaited, hnone]
        simp [due]
    | scanEnds aborted =>
      dsimp only
      rcases finish_cases (s := s) aborted with heq | ⟨scan, hrunning, heq⟩
      · rwa [heq]
      · rw [heq]
        refine ⟨h.valid, ?_⟩
        show s.awaited = due (s.inFlight ++ [⟨scan, aborted⟩]) none
        rw [due_finish, h.awaited, hrunning]
    | deliver =>
      dsimp only
      cases hqueue : s.inFlight with
      | nil => rwa [deliver_of_nil hqueue]
      | cons notification inFlight =>
        obtain ⟨event, heq⟩ := deliver_of_cons hqueue
        rw [heq]
        refine ⟨h.valid, ?_⟩
        show s.awaited.erase notification.scan = due inFlight s.running
        rw [h.awaited, hqueue, due_cons]

/-- Only a delivery can go wrong. -/
theorem punctual_step_of_ne_deliver (hc : s.Consistent) (h : s.Punctual) (hne : event ≠ .deliver) :
    (s.step event).Punctual := by
  unfold step
  split
  · exact h
  · cases event with
    | scanRequest header associated settings answer =>
      dsimp only
      rcases request_cases hc.valid with ⟨counter, crashed, heq⟩ | ⟨-, heq⟩
      · rw [heq]
        exact ⟨h.aborts, h.reports⟩
      · rw [heq]
        refine ⟨fun _ _ _ => (OneShotScanner.abortsScans_iff ?_).mpr rfl, h.reports⟩
        exact hc.valid
    | abortScan header => exact ⟨h.aborts, h.reports⟩
    | subscribeScanEvents handler =>
      dsimp only [OneShotScanner.subscribeScanEvents]
      rw [if_neg (by simp [hc.valid])]
      exact ⟨h.aborts, h.reports⟩
    | unsubscribeScanEvents => exact ⟨h.aborts, h.reports⟩
    | foreignScan =>
      dsimp only
      rcases startForeign_cases (s := s) with heq | ⟨-, heq⟩
      · rwa [heq]
      · rw [heq]
        refine ⟨fun scan hscan hown => ?_, h.reports⟩
        obtain rfl := Option.some.inj hscan
        cases hown
    | scanEnds aborted =>
      dsimp only
      rcases finish_cases (s := s) aborted with heq | ⟨scan, -, heq⟩
      · rwa [heq]
      · rw [heq]
        exact ⟨fun _ hscan => absurd hscan (by simp), h.reports⟩
    | deliver => exact absurd rfl hne

/-- What the handler is told at a notification is about the scan that it waits for, unless
that of a foreign scan is delivered before one that it waits for. -/
theorem head_due_eq_iff (notification : ScanNotification) (inFlight : List ScanNotification)
    (running : Option KernelScan) :
    (∀ scan, (due (notification :: inFlight) running).head? = some scan →
      notification.scan = scan) ↔
      (notification.scan.own = false → due inFlight running = []) := by
  have hcons : due (notification :: inFlight) running =
      (notification.scan :: (inFlight.map ScanNotification.scan ++ running.toList)).filter
        KernelScan.own := rfl
  cases hown : notification.scan.own with
  | true =>
    rw [hcons, List.filter_cons_of_pos hown]
    simp
  | false =>
    rw [hcons, List.filter_cons_of_neg (by simp [hown])]
    show (∀ scan, (due inFlight running).head? = some scan → _) ↔ (false = false → _)
    cases hdue : due inFlight running with
    | nil => simp
    | cons scan scans =>
      have hmem : scan ∈ due inFlight running := by simp [hdue]
      have hscan : scan.own = true := (List.mem_filter.mp hmem).2
      refine iff_of_false (fun h => ?_) (by simp)
      rw [h scan rfl] at hown
      simp [hscan] at hown

theorem punctual_deliver (hc : s.Consistent) (h : s.Punctual) :
    s.deliver.Punctual ↔ ∀ notification inFlight, s.inFlight = notification :: inFlight →
      (∀ scan, s.running = some scan → scan.own = false) ∧
      (s.scanner.scanEventHandler.isSome → notification.scan.own = false →
        ∀ later ∈ inFlight, later.scan.own = false) := by
  cases hqueue : s.inFlight with
  | nil =>
    rw [deliver_of_nil hqueue]
    exact iff_of_true h (by simp)
  | cons notification inFlight =>
    obtain ⟨event, heq⟩ := deliver_of_cons hqueue
    have hnext : s.deliver.scanner.scanStarted = false := by rw [heq]
    have hvalid : s.deliver.scanner.valid = true := by
      rw [heq]
      exact hc.valid
    have hrunning : s.deliver.running = s.running := by rw [heq]
    have haborts : (∀ scan, s.deliver.running = some scan → scan.own = true →
        s.deliver.scanner.AbortsScans) ↔ ∀ scan, s.running = some scan → scan.own = false := by
      rw [OneShotScanner.abortsScans_iff hvalid, hnext, hrunning]
      simp only [Bool.false_eq_true, imp_false, Bool.not_eq_true]
    have hreports : (∀ report ∈ s.deliver.reports, ∀ scan, report.awaited = some scan →
        report.notified = scan) ↔ (s.scanner.scanEventHandler.isSome →
          notification.scan.own = false → due inFlight s.running = []) := by
      rw [← head_due_eq_iff, ← hqueue, ← hc.awaited, heq]
      cases s.scanner.scanEventHandler.isSome with
      | true =>
        simp only [if_true, List.forall_mem_append, List.forall_mem_singleton, true_imp_iff]
        exact and_iff_right h.reports
      | false => exact iff_of_true h.reports (by simp)
    have hgood : s.deliver.Punctual ↔ (∀ scan, s.running = some scan → scan.own = false) ∧
        (s.scanner.scanEventHandler.isSome →
          notification.scan.own = false → due inFlight s.running = []) := by
      rw [← haborts, ← hreports]
      exact ⟨fun hgood => ⟨hgood.aborts, hgood.reports⟩, fun hgood => ⟨hgood.1, hgood.2⟩⟩
    rw [hgood]
    simp only [due_eq_nil_iff, List.cons.injEq]
    constructor
    · rintro ⟨hown, hbehind⟩ _ _ ⟨rfl, rfl⟩
      exact ⟨hown, fun hhandler hforeign => (hbehind hhandler hforeign).1⟩
    · intro hcond
      obtain ⟨hown, hbehind⟩ := hcond notification inFlight ⟨rfl, rfl⟩
      exact ⟨hown, fun hhandler hforeign => ⟨hbehind hhandler hforeign, hown⟩⟩

theorem punctual_step (hc : s.Consistent) (h : s.Punctual) :
    (s.step event).Punctual ↔ s.HeardInTime event := by
  by_cases hdeliver : event = .deliver
  · subst hdeliver
    unfold step
    split
    · next hcrashed => exact iff_of_true h fun _ halive => by simp [halive] at hcrashed
    · next halive =>
      rw [punctual_deliver hc h]
      simp [HeardInTime, halive]
  · exact iff_of_true (punctual_step_of_ne_deliver hc h hdeliver) fun heq => absurd heq hdeliver

variable (interfaceIndex : UInt32) (scanCapabilities : ScanCapabilities)
  (wiphyFeatures : WiphyFeatures)

theorem consistent_initial :
    (initial interfaceIndex scanCapabilities wiphyFeatures).Consistent := ⟨rfl, rfl⟩

theorem punctual_initial : (initial interfaceIndex scanCapabilities wiphyFeatures).Punctual :=
  ⟨by simp [initial], by simp [initial]⟩

/-- In every state of a run a scan of the scanner can be aborted while it is running, and its
end is not reported before it is notified, exactly when no notification arrives out of time. -/
theorem punctual_iff_heardInTime (events : List ScanStep) :
    Runs.Always step Punctual (initial interfaceIndex scanCapabilities wiphyFeatures) events ↔
      Runs.Along step HeardInTime (initial interfaceIndex scanCapabilities wiphyFeatures)
        events :=
  Runs.always_iff_along Consistent (fun _ => True)
    (fun _ _ hc _ => consistent_step hc) (fun _ _ hc _ h => punctual_step hc h)
    (consistent_initial interfaceIndex scanCapabilities wiphyFeatures)
    (punctual_initial interfaceIndex scanCapabilities wiphyFeatures) fun _ _ => trivial

/-- The end of a foreign scan is delivered after a scan of the scanner was accepted: its
handler is told of results, and `abortScan` sends nothing while the scan is running. -/
theorem foreign_end_hides_own_scan :
    let settings : SingleScanSettings := ⟨0, false, [], [], []⟩
    let features : WiphyFeatures := ⟨false, true, false, false, false, false, false⟩
    let s := List.foldl step (initial 7 ⟨4, 4, 4, 1, 60, 1⟩ features)
      [.subscribeScanEvents 1, .foreignScan, .scanEnds false,
        .scanRequest ⟨24, 1, 1⟩ false settings (some 0), .deliver]
    s.running = some ⟨1, true⟩ ∧ s.scanner.abortScan ⟨24, 2, 1⟩ = none ∧
      s.reports = [⟨.onScanResultReady, ⟨0, false⟩, some ⟨1, true⟩⟩] ∧ ¬ s.Punctual := by
  intro settings features s
  have hreports : s.reports = [⟨.onScanResultReady, ⟨0, false⟩, some ⟨1, true⟩⟩] := by
    decide +kernel
  refine ⟨by decide +kernel, by decide +kernel, hreports, fun h => ?_⟩
  have hnotified := h.reports ⟨.onScanResultReady, ⟨0, false⟩, some ⟨1, true⟩⟩ (by simp [hreports])
  exact absurd (hnotified ⟨1, true⟩ rfl) (by decide)

/-- No scan is requested while a notification is in flight. -/
def AsksSettled (s : ScanSystem) (event : ScanStep) : Prop :=
  ∀ header associated settings answer,
    event = .scanRequest header associated settings answer → s.inFlight = []

/-- Under such requests the scanner's own scans are ahead of all others. -/
structure Settled (s : ScanSystem) : Prop extends Consistent s where
  running : ∀ scan, s.running = some scan → scan.own = true → s.inFlight = []
  behind : ∀ later ∈ s.inFlight.tail, later.scan.own = false

theorem settled_finish (h : s.Settled) (aborted : Bool) (hc : (s.finish aborted).Consistent) :
    (s.finish aborted).Settled := by
  rcases finish_cases (s := s) aborted with heq | ⟨scan, hrunning, heq⟩
  · rwa [heq]
  · rw [heq] at hc ⊢
    refine ⟨hc, by simp, fun later hlater => ?_⟩
    cases hqueue : s.inFlight with
    | nil => simp [hqueue] at hlater
    | cons notification inFlight =>
      have hforeign : scan.own = false := by
        by_contra hown
        have hnil := h.running scan hrunning (by simpa using hown)
        simp [hnil] at hqueue
      have hmem : later ∈ inFlight ++ [⟨scan, aborted⟩] := by simpa [hqueue] using hlater
      rcases List.mem_append.mp hmem with hold | hnew
      · exact h.behind later (by simpa [hqueue] using hold)
      · rwa [List.mem_singleton.mp hnew]

theorem settled_step (h : s.Settled) (hask : s.AsksSettled event) : (s.step event).Settled := by
  have hc : (s.step event).Consistent := consistent_step h.toConsistent
  unfold step at hc ⊢
  split
  · exact h
  · next halive =>
    rw [if_neg halive] at hc
    cases event with
    | scanRequest header associated settings answer =>
      have hempty := hask header associated settings answer rfl
      dsimp only at hc ⊢
      rcases request_cases h.valid with ⟨counter, crashed, heq⟩ | ⟨-, heq⟩
      · rw [heq] at hc ⊢
        exact ⟨hc, h.running, h.behind⟩
      · rw [heq] at hc ⊢
        exact ⟨hc, fun _ _ _ => hempty, h.behind⟩
    | abortScan header => exact ⟨hc, h.running, h.behind⟩
    | subscribeScanEvents handler => exact ⟨hc, h.running, h.behind⟩
    | unsubscribeScanEvents => exact ⟨hc, h.running, h.behind⟩
    | foreignScan =>
      dsimp only at hc ⊢
      rcases startForeign_cases (s := s) with heq | ⟨-, heq⟩
      · rwa [heq]
      · rw [heq] at hc ⊢
        refine ⟨hc, fun scan hscan hown => ?_, h.behind⟩
        obtain rfl := Option.some.inj hscan
        cases hown
    | scanEnds aborted => exact settled_finish h aborted hc
    | deliver =>
      dsimp only at hc ⊢
      cases hqueue : s.inFlight with
      | nil => rwa [deliver_of_nil hqueue]
      | cons notification inFlight =>
        obtain ⟨event, heq⟩ := deliver_of_cons hqueue
        rw [heq] at hc ⊢
        refine ⟨hc, fun scan hscan hown => ?_, fun later hlater => ?_⟩
        · have hnil := h.running scan hscan hown
          simp [hnil] at hqueue
        · exact h.behind later (by simpa [hqueue] using List.mem_of_mem_tail hlater)

theorem heardInTime_of_settled (h : s.Settled) : s.HeardInTime event := by
  intro _ _ notification inFlight hqueue
  constructor
  · intro scan hrunning
    by_contra hown
    have hnil := h.running scan hrunning (by simpa using hown)
    simp [hnil] at hqueue
  · intro _ _ later hlater
    exact h.behind later (by simpa [hqueue] using hlater)

/-- It is enough that no scan is requested while a notification is in flight. -/
theorem heardInTime_of_asksSettled {events : List ScanStep}
    (h : Runs.Along step AsksSettled (initial interfaceIndex scanCapabilities wiphyFeatures)
      events) :
    Runs.Along step HeardInTime (initial interfaceIndex scanCapabilities wiphyFeatures) events :=
  Runs.along_of_along Settled (fun _ _ hs hask => settled_step hs hask)
    (fun _ _ hs _ => heardInTime_of_settled hs)
    ⟨consistent_initial interfaceIndex scanCapabilities wiphyFeatures, by simp [initial],
      by simp [initial]⟩ h

end ScanSystem

end Wificond
