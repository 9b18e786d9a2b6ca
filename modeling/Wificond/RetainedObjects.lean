import Wificond.ObjectLifetimes
import Wificond.PnoScan

/-!
# Objects retained by remote processes

Remote processes may hold on to the binder objects past the lifetime of the interface
objects. A binder is told when its interface object goes, and drops its pointer; a scanner
is marked invalid but keeps the pointer to its client.
-/
namespace Wificond

/-- What a method does with the pointers of its object: it follows one, or a scanner sends a
request to the kernel. -/
inductive Effect
  | client (pointer : Option ObjectId)
  | ap (pointer : Option ObjectId)
  | kernelRequest
  deriving DecidableEq

structure ClientInterfaceBinder where
  impl : Option ObjectId

structure ApInterfaceBinder where
  impl : Option ObjectId
  apInterfaceEventCallback : Option ℕ

def ClientInterfaceBinder.notifyImplDead (binder : ClientInterfaceBinder) :
    ClientInterfaceBinder :=
  { binder with impl := none }

def ApInterfaceBinder.notifyImplDead (binder : ApInterfaceBinder) : ApInterfaceBinder :=
  { binder with impl := none }

/-- `IClientInterface` -/
inductive ClientMethod
  | getPacketCounters
  | signalPoll
  | getMacAddress
  | getInterfaceName
  | getWifiScannerImpl
  | sendMgmtFrame

/-- `IApInterface` -/
inductive ApMethod
  | registerCallback (callback : ℕ)
  | getInterfaceName

/-- Every method returns at once if the pointer is null. -/
def ClientInterfaceBinder.effects (binder : ClientInterfaceBinder) (_ : ClientMethod) :
    List Effect :=
  match binder.impl with
  | none => []
  | some impl => [.client (some impl)]

/-- `getInterfaceName` follows the pointer without a test. -/
def ApInterfaceBinder.effects (binder : ApInterfaceBinder) : ApMethod → List Effect
  | .registerCallback _ => []
  | .getInterfaceName => [.ap binder.impl]

def ApInterfaceBinder.call (binder : ApInterfaceBinder) : ApMethod → ApInterfaceBinder
  | .registerCallback callback => { binder with apInterfaceEventCallback := some callback }
  | .getInterfaceName => binder

/-- The scanner as a whole. -/
structure Scanner extends ScannerImpl where
  scanStarted : Bool
  clientInterface : ObjectId
  scanEventHandler : Option ℕ

/-- `IWifiScannerImpl`, with the kernel's reply to a request, and the notifications that a scan
is over. Whether a random address is supported is a capability of the wiphy. -/
inductive ScannerMethod
  | getScanResults
  | getPnoScanResults
  | getMaxSsidsPerScan
  | scan (supportsRandomMac : Bool) (reply : Except ℕ Unit)
  | scanRequest (supportsRandomMac : Bool) (reply : Except ℕ Unit)
  | startPnoScan (supportsRandomMac : Bool) (reply : Except ℕ Unit)
  | stopPnoScan (reply : Except ℕ Unit)
  | abortScan
  | subscribeScanEvents (handler : ℕ)
  | unsubscribeScanEvents
  | subscribePnoScanEvents (handler : ℕ)
  | unsubscribePnoScanEvents
  | onScanResultsReady
  | onSchedScanResultsReady (scanStopped : Bool)

namespace Scanner

def construct (client : ObjectId) : Scanner :=
  { ScannerImpl.construct with
    scanStarted := false
    clientInterface := client
    scanEventHandler := none }

def invalidate (scanner : Scanner) : Scanner := { scanner with valid := false }

/-- `IsAssociated` of the client is asked for only if a random address is supported. -/
def scanEffects (supportsRandomMac : Bool) (scanner : Scanner) : List Effect :=
  if !scanner.valid then []
  else (if supportsRandomMac then [.client (some scanner.clientInterface)] else []) ++
    [.kernelRequest]

/-- `ParsePnoSettings` asks for the band information of the client first. -/
def pnoScanEffects (supportsRandomMac : Bool) (scanner : Scanner) : List Effect :=
  if !scanner.valid then []
  else .client (some scanner.clientInterface) :: scanner.scanEffects supportsRandomMac

def requestEffects (scanner : Scanner) : List Effect :=
  if !scanner.valid then [] else [.kernelRequest]

def effects (scanner : Scanner) : ScannerMethod → List Effect
  | .getScanResults | .getPnoScanResults | .stopPnoScan _ => scanner.requestEffects
  | .scan random _ | .scanRequest random _ => scanner.scanEffects random
  | .startPnoScan random _ => scanner.pnoScanEffects random
  | .abortScan => if scanner.scanStarted then scanner.requestEffects else []
  | .getMaxSsidsPerScan | .subscribeScanEvents _ | .unsubscribeScanEvents
  | .subscribePnoScanEvents _ | .unsubscribePnoScanEvents | .onScanResultsReady
  | .onSchedScanResultsReady _ => []

/-- `scanRequest`; the process may be aborted by a `CHECK`. -/
def scanRequest (reply : Except ℕ Unit) (scanner : Scanner) : Option Scanner :=
  if !scanner.valid then some scanner
  else
    match reply with
    | .error errorCode =>
      let scanner :=
        if errorCode = enodev then { scanner with nodevCounter := scanner.nodevCounter + 1 }
        else scanner
      if errorCode ≠ enodev ∨ scanner.nodevCounter ≤ 3 then some scanner else none
    | .ok () => some { scanner with nodevCounter := 0, scanStarted := true }

/-- The scanner after a call, unless the process is aborted. -/
def call (scanner : Scanner) : ScannerMethod → Option Scanner
  | .getScanResults | .getPnoScanResults | .getMaxSsidsPerScan | .abortScan => some scanner
  | .scan _ reply | .scanRequest _ reply => scanner.scanRequest reply
  | .startPnoScan _ reply =>
    (scanner.toScannerImpl.startPnoScan reply).map fun after =>
      { scanner with toScannerImpl := after.2 }
  | .stopPnoScan reply =>
    some { scanner with toScannerImpl := (scanner.toScannerImpl.stopPnoScan reply).2 }
  | .subscribeScanEvents handler =>
    some (if !scanner.valid then scanner else { scanner with scanEventHandler := some handler })
  | .unsubscribeScanEvents => some { scanner with scanEventHandler := none }
  | .subscribePnoScanEvents handler =>
    some { scanner with toScannerImpl := scanner.toScannerImpl.subscribePnoScanEvents handler }
  | .unsubscribePnoScanEvents =>
    some { scanner with toScannerImpl := scanner.toScannerImpl.unsubscribePnoScanEvents }
  | .onScanResultsReady => some { scanner with scanStarted := false }
  | .onSchedScanResultsReady scanStopped =>
    some { scanner with
      toScannerImpl := (scanner.toScannerImpl.onSchedScanResultsReady scanStopped).2 }

theorem scanRequest_keeps {scanner after : Scanner} {reply : Except ℕ Unit}
    (h : scanner.scanRequest reply = some after) :
    after.valid = scanner.valid ∧ after.clientInterface = scanner.clientInterface := by
  unfold scanRequest at h
  split_ifs at h with hvalid
  · obtain rfl := Option.some.inj h
    exact ⟨rfl, rfl⟩
  · cases reply with
    | error errorCode =>
      dsimp only at h
      split_ifs at h <;> obtain rfl := Option.some.inj h <;> exact ⟨rfl, rfl⟩
    | ok _ =>
      obtain rfl := Option.some.inj h
      exact ⟨rfl, rfl⟩

end Scanner

theorem ScannerImpl.startPnoScan_valid {scanner : ScannerImpl} {reply : Except ℕ Unit}
    {result : Bool × ScannerImpl} (h : scanner.startPnoScan reply = some result) :
    result.2.valid = scanner.valid := by
  unfold startPnoScan at h
  split_ifs at h with hvalid
  · obtain rfl := Option.some.inj h
    rfl
  · cases reply with
    | error errorCode =>
      dsimp only at h
      split_ifs at h <;> obtain rfl := Option.some.inj h <;> rfl
    | ok _ =>
      obtain rfl := Option.some.inj h
      rfl

theorem ScannerImpl.stopPnoScan_valid (scanner : ScannerImpl) (reply : Except ℕ Unit) :
    (scanner.stopPnoScan reply).2.valid = scanner.valid := by
  unfold stopPnoScan
  split_ifs
  · rfl
  · cases reply <;> rfl

theorem ScannerImpl.onSchedScanResultsReady_valid (scanner : ScannerImpl) (scanStopped : Bool) :
    (scanner.onSchedScanResultsReady scanStopped).2.valid = scanner.valid := by
  unfold onSchedScanResultsReady
  cases scanner.pnoScanEventHandler with
  | none => rfl
  | some handler => cases scanStopped <;> rfl

namespace Scanner

/-- No method touches the validity or the client. -/
theorem call_keeps {scanner after : Scanner} {method : ScannerMethod}
    (h : scanner.call method = some after) :
    after.valid = scanner.valid ∧ after.clientInterface = scanner.clientInterface := by
  cases method with
  | getScanResults | getPnoScanResults | getMaxSsidsPerScan | abortScan | unsubscribeScanEvents
  | unsubscribePnoScanEvents | onScanResultsReady =>
    obtain rfl := Option.some.inj h
    exact ⟨rfl, rfl⟩
  | scan random reply | scanRequest random reply => exact scanRequest_keeps h
  | startPnoScan random reply =>
    obtain ⟨result, hresult, rfl⟩ := Option.map_eq_some_iff.mp h
    exact ⟨ScannerImpl.startPnoScan_valid hresult, rfl⟩
  | stopPnoScan reply =>
    obtain rfl := Option.some.inj h
    exact ⟨ScannerImpl.stopPnoScan_valid _ _, rfl⟩
  | onSchedScanResultsReady scanStopped =>
    obtain rfl := Option.some.inj h
    exact ⟨ScannerImpl.onSchedScanResultsReady_valid _ _, rfl⟩
  | subscribeScanEvents handler =>
    obtain rfl := Option.some.inj h
    split_ifs <;> exact ⟨rfl, rfl⟩
  | subscribePnoScanEvents handler =>
    obtain rfl := Option.some.inj h
    refine ⟨?_, rfl⟩
    show (scanner.toScannerImpl.subscribePnoScanEvents handler).valid = _
    rw [ScannerImpl.subscribePnoScanEvents]
    split_ifs <;> rfl

/-- An invalid scanner does nothing at all. -/
theorem effects_of_not_valid {scanner : Scanner} (h : scanner.valid = false)
    (method : ScannerMethod) : scanner.effects method = [] := by
  cases method <;>
    simp [effects, requestEffects, scanEffects, pnoScanEffects, h]

theorem effects_subset (scanner : Scanner) (method : ScannerMethod) :
    ∀ effect ∈ scanner.effects method,
      effect = .client (some scanner.clientInterface) ∨ effect = .kernelRequest := by
  have hrequest : ∀ effect ∈ scanner.requestEffects, effect = .kernelRequest := by
    rw [requestEffects]
    split_ifs <;> simp
  have hscan (random : Bool) : ∀ effect ∈ scanner.scanEffects random,
      effect = .client (some scanner.clientInterface) ∨ effect = .kernelRequest := by
    rw [scanEffects]
    split_ifs <;> simp
  intro effect heffect
  cases method with
  | getScanResults | getPnoScanResults | stopPnoScan reply => exact .inr (hrequest effect heffect)
  | scan random reply | scanRequest random reply => exact hscan random effect heffect
  | startPnoScan random reply =>
    rw [effects, pnoScanEffects] at heffect
    split_ifs at heffect
    · simp at heffect
    · rcases List.mem_cons.mp heffect with heq | hrest
      · exact .inl heq
      · exact hscan random effect hrest
  | abortScan =>
    rw [effects] at heffect
    split_ifs at heffect
    · exact .inr (hrequest effect heffect)
    · simp at heffect
  | getMaxSsidsPerScan | subscribeScanEvents handler | unsubscribeScanEvents
  | subscribePnoScanEvents handler | unsubscribePnoScanEvents | onScanResultsReady
  | onSchedScanResultsReady scanStopped => simp [effects] at heffect

end Scanner

/-- The server and the binder objects of all interfaces that were ever constructed. A
client's binder and its scanner go by the identity of the client. -/
structure World where
  server : Server
  aborted : Bool
  clientBinder : ObjectId → Option ClientInterfaceBinder
  apBinder : ObjectId → Option ApInterfaceBinder
  scanner : ObjectId → Option Scanner

inductive WorldStep
  | serve (call : Call)
  | client (id : ObjectId) (method : ClientMethod)
  | ap (id : ObjectId) (method : ApMethod)
  | scanner (id : ObjectId) (method : ScannerMethod)

namespace World

def fresh : World := ⟨.fresh, false, fun _ => none, fun _ => none, fun _ => none⟩

/-- The part of the constructors and destructors that concerns the binder objects. -/
def observe (w : World) : LifecycleEvent → World
  | .clientConstructed id =>
    { w with
      clientBinder := Function.update w.clientBinder id (some ⟨some id⟩)
      scanner := Function.update w.scanner id (some (Scanner.construct id)) }
  | .clientDestroyed id =>
    { w with
      clientBinder := Function.update w.clientBinder id
        ((w.clientBinder id).map ClientInterfaceBinder.notifyImplDead)
      scanner := Function.update w.scanner id ((w.scanner id).map Scanner.invalidate) }
  | .apConstructed id =>
    { w with apBinder := Function.update w.apBinder id (some ⟨some id, none⟩) }
  | .apDestroyed id =>
    { w with
      apBinder := Function.update w.apBinder id
        ((w.apBinder id).map ApInterfaceBinder.notifyImplDead) }

def serve (call : Call) (w : World) : World :=
  (w.server.lifecycle call).foldl observe { w with server := w.server.serve call }

def callAp (id : ObjectId) (method : ApMethod) (w : World) : World :=
  { w with
    apBinder := Function.update w.apBinder id
      ((w.apBinder id).map fun binder => binder.call method) }

def callScanner (id : ObjectId) (method : ScannerMethod) (w : World) : World :=
  match w.scanner id with
  | none => w
  | some scanner =>
    match scanner.call method with
    | none => { w with aborted := true }
    | some after => { w with scanner := Function.update w.scanner id (some after) }

/-- Nothing happens in a process that was aborted, or to an object that never was. -/
def step (w : World) (step : WorldStep) : World :=
  if w.aborted then w
  else
    match step with
    | .serve call => w.serve call
    | .client _ _ => w
    | .ap id method => w.callAp id method
    | .scanner id method => w.callScanner id method

def effects (w : World) (step : WorldStep) : List Effect :=
  if w.aborted then []
  else
    match step with
    | .serve _ => []
    | .client id method => (w.clientBinder id).elim [] fun binder => binder.effects method
    | .ap id method => (w.apBinder id).elim [] fun binder => binder.effects method
    | .scanner id method => (w.scanner id).elim [] fun scanner => scanner.effects method

/-- Every pointer that is followed is that of an object that exists, and the scanner of a
client that is gone sends no request. -/
structure Safe (w : World) (step : WorldStep) : Prop where
  client : ∀ pointer, .client pointer ∈ w.effects step →
    ∃ id ∈ w.server.live.clients, pointer = some id
  ap : ∀ pointer, .ap pointer ∈ w.effects step → ∃ id ∈ w.server.live.aps, pointer = some id
  scanner : ∀ id method, step = .scanner id method → id ∉ w.server.live.clients →
    .kernelRequest ∉ w.effects step

/-- No retained AP interface is asked for its name once it is torn down. -/
def NamesLiveAp (w : World) (step : WorldStep) : Prop :=
  ∀ id, step = .ap id .getInterfaceName → w.aborted = false → w.apBinder id ≠ none →
    id ∈ w.server.live.aps

/-- A pointer that is set, or used while its scanner is valid, is that of the object it was
set to, which exists; and the pointer to an AP interface that exists is set. -/
structure Proxies (live : LiveObjects) (w : World) : Prop where
  clientBinder : ∀ id binder, w.clientBinder id = some binder → ∀ impl,
    binder.impl = some impl → impl = id ∧ id ∈ live.clients
  apBinder : ∀ id binder, w.apBinder id = some binder → ∀ impl, binder.impl = some impl →
    impl = id ∧ id ∈ live.aps
  apImpl : ∀ id binder, w.apBinder id = some binder → id ∈ live.aps → binder.impl = some id
  scanner : ∀ id scanner, w.scanner id = some scanner → scanner.valid = true →
    scanner.clientInterface = id ∧ id ∈ live.clients

section Proxies
variable {live : LiveObjects} {w : World}

theorem proxies_clientConstructed (h : Proxies live w) (new : ObjectId) :
    Proxies (live.after (.clientConstructed new)) (w.observe (.clientConstructed new)) where
  clientBinder id binder hb impl himpl := by
    by_cases hid : id = new
    · subst hid
      obtain rfl : ⟨some id⟩ = binder := by simpa [observe] using hb
      exact ⟨(Option.some.inj himpl).symm, Set.mem_insert _ _⟩
    · obtain ⟨heq, hmem⟩ := h.clientBinder id binder (by simpa [observe, hid] using hb) impl himpl
      exact ⟨heq, Set.mem_insert_of_mem _ hmem⟩
  apBinder := h.apBinder
  apImpl := h.apImpl
  scanner id scanner hs hvalid := by
    by_cases hid : id = new
    · subst hid
      obtain rfl : Scanner.construct id = scanner := by simpa [observe] using hs
      exact ⟨rfl, Set.mem_insert _ _⟩
    · obtain ⟨heq, hmem⟩ := h.scanner id scanner (by simpa [observe, hid] using hs) hvalid
      exact ⟨heq, Set.mem_insert_of_mem _ hmem⟩

theorem proxies_clientDestroyed (h : Proxies live w) (dead : ObjectId) :
    Proxies (live.after (.clientDestroyed dead)) (w.observe (.clientDestroyed dead)) where
  clientBinder id binder hb impl himpl := by
    by_cases hid : id = dead
    · subst hid
      obtain ⟨old, -, rfl⟩ : ∃ old, w.clientBinder id = some old ∧ old.notifyImplDead = binder := by
        simpa [observe] using hb
      simp [ClientInterfaceBinder.notifyImplDead] at himpl
    · obtain ⟨heq, hmem⟩ := h.clientBinder id binder (by simpa [observe, hid] using hb) impl himpl
      exact ⟨heq, hmem, hid⟩
  apBinder := h.apBinder
  apImpl := h.apImpl
  scanner id scanner hs hvalid := by
    by_cases hid : id = dead
    · subst hid
      obtain ⟨old, -, rfl⟩ : ∃ old, w.scanner id = some old ∧ old.invalidate = scanner := by
        simpa [observe] using hs
      simp [Scanner.invalidate] at hvalid
    · obtain ⟨heq, hmem⟩ := h.scanner id scanner (by simpa [observe, hid] using hs) hvalid
      exact ⟨heq, hmem, hid⟩

theorem proxies_apConstructed (h : Proxies live w) (new : ObjectId) :
    Proxies (live.after (.apConstructed new)) (w.observe (.apConstructed new)) where
  clientBinder := h.clientBinder
  apBinder id binder hb impl himpl := by
    by_cases hid : id = new
    · subst hid
      obtain rfl : ⟨some id, none⟩ = binder := by simpa [observe] using hb
      exact ⟨(Option.some.inj himpl).symm, Set.mem_insert _ _⟩
    · obtain ⟨heq, hmem⟩ := h.apBinder id binder (by simpa [observe, hid] using hb) impl himpl
      exact ⟨heq, Set.mem_insert_of_mem _ hmem⟩
  apImpl id binder hb hmem := by
    by_cases hid : id = new
    · subst hid
      obtain rfl : ⟨some id, none⟩ = binder := by simpa [observe] using hb
      rfl
    · exact h.apImpl id binder (by simpa [observe, hid] using hb)
        ((Set.mem_insert_iff.mp hmem).resolve_left hid)
  scanner := h.scanner

theorem proxies_apDestroyed (h : Proxies live w) (dead : ObjectId) :
    Proxies (live.after (.apDestroyed dead)) (w.observe (.apDestroyed dead)) where
  clientBinder := h.clientBinder
  apBinder id binder hb impl himpl := by
    by_cases hid : id = dead
    · subst hid
      obtain ⟨old, -, rfl⟩ : ∃ old, w.apBinder id = some old ∧ old.notifyImplDead = binder := by
        simpa [observe] using hb
      simp [ApInterfaceBinder.notifyImplDead] at himpl
    · obtain ⟨heq, hmem⟩ := h.apBinder id binder (by simpa [observe, hid] using hb) impl himpl
      exact ⟨heq, hmem, hid⟩
  apImpl id binder hb hmem := by
    have hid : id ≠ dead := hmem.2
    exact h.apImpl id binder (by simpa [observe, hid] using hb) hmem.1
  scanner := h.scanner

theorem proxies_foldl (h : Proxies live w) (events : List LifecycleEvent) :
    Proxies (events.foldl LiveObjects.after live) (events.foldl observe w) := by
  induction events generalizing live w with
  | nil => exact h
  | cons event events ih =>
    apply ih
    cases event with
    | clientConstructed id => exact proxies_clientConstructed h id
    | clientDestroyed id => exact proxies_clientDestroyed h id
    | apConstructed id => exact proxies_apConstructed h id
    | apDestroyed id => exact proxies_apDestroyed h id

theorem server_observe (w : World) (event : LifecycleEvent) :
    (w.observe event).server = w.server := by
  cases event <;> rfl

theorem server_serve (call : Call) (w : World) :
    (w.serve call).server = w.server.serve call :=
  Runs.foldl_frame World.server server_observe

end Proxies

/-- The pointers of every retained object agree with the objects that exist. -/
structure Consistent (w : World) : Prop where
  wellNamed : w.server.WellNamed
  proxies : Proxies w.server.live w

section Methods
variable {w : World} {id : ObjectId}

theorem safe_of_no_effects {step : WorldStep} (h : w.effects step = []) : w.Safe step where
  client pointer hmem := by simp [h] at hmem
  ap pointer hmem := by simp [h] at hmem
  scanner id method _ _ hmem := by simp [h] at hmem

/-- A client's binder follows its pointer only if it is set, and then its object exists. -/
theorem safe_client (hw : w.Consistent) (method : ClientMethod) :
    w.Safe (.client id method) := by
  by_cases haborted : w.aborted
  · exact safe_of_no_effects (by simp [effects, haborted])
  cases hb : w.clientBinder id with
  | none => exact safe_of_no_effects (by simp [effects, hb])
  | some binder =>
    cases himpl : binder.impl with
    | none =>
      exact safe_of_no_effects (by simp [effects, hb, ClientInterfaceBinder.effects, himpl])
    | some impl =>
      obtain ⟨rfl, hlive⟩ := hw.proxies.clientBinder id binder hb impl himpl
      have heffects : w.effects (.client impl method) = [.client (some impl)] := by
        simp [effects, haborted, hb, ClientInterfaceBinder.effects, himpl]
      constructor
      · intro pointer hmem
        rw [heffects, List.mem_singleton] at hmem
        exact ⟨impl, hlive, Effect.client.inj hmem⟩
      · intro pointer hmem
        simp [heffects] at hmem
      · intro id method hstep
        simp at hstep

/-- A scanner does nothing once it is invalid, and while it is valid its client exists. -/
theorem safe_scanner (hw : w.Consistent) (method : ScannerMethod) :
    w.Safe (.scanner id method) := by
  by_cases haborted : w.aborted
  · exact safe_of_no_effects (by simp [effects, haborted])
  cases hs : w.scanner id with
  | none => exact safe_of_no_effects (by simp [effects, hs])
  | some scanner =>
    have heffects : w.effects (.scanner id method) = scanner.effects method := by
      simp [effects, haborted, hs]
    cases hvalid : scanner.valid with
    | false =>
      exact safe_of_no_effects (heffects.trans (Scanner.effects_of_not_valid hvalid method))
    | true =>
      obtain ⟨rfl, hlive⟩ := hw.proxies.scanner id scanner hs hvalid
      have hsubset := Scanner.effects_subset scanner method
      rw [← heffects] at hsubset
      constructor
      · intro pointer hmem
        rcases hsubset _ hmem with heq | heq
        · exact ⟨_, hlive, Effect.client.inj heq⟩
        · simp at heq
      · intro pointer hmem
        rcases hsubset _ hmem with heq | heq <;> simp at heq
      · intro id method hstep hdead
        obtain ⟨rfl, rfl⟩ := WorldStep.scanner.inj hstep
        exact absurd hlive hdead

/-- The AP interface's binder follows its pointer unconditionally, so the object has to
exist. -/
theorem safe_ap_iff (hw : w.Consistent) (method : ApMethod) :
    w.Safe (.ap id method) ↔ w.NamesLiveAp (.ap id method) := by
  constructor
  · intro hsafe id' hstep haborted hb
    obtain ⟨rfl, rfl⟩ := WorldStep.ap.inj hstep
    obtain ⟨binder, hb⟩ := Option.ne_none_iff_exists'.mp hb
    have hmem : .ap binder.impl ∈ w.effects (.ap id .getInterfaceName) := by
      simp [effects, haborted, hb, ApInterfaceBinder.effects]
    obtain ⟨impl, hlive, himpl⟩ := hsafe.ap binder.impl hmem
    obtain ⟨rfl, -⟩ := hw.proxies.apBinder id binder hb impl himpl
    exact hlive
  · intro hnames
    by_cases haborted : w.aborted
    · exact safe_of_no_effects (by simp [effects, haborted])
    cases hb : w.apBinder id with
    | none => exact safe_of_no_effects (by simp [effects, hb])
    | some binder =>
      cases method with
      | registerCallback callback =>
        exact safe_of_no_effects (by simp [effects, hb, ApInterfaceBinder.effects])
      | getInterfaceName =>
        have hlive := hnames id rfl (by simpa using haborted) (by simp [hb])
        have himpl := hw.proxies.apImpl id binder hb hlive
        have heffects : w.effects (.ap id .getInterfaceName) = [.ap (some id)] := by
          simp [effects, haborted, hb, ApInterfaceBinder.effects, himpl]
        constructor
        · intro pointer hmem
          simp [heffects] at hmem
        · intro pointer hmem
          rw [heffects, List.mem_singleton] at hmem
          exact ⟨id, hlive, Effect.ap.inj hmem⟩
        · intro id method hstep
          simp at hstep

theorem safe_iff (hw : w.Consistent) (step : WorldStep) :
    w.Safe step ↔ w.NamesLiveAp step := by
  cases step with
  | serve call =>
    refine iff_of_true (safe_of_no_effects (by simp [effects])) fun id hstep => ?_
    simp at hstep
  | client id method =>
    refine iff_of_true (safe_client hw method) fun id hstep => ?_
    simp at hstep
  | ap id method => exact safe_ap_iff hw method
  | scanner id method =>
    refine iff_of_true (safe_scanner hw method) fun id hstep => ?_
    simp at hstep

end Methods

section Runs
variable {w : World}

theorem consistent_fresh : fresh.Consistent where
  wellNamed := Server.wellNamed_fresh
  proxies := by constructor <;> simp [fresh]

theorem consistent_serve (hw : w.Consistent) (call : Call) : (w.serve call).Consistent := by
  constructor
  · rw [server_serve]
    exact Server.wellNamed_serve hw.wellNamed
  · rw [server_serve, Server.live_serve hw.wellNamed]
    refine proxies_foldl ?_ _
    exact ⟨hw.proxies.clientBinder, hw.proxies.apBinder, hw.proxies.apImpl, hw.proxies.scanner⟩

theorem consistent_callAp (hw : w.Consistent) (id : ObjectId) (method : ApMethod) :
    (w.callAp id method).Consistent := by
  have hcall (binder : ApInterfaceBinder) : (binder.call method).impl = binder.impl := by
    cases method <;> rfl
  have hbefore {id' : ObjectId} {after : ApInterfaceBinder}
      (hb : (w.callAp id method).apBinder id' = some after) :
      ∃ binder, w.apBinder id' = some binder ∧ after.impl = binder.impl := by
    by_cases hid : id' = id
    · subst hid
      obtain ⟨binder, hbinder, rfl⟩ : ∃ binder, w.apBinder id' = some binder ∧
          binder.call method = after := by simpa [callAp] using hb
      exact ⟨binder, hbinder, hcall binder⟩
    · exact ⟨after, by simpa [callAp, hid] using hb, rfl⟩
  refine ⟨hw.wellNamed, hw.proxies.clientBinder, ?_, ?_, hw.proxies.scanner⟩
  · intro id' after hb impl himpl
    obtain ⟨binder, hbinder, heq⟩ := hbefore hb
    exact hw.proxies.apBinder id' binder hbinder impl (heq ▸ himpl)
  · intro id' after hb hlive
    obtain ⟨binder, hbinder, heq⟩ := hbefore hb
    rw [heq]
    exact hw.proxies.apImpl id' binder hbinder hlive

theorem consistent_callScanner (hw : w.Consistent) (id : ObjectId) (method : ScannerMethod) :
    (w.callScanner id method).Consistent := by
  rw [callScanner]
  cases hs : w.scanner id with
  | none => exact hw
  | some scanner =>
    dsimp only
    cases hcall : scanner.call method with
    | none =>
      exact ⟨hw.wellNamed, hw.proxies.clientBinder, hw.proxies.apBinder, hw.proxies.apImpl,
        hw.proxies.scanner⟩
    | some after =>
      obtain ⟨hvalid, hclient⟩ := Scanner.call_keeps hcall
      refine ⟨hw.wellNamed, hw.proxies.clientBinder, hw.proxies.apBinder, hw.proxies.apImpl, ?_⟩
      intro id' scanner' hs' hvalid'
      by_cases hid : id' = id
      · subst hid
        obtain rfl : after = scanner' := by simpa using hs'
        rw [hclient]
        exact hw.proxies.scanner id' scanner hs (hvalid.symm.trans hvalid')
      · exact hw.proxies.scanner id' scanner' (by simpa [hid] using hs') hvalid'

theorem consistent_step (hw : w.Consistent) (next : WorldStep) : (w.step next).Consistent := by
  unfold step
  split_ifs
  · exact hw
  · cases next with
    | serve call => exact consistent_serve hw call
    | client id method => exact hw
    | ap id method => exact consistent_callAp hw id method
    | scanner id method => exact consistent_callScanner hw id method

/-- A run follows no pointer to a destroyed object, and no scanner of a client that is gone
sends a request, exactly if no AP interface is asked for its name after it is torn down. -/
theorem retained_objects_safe_iff (steps : List WorldStep) :
    Runs.Along step Safe fresh steps ↔ Runs.Along step NamesLiveAp fresh steps := by
  constructor <;> refine Runs.along_of_along Consistent ?_ ?_ consistent_fresh
  · exact fun w next hw _ => consistent_step hw next
  · exact fun w next hw => (safe_iff hw next).mp
  · exact fun w next hw _ => consistent_step hw next
  · exact fun w next hw => (safe_iff hw next).mpr

/-- The name of an AP interface that was torn down is read through a null pointer. -/
theorem getInterfaceName_after_tearDown :
    ¬ Runs.Along step Safe fresh
      [.serve ⟨.oneInterface [119], .createApInterface [119]⟩,
        .serve ⟨.oneInterface [119], .tearDownApInterface [119]⟩, .ap 0 .getInterfaceName] := by
  intro h
  obtain ⟨id, -, hid⟩ := h.2.2.1.ap none (by decide)
  simp at hid

end Runs

end World

end Wificond
