import Wificond.BroadcastDelivery
import Wificond.OneShotScans
import Wificond.Subscriptions

/-!
# Scan events

A scanner has one subscriber for the scans that are asked for and one for scheduled scans. A
remote process may subscribe and unsubscribe at any time, also while the client interface is
torn down, and the kernel's notifications go by the index of the interface. What comes of them
is told to the latest subscriber of the scanner that is live under the index.
-/
namespace Wificond

/-- `IScanEvent` and `IPnoScanEvent` -/
inductive SubscribedEvent
  | scan (event : ScanEvent)
  | pno (event : PnoScanEvent)
  deriving DecidableEq

/-- A call of a subscriber. -/
structure ToldEvent where
  handler : ℕ
  event : SubscribedEvent
  deriving DecidableEq

def SubscribedEvent.subscription : SubscribedEvent → Subscription
  | scan _ => .scan
  | pno _ => .pno

/-- The methods of `IWifiScannerImpl`, which are all but the two that handle notifications. -/
def ScannerMethod.isRemote : ScannerMethod → Bool
  | .onScanResultsReady | .onSchedScanResultsReady _ => false
  | _ => true

namespace Scanner

/-- What `OnScanResultsReady` tells. The SSIDs and the frequencies are not passed on. -/
def toldOfScan (aborted : Bool) (scanner : Scanner) : Option ToldEvent :=
  scanner.scanEventHandler.map fun handler =>
    ⟨handler, .scan (if aborted then .onScanRequestFailed else .onScanResultReady)⟩

/-- What `OnSchedScanResultsReady` tells. -/
def toldOfSchedScan (scanStopped : Bool) (scanner : Scanner) : Option ToldEvent := do
  let handler ← scanner.pnoScanEventHandler
  let event ← (scanner.toScannerImpl.onSchedScanResultsReady scanStopped).1
  return ⟨handler, .pno event⟩

/-- The two handlers of a scanner; those of its client interface tell no subscriber. -/
def told (event : HandlerEvent) (scanner : Scanner) : Option ToldEvent :=
  match event with
  | .scanResults _ aborted _ _ => scanner.toldOfScan aborted
  | .schedScanResults _ scanStopped => scanner.toldOfSchedScan scanStopped
  | .mlme .. | .station .. | .channelSwitch .. | .frameTxStatus .. => none

end Scanner

/-- What a call of a handler does to the scanner of its owner. -/
def World.receive (call : HandlerCall) (w : World) : World :=
  match call.event with
  | .scanResults .. => w.callScanner call.owner .onScanResultsReady
  | .schedScanResults _ scanStopped =>
    w.callScanner call.owner (.onSchedScanResultsReady scanStopped)
  | .mlme .. | .station .. | .channelSwitch .. | .frameTxStatus .. => w

/-- The server with all scanners, and the calls of subscribers in order. -/
structure Watch where
  world : World
  told : List ToldEvent

/-- A call of the server, one of a scanner that was handed out, or a broadcast, with the
kernel's answers to the handler of each wiphy should it be one of a regulatory change. -/
inductive WatchStep
  | serve (call : Call)
  | scanner (id : ObjectId) (method : { method : ScannerMethod // method.isRemote })
  | broadcast (regType : UInt8) (kernels : UInt32 → Kernel) (packet : NL80211Packet)

namespace Watch

def fresh : Watch := ⟨.fresh, []⟩

def deliver (call : HandlerCall) (h : Watch) : Watch where
  world := h.world.receive call
  told := h.told ++ ((h.world.scanner call.owner).bind (Scanner.told call.event)).toList

def broadcast (familyId : UInt16) (regType : UInt8) (kernels : UInt32 → Kernel)
    (packet : NL80211Packet) (h : Watch) : Watch :=
  let handled := (NetlinkManager.broadcastHandler familyId regType packet).after
    ⟨h.world.server.platform.netlink, [], []⟩
  let told := handled.calls.foldl (fun h call => h.deliver call) h
  { told with
    world := handled.regDomainCalls.foldl (fun w call =>
      w.serve ⟨kernels call.1, .onRegDomainChanged call.1 call.2⟩) told.world }

/-- Nothing happens in a process that was aborted. -/
def step (familyId : UInt16) (h : Watch) (next : WatchStep) : Watch :=
  if h.world.aborted then h
  else
    match next with
    | .serve call => { h with world := h.world.serve call }
    | .scanner id method => { h with world := h.world.callScanner id method.1 }
    | .broadcast regType kernels packet => h.broadcast familyId regType kernels packet

/-- The state behind a history. -/
def after (familyId : UInt16) (history : List WatchStep) : Watch :=
  history.foldl (step familyId) fresh

/-- The lists of a scan that ended can be read, if they are there; one that is cut off counts
as one that is not. -/
def ListsScan (packet : NL80211Packet) : Prop :=
  (∃ ssids, packet.TakesList attrScanSsids bytesEntry ssids) ∧
    ∃ freqs, packet.TakesList attrScanFrequencies (intEntry .uint32) freqs

/-- What a broadcast of a command tells about the scans of an interface, whose scheduled scan
counts as started or not. -/
inductive Reports (packet : NL80211Packet) (pnoScanStarted : Bool) :
    ℕ → SubscribedEvent → Prop
  | newScanResults (hlists : ListsScan packet) :
      Reports packet pnoScanStarted cmdNewScanResults (.scan .onScanResultReady)
  | scanAborted (hlists : ListsScan packet) :
      Reports packet pnoScanStarted cmdScanAborted (.scan .onScanRequestFailed)
  | schedScanResults : Reports packet pnoScanStarted cmdSchedScanResults (.pno .onPnoNetworkFound)
  | schedScanStopped (hstarted : pnoScanStarted = true) :
      Reports packet pnoScanStarted cmdSchedScanStopped (.pno .onPnoScanFailed)

/-- The handler subscribed with the scanner once there was one, and behind it nobody subscribed
or unsubscribed. -/
def IsLatest (familyId : UInt16) (history : List WatchStep) (kind : Subscription) (id : ObjectId)
    (handler : ℕ) : Prop :=
  ∃ pre method post, history = pre ++ .scanner id method :: post ∧
    method.1 = kind.subscribe handler ∧ ((after familyId pre).world.scanner id).isSome ∧
    ∀ later, .scanner id later ∈ post → ¬ kind.Changes later.1

/-- A broadcast is of a client interface that is live, and the handler is the latest subscriber
of its scanner. -/
structure IsMeant (familyId : UInt16) (history : List WatchStep) (packet : NL80211Packet)
    (n : ToldEvent) : Prop where
  running : (after familyId history).world.aborted = false
  family : packet.getMessageType = familyId.toNat
  reported : ∃ (name : IfaceName) (client : ClientInterfaceImpl) (scanner : Scanner) (command : ℕ),
    (after familyId history).world.server.clientInterfaces[name]? = some client ∧
    (after familyId history).world.scanner client.id = some scanner ∧
    packet.getUInt32 attrIfindex = .ok (some client.interfaceIndex) ∧
    packet.getCommand = .ok command ∧ Reports packet scanner.pnoScanStarted command n.event ∧
    IsLatest familyId history n.event.subscription client.id n.handler

/-- No call of the server disables a live interface. -/
def SparesLive (h : Watch) (next : WatchStep) : Prop :=
  ∀ call, next = .serve call → h.world.server.SparesLive call

end Watch

namespace World

variable {w : World}

theorem quiet_receive (h : w.Scanners) (kind : Subscription) (id : ObjectId)
    (call : HandlerCall) : Quiet kind id w (w.receive call) := by
  unfold receive
  cases call.event with
  | scanResults index aborted ssids frequencies =>
    apply quiet_callScanner h
    intro _
    cases kind <;> simp [Subscription.Changes, Subscription.subscribe, Subscription.unsubscribe]
  | schedScanResults index scanStopped =>
    apply quiet_callScanner h
    intro _
    cases kind <;> simp [Subscription.Changes, Subscription.subscribe, Subscription.unsubscribe]
  | _ => exact ⟨h, rfl, fun husable => husable⟩

theorem server_receive (call : HandlerCall) : (w.receive call).server = w.server := by
  unfold receive
  cases call.event with
  | scanResults index aborted ssids frequencies => exact server_callScanner _ _
  | schedScanResults index scanStopped => exact server_callScanner _ _
  | _ => rfl

end World

namespace Watch

variable {familyId : UInt16} {h : Watch} {history : List WatchStep} {id : ObjectId} {handler : ℕ}
  {next : WatchStep} {packet : NL80211Packet} {n : ToldEvent} {kind : Subscription}

/-- A broadcast comes to the scanner of the owner that it is routed to, if there is one, and
leads the server through calls of its handlers of regulatory changes. -/
theorem exists_broadcast_eq (familyId : UInt16) (h : Watch) (regType : UInt8)
    (kernels : UInt32 → Kernel) (packet : NL80211Packet) :
    ∃ (call : Option HandlerCall) (calls : List Call),
      (∀ call ∈ calls, call.request.Idle) ∧
      (h.broadcast familyId regType kernels packet).world =
        calls.foldl (fun w call => w.serve call)
          (call.elim h.world fun c => h.world.receive c) ∧
      (h.broadcast familyId regType kernels packet).told = h.told ++
        (call.bind fun c => (h.world.scanner c.owner).bind (Scanner.told c.event)).toList ∧
      ∀ c, call = some c ↔ packet.getMessageType = familyId.toNat ∧
        ∃ command, packet.getCommand = .ok command ∧
          Routed h.world.server.platform.netlink packet command c := by
  obtain ⟨call, hcalls, hcall⟩ := NetlinkManager.calls_broadcastHandler familyId regType packet
    h.world.server.platform.netlink
  let handled := (NetlinkManager.broadcastHandler familyId regType packet).after
    ⟨h.world.server.platform.netlink, [], []⟩
  refine ⟨call, handled.regDomainCalls.map fun call =>
    ⟨kernels call.1, .onRegDomainChanged call.1 call.2⟩, ?_, ?_, ?_, hcall⟩
  · intro call hmem
    obtain ⟨told, -, rfl⟩ := List.mem_map.mp hmem
    trivial
  · rw [List.foldl_map, broadcast, hcalls]
    cases call <;> rfl
  · rw [broadcast, hcalls]
    cases call with
    | none => simp
    | some c => rfl

theorem quiet_broadcast (hw : h.world.Scanners) (kind : Subscription) (id : ObjectId)
    (regType : UInt8) (kernels : UInt32 → Kernel) (packet : NL80211Packet) :
    World.Quiet kind id h.world (h.broadcast familyId regType kernels packet).world := by
  obtain ⟨call, calls, -, hworld, -⟩ := exists_broadcast_eq familyId h regType kernels packet
  rw [hworld]
  cases call with
  | none => exact World.quiet_foldl_serve hw kind id
  | some c =>
    have hreceive := World.quiet_receive hw kind id c
    exact hreceive.trans (World.quiet_foldl_serve hreceive.scanners kind id)

theorem scanners_step (hw : h.world.Scanners) (next : WatchStep) :
    (h.step familyId next).world.Scanners := by
  unfold step
  split_ifs
  · exact hw
  · cases next with
    | serve call => exact (World.quiet_serve hw .scan 0 call).scanners
    | scanner id method => exact World.scanners_callScanner hw id method.1
    | broadcast regType kernels packet =>
      exact (quiet_broadcast hw .scan 0 regType kernels packet).scanners

theorem scanners_after (familyId : UInt16) (history : List WatchStep) :
    (after familyId history).world.Scanners :=
  Runs.foldl_related (R := fun h h' : Watch => h.world.Scanners → h'.world.Scanners)
    (fun _ => id) (fun _ _ _ h h' => h' ∘ h) (fun _ next hw => scanners_step hw next)
    World.scanners_fresh

theorem after_append (familyId : UInt16) (history : List WatchStep) (next : WatchStep) :
    after familyId (history ++ [next]) = (after familyId history).step familyId next := by
  rw [after, List.foldl_append]
  rfl

/-- A process that is not aborted was not aborted before. -/
theorem running_of_step (h' : (h.step familyId next).world.aborted = false) :
    h.world.aborted = false := by
  by_contra haborted
  unfold step at h'
  rw [if_pos (by simpa using haborted)] at h'
  exact haborted h'

theorem quiet_step (hw : h.world.Scanners) (hrunning : h.world.aborted = false)
    (hquiet : ∀ method, next = .scanner id method → ¬ kind.Changes method.1) :
    World.Quiet kind id h.world (h.step familyId next).world := by
  unfold step
  rw [if_neg (by simp [hrunning])]
  cases next with
  | serve call => exact World.quiet_serve hw kind id call
  | scanner id' method =>
    apply World.quiet_callScanner hw
    rintro rfl
    exact hquiet method rfl
  | broadcast regType kernels packet => exact quiet_broadcast hw kind id regType kernels packet

theorem isLatest_append_iff
    (hquiet : ∀ method, next = .scanner id method → ¬ kind.Changes method.1) :
    IsLatest familyId (history ++ [next]) kind id handler ↔
      IsLatest familyId history kind id handler := by
  constructor
  · rintro ⟨pre, method, post, hsplit, hmethod, hsome, hpost⟩
    rcases Runs.append_singleton_split hsplit with ⟨rfl, hlast, -⟩ | ⟨rest, rfl, hhistory⟩
    · exact absurd (.inr ⟨handler, hmethod⟩) (hquiet method hlast)
    · exact ⟨pre, method, rest, hhistory, hmethod, hsome,
        fun later hmem => hpost later (List.mem_append_left _ hmem)⟩
  · rintro ⟨pre, method, post, rfl, hmethod, hsome, hpost⟩
    refine ⟨pre, method, post ++ [next], by simp, hmethod, hsome, fun later hmem => ?_⟩
    rcases List.mem_append.mp hmem with hmem | hmem
    · exact hpost later hmem
    · exact hquiet later (List.mem_singleton.mp hmem).symm

/-- Behind a method that changes the subscription, nobody before it counts. -/
theorem isLatest_append_changes {method : { method : ScannerMethod // method.isRemote }}
    (hchanges : kind.Changes method.1) :
    IsLatest familyId (history ++ [.scanner id method]) kind id handler ↔
      method.1 = kind.subscribe handler ∧
        ((after familyId history).world.scanner id).isSome := by
  constructor
  · rintro ⟨pre, method', post, hsplit, hmethod, hsome, hpost⟩
    rcases Runs.append_singleton_split hsplit with ⟨rfl, hlast, -⟩ | ⟨rest, rfl, -⟩
    · obtain rfl := (WatchStep.scanner.inj hlast).2
      exact ⟨hmethod, hsome⟩
    · exact absurd hchanges (hpost method (by simp))
  · rintro ⟨hmethod, hsome⟩
    exact ⟨history, method, [], rfl, hmethod, hsome, by simp⟩

/-- The subscriber of a usable scanner is the latest one. -/
theorem subscriber_iff_isLatest (hrunning : (after familyId history).world.aborted = false)
    (husable : (after familyId history).world.Usable id) :
    (after familyId history).world.subscriber kind id = some handler ↔
      IsLatest familyId history kind id handler := by
  induction history using List.reverseRecOn with
  | nil => simp [after, fresh, World.fresh, World.subscriber, IsLatest]
  | append_singleton history next ih =>
    rw [after_append] at hrunning husable ⊢
    have hbefore := running_of_step hrunning
    by_cases hchanges : ∃ method, next = .scanner id method ∧ kind.Changes method.1
    · obtain ⟨method, rfl, hmethod⟩ := hchanges
      rw [isLatest_append_changes hmethod]
      unfold step at hrunning husable ⊢
      rw [if_neg (by simp [hbefore])] at hrunning husable ⊢
      exact World.subscriber_callScanner_of_changes hmethod husable hrunning
    · have hquiet : ∀ method, next = .scanner id method → ¬ kind.Changes method.1 :=
        fun method hnext hmethod => hchanges ⟨method, hnext, hmethod⟩
      have hstep : World.Quiet kind id (after familyId history).world
          ((after familyId history).step familyId next).world :=
        quiet_step (scanners_after familyId history) hbefore hquiet
      rw [isLatest_append_iff hquiet, hstep.subscriber_eq]
      exact ih hbefore (hstep.usable husable)

theorem toldOfScan_eq_some_iff {scanner : Scanner} {aborted : Bool} :
    scanner.toldOfScan aborted = some n ↔ scanner.scanEventHandler = some n.handler ∧
      n.event = .scan (if aborted then .onScanRequestFailed else .onScanResultReady) := by
  obtain ⟨handler, event⟩ := n
  cases hhandler : scanner.scanEventHandler with
  | none => simp [Scanner.toldOfScan, hhandler]
  | some subscriber =>
    simp [Scanner.toldOfScan, hhandler, eq_comm (a := event)]

/-- A stop that the scanner does not count as unexpected is not passed on. -/
theorem toldOfSchedScan_eq_some_iff {scanner : Scanner} {scanStopped : Bool} :
    scanner.toldOfSchedScan scanStopped = some n ↔
      scanner.pnoScanEventHandler = some n.handler ∧
        if scanStopped then scanner.pnoScanStarted = true ∧ n.event = .pno .onPnoScanFailed
        else n.event = .pno .onPnoNetworkFound := by
  obtain ⟨handler, event⟩ := n
  cases hhandler : scanner.pnoScanEventHandler with
  | none => simp [Scanner.toldOfSchedScan, hhandler]
  | some subscriber =>
    cases scanStopped with
    | false =>
      simp [Scanner.toldOfSchedScan, ScannerImpl.onSchedScanResultsReady, hhandler,
        eq_comm (a := event)]
    | true =>
      cases hstarted : scanner.pnoScanStarted <;>
        simp [Scanner.toldOfSchedScan, ScannerImpl.onSchedScanResultsReady, hhandler, hstarted,
          eq_comm (a := event)]

/-- The values of the packet come to the subscriber of the scanner, if it has one. -/
theorem exists_carries_iff {scanner : Scanner} {index : UInt32} {command : ℕ} :
    (∃ event, Carries packet index command event ∧ scanner.told event = some n) ↔
      scanner.handlerOf n.event.subscription = some n.handler ∧
        Reports packet scanner.pnoScanStarted command n.event := by
  obtain ⟨handler, told⟩ := n
  constructor
  · rintro ⟨event, hcarries, htold⟩
    cases hcarries with
    | newScanResults hssids hfreqs =>
      obtain ⟨hhandler, rfl⟩ := toldOfScan_eq_some_iff.mp htold
      exact ⟨hhandler, .newScanResults ⟨⟨_, hssids⟩, _, hfreqs⟩⟩
    | scanAborted hssids hfreqs =>
      obtain ⟨hhandler, rfl⟩ := toldOfScan_eq_some_iff.mp htold
      exact ⟨hhandler, .scanAborted ⟨⟨_, hssids⟩, _, hfreqs⟩⟩
    | schedScanResults =>
      obtain ⟨hhandler, rfl⟩ := toldOfSchedScan_eq_some_iff.mp htold
      exact ⟨hhandler, .schedScanResults⟩
    | schedScanStopped =>
      obtain ⟨hhandler, hstarted, rfl⟩ := toldOfSchedScan_eq_some_iff.mp htold
      exact ⟨hhandler, .schedScanStopped hstarted⟩
    | _ => simp [Scanner.told] at htold
  · rintro ⟨hhandler, hreports⟩
    cases hreports with
    | newScanResults hlists =>
      obtain ⟨⟨ssids, hssids⟩, freqs, hfreqs⟩ := hlists
      exact ⟨_, .newScanResults hssids hfreqs, toldOfScan_eq_some_iff.mpr ⟨hhandler, rfl⟩⟩
    | scanAborted hlists =>
      obtain ⟨⟨ssids, hssids⟩, freqs, hfreqs⟩ := hlists
      exact ⟨_, .scanAborted hssids hfreqs, toldOfScan_eq_some_iff.mpr ⟨hhandler, rfl⟩⟩
    | schedScanResults =>
      exact ⟨_, .schedScanResults, toldOfSchedScan_eq_some_iff.mpr ⟨hhandler, rfl⟩⟩
    | schedScanStopped hstarted =>
      exact ⟨_, .schedScanStopped,
        toldOfSchedScan_eq_some_iff.mpr ⟨hhandler, hstarted, rfl⟩⟩

/-- What is reported of scans has its handler in one of the two tables of scanners. -/
theorem table_of_reports {started : Bool} {command : ℕ} {event : SubscribedEvent}
    (h : Reports packet started command event) :
    ∃ table ∈ ClientInterfaceImpl.tables, table ∉ ApInterfaceImpl.tables ∧
      eventTable command = some table := by
  cases h with
  | newScanResults _ => exact ⟨.scanResultNotification, by decide, by decide, rfl⟩
  | scanAborted _ => exact ⟨.scanResultNotification, by decide, by decide, rfl⟩
  | schedScanResults => exact ⟨.schedScanResultNotification, by decide, by decide, rfl⟩
  | schedScanStopped _ => exact ⟨.schedScanResultNotification, by decide, by decide, rfl⟩

theorem spares_step (hspare : SparesLive h next) :
    h.world.server.Spares (h.step familyId next).world.server := by
  unfold step
  split_ifs
  · exact .same (.refl _)
  · cases next with
    | serve call =>
      show h.world.server.Spares (h.world.serve call).server
      rw [World.server_serve]
      exact .serve (hspare call rfl)
    | scanner id method =>
      show h.world.server.Spares (h.world.callScanner id method.1).server
      rw [World.server_callScanner]
      exact .same (.refl _)
    | broadcast regType kernels packet =>
      obtain ⟨call, calls, hcalls, hworld, -⟩ :=
        exists_broadcast_eq familyId h regType kernels packet
      show h.world.server.Spares (h.broadcast familyId regType kernels packet).world.server
      have hserver : (call.elim h.world fun c => h.world.receive c).server = h.world.server := by
        cases call with
        | none => rfl
        | some c => exact World.server_receive c
      rw [hworld, World.server_foldl_serve, hserver]
      exact .same (Server.sameObjects_foldl_serve hcalls _)

theorem intact_after (hspares : Runs.Along (step familyId) SparesLive fresh history) :
    (after familyId history).world.server.Intact :=
  Server.intact_of_along (fun h : Watch => h.world.server) rfl
    (fun _ _ hspare => spares_step hspare) hspares

/-- A broadcast tells one subscriber at most, and only what it reports of the scans of a client
interface that is live, the latest subscriber of whose scanner it is. Where no call of the
server disables a live interface, each subscriber is told of what is meant for it. -/
theorem scan_events_told (familyId : UInt16) (history : List WatchStep) (regType : UInt8)
    (kernels : UInt32 → Kernel) (packet : NL80211Packet) :
    ∃ told : Option ToldEvent,
      (after familyId (history ++ [.broadcast regType kernels packet])).told =
        (after familyId history).told ++ told.toList ∧
      (∀ n, told = some n → IsMeant familyId history packet n) ∧
      (Runs.Along (step familyId) SparesLive fresh history →
        ∀ n, IsMeant familyId history packet n → told = some n) := by
  have hw := scanners_after familyId history
  have husable {name : IfaceName} {client : ClientInterfaceImpl} (hclient :
      (after familyId history).world.server.clientInterfaces[name]? = some client) :
      (after familyId history).world.Usable client.id := by
    obtain ⟨scanner, hscanner, hvalid⟩ := hw.live client.id ⟨name, client, hclient, rfl⟩
    intro other hother
    obtain rfl : scanner = other := by simpa [hscanner] using hother
    exact hvalid
  rw [after_append]
  unfold step
  split_ifs with haborted
  · refine ⟨none, by simp, by simp, fun _ n hmeant => ?_⟩
    exact absurd haborted (by simp [hmeant.running])
  have hrunning : (after familyId history).world.aborted = false := by simpa using haborted
  obtain ⟨call, calls, -, -, htold, hcall⟩ :=
    exists_broadcast_eq familyId (after familyId history) regType kernels packet
  refine ⟨_, htold, ?_, ?_⟩
  · intro n hn
    obtain ⟨c, hc, hn⟩ := Option.bind_eq_some_iff.mp hn
    obtain ⟨scanner, hscanner, hn⟩ := Option.bind_eq_some_iff.mp hn
    obtain ⟨hfamily, command, hcommand, hrouted⟩ := (hcall c).mp hc
    obtain ⟨hhandler, hreports⟩ := exists_carries_iff.mp ⟨c.event, hrouted.carries, hn⟩
    obtain ⟨table, -, hnotAp, htable⟩ := table_of_reports hreports
    have hsame : c.table = table := Option.some.inj (hrouted.table.symm.trans htable)
    have howner := hw.owned c.table c.index c.owner hrouted.owner
    generalize howned : c.owner = owner at howner hscanner
    cases howner with
    | ap name ap _ hap _ =>
      rw [hsame] at hap
      exact absurd hap hnotAp
    | client name client hclient _ hindex =>
      have hlatest : IsLatest familyId history n.event.subscription client.id n.handler := by
        rw [← subscriber_iff_isLatest hrunning (husable hclient), World.subscriber, hscanner,
          Option.bind_some, hhandler]
      exact ⟨hrunning, hfamily, name, client, scanner, command, hclient, hscanner,
        hindex ▸ hrouted.index, hcommand, hreports, hlatest⟩
  · intro hspares n hmeant
    obtain ⟨name, client, scanner, command, hclient, hscanner, hindex, hcommand, hreports,
      hlatest⟩ := hmeant.reported
    obtain ⟨table, htable, -, hevents⟩ := table_of_reports hreports
    have howner := ((intact_after hspares).registered.clients name client hclient).1 table htable
    rw [← subscriber_iff_isLatest hrunning (husable hclient), World.subscriber, hscanner,
      Option.bind_some] at hlatest
    obtain ⟨event, hcarries, htold'⟩ : ∃ event,
        Carries packet client.interfaceIndex command event ∧ scanner.told event = some n :=
      exists_carries_iff.mpr ⟨hlatest, hreports⟩
    have hrouted : call = some ⟨table, client.interfaceIndex, client.id, event⟩ :=
      (hcall _).mpr ⟨hmeant.family, command, hcommand, hevents, hindex, howner, hcarries⟩
    rw [hrouted, Option.bind_some, hscanner]
    exact htold'

/-- A scan of interface 7 is aborted, to whose scanner 4 and then 5 subscribed. -/
theorem scan_events_told_aborted :
    let packet := (NL80211Packet.ofHeader 24 35 0 0).addAttribute
      (NL80211Attr.ofInt .uint32 attrIfindex 7)
    let history : List WatchStep := [.serve ⟨.oneInterface [119], .createClientInterface [119]⟩,
      .scanner 0 ⟨.subscribeScanEvents 4, rfl⟩, .scanner 0 ⟨.subscribeScanEvents 5, rfl⟩]
    (after 24 (history ++ [.broadcast 0 (fun _ => .oneInterface [119]) packet])).told =
      [⟨5, .scan .onScanRequestFailed⟩] := by
  intro packet history
  obtain ⟨told, hafter, -, htold⟩ := scan_events_told 24 history 0
    (fun _ => .oneInterface [119]) packet
  have hcreate : SparesLive fresh (.serve ⟨.oneInterface [119], .createClientInterface [119]⟩) := by
    intro call hcall
    obtain rfl := WatchStep.serve.inj hcall
    intro reported _
    exact ⟨by constructor <;> simp [fresh, World.fresh, Server.fresh], by
      simp [fresh, World.fresh, Server.fresh]⟩
  have hspares : Runs.Along (step 24) SparesLive fresh history :=
    ⟨hcreate, by simp [SparesLive], by simp [SparesLive], trivial⟩
  have hlists : ListsScan packet :=
    ⟨⟨[], NetlinkManager.getList_ssids.mp (by decide +kernel)⟩, [],
      NetlinkManager.getList_frequencies.mp (by decide +kernel)⟩
  have hmeant : IsMeant 24 history packet ⟨5, .scan .onScanRequestFailed⟩ :=
    ⟨by decide, by decide +kernel, [119], ⟨0, 0, [119], 7, #v[2, 0, 0, 0, 0, 1], none⟩,
      { Scanner.construct 0 with scanEventHandler := some 5 }, cmdScanAborted, by decide, rfl,
      by decide +kernel, by decide +kernel, .scanAborted hlists, history.take 2,
      ⟨.subscribeScanEvents 5, rfl⟩, [], rfl, rfl, rfl, by simp⟩
  rw [hafter, htold hspares _ hmeant]
  rfl

end Watch

end Wificond
