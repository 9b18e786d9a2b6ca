import Wificond.BroadcastDelivery
import Wificond.ObjectNumbers
import Wificond.RetainedObjects

/-!
# Soft AP events

An AP interface passes the stations that come and go and the switches of its channel to its
binder, and the binder to the callback that was registered last. Between a broadcast and the
callback stand a table, an object and a binder, each with a lifetime of its own.
-/
namespace Wificond

structure NativeWifiClient where
  macAddress : List UInt8
  deriving DecidableEq

/-- `IApInterfaceEventCallback` -/
inductive ApEvent
  | connectedClientsChanged (client : NativeWifiClient) (isConnected : Bool)
  | softApChannelSwitched (frequency bandwidth : Int32)
  deriving DecidableEq

/-- A call of a callback. -/
structure ApNotification where
  callback : ℕ
  event : ApEvent
  deriving DecidableEq

namespace ApInterfaceBinder

def notify (event : ApEvent) (binder : ApInterfaceBinder) : Option ApNotification :=
  binder.apInterfaceEventCallback.map fun callback => ⟨callback, event⟩

def notifyConnectedClientsChanged (client : NativeWifiClient) (isConnected : Bool)
    (binder : ApInterfaceBinder) : Option ApNotification :=
  binder.notify (.connectedClientsChanged client isConnected)

/-- The values are those of `IApInterfaceEventCallback`. -/
def notifySoftApChannelSwitched (frequency : Int32) (channelBandwidth : ChannelBandwidth)
    (binder : ApInterfaceBinder) : Option ApNotification :=
  let bandwidth : Int32 :=
    match channelBandwidth with
    | .invalid => 0
    | .bw20NoHt => 1
    | .bw20 => 2
    | .bw40 => 3
    | .bw80 => 4
    | .bw80p80 => 5
    | .bw160 => 6
    | .bw320 => 7
  binder.notify (.softApChannelSwitched frequency bandwidth)

end ApInterfaceBinder

namespace ApInterfaceImpl

/-- `binder` is the one of the interface. -/
def onStationEvent (event : StationEvent) (macAddress : MacAddress) (binder : ApInterfaceBinder) :
    Option ApNotification :=
  let station : NativeWifiClient := ⟨macAddress.toList⟩
  match event with
  | .newStation => binder.notifyConnectedClientsChanged station true
  | .delStation => binder.notifyConnectedClientsChanged station false

def onChannelSwitchEvent (frequency : UInt32) (bandwidth : ChannelBandwidth)
    (binder : ApInterfaceBinder) : Option ApNotification :=
  binder.notifySoftApChannelSwitched frequency.toInt32 bandwidth

/-- The handler of an AP interface, of which there are two. -/
def onEvent (event : HandlerEvent) (binder : ApInterfaceBinder) : Option ApNotification :=
  match event with
  | .station event macAddress => onStationEvent event macAddress binder
  | .channelSwitch frequency bandwidth => onChannelSwitchEvent frequency bandwidth binder
  | .scanResults .. | .schedScanResults .. | .mlme .. | .frameTxStatus .. => none

end ApInterfaceImpl

/-- The server with all binders, and the calls of callbacks in order. -/
structure Hotspot where
  world : World
  notifications : List ApNotification

/-- A call of the server, one of `registerCallback` on a binder that was handed out, or a
broadcast, with the kernel's answers to the handler of each wiphy should it be one of a
regulatory change. -/
inductive HotspotStep
  | serve (call : Call)
  | registerCallback (id : ObjectId) (callback : ℕ)
  | broadcast (regType : UInt8) (kernels : UInt32 → Kernel) (packet : NL80211Packet)

namespace Hotspot

def fresh : Hotspot := ⟨.fresh, []⟩

/-- What a handler of an AP interface does. The owner of another handler has no AP binder. -/
def deliver (call : HandlerCall) (h : Hotspot) : Hotspot :=
  { h with
    notifications := h.notifications ++
      ((h.world.apBinder call.owner).bind (ApInterfaceImpl.onEvent call.event)).toList }

def broadcast (familyId : UInt16) (regType : UInt8) (kernels : UInt32 → Kernel)
    (packet : NL80211Packet) (h : Hotspot) : Hotspot :=
  let handled := (NetlinkManager.broadcastHandler familyId regType packet).after
    ⟨h.world.server.platform.netlink, [], []⟩
  let told := handled.calls.foldl (fun h call => h.deliver call) h
  { told with
    world := handled.regDomainCalls.foldl (fun w call =>
      w.serve ⟨kernels call.1, .onRegDomainChanged call.1 call.2⟩) told.world }

def step (familyId : UInt16) (h : Hotspot) : HotspotStep → Hotspot
  | .serve call => { h with world := h.world.serve call }
  | .registerCallback id callback =>
    { h with world := h.world.callAp id (.registerCallback callback) }
  | .broadcast regType kernels packet => h.broadcast familyId regType kernels packet

/-- The state behind a history. -/
def after (familyId : UInt16) (history : List HotspotStep) : Hotspot :=
  history.foldl (step familyId) fresh

/-- The channel widths of nl80211, as the callback has them. -/
def softApBandwidth (width : UInt32) : Int32 :=
  if width ≤ 5 then width.toInt32 + 1 else if width = 13 then 7 else 0

/-- What a broadcast of a command tells about the interface that it is of. -/
inductive Announces (packet : NL80211Packet) : ℕ → ApEvent → Prop
  | newStation {bytes : List UInt8}
      (hmac : packet.getAttributeValue (AttrTemplate.array 6) attrMac = .ok (some bytes)) :
      Announces packet cmdNewStation
        (.connectedClientsChanged ⟨(MacAddress.ofBytes bytes).toList⟩ true)
  | delStation {bytes : List UInt8}
      (hmac : packet.getAttributeValue (AttrTemplate.array 6) attrMac = .ok (some bytes)) :
      Announces packet cmdDelStation
        (.connectedClientsChanged ⟨(MacAddress.ofBytes bytes).toList⟩ false)
  | channelSwitch {frequency width : UInt32}
      (hfrequency : packet.getUInt32 attrWiphyFreq = .ok (some frequency))
      (hwidth : packet.getUInt32 attrChannelWidth = .ok (some width)) :
      Announces packet cmdChSwitchNotify
        (.softApChannelSwitched frequency.toInt32 (softApBandwidth width))

/-- The callback was registered with the object once there was one, and none behind it. -/
def IsLatest (familyId : UInt16) (history : List HotspotStep) (id : ObjectId) (callback : ℕ) :
    Prop :=
  ∃ pre post, history = pre ++ .registerCallback id callback :: post ∧
    ((after familyId pre).world.apBinder id).isSome ∧
    ∀ other, .registerCallback id other ∉ post

/-- A broadcast is of an AP interface that is live, and the callback is its latest. -/
structure IsMeant (familyId : UInt16) (history : List HotspotStep) (packet : NL80211Packet)
    (n : ApNotification) : Prop where
  family : packet.getMessageType = familyId.toNat
  announced : ∃ (name : IfaceName) (ap : ApInterfaceImpl) (command : ℕ),
    (after familyId history).world.server.apInterfaces[name]? = some ap ∧
    packet.getUInt32 attrIfindex = .ok (some ap.interfaceIndex) ∧
    packet.getCommand = .ok command ∧ Announces packet command n.event ∧
    IsLatest familyId history ap.id n.callback

/-- No call of the server disables a live interface. -/
def SparesLive (h : Hotspot) (next : HotspotStep) : Prop :=
  ∀ call, next = .serve call → h.world.server.SparesLive call

variable {familyId : UInt16} {packet : NL80211Packet} {command : ℕ} {index : UInt32}
  {binder : ApInterfaceBinder} {n : ApNotification}

/-- The two translations of a channel width. -/
theorem notifySoftApChannelSwitched_getBandwidthType (frequency : Int32) (width : UInt32) :
    binder.notifySoftApChannelSwitched frequency (getBandwidthType width) =
      binder.notify (.softApChannelSwitched frequency (softApBandwidth width)) := by
  by_cases hsmall : width ≤ 5
  · have hwidth : width = 0 ∨ width = 1 ∨ width = 2 ∨ width = 3 ∨ width = 4 ∨ width = 5 := by
      grind
    rcases hwidth with rfl | rfl | rfl | rfl | rfl | rfl <;> rfl
  · have hne : width ≠ 0 ∧ width ≠ 1 ∧ width ≠ 2 ∧ width ≠ 3 ∧ width ≠ 4 ∧ width ≠ 5 := by
      grind
    by_cases hwide : width = 13
    · subst hwide
      rfl
    · simp [getBandwidthType, softApBandwidth, hne, hsmall, hwide,
        ApInterfaceBinder.notifySoftApChannelSwitched]

theorem notify_eq_some_iff {event : ApEvent} : binder.notify event = some n ↔
    binder.apInterfaceEventCallback = some n.callback ∧ n.event = event := by
  obtain ⟨callback, told⟩ := n
  simp only [ApInterfaceBinder.notify, Option.map_eq_some_iff, ApNotification.mk.injEq]
  constructor
  · rintro ⟨callback', hcallback, rfl, rfl⟩
    exact ⟨hcallback, rfl⟩
  · rintro ⟨hcallback, rfl⟩
    exact ⟨callback, hcallback, rfl, rfl⟩

/-- The values of the packet come to the callback of the binder, if it has one. -/
theorem exists_carries_iff :
    (∃ event, Carries packet index command event ∧
      ApInterfaceImpl.onEvent event binder = some n) ↔
      binder.apInterfaceEventCallback = some n.callback ∧ Announces packet command n.event := by
  constructor
  · rintro ⟨event, hcarries, htold⟩
    cases hcarries with
    | newStation hmac =>
      obtain ⟨hcallback, hevent⟩ := notify_eq_some_iff.mp htold
      exact ⟨hcallback, hevent ▸ .newStation hmac⟩
    | delStation hmac =>
      obtain ⟨hcallback, hevent⟩ := notify_eq_some_iff.mp htold
      exact ⟨hcallback, hevent ▸ .delStation hmac⟩
    | channelSwitch hfrequency hbandwidth =>
      rw [ApInterfaceImpl.onEvent, ApInterfaceImpl.onChannelSwitchEvent,
        notifySoftApChannelSwitched_getBandwidthType] at htold
      obtain ⟨hcallback, hevent⟩ := notify_eq_some_iff.mp htold
      exact ⟨hcallback, hevent ▸ .channelSwitch hfrequency hbandwidth⟩
    | _ => simp [ApInterfaceImpl.onEvent] at htold
  · rintro ⟨hcallback, hannounces⟩
    obtain ⟨callback, told⟩ := n
    cases hannounces with
    | newStation hmac =>
      exact ⟨_, .newStation hmac, notify_eq_some_iff.mpr ⟨hcallback, rfl⟩⟩
    | delStation hmac =>
      exact ⟨_, .delStation hmac, notify_eq_some_iff.mpr ⟨hcallback, rfl⟩⟩
    | channelSwitch hfrequency hwidth =>
      refine ⟨_, .channelSwitch hfrequency hwidth, ?_⟩
      rw [ApInterfaceImpl.onEvent, ApInterfaceImpl.onChannelSwitchEvent,
        notifySoftApChannelSwitched_getBandwidthType]
      exact notify_eq_some_iff.mpr ⟨hcallback, rfl⟩

/-- An event of AP interfaces has its handler in one of their two tables. -/
theorem table_of_announces {event : ApEvent} (h : Announces packet command event) :
    ∃ table ∈ ApInterfaceImpl.tables, eventTable command = some table := by
  cases h with
  | newStation _ => exact ⟨.stationEvent, by decide, rfl⟩
  | delStation _ => exact ⟨.stationEvent, by decide, rfl⟩
  | channelSwitch _ _ => exact ⟨.channelSwitchEvent, by decide, rfl⟩

end Hotspot

namespace World

variable {w : World} {call : Call} {id : ObjectId}

/-- The callback of a binder, where there is the binder. -/
def apCallback (w : World) (id : ObjectId) : Option (Option ℕ) :=
  (w.apBinder id).map ApInterfaceBinder.apInterfaceEventCallback

theorem apCallback_observe (w : World) (event : LifecycleEvent) (id : ObjectId) :
    (w.observe event).apCallback id =
      if event = .apConstructed id then some none else w.apCallback id := by
  cases event with
  | clientConstructed new => rfl
  | clientDestroyed dead => rfl
  | apConstructed new =>
    by_cases hid : id = new
    · simp [observe, apCallback, hid]
    · simp [observe, apCallback, hid, Ne.symm hid]
  | apDestroyed dead =>
    by_cases hid : id = dead
    · subst hid
      cases hb : w.apBinder id <;>
        simp [observe, apCallback, hb, ApInterfaceBinder.notifyImplDead]
    · simp [observe, apCallback, hid]

/-- Of the events of a call only a construction concerns the callback. -/
theorem apCallback_foldl_observe (events : List LifecycleEvent) (w : World) (id : ObjectId) :
    (events.foldl observe w).apCallback id =
      if .apConstructed id ∈ events then some none else w.apCallback id := by
  induction events generalizing w with
  | nil => simp
  | cons event events ih =>
    rw [List.foldl_cons, ih, apCallback_observe]
    by_cases hlater : .apConstructed id ∈ events
    · simp [hlater]
    · by_cases hnow : event = .apConstructed id <;> simp [hlater, hnow, eq_comm]

theorem apCallback_serve (w : World) (call : Call) (id : ObjectId) :
    (w.serve call).apCallback id =
      if .apConstructed id ∈ w.server.lifecycle call then some none else w.apCallback id :=
  apCallback_foldl_observe _ _ _

theorem apCallback_callAp (w : World) (id' : ObjectId) (callback : ℕ) (id : ObjectId) :
    (w.callAp id' (.registerCallback callback)).apCallback id =
      if id = id' then (w.apCallback id).map fun _ => some callback else w.apCallback id := by
  split_ifs with hid
  · subst hid
    cases hb : w.apBinder id <;> simp [callAp, apCallback, hb, ApInterfaceBinder.call]
  · simp [callAp, apCallback, hid]

/-- Binders of AP interfaces are those of AP interfaces that were constructed, among them the
ones that are live; and every handler is that of a live object. -/
structure ApBinders (w : World) : Prop where
  wellNamed : w.server.WellNamed
  owned : w.server.HandlersOwned
  numbered : ∀ id, (w.apCallback id).isSome → id < w.server.platform.created
  live : ∀ id ∈ w.server.live.aps, (w.apCallback id).isSome
  apart : ∀ id, (w.apCallback id).isSome → id ∉ w.server.live.clients

theorem apBinders_fresh : fresh.ApBinders where
  wellNamed := Server.wellNamed_fresh
  owned := Server.handlersOwned_fresh
  numbered id h := by simp [fresh, apCallback] at h
  live id h := by
    obtain ⟨name, ap, ha, -⟩ := h
    simp [fresh, Server.fresh] at ha
  apart id h := by simp [fresh, apCallback] at h

theorem apBinders_serve (h : w.ApBinders) (call : Call) : (w.serve call).ApBinders where
  wellNamed := by
    rw [server_serve]
    exact Server.wellNamed_serve h.wellNamed
  owned := by
    rw [server_serve]
    exact Server.handlersOwned_serve h.owned
  numbered id hid := by
    rw [server_serve]
    rw [apCallback_serve] at hid
    split_ifs at hid with hnew
    · obtain ⟨rfl, hcreated⟩ := Server.eq_created_of_constructed hnew rfl
      rw [hcreated]
      exact Nat.lt_succ_self _
    · exact lt_of_lt_of_le (h.numbered id hid) Server.created_le_serve
  live id hid := by
    rw [server_serve, Server.live_serve h.wellNamed] at hid
    rw [apCallback_serve]
    split_ifs with hnew
    · rfl
    · exact h.live id ((LiveObjects.mem_aps_foldl_after hid).resolve_right hnew)
  apart id hid hclient := by
    rw [server_serve, Server.live_serve h.wellNamed] at hclient
    rw [apCallback_serve] at hid
    split_ifs at hid with hnew
    · rcases LiveObjects.mem_clients_foldl_after hclient with hold | hboth
      · have hlt := Server.lt_created_of_client h.wellNamed hold
        exact absurd (Server.eq_created_of_constructed hnew rfl).1 (Nat.ne_of_lt hlt)
      · exact Server.not_constructs_both id id ⟨hboth, hnew⟩
    · rcases LiveObjects.mem_clients_foldl_after hclient with hold | hboth
      · exact h.apart id hid hold
      · have hlt := h.numbered id hid
        exact absurd (Server.eq_created_of_constructed hboth rfl).1 (Nat.ne_of_lt hlt)

theorem apBinders_callAp (h : w.ApBinders) (id' : ObjectId) (callback : ℕ) :
    (w.callAp id' (.registerCallback callback)).ApBinders := by
  have hsome (id : ObjectId) : ((w.callAp id' (.registerCallback callback)).apCallback id).isSome =
      (w.apCallback id).isSome := by
    rw [apCallback_callAp]
    split_ifs
    · exact Option.isSome_map
    · rfl
  refine ⟨h.wellNamed, h.owned, fun id hid => ?_, fun id hid => ?_, fun id hid => ?_⟩
  · exact h.numbered id (hsome id ▸ hid)
  · exact (hsome id).trans (h.live id hid)
  · exact h.apart id (hsome id ▸ hid)

end World

namespace Hotspot

variable {familyId : UInt16} {h : Hotspot} {history : List HotspotStep} {id : ObjectId}
  {callback : ℕ} {next : HotspotStep} {packet : NL80211Packet} {n : ApNotification}

/-- A broadcast leads the server through calls of its handlers of regulatory changes. -/
theorem exists_world_broadcast (familyId : UInt16) (h : Hotspot) (regType : UInt8)
    (kernels : UInt32 → Kernel) (packet : NL80211Packet) : ∃ calls : List Call,
      (∀ call ∈ calls, call.request.Idle) ∧
      (h.broadcast familyId regType kernels packet).world =
        calls.foldl (fun w call => w.serve call) h.world := by
  let handled := (NetlinkManager.broadcastHandler familyId regType packet).after
    ⟨h.world.server.platform.netlink, [], []⟩
  refine ⟨handled.regDomainCalls.map fun call =>
    ⟨kernels call.1, .onRegDomainChanged call.1 call.2⟩, ?_, ?_⟩
  · intro call hcall
    obtain ⟨told, -, rfl⟩ := List.mem_map.mp hcall
    trivial
  · have hdeliver : (handled.calls.foldl (fun h call => h.deliver call) h).world = h.world :=
      Runs.foldl_frame world fun _ _ => rfl
    rw [List.foldl_map, ← hdeliver]
    rfl

theorem apBinders_step (hbinders : h.world.ApBinders) (next : HotspotStep) :
    (h.step familyId next).world.ApBinders := by
  cases next with
  | serve call => exact World.apBinders_serve hbinders call
  | registerCallback id callback => exact World.apBinders_callAp hbinders id callback
  | broadcast regType kernels packet =>
    obtain ⟨calls, -, hworld⟩ := exists_world_broadcast familyId h regType kernels packet
    show (h.broadcast familyId regType kernels packet).world.ApBinders
    rw [hworld]
    exact Runs.foldl_related (R := fun w w' : World => w.ApBinders → w'.ApBinders)
      (fun _ => id) (fun _ _ _ h h' => h' ∘ h) (fun w call hw => World.apBinders_serve hw call)
      hbinders

theorem apBinders_after (familyId : UInt16) (history : List HotspotStep) :
    (after familyId history).world.ApBinders :=
  Runs.foldl_related (R := fun h h' : Hotspot => h.world.ApBinders → h'.world.ApBinders)
    (fun _ => id) (fun _ _ _ h h' => h' ∘ h) (fun _ next hbinders => apBinders_step hbinders next)
    World.apBinders_fresh

theorem after_append (familyId : UInt16) (history : List HotspotStep) (next : HotspotStep) :
    after familyId (history ++ [next]) = (after familyId history).step familyId next := by
  rw [after, List.foldl_append]
  rfl

/-- A call leaves the callback of an object alone, whatever it constructs. -/
theorem apCallback_serve_iff {w : World} (hbinders : w.ApBinders) (call : Call) :
    (w.serve call).apCallback id = some (some callback) ↔
      w.apCallback id = some (some callback) := by
  rw [World.apCallback_serve]
  split_ifs with hnew
  · refine iff_of_false (by simp) fun hsome => ?_
    have hlt := hbinders.numbered id (by simp [hsome])
    exact absurd (Server.eq_created_of_constructed hnew rfl).1 (Nat.ne_of_lt hlt)
  · rfl

theorem apCallback_step_iff (hbinders : h.world.ApBinders)
    (hother : ∀ other, next ≠ .registerCallback id other) :
    (h.step familyId next).world.apCallback id = some (some callback) ↔
      h.world.apCallback id = some (some callback) := by
  cases next with
  | serve call => exact apCallback_serve_iff hbinders call
  | registerCallback id' other =>
    have hne : id ≠ id' := by
      rintro rfl
      exact hother other rfl
    show (h.world.callAp id' (.registerCallback other)).apCallback id = _ ↔ _
    rw [World.apCallback_callAp, if_neg hne]
  | broadcast regType kernels packet =>
    obtain ⟨calls, -, hworld⟩ := exists_world_broadcast familyId h regType kernels packet
    show (h.broadcast familyId regType kernels packet).world.apCallback id = _ ↔ _
    rw [hworld]
    exact (Runs.foldl_related (R := fun w w' : World => w.ApBinders → w'.ApBinders ∧
        (w'.apCallback id = some (some callback) ↔ w.apCallback id = some (some callback)))
      (fun _ hw => ⟨hw, Iff.rfl⟩)
      (fun _ _ _ h h' hw => ⟨(h' (h hw).1).1, (h' (h hw).1).2.trans (h hw).2⟩)
      (fun w call hw => ⟨World.apBinders_serve hw call, apCallback_serve_iff hw call⟩)
      hbinders).2

theorem isLatest_append_iff (hother : ∀ other, next ≠ .registerCallback id other) :
    IsLatest familyId (history ++ [next]) id callback ↔
      IsLatest familyId history id callback := by
  constructor
  · rintro ⟨pre, post, hsplit, hbinder, hpost⟩
    rcases Runs.append_singleton_split hsplit with ⟨rfl, hlast, -⟩ | ⟨rest, rfl, hhistory⟩
    · exact absurd hlast (hother callback)
    · refine ⟨pre, rest, hhistory, hbinder, fun other hmem => hpost other ?_⟩
      exact List.mem_append_left _ hmem
  · rintro ⟨pre, post, rfl, hbinder, hpost⟩
    refine ⟨pre, post ++ [next], by simp, hbinder, fun other hmem => ?_⟩
    rcases List.mem_append.mp hmem with hmem | hmem
    · exact hpost other hmem
    · exact hother other (List.mem_singleton.mp hmem).symm

theorem isLatest_append_registerCallback (latest : ℕ) :
    IsLatest familyId (history ++ [.registerCallback id latest]) id callback ↔
      ((after familyId history).world.apBinder id).isSome ∧ latest = callback := by
  constructor
  · rintro ⟨pre, post, hsplit, hbinder, hpost⟩
    rcases Runs.append_singleton_split hsplit with ⟨rfl, hlast, -⟩ | ⟨rest, rfl, -⟩
    · exact ⟨hbinder, (HotspotStep.registerCallback.inj hlast).2⟩
    · exact absurd (by simp) (hpost latest)
  · rintro ⟨hbinder, rfl⟩
    exact ⟨history, [], rfl, hbinder, by simp⟩

/-- A binder holds the callback that was registered last. -/
theorem apCallback_iff_isLatest (familyId : UInt16) (history : List HotspotStep) (id : ObjectId)
    (callback : ℕ) : (after familyId history).world.apCallback id = some (some callback) ↔
      IsLatest familyId history id callback := by
  induction history using List.reverseRecOn with
  | nil => simp [after, fresh, World.fresh, World.apCallback, IsLatest]
  | append_singleton history next ih =>
    rw [after_append]
    by_cases hregister : ∃ latest, next = .registerCallback id latest
    · obtain ⟨latest, rfl⟩ := hregister
      rw [isLatest_append_registerCallback]
      show ((after familyId history).world.callAp id (.registerCallback latest)).apCallback id =
        _ ↔ _
      rw [World.apCallback_callAp, if_pos rfl, World.apCallback, Option.map_map]
      cases (after familyId history).world.apBinder id <;> simp
    · rw [not_exists] at hregister
      rw [apCallback_step_iff (apBinders_after familyId history) hregister,
        isLatest_append_iff hregister, ih]

theorem spares_step (hspare : SparesLive h next) :
    h.world.server.Spares (h.step familyId next).world.server := by
  cases next with
  | serve call =>
    show h.world.server.Spares (h.world.serve call).server
    rw [World.server_serve]
    exact .serve (hspare call rfl)
  | registerCallback id callback => exact .same (.refl _)
  | broadcast regType kernels packet =>
    obtain ⟨calls, hcalls, hworld⟩ := exists_world_broadcast familyId h regType kernels packet
    show h.world.server.Spares (h.broadcast familyId regType kernels packet).world.server
    rw [hworld, World.server_foldl_serve]
    exact .same (Server.sameObjects_foldl_serve hcalls _)

theorem intact_after (hspares : Runs.Along (step familyId) SparesLive fresh history) :
    (after familyId history).world.server.Intact :=
  Server.intact_of_along (fun h : Hotspot => h.world.server) rfl
    (fun _ _ hspare => spares_step hspare) hspares

/-- What the handlers of AP interfaces do with the calls of a broadcast. -/
theorem notifications_broadcast (familyId : UInt16) (h : Hotspot) (regType : UInt8)
    (kernels : UInt32 → Kernel) (packet : NL80211Packet) : ∃ call : Option HandlerCall,
      (h.broadcast familyId regType kernels packet).notifications = h.notifications ++
        (call.bind fun c =>
          (h.world.apBinder c.owner).bind (ApInterfaceImpl.onEvent c.event)).toList ∧
      ∀ c, call = some c ↔ packet.getMessageType = familyId.toNat ∧
        ∃ command, packet.getCommand = .ok command ∧
          Routed h.world.server.platform.netlink packet command c := by
  obtain ⟨call, hcalls, hcall⟩ := NetlinkManager.calls_broadcastHandler familyId regType packet
    h.world.server.platform.netlink
  refine ⟨call, ?_, hcall⟩
  rw [broadcast, hcalls]
  cases call with
  | none => simp
  | some c => rfl

/-- The handler that a broadcast of an AP interface runs is that of a live AP interface. -/
theorem exists_ap_of_routed {w : World} {call : HandlerCall} {binder : ApInterfaceBinder}
    {command : ℕ} (hw : w.ApBinders)
    (hrouted : Routed w.server.platform.netlink packet command call)
    (hbinder : w.apBinder call.owner = some binder) :
    ∃ (name : IfaceName) (ap : ApInterfaceImpl), w.server.apInterfaces[name]? = some ap ∧
      ap.id = call.owner ∧ ap.interfaceIndex = call.index := by
  obtain ⟨table, index, owner, event⟩ := call
  cases hw.owned table index owner hrouted.owner with
  | client name client hclient _ _ =>
    have hsome : (w.apCallback client.id).isSome := by simp [World.apCallback, hbinder]
    exact absurd ⟨name, client, hclient, rfl⟩ (hw.apart client.id hsome)
  | ap name ap hap _ hindex => exact ⟨name, ap, hap, rfl, hindex⟩

/-- A broadcast tells one callback at most, and only what it carries of an AP interface that is
live, whose latest callback it is; other steps tell nothing. Where no call of the server
disables a live interface, each callback is told of what is meant for it. -/
theorem ap_events_told (familyId : UInt16) (history : List HotspotStep) (regType : UInt8)
    (kernels : UInt32 → Kernel) (packet : NL80211Packet) :
    ∃ told : Option ApNotification,
      (after familyId (history ++ [.broadcast regType kernels packet])).notifications =
        (after familyId history).notifications ++ told.toList ∧
      (∀ n, told = some n → IsMeant familyId history packet n) ∧
      (Runs.Along (step familyId) SparesLive fresh history →
        ∀ n, IsMeant familyId history packet n → told = some n) := by
  have hw := apBinders_after familyId history
  obtain ⟨call, hnotifications, hcall⟩ := notifications_broadcast familyId (after familyId history)
    regType kernels packet
  rw [after_append]
  refine ⟨_, hnotifications, ?_, ?_⟩
  · intro n htold
    obtain ⟨c, hc, htold⟩ := Option.bind_eq_some_iff.mp htold
    obtain ⟨binder, hbinder, htold⟩ := Option.bind_eq_some_iff.mp htold
    obtain ⟨hfamily, command, hcommand, hrouted⟩ := (hcall c).mp hc
    obtain ⟨name, ap, hap, hid, hindex⟩ := exists_ap_of_routed hw hrouted hbinder
    obtain ⟨hcallback, hannounces⟩ := exists_carries_iff.mp ⟨c.event, hrouted.carries, htold⟩
    have hlatest : IsLatest familyId history ap.id n.callback := by
      rw [← apCallback_iff_isLatest, World.apCallback, hid, hbinder, Option.map_some, hcallback]
    exact ⟨hfamily, name, ap, command, hap, hindex ▸ hrouted.index, hcommand, hannounces, hlatest⟩
  · intro hspares n hmeant
    obtain ⟨name, ap, command, hap, hindex, hcommand, hannounces, hlatest⟩ := hmeant.announced
    obtain ⟨table, htable, hevents⟩ := table_of_announces hannounces
    have howner := (intact_after hspares).registered.aps name ap hap table htable
    rw [← apCallback_iff_isLatest, World.apCallback] at hlatest
    obtain ⟨binder, hbinder, hcallback⟩ := Option.map_eq_some_iff.mp hlatest
    obtain ⟨event, hcarries, htold⟩ : ∃ event, Carries packet ap.interfaceIndex command event ∧
        ApInterfaceImpl.onEvent event binder = some n :=
      exists_carries_iff.mpr ⟨hcallback, hannounces⟩
    have hrouted : call = some ⟨table, ap.interfaceIndex, ap.id, event⟩ :=
      (hcall _).mpr ⟨hmeant.family, command, hcommand, hevents, hindex, howner, hcarries⟩
    rw [hrouted, Option.bind_some, hbinder]
    exact htold

/-- Station 2 joins the network of interface 7, whose callbacks were 4 and then 5. -/
theorem ap_events_told_new_station :
    let packet := ((NL80211Packet.ofHeader 24 19 0 0).addAttribute
      (NL80211Attr.ofInt .uint32 attrIfindex 7)).addAttribute
      (NL80211Attr.ofBytes attrMac [2, 0, 0, 0, 0, 2])
    let history : List HotspotStep := [.serve ⟨.oneInterface [119], .createApInterface [119]⟩,
      .registerCallback 0 4, .registerCallback 0 5]
    (after 24 (history ++ [.broadcast 0 (fun _ => .oneInterface [119]) packet])).notifications =
      [⟨5, .connectedClientsChanged ⟨[2, 0, 0, 0, 0, 2]⟩ true⟩] := by
  intro packet history
  obtain ⟨told, hnotifications, -, htold⟩ := ap_events_told 24 history 0
    (fun _ => .oneInterface [119]) packet
  have hcreate : SparesLive fresh (.serve ⟨.oneInterface [119], .createApInterface [119]⟩) := by
    intro call hcall
    obtain rfl := HotspotStep.serve.inj hcall
    intro reported _
    exact ⟨by constructor <;> simp [fresh, World.fresh, Server.fresh], by
      simp [fresh, World.fresh, Server.fresh]⟩
  have hspares : Runs.Along (step 24) SparesLive fresh history :=
    ⟨hcreate, by simp [SparesLive], by simp [SparesLive], trivial⟩
  have hstation : Announces packet cmdNewStation
      (.connectedClientsChanged ⟨(MacAddress.ofBytes [2, 0, 0, 0, 0, 2]).toList⟩ true) :=
    .newStation (by decide +kernel)
  have hmeant : IsMeant 24 history packet
      ⟨5, .connectedClientsChanged ⟨[2, 0, 0, 0, 0, 2]⟩ true⟩ :=
    ⟨by decide +kernel, [119], ⟨0, [119], 7⟩, cmdNewStation, by decide, by decide +kernel,
      by decide +kernel, hstation, history.take 2, [], rfl, rfl, by simp⟩
  rw [hnotifications, htold hspares _ hmeant]
  rfl

end Hotspot

end Wificond
