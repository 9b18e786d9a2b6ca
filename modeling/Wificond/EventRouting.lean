import Wificond.AttributeLists
import Wificond.FrameTxStatus
import Wificond.InterfaceObjects
import Wificond.MlmeEvents
import Wificond.RegulatoryBroadcasts

/-!
# Routing of broadcasts

The commands of broadcasts belong to six tables of handlers, which go by interface index.
A broadcast is read and at most one handler is called, the last thing that is done, so that
a read that fails, or never ends, leaves no call behind.
-/
namespace Wificond

inductive ChannelBandwidth
  | invalid | bw20NoHt | bw20 | bw40 | bw80 | bw80p80 | bw160 | bw320
  deriving DecidableEq

/-- `getBandwidthType`, with the values of `nl80211_chan_width`. -/
def getBandwidthType (bandwidth : UInt32) : ChannelBandwidth :=
  if bandwidth = 0 then .bw20NoHt
  else if bandwidth = 1 then .bw20
  else if bandwidth = 2 then .bw40
  else if bandwidth = 3 then .bw80
  else if bandwidth = 4 then .bw80p80
  else if bandwidth = 5 then .bw160
  else if bandwidth = 13 then .bw320
  else .invalid

inductive StationEvent
  | newStation | delStation
  deriving DecidableEq

/-- What a handler is called with. -/
inductive HandlerEvent
  | scanResults (interfaceIndex : UInt32) (aborted : Bool) (ssids : List (List UInt8))
      (frequencies : List UInt32)
  | schedScanResults (interfaceIndex : UInt32) (scanStopped : Bool)
  | mlme (event : MlmeEvent)
  | station (event : StationEvent) (macAddress : MacAddress)
  | channelSwitch (frequency : UInt32) (bandwidth : ChannelBandwidth)
  | frameTxStatus (cookie : UInt64) (wasAcked : Bool)
  deriving DecidableEq

/-- A call of the handler that `owner` has registered in a table under an index. -/
structure HandlerCall where
  table : HandlerTable
  index : UInt32
  owner : ObjectId
  event : HandlerEvent
  deriving DecidableEq

/-- The tables, and the calls of handlers in order. -/
structure EventState where
  netlink : NetlinkManager
  calls : List HandlerCall
  regDomainCalls : List (UInt32 × List UInt8)

/-- A function that is run for a broadcast. What was done before a fault stays done. -/
abbrev EventM := ExceptT Fault (StateM EventState)

namespace NL80211Packet

/-- `GetAttributeValue<uint32_t>` -/
def getUInt32 (packet : NL80211Packet) (id : ℕ) : Exec (Option UInt32) :=
  (packet.getAttributeValue (AttrTemplate.int .uint32) id).map (Option.map UInt32.ofInt)

end NL80211Packet

namespace NetlinkManager

def find (table : HandlerTable) (index : UInt32) : EventM (Option ObjectId) := do
  return (← get).netlink.handler? table index

def invoke (call : HandlerCall) : EventM Unit :=
  modify fun s => { s with calls := s.calls ++ [call] }

def onScanResultsReady (packet : NL80211Packet) : EventM Unit := do
  let some ifIndex ← packet.getUInt32 attrIfindex | return
  let aborted := (← packet.getCommand) == cmdScanAborted
  let some owner ← find .scanResultNotification ifIndex | return
  let some ssids ← packet.getList AttrTemplate.vector attrScanSsids | return
  let some freqs ← packet.getList (AttrTemplate.int .uint32) attrScanFrequencies | return
  invoke ⟨.scanResultNotification, ifIndex, owner,
    .scanResults ifIndex aborted ssids (freqs.map UInt32.ofInt)⟩

def onSchedScanResultsReady (packet : NL80211Packet) : EventM Unit := do
  let some ifIndex ← packet.getUInt32 attrIfindex | return
  let some owner ← find .schedScanResultNotification ifIndex | return
  let scanStopped := (← packet.getCommand) == cmdSchedScanStopped
  invoke ⟨.schedScanResultNotification, ifIndex, owner, .schedScanResults ifIndex scanStopped⟩

def onMlmeEvent (packet : NL80211Packet) : EventM Unit := do
  let some ifIndex ← packet.getUInt32 attrIfindex | return
  let some owner ← find .mlmeEvent ifIndex | return
  let command ← packet.getCommand
  let some event ← MlmeEvent.initFromPacket command packet | return
  invoke ⟨.mlmeEvent, ifIndex, owner, .mlme event⟩

/-- The branch of `BroadcastHandler` for stations. -/
def onStationEvent (command : ℕ) (packet : NL80211Packet) : EventM Unit := do
  let some ifIndex ← packet.getUInt32 attrIfindex | return
  let some owner ← find .stationEvent ifIndex | return
  let some macAddress ← packet.getAttributeValue (AttrTemplate.array 6) attrMac | return
  let event := if command = cmdNewStation then .newStation else .delStation
  invoke ⟨.stationEvent, ifIndex, owner, .station event (MacAddress.ofBytes macAddress)⟩

def onChannelSwitchEvent (packet : NL80211Packet) : EventM Unit := do
  let some ifIndex ← packet.getUInt32 attrIfindex | return
  let some frequency ← packet.getUInt32 attrWiphyFreq | return
  let some bandwidth ← packet.getUInt32 attrChannelWidth | return
  let some owner ← find .channelSwitchEvent ifIndex | return
  invoke ⟨.channelSwitchEvent, ifIndex, owner,
    .channelSwitch frequency (getBandwidthType bandwidth)⟩

def onFrameTxStatusEvent (packet : NL80211Packet) : EventM Unit := do
  let some (ifIndex, cookie, wasAcked) ← frameTxStatus packet | return
  let some owner ← find .frameTxStatusEvent ifIndex | return
  invoke ⟨.frameTxStatusEvent, ifIndex, owner, .frameTxStatus cookie wasAcked⟩

/-- `reg_type` is not initialized: it holds `regType` where the packet has none. -/
def onRegChangeEvent (regType : UInt8) (packet : NL80211Packet) : EventM Unit := do
  let some countryCode ← regDomainChange regType packet | return
  modify fun s =>
    { s with
      regDomainCalls := s.regDomainCalls ++
        s.netlink.onRegDomainChangedHandler.toList.map fun wiphyIndex => (wiphyIndex, countryCode) }

def broadcastHandler (familyId : UInt16) (regType : UInt8) (packet : NL80211Packet) :
    EventM Unit := do
  if packet.getMessageType ≠ familyId.toNat then return
  let command ← packet.getCommand
  if command = cmdNewScanResults ∨ command = cmdScanAborted then
    onScanResultsReady packet
  else if command = cmdSchedScanResults ∨ command = cmdSchedScanStopped then
    onSchedScanResultsReady packet
  else if command = cmdConnect ∨ command = cmdAssociate ∨ command = cmdRoam ∨
      command = cmdDisconnect ∨ command = cmdDisassociate then
    onMlmeEvent packet
  else if command = cmdRegChange ∨ command = cmdWiphyRegChange then
    onRegChangeEvent regType packet
  else if command = cmdNewStation ∨ command = cmdDelStation then
    onStationEvent command packet
  else if command = cmdChSwitchNotify then
    onChannelSwitchEvent packet
  else if command = cmdFrameTxStatus then
    onFrameTxStatusEvent packet

end NetlinkManager

/-- The table of an interface-scoped command. -/
def eventTable (command : ℕ) : Option HandlerTable :=
  if command ∈ [cmdNewScanResults, cmdScanAborted] then some .scanResultNotification
  else if command ∈ [cmdSchedScanResults, cmdSchedScanStopped] then
    some .schedScanResultNotification
  else if command ∈ [cmdConnect, cmdAssociate, cmdRoam, cmdDisconnect, cmdDisassociate] then
    some .mlmeEvent
  else if command ∈ [cmdNewStation, cmdDelStation] then some .stationEvent
  else if command = cmdChSwitchNotify then some .channelSwitchEvent
  else if command = cmdFrameTxStatus then some .frameTxStatusEvent
  else none

/-- The values of a broadcast of a command from an interface, by typed reads of its packet, and
for the lists of a scan by the payloads in it. -/
inductive Carries (packet : NL80211Packet) (index : UInt32) : ℕ → HandlerEvent → Prop
  | newScanResults {ssids : List (List UInt8)} {freqs : List ℤ}
      (hssids : packet.TakesList attrScanSsids bytesEntry ssids)
      (hfreqs : packet.TakesList attrScanFrequencies (intEntry .uint32) freqs) :
      Carries packet index cmdNewScanResults
        (.scanResults index false ssids (freqs.map UInt32.ofInt))
  | scanAborted {ssids : List (List UInt8)} {freqs : List ℤ}
      (hssids : packet.TakesList attrScanSsids bytesEntry ssids)
      (hfreqs : packet.TakesList attrScanFrequencies (intEntry .uint32) freqs) :
      Carries packet index cmdScanAborted
        (.scanResults index true ssids (freqs.map UInt32.ofInt))
  | schedScanResults : Carries packet index cmdSchedScanResults (.schedScanResults index false)
  | schedScanStopped : Carries packet index cmdSchedScanStopped (.schedScanResults index true)
  | connect {mac : Option (List UInt8)} {statusCode : Option ℤ} {timedOut : Bool}
      (hmac : packet.getAttributeValue (AttrTemplate.array 6) attrMac = .ok mac)
      (hstatus : packet.getAttributeValue (AttrTemplate.int .uint16) attrStatusCode =
        .ok statusCode)
      (htimedOut : packet.hasAttribute attrTimedOut = .ok timedOut) :
      Carries packet index cmdConnect (.mlme (.connect (mac.map MacAddress.ofBytes)
        ((statusCode.map UInt16.ofInt).getD 0) timedOut))
  | associate {mac : Option (List UInt8)} {timedOut : Bool}
      (hmac : packet.getAttributeValue (AttrTemplate.array 6) attrMac = .ok mac)
      (htimedOut : packet.hasAttribute attrTimedOut = .ok timedOut) :
      Carries packet index cmdAssociate
        (.mlme (.associate (mac.map MacAddress.ofBytes) 0 timedOut))
  | roam {mac : Option (List UInt8)}
      (hmac : packet.getAttributeValue (AttrTemplate.array 6) attrMac = .ok mac) :
      Carries packet index cmdRoam (.mlme (.roam (mac.map MacAddress.ofBytes)))
  | disconnect {mac : Option (List UInt8)}
      (hmac : packet.getAttributeValue (AttrTemplate.array 6) attrMac = .ok mac) :
      Carries packet index cmdDisconnect (.mlme (.disconnect (mac.map MacAddress.ofBytes)))
  | disassociate {mac : Option (List UInt8)}
      (hmac : packet.getAttributeValue (AttrTemplate.array 6) attrMac = .ok mac) :
      Carries packet index cmdDisassociate
        (.mlme (.disassociate (mac.map MacAddress.ofBytes)))
  | newStation {bytes : List UInt8}
      (hmac : packet.getAttributeValue (AttrTemplate.array 6) attrMac = .ok (some bytes)) :
      Carries packet index cmdNewStation (.station .newStation (MacAddress.ofBytes bytes))
  | delStation {bytes : List UInt8}
      (hmac : packet.getAttributeValue (AttrTemplate.array 6) attrMac = .ok (some bytes)) :
      Carries packet index cmdDelStation (.station .delStation (MacAddress.ofBytes bytes))
  | channelSwitch {frequency bandwidth : UInt32}
      (hfrequency : packet.getUInt32 attrWiphyFreq = .ok (some frequency))
      (hbandwidth : packet.getUInt32 attrChannelWidth = .ok (some bandwidth)) :
      Carries packet index cmdChSwitchNotify
        (.channelSwitch frequency (getBandwidthType bandwidth))
  | frameTxStatus {cookie : ℤ} {wasAcked : Bool}
      (hcookie : packet.getAttributeValue (AttrTemplate.int .uint64) attrCookie =
        .ok (some cookie))
      (hacked : packet.hasAttribute attrAck = .ok wasAcked) :
      Carries packet index cmdFrameTxStatus (.frameTxStatus (UInt64.ofInt cookie) wasAcked)

/-- The call that a broadcast of a command stands for. -/
structure Routed (netlink : NetlinkManager) (packet : NL80211Packet) (command : ℕ)
    (call : HandlerCall) : Prop where
  table : eventTable command = some call.table
  index : packet.getUInt32 attrIfindex = .ok (some call.index)
  owner : netlink.handler? call.table call.index = some call.owner
  carries : Carries packet call.index command call.event

/-- The index, a value that the command needs, or a list that is there cannot be read. -/
inductive FailsToRead (packet : NL80211Packet) : ℕ → Prop
  | index {command : ℕ} (hnone : packet.getUInt32 attrIfindex = .ok none) :
      FailsToRead packet command
  | ssids {command : ℕ} (hcommand : command = cmdNewScanResults ∨ command = cmdScanAborted)
      (hheader : packet.HasHeader attrScanSsids)
      (hlist : ∀ ssids, ¬ packet.HasList attrScanSsids bytesEntry ssids) :
      FailsToRead packet command
  | frequencies {command : ℕ} (hcommand : command = cmdNewScanResults ∨ command = cmdScanAborted)
      (hheader : packet.HasHeader attrScanFrequencies)
      (hlist : ∀ freqs, ¬ packet.HasList attrScanFrequencies (intEntry .uint32) freqs) :
      FailsToRead packet command
  | macAddress {command : ℕ} (hcommand : command = cmdNewStation ∨ command = cmdDelStation)
      (hnone : packet.getAttributeValue (AttrTemplate.array 6) attrMac = .ok none) :
      FailsToRead packet command
  | frequency (hnone : packet.getUInt32 attrWiphyFreq = .ok none) :
      FailsToRead packet cmdChSwitchNotify
  | channelWidth (hnone : packet.getUInt32 attrChannelWidth = .ok none) :
      FailsToRead packet cmdChSwitchNotify
  | cookie (hnone : packet.getAttributeValue (AttrTemplate.int .uint64) attrCookie = .ok none) :
      FailsToRead packet cmdFrameTxStatus

namespace EventState

def record (call : Option HandlerCall) (s : EventState) : EventState :=
  { s with calls := s.calls ++ call.toList }

end EventState

namespace EventM

/-- The state in which a function stops, with or without a fault. -/
def after (m : EventM Unit) (s : EventState) : EventState := (m.run.run s).2

/-- The function makes the call that is described, and none if there is none. -/
def Makes (m : EventM Unit) (s : EventState) (P : HandlerCall → Prop) : Prop :=
  ∃ call, m.after s = s.record call ∧ ∀ c, call = some c ↔ P c

section Rules
variable {α : Type} {s : EventState} {P : HandlerCall → Prop} {call : HandlerCall}

theorem makes_return (hno : ∀ c, ¬ P c) : Makes (pure ()) s P :=
  ⟨none, by simp [EventState.record]; rfl, fun c => by simp [hno c]⟩

theorem makes_invoke (h : ∀ c, P c ↔ c = call) : Makes (NetlinkManager.invoke call) s P :=
  ⟨some call, rfl, fun c => by rw [h c, Option.some.injEq, eq_comm]⟩

theorem makes_bind {x : Exec α} {f : α → EventM Unit} (hsome : ∀ a, x = .ok a → Makes (f a) s P)
    (hfault : (∀ a, x ≠ .ok a) → ∀ c, ¬ P c) : Makes (do f (← x)) s P := by
  cases hx : x with
  | error fault =>
    exact ⟨none, by simp [EventState.record]; rfl,
      fun c => by simp [hfault (fun a => by simp [hx]) c]⟩
  | ok a => exact hsome a hx

theorem makes_of_ok {x : Exec α} {f : α → EventM Unit} {a : α} (hx : x = .ok a)
    (h : Makes (f a) s P) : Makes (do f (← x)) s P := by
  rw [hx]
  exact h

/-- After a read that fails nothing is left to do. -/
theorem makes_read {x : Exec (Option α)} {f : Option α → EventM Unit} (hreturn : f none = pure ())
    (hnone : (∀ a, x ≠ .ok (some a)) → ∀ c, ¬ P c)
    (hsome : ∀ a, x = .ok (some a) → Makes (f (some a)) s P) : Makes (do f (← x)) s P := by
  apply makes_bind
  · intro found hx
    cases found with
    | none =>
      rw [hreturn]
      exact makes_return (hnone fun a => by simp [hx])
    | some a => exact hsome a hx
  · exact fun hfault => hnone fun a => hfault (some a)

theorem makes_find {table : HandlerTable} {index : UInt32} {f : Option ObjectId → EventM Unit}
    (hreturn : f none = pure ()) (hnone : s.netlink.handler? table index = none → ∀ c, ¬ P c)
    (hsome : ∀ owner, s.netlink.handler? table index = some owner → Makes (f (some owner)) s P) :
    Makes (do f (← NetlinkManager.find table index)) s P := by
  have hrun : after (do f (← NetlinkManager.find table index)) s =
      after (f (s.netlink.handler? table index)) s := rfl
  unfold Makes
  rw [hrun]
  cases hfound : s.netlink.handler? table index with
  | none =>
    rw [hreturn]
    exact makes_return (hnone hfound)
  | some owner => exact hsome owner hfound

end Rules

end EventM

namespace NetlinkManager

variable {packet : NL80211Packet} {s : EventState} {command : ℕ} {table : HandlerTable}
  {index : UInt32} {owner : ObjectId} {event : HandlerEvent}

/-- The call goes to the owner that was found under the index that was read. -/
theorem routed_iff (htable : eventTable command = some table)
    (hindex : packet.getUInt32 attrIfindex = .ok (some index))
    (howner : s.netlink.handler? table index = some owner) (call : HandlerCall) :
    Routed s.netlink packet command call ↔
      ∃ event, Carries packet index command event ∧ call = ⟨table, index, owner, event⟩ := by
  constructor
  · intro h
    have hsame : table = call.table := Option.some.inj (htable.symm.trans h.table)
    have hat : index = call.index := by simpa using hindex.symm.trans h.index
    have howns := h.owner
    rw [← hsame, ← hat, howner] at howns
    refine ⟨call.event, by rw [hat]; exact h.carries, ?_⟩
    rw [hsame, hat, Option.some.inj howns]
  · rintro ⟨event, hcarries, rfl⟩
    exact ⟨htable, hindex, howner, hcarries⟩

theorem not_routed_of_no_owner (htable : eventTable command = some table)
    (hindex : packet.getUInt32 attrIfindex = .ok (some index))
    (hnone : s.netlink.handler? table index = none) (call : HandlerCall) :
    ¬ Routed s.netlink packet command call := by
  intro h
  have hsame : table = call.table := Option.some.inj (htable.symm.trans h.table)
  have hat : index = call.index := by simpa using hindex.symm.trans h.index
  have howns := h.owner
  rw [← hsame, ← hat, hnone] at howns
  cases howns

/-- A read gives one value. -/
theorem eq_of_read {α : Type} {x : Exec (Option α)} {a b : α} (ha : x = .ok (some a))
    (hb : x = .ok (some b)) : b = a := by
  simpa using hb.symm.trans ha

/-- A function that has read all values of its command makes the routed call. -/
theorem makes_invoke_of_carries (htable : eventTable command = some table)
    (hindex : packet.getUInt32 attrIfindex = .ok (some index))
    (howner : s.netlink.handler? table index = some owner)
    (hcarries : ∀ e, Carries packet index command e ↔ e = event) :
    (invoke ⟨table, index, owner, event⟩).Makes s (Routed s.netlink packet command) := by
  apply EventM.makes_invoke
  intro call
  rw [routed_iff htable hindex howner]
  simp only [hcarries, exists_eq_left]

theorem getList_ssids {ssids : List (List UInt8)} :
    packet.getList AttrTemplate.vector attrScanSsids = .ok (some ssids) ↔
      packet.TakesList attrScanSsids bytesEntry ssids :=
  NL80211Packet.getList_eq_some_iff readsEntry_vector

theorem getList_frequencies {freqs : List ℤ} :
    packet.getList (AttrTemplate.int .uint32) attrScanFrequencies = .ok (some freqs) ↔
      packet.TakesList attrScanFrequencies (intEntry .uint32) freqs :=
  NL80211Packet.getList_eq_some_iff readsEntry_int

theorem makes_onScanResultsReady (hcommand : packet.getCommand = .ok command)
    (hscoped : command = cmdNewScanResults ∨ command = cmdScanAborted) :
    (onScanResultsReady packet).Makes s (Routed s.netlink packet command) := by
  have htable : eventTable command = some .scanResultNotification := by
    rcases hscoped with rfl | rfl <;> rfl
  unfold onScanResultsReady
  apply EventM.makes_read rfl fun hnone call (h : Routed _ _ _ _) => hnone call.index h.index
  intro ifIndex hindex
  apply EventM.makes_of_ok hcommand
  apply EventM.makes_find rfl (not_routed_of_no_owner htable hindex)
  intro owner howner
  apply EventM.makes_read rfl
  · intro hnone call h
    obtain ⟨event, hcarries, -⟩ := (routed_iff htable hindex howner call).mp h
    rcases hscoped with rfl | rfl
    · cases hcarries with | newScanResults hssids _ => exact hnone _ (getList_ssids.mpr hssids)
    · cases hcarries with | scanAborted hssids _ => exact hnone _ (getList_ssids.mpr hssids)
  intro ssids hssids
  apply EventM.makes_read rfl
  · intro hnone call h
    obtain ⟨event, hcarries, -⟩ := (routed_iff htable hindex howner call).mp h
    rcases hscoped with rfl | rfl
    · cases hcarries with
      | newScanResults _ hfreqs => exact hnone _ (getList_frequencies.mpr hfreqs)
    · cases hcarries with
      | scanAborted _ hfreqs => exact hnone _ (getList_frequencies.mpr hfreqs)
  intro freqs hfreqs
  refine makes_invoke_of_carries htable hindex howner fun e => ⟨fun h => ?_, ?_⟩
  · rcases hscoped with rfl | rfl
    · cases h with
      | newScanResults hssids' hfreqs' =>
        rw [eq_of_read hssids (getList_ssids.mpr hssids'),
          eq_of_read hfreqs (getList_frequencies.mpr hfreqs')]
        rfl
    · cases h with
      | scanAborted hssids' hfreqs' =>
        rw [eq_of_read hssids (getList_ssids.mpr hssids'),
          eq_of_read hfreqs (getList_frequencies.mpr hfreqs')]
        rfl
  · rintro rfl
    rcases hscoped with rfl | rfl
    · exact .newScanResults (getList_ssids.mp hssids) (getList_frequencies.mp hfreqs)
    · exact .scanAborted (getList_ssids.mp hssids) (getList_frequencies.mp hfreqs)

theorem makes_onSchedScanResultsReady (hcommand : packet.getCommand = .ok command)
    (hscoped : command = cmdSchedScanResults ∨ command = cmdSchedScanStopped) :
    (onSchedScanResultsReady packet).Makes s (Routed s.netlink packet command) := by
  have htable : eventTable command = some .schedScanResultNotification := by
    rcases hscoped with rfl | rfl <;> rfl
  unfold onSchedScanResultsReady
  apply EventM.makes_read rfl fun hnone call (h : Routed _ _ _ _) => hnone call.index h.index
  intro ifIndex hindex
  apply EventM.makes_find rfl (not_routed_of_no_owner htable hindex)
  intro owner howner
  apply EventM.makes_of_ok hcommand
  refine makes_invoke_of_carries htable hindex howner fun e => ⟨fun h => ?_, ?_⟩
  · rcases hscoped with rfl | rfl <;> cases h <;> rfl
  · rintro rfl
    rcases hscoped with rfl | rfl
    · exact .schedScanResults
    · exact .schedScanStopped

/-- A number that was found is that of the value that was read. -/
theorem exists_value_of_getUInt32 {id : ℕ} {number : UInt32}
    (h : packet.getUInt32 id = .ok (some number)) : ∃ value,
      packet.getAttributeValue (AttrTemplate.int .uint32) id = .ok (some value) ∧
        UInt32.ofInt value = number := by
  unfold NL80211Packet.getUInt32 at h
  cases hread : packet.getAttributeValue (AttrTemplate.int .uint32) id with
  | error fault => simp [hread, Except.map] at h
  | ok found =>
    cases found with
    | none => simp [hread, Except.map] at h
    | some value => exact ⟨value, rfl, by simpa [hread, Except.map] using h⟩

theorem getCommonFields_of_index (hindex : packet.getUInt32 attrIfindex = .ok (some index)) :
    MlmeEvent.getCommonFields packet =
      (packet.getAttributeValue (AttrTemplate.array 6) attrMac).map fun mac =>
        some (index, mac.map MacAddress.ofBytes) := by
  obtain ⟨value, hread, rfl⟩ := exists_value_of_getUInt32 hindex
  exact MlmeEvent.getCommonFields_eq hread

/-- The class of the command takes its values from the packet. -/
theorem initFromPacket_eq_some_iff (hindex : packet.getUInt32 attrIfindex = .ok (some index))
    (hscoped : command = cmdConnect ∨ command = cmdAssociate ∨ command = cmdRoam ∨
      command = cmdDisconnect ∨ command = cmdDisassociate) (event : MlmeEvent) :
    MlmeEvent.initFromPacket command packet = .ok (some event) ↔
      Carries packet index command (.mlme event) := by
  have hcommon := getCommonFields_of_index hindex
  constructor
  · intro h
    cases hmac : packet.getAttributeValue (AttrTemplate.array 6) attrMac with
    | error fault =>
      simp only [MlmeEvent.initFromPacket, hcommon, hmac, Except.map, bind, Except.bind] at h
      cases h
    | ok mac =>
      rw [MlmeEvent.initFromPacket, hcommon, hmac] at h
      obtain ⟨fields, hfields, h⟩ := Runs.bind_eq_ok.mp h
      obtain rfl := Except.ok.inj hfields
      dsimp only at h
      rcases hscoped with rfl | rfl | rfl | rfl | rfl
      · rw [if_pos rfl] at h
        obtain ⟨statusCode, hstatus, h⟩ := Runs.bind_eq_ok.mp h
        obtain ⟨timedOut, htimedOut, h⟩ := Runs.bind_eq_ok.mp h
        obtain rfl := Option.some.inj (Except.ok.inj h)
        exact .connect hmac hstatus htimedOut
      · rw [if_neg (by decide), if_pos rfl] at h
        obtain ⟨timedOut, htimedOut, h⟩ := Runs.bind_eq_ok.mp h
        obtain rfl := Option.some.inj (Except.ok.inj h)
        exact .associate hmac htimedOut
      · obtain rfl := Option.some.inj (Except.ok.inj h)
        exact .roam hmac
      · obtain rfl := Option.some.inj (Except.ok.inj h)
        exact .disconnect hmac
      · obtain rfl := Option.some.inj (Except.ok.inj h)
        exact .disassociate hmac
  · intro h
    cases h with
    | connect hmac hstatus htimedOut =>
      simp [MlmeEvent.initFromPacket, hcommon, hmac, hstatus, htimedOut, Except.map, bind,
        Except.bind, pure, Except.pure]
    | associate hmac htimedOut =>
      simp [MlmeEvent.initFromPacket, hcommon, hmac, htimedOut, Except.map, bind,
        Except.bind, pure, Except.pure]
    | roam hmac =>
      simp [MlmeEvent.initFromPacket, hcommon, hmac, Except.map, bind,
        Except.bind, pure, Except.pure]
    | disconnect hmac =>
      simp [MlmeEvent.initFromPacket, hcommon, hmac, Except.map, bind,
        Except.bind, pure, Except.pure]
    | disassociate hmac =>
      simp [MlmeEvent.initFromPacket, hcommon, hmac, Except.map, bind,
        Except.bind, pure, Except.pure]

theorem makes_onMlmeEvent (hcommand : packet.getCommand = .ok command)
    (hscoped : command = cmdConnect ∨ command = cmdAssociate ∨ command = cmdRoam ∨
      command = cmdDisconnect ∨ command = cmdDisassociate) :
    (onMlmeEvent packet).Makes s (Routed s.netlink packet command) := by
  have htable : eventTable command = some .mlmeEvent := by
    rcases hscoped with rfl | rfl | rfl | rfl | rfl <;> rfl
  unfold onMlmeEvent
  apply EventM.makes_read rfl fun hnone call (h : Routed _ _ _ _) => hnone call.index h.index
  intro ifIndex hindex
  apply EventM.makes_find rfl (not_routed_of_no_owner htable hindex)
  intro owner howner
  apply EventM.makes_of_ok hcommand
  have hevent := initFromPacket_eq_some_iff hindex hscoped
  have hmlme {e : HandlerEvent} (h : Carries packet ifIndex command e) :
      ∃ event, e = .mlme event ∧ MlmeEvent.initFromPacket command packet = .ok (some event) := by
    have hexists : ∃ event, e = .mlme event := by
      rcases hscoped with rfl | rfl | rfl | rfl | rfl <;> cases h <;> exact ⟨_, rfl⟩
    obtain ⟨event, rfl⟩ := hexists
    exact ⟨event, rfl, (hevent event).mpr h⟩
  apply EventM.makes_read rfl
  · intro hnone call h
    obtain ⟨e, hcarries, -⟩ := (routed_iff htable hindex howner call).mp h
    obtain ⟨event, -, hread⟩ := hmlme hcarries
    exact hnone event hread
  intro event hread
  refine makes_invoke_of_carries htable hindex howner fun e => ⟨fun h => ?_, ?_⟩
  · obtain ⟨event', rfl, hread'⟩ := hmlme h
    rw [eq_of_read hread hread']
  · rintro rfl
    exact (hevent event).mp hread

theorem makes_onStationEvent (hscoped : command = cmdNewStation ∨ command = cmdDelStation) :
    (onStationEvent command packet).Makes s (Routed s.netlink packet command) := by
  have htable : eventTable command = some .stationEvent := by
    rcases hscoped with rfl | rfl <;> rfl
  unfold onStationEvent
  apply EventM.makes_read rfl fun hnone call (h : Routed _ _ _ _) => hnone call.index h.index
  intro ifIndex hindex
  apply EventM.makes_find rfl (not_routed_of_no_owner htable hindex)
  intro owner howner
  apply EventM.makes_read rfl
  · intro hnone call h
    obtain ⟨event, hcarries, -⟩ := (routed_iff htable hindex howner call).mp h
    rcases hscoped with rfl | rfl
    · cases hcarries with | newStation hmac => exact hnone _ hmac
    · cases hcarries with | delStation hmac => exact hnone _ hmac
  intro macAddress hmac
  refine makes_invoke_of_carries htable hindex howner fun e => ⟨fun h => ?_, ?_⟩
  · rcases hscoped with rfl | rfl
    · cases h with | newStation hmac' => rw [eq_of_read hmac hmac', if_pos rfl]
    · cases h with
      | delStation hmac' =>
        rw [eq_of_read hmac hmac', if_neg (by decide)]
  · rintro rfl
    rcases hscoped with rfl | rfl
    · exact .newStation hmac
    · exact .delStation hmac

theorem makes_onChannelSwitchEvent :
    (onChannelSwitchEvent packet).Makes s (Routed s.netlink packet cmdChSwitchNotify) := by
  have hcarries {call : HandlerCall} (h : Routed s.netlink packet cmdChSwitchNotify call) :
      ∃ frequency bandwidth, packet.getUInt32 attrWiphyFreq = .ok (some frequency) ∧
        packet.getUInt32 attrChannelWidth = .ok (some bandwidth) := by
    obtain ⟨_, _, _, _⟩ := call
    cases h.carries with
    | channelSwitch hfrequency hbandwidth => exact ⟨_, _, hfrequency, hbandwidth⟩
  unfold onChannelSwitchEvent
  apply EventM.makes_read rfl fun hnone call (h : Routed _ _ _ _) => hnone call.index h.index
  intro ifIndex hindex
  apply EventM.makes_read rfl
  · intro hnone call h
    obtain ⟨frequency, -, hfrequency, -⟩ := hcarries h
    exact hnone frequency hfrequency
  intro frequency hfrequency
  apply EventM.makes_read rfl
  · intro hnone call h
    obtain ⟨-, bandwidth, -, hbandwidth⟩ := hcarries h
    exact hnone bandwidth hbandwidth
  intro bandwidth hbandwidth
  apply EventM.makes_find rfl (not_routed_of_no_owner rfl hindex)
  intro owner howner
  refine makes_invoke_of_carries rfl hindex howner fun e => ⟨fun h => ?_, ?_⟩
  · cases h with
    | channelSwitch hfrequency' hbandwidth' =>
      rw [eq_of_read hfrequency hfrequency', eq_of_read hbandwidth hbandwidth']
  · rintro rfl
    exact .channelSwitch hfrequency hbandwidth

theorem frameTxStatus_eq_some_iff {cookie : UInt64} {wasAcked : Bool} :
    frameTxStatus packet = .ok (some (index, cookie, wasAcked)) ↔
      packet.getUInt32 attrIfindex = .ok (some index) ∧
        Carries packet index cmdFrameTxStatus (.frameTxStatus cookie wasAcked) := by
  constructor
  · intro h
    obtain ⟨found, hread, h⟩ := Runs.bind_eq_ok.mp h
    cases found with
    | none => cases h
    | some value =>
      obtain ⟨found, hcookie, h⟩ := Runs.bind_eq_ok.mp h
      cases found with
      | none => cases h
      | some cookie' =>
        obtain ⟨acked, hacked, h⟩ := Runs.bind_eq_ok.mp h
        have hsame := Option.some.inj (Except.ok.inj h)
        simp only [Prod.mk.injEq] at hsame
        obtain ⟨rfl, rfl, rfl⟩ := hsame
        refine ⟨?_, .frameTxStatus hcookie hacked⟩
        rw [NL80211Packet.getUInt32, hread]
        rfl
  · rintro ⟨hindex, hcarries⟩
    cases hcarries with
    | frameTxStatus hcookie hacked =>
      obtain ⟨value, hread, rfl⟩ := exists_value_of_getUInt32 hindex
      rw [frameTxStatus, hread]
      simp [bind, Except.bind, hcookie, hacked, pure, Except.pure]

theorem makes_onFrameTxStatusEvent :
    (onFrameTxStatusEvent packet).Makes s (Routed s.netlink packet cmdFrameTxStatus) := by
  have hstatus {i : UInt32} {e : HandlerEvent}
      (hindex : packet.getUInt32 attrIfindex = .ok (some i))
      (h : Carries packet i cmdFrameTxStatus e) : ∃ cookie wasAcked,
        e = .frameTxStatus cookie wasAcked ∧
          frameTxStatus packet = .ok (some (i, cookie, wasAcked)) := by
    have hexists : ∃ cookie wasAcked, e = .frameTxStatus cookie wasAcked := by
      cases h
      exact ⟨_, _, rfl⟩
    obtain ⟨cookie, wasAcked, rfl⟩ := hexists
    exact ⟨cookie, wasAcked, rfl, frameTxStatus_eq_some_iff.mpr ⟨hindex, h⟩⟩
  unfold onFrameTxStatusEvent
  apply EventM.makes_read rfl
  · intro hnone call h
    obtain ⟨cookie, wasAcked, -, hread⟩ := hstatus h.index h.carries
    exact hnone _ hread
  rintro ⟨ifIndex, cookie, wasAcked⟩ hread
  obtain ⟨hindex, hcarries⟩ := frameTxStatus_eq_some_iff.mp hread
  apply EventM.makes_find rfl (not_routed_of_no_owner rfl hindex)
  intro owner howner
  refine makes_invoke_of_carries rfl hindex howner fun e => ⟨fun h => ?_, ?_⟩
  · obtain ⟨cookie', wasAcked', rfl, hread'⟩ := hstatus hindex h
    have hsame := eq_of_read hread hread'
    simp only [Prod.mk.injEq] at hsame
    obtain ⟨-, rfl, rfl⟩ := hsame
    rfl
  · rintro rfl
    exact hcarries

/-- One of the seven functions has the command. -/
theorem makes_broadcastHandler (familyId : UInt16) (regType : UInt8)
    (hfamily : packet.getMessageType = familyId.toNat) (hcommand : packet.getCommand = .ok command)
    (hscoped : eventTable command ≠ none) :
    (broadcastHandler familyId regType packet).Makes s (Routed s.netlink packet command) := by
  unfold broadcastHandler
  rw [if_neg (by simp [hfamily])]
  apply EventM.makes_of_ok hcommand
  split_ifs with hscan hsched hmlme hreg hstation hswitch htx
  · exact makes_onScanResultsReady hcommand hscan
  · exact makes_onSchedScanResultsReady hcommand hsched
  · exact makes_onMlmeEvent hcommand hmlme
  · rcases hreg with rfl | rfl <;> exact absurd rfl hscoped
  · exact makes_onStationEvent hstation
  · rw [hswitch]
    exact makes_onChannelSwitchEvent
  · rw [htx]
    exact makes_onFrameTxStatusEvent
  · refine absurd ?_ hscoped
    simp only [not_or] at hscan hsched hmlme hstation
    simp [eventTable, hscan, hsched, hmlme, hstation, hswitch, htx]

/-- The lists that a handler is called with are those in the packet. -/
def ListsOf (packet : NL80211Packet) : HandlerEvent → Prop
  | .scanResults _ _ ssids frequencies => packet.HasList attrScanSsids bytesEntry ssids ∧
    ∃ freqs, packet.HasList attrScanFrequencies (intEntry .uint32) freqs ∧
      frequencies = freqs.map UInt32.ofInt
  | _ => True

/-- What cannot be read is not routed, unless it is a list that is cut off. -/
theorem not_routed_of_failsToRead (h : FailsToRead packet command) {call : HandlerCall}
    (hlists : ListsOf packet call.event) : ¬ Routed s.netlink packet command call := by
  obtain ⟨callTable, callIndex, callOwner, callEvent⟩ := call
  rintro ⟨-, hindex, -, hcarries⟩
  dsimp only at hcarries hlists
  cases h with
  | index hnone => simp [hnone] at hindex
  | ssids hcommand hheader hlist =>
    rcases hcommand with rfl | rfl
    · cases hcarries with | newScanResults _ _ => exact hlist _ hlists.1
    · cases hcarries with | scanAborted _ _ => exact hlist _ hlists.1
  | frequencies hcommand hheader hlist =>
    rcases hcommand with rfl | rfl
    · cases hcarries with
      | newScanResults _ _ =>
        obtain ⟨-, freqs, hfreqs, -⟩ := hlists
        exact hlist freqs hfreqs
    · cases hcarries with
      | scanAborted _ _ =>
        obtain ⟨-, freqs, hfreqs, -⟩ := hlists
        exact hlist freqs hfreqs
  | macAddress hcommand hnone =>
    rcases hcommand with rfl | rfl
    · cases hcarries with | newStation hmac => simp [hnone] at hmac
    · cases hcarries with | delStation hmac => simp [hnone] at hmac
  | frequency hnone =>
    cases hcarries with | channelSwitch hfrequency _ => simp [hnone] at hfrequency
  | channelWidth hnone =>
    cases hcarries with | channelSwitch _ hwidth => simp [hnone] at hwidth
  | cookie hnone => cases hcarries with | frameTxStatus hcookie _ => simp [hnone] at hcookie

/-- A broadcast makes the call that it stands for, or none, and nothing else. -/
theorem broadcastHandler_calls (familyId : UInt16) (regType : UInt8) (packet : NL80211Packet)
    (s : EventState) (hcommand : packet.getCommand = .ok command)
    (hscoped : eventTable command ≠ none) :
    ∃ call, (broadcastHandler familyId regType packet).after s = s.record call ∧
      ∀ c, call = some c ↔
        packet.getMessageType = familyId.toNat ∧ Routed s.netlink packet command c := by
  by_cases hfamily : packet.getMessageType = familyId.toNat
  · obtain ⟨call, hafter, hcall⟩ :=
      makes_broadcastHandler (s := s) familyId regType hfamily hcommand hscoped
    exact ⟨call, hafter, fun c => (hcall c).trans (and_iff_right hfamily).symm⟩
  · refine ⟨none, ?_, fun c => iff_of_false (by simp) fun h => hfamily h.1⟩
    unfold broadcastHandler
    rw [if_pos hfamily]
    simp [EventState.record]
    rfl

/-- What a broadcast of a command should come to: no table is changed, and at most one handler
is called. It is the one in the table of the command under the index in the packet, with the
values in the packet; a packet of another family, or one from which the index, a value that
the command needs or a list that is there cannot be read, calls none. -/
structure RoutesRight (familyId : UInt16) (packet : NL80211Packet) (command : ℕ)
    (s t : EventState) : Prop where
  netlink : t.netlink = s.netlink
  regDomainCalls : t.regDomainCalls = s.regDomainCalls
  calls : ∃ call : Option HandlerCall, t.calls = s.calls ++ call.toList ∧
    (∀ c, call = some c ↔ packet.getMessageType = familyId.toNat ∧
      Routed s.netlink packet command c ∧ ListsOf packet c.event) ∧
    (packet.getMessageType ≠ familyId.toNat ∨ FailsToRead packet command → call = none)

/-- A list of a scan is cut off, and the other one is so too, or readable, or absent. -/
structure CutOffLists (packet : NL80211Packet) : Prop where
  ssids : packet.CutOff attrScanSsids ∨ ∃ ssids, packet.HasList attrScanSsids bytesEntry ssids
  frequencies : packet.CutOff attrScanFrequencies ∨
    ∃ freqs, packet.HasList attrScanFrequencies (intEntry .uint32) freqs
  cutOff : packet.CutOff attrScanSsids ∨ packet.CutOff attrScanFrequencies

/-- The end of a scan of an interface that a handler is registered for, with such lists. -/
structure MistakesList (familyId : UInt16) (netlink : NetlinkManager) (packet : NL80211Packet)
    (command : ℕ) : Prop where
  family : packet.getMessageType = familyId.toNat
  scan : command = cmdNewScanResults ∨ command = cmdScanAborted
  heard : ∃ index owner, packet.getUInt32 attrIfindex = .ok (some index) ∧
    netlink.handler? .scanResultNotification index = some owner
  lists : CutOffLists packet

theorem exists_takesList {α : Type} {id : ℕ} {entry : List UInt8 → α → Prop}
    (h : packet.CutOff id ∨ ∃ values, packet.HasList id entry values) :
    ∃ values, packet.TakesList id entry values := by
  rcases h with hcut | ⟨values, hlist⟩
  · exact ⟨[], .inr ⟨hcut, rfl⟩⟩
  · exact ⟨values, .inl hlist⟩

/-- A list that is cut off is taken for one that is not there. -/
theorem exists_routed_of_mistakesList {familyId : UInt16}
    (h : MistakesList familyId s.netlink packet command) :
    ∃ c, Routed s.netlink packet command c ∧ ¬ ListsOf packet c.event := by
  obtain ⟨index, owner, hindex, howner⟩ := h.heard
  obtain ⟨ssids, hssids⟩ := exists_takesList h.lists.ssids
  obtain ⟨freqs, hfreqs⟩ := exists_takesList h.lists.frequencies
  have hnot (aborted : Bool) : ¬ ListsOf packet
      (.scanResults index aborted ssids (freqs.map UInt32.ofInt)) := by
    rintro ⟨hssids, freqs, hfreqs, -⟩
    exact h.lists.cutOff.elim hssids.not_cutOff hfreqs.not_cutOff
  rcases h.scan with rfl | rfl
  · exact ⟨⟨_, index, owner, _⟩, ⟨rfl, hindex, howner, .newScanResults hssids hfreqs⟩, hnot false⟩
  · exact ⟨⟨_, index, owner, _⟩, ⟨rfl, hindex, howner, .scanAborted hssids hfreqs⟩, hnot true⟩

/-- The lists that are taken are those in the packet, or one is cut off. -/
theorem listsOf_or_cutOffLists {aborted : Bool} {ssids : List (List UInt8)} {freqs : List ℤ}
    (hssids : packet.TakesList attrScanSsids bytesEntry ssids)
    (hfreqs : packet.TakesList attrScanFrequencies (intEntry .uint32) freqs) :
    ListsOf packet (.scanResults index aborted ssids (freqs.map UInt32.ofInt)) ∨
      CutOffLists packet := by
  have hfreqs' : packet.CutOff attrScanFrequencies ∨
      ∃ freqs, packet.HasList attrScanFrequencies (intEntry .uint32) freqs :=
    hfreqs.elim (fun hlist => .inr ⟨freqs, hlist⟩) fun hcut => .inl hcut.1
  rcases hssids with hssids | ⟨hcut, -⟩
  · rcases hfreqs with hfreqs | ⟨hcut, -⟩
    · exact .inl ⟨hssids, freqs, hfreqs, rfl⟩
    · exact .inr ⟨.inr ⟨ssids, hssids⟩, hfreqs', .inr hcut⟩
  · exact .inr ⟨.inl hcut, hfreqs', .inl hcut⟩

theorem listsOf_of_not_mistakesList {familyId : UInt16} {netlink : NetlinkManager} {c : HandlerCall}
    (hfamily : packet.getMessageType = familyId.toNat) (h : Routed netlink packet command c)
    (hright : ¬ MistakesList familyId netlink packet command) : ListsOf packet c.event := by
  obtain ⟨table, index, owner, event⟩ := c
  obtain ⟨htable, hindex, howner, hcarries⟩ := h
  dsimp only at htable hindex howner hcarries
  have hmistakes (hscan : command = cmdNewScanResults ∨ command = cmdScanAborted) :
      ¬ CutOffLists packet := by
    have htable' : eventTable command = some .scanResultNotification := by
      rcases hscan with rfl | rfl <;> rfl
    obtain rfl := Option.some.inj (htable.symm.trans htable')
    exact fun hcut => hright ⟨hfamily, hscan, ⟨index, owner, hindex, howner⟩, hcut⟩
  cases hcarries with
  | newScanResults hssids hfreqs =>
    exact (listsOf_or_cutOffLists hssids hfreqs).resolve_right (hmistakes (.inl rfl))
  | scanAborted hssids hfreqs =>
    exact (listsOf_or_cutOffLists hssids hfreqs).resolve_right (hmistakes (.inr rfl))
  | _ => trivial

/-- A broadcast of an interface-scoped command is routed as it should be, unless a list at the
end of a scan is cut off and the handler is called as if it were not there. -/
theorem broadcastHandler_routes_iff (familyId : UInt16) (regType : UInt8) (packet : NL80211Packet)
    (s : EventState) {command : ℕ} (hcommand : packet.getCommand = .ok command)
    (hscoped : eventTable command ≠ none) :
    RoutesRight familyId packet command s ((broadcastHandler familyId regType packet).after s) ↔
      ¬ MistakesList familyId s.netlink packet command := by
  obtain ⟨call, hafter, hcall⟩ :=
    broadcastHandler_calls familyId regType packet s hcommand hscoped
  rw [hafter]
  constructor
  · intro hright hmistakes
    obtain ⟨c, hrouted, hlists⟩ := exists_routed_of_mistakesList hmistakes
    obtain ⟨call', hcalls, hcall', -⟩ := hright.calls
    have hsame : call'.toList = call.toList := (List.append_cancel_left hcalls).symm
    have hmade : call' = some c := by
      rw [(hcall c).mpr ⟨hmistakes.family, hrouted⟩] at hsame
      cases call' with
      | none => cases hsame
      | some c' => rw [List.cons.inj hsame |>.1]
    exact hlists ((hcall' c).mp hmade).2.2
  · intro hright
    refine ⟨rfl, rfl, call, rfl, fun c => ?_, ?_⟩
    · rw [hcall c]
      constructor
      · rintro ⟨hfamily, hrouted⟩
        exact ⟨hfamily, hrouted, listsOf_of_not_mistakesList hfamily hrouted hright⟩
      · rintro ⟨hfamily, hrouted, -⟩
        exact ⟨hfamily, hrouted⟩
    · intro hfails
      rw [Option.eq_none_iff_forall_ne_some]
      intro c hc
      obtain ⟨hfamily, hrouted⟩ := (hcall c).mp hc
      have hlists := listsOf_of_not_mistakesList hfamily hrouted hright
      exact not_routed_of_failsToRead (hfails.resolve_left (absurd hfamily)) hlists hrouted

/-- A channel switch of interface 7, on which object 3 listens; object 4 listens on
interface 8. -/
theorem broadcastHandler_routes_channel_switch :
    let packet := (((NL80211Packet.ofHeader 24 88 0 0).addAttribute
      (NL80211Attr.ofInt .uint32 attrIfindex 7)).addAttribute
      (NL80211Attr.ofInt .uint32 attrWiphyFreq 5180)).addAttribute
      (NL80211Attr.ofInt .uint32 attrChannelWidth 3)
    let netlink := (NetlinkManager.empty.subscribe .channelSwitchEvent 7 3).subscribe
      .channelSwitchEvent 8 4
    ((broadcastHandler 24 0 packet).after ⟨netlink, [], []⟩).calls =
      [⟨.channelSwitchEvent, 7, 3, .channelSwitch 5180 .bw80⟩] := by
  intro packet netlink
  have hright := (broadcastHandler_routes_iff 24 0 packet ⟨netlink, [], []⟩
    (by decide +kernel : packet.getCommand = .ok cmdChSwitchNotify) (by decide)).mpr
    fun hmistakes => hmistakes.scan.elim (by decide) (by decide)
  obtain ⟨call, hcalls, hrouted, -⟩ := hright.calls
  have hcarries : Carries packet 7 cmdChSwitchNotify (.channelSwitch 5180 (getBandwidthType 3)) :=
    .channelSwitch (by decide +kernel) (by decide +kernel)
  have hcall := (hrouted ⟨.channelSwitchEvent, 7, 3, .channelSwitch 5180 .bw80⟩).mpr
    ⟨by decide +kernel, ⟨rfl, by decide +kernel, by decide +kernel, hcarries⟩, trivial⟩
  rw [hcalls, hcall]
  rfl

/-- The results of a scan of interface 7, on which object 3 listens. Of the list of SSIDs there
is a header that announces twelve bytes, and nothing behind it. The handler is called without
any SSID. -/
theorem cut_off_ssids_taken_for_none :
    let packet : NL80211Packet := ⟨[32, 0, 0, 0, 24, 0, 0, 0, 0, 0, 0, 0, 0, 0, 0, 0, 34, 1, 0, 0,
      8, 0, 3, 0, 7, 0, 0, 0, 12, 0, 45, 0]⟩
    let s : EventState := ⟨NetlinkManager.empty.subscribe .scanResultNotification 7 3, [], []⟩
    let t := (broadcastHandler 24 0 packet).after s
    packet.isValid = true ∧ packet.getCommand = .ok cmdNewScanResults ∧
      t.calls = [⟨.scanResultNotification, 7, 3, .scanResults 7 false [] []⟩] ∧
      FailsToRead packet cmdNewScanResults ∧ ¬ RoutesRight 24 packet cmdNewScanResults s t := by
  intro packet s t
  have hcalls : t.calls = [⟨.scanResultNotification, 7, 3, .scanResults 7 false [] []⟩] := by
    decide +kernel
  have hstart : MeetsHeader packet.data attrScanSsids NL80211Packet.attributeStart 20 :=
    .first (by decide)
  have hmeets := hstart.behind (by decide) (by decide)
  have hnext : 20 + nlaAlign (nlaLen packet.data 20) = 28 := by decide
  rw [hnext] at hmeets
  have hfirst : IsFirst packet.data NL80211Packet.attributeStart attrScanSsids 28 :=
    ⟨hmeets, by decide⟩
  have hcut : packet.CutOff attrScanSsids := ⟨28, hfirst, fun hwhole => absurd hwhole.1 (by decide)⟩
  have hfails : FailsToRead packet cmdNewScanResults :=
    .ssids (.inl rfl) ⟨28, hfirst⟩ fun ssids hlist => hlist.not_cutOff hcut
  refine ⟨by decide, by decide, hcalls, hfails, fun hright => ?_⟩
  obtain ⟨call, hmade, -, hnone⟩ := hright.calls
  rw [hcalls, hnone (.inr hfails)] at hmade
  cases hmade

end NetlinkManager

end Wificond
