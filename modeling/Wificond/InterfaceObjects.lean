import Mathlib.Tactic
import Std.Data.ExtTreeMap
import Std.Data.ExtTreeSet

/-!
# Interface objects and their handlers

A client or AP interface registers handlers under its interface index when it is
constructed and removes what is registered under that index when it is destroyed.
A handler is identified with the object that registered it; a scanner lives and
dies with its client interface and goes by the client's identity.
-/
namespace Wificond

abbrev IfaceName := List UInt8

abbrev ObjectId := ℕ

structure InterfaceInfo where
  ifIndex : UInt32
  wiphyIndex : UInt32
  name : IfaceName
  macAddress : Vector UInt8 6
  deriving DecidableEq

/-- The frequency lists of a wiphy. -/
structure BandInfo where
  band2g : List UInt32
  band5g : List UInt32
  bandDfs : List UInt32
  band6g : List UInt32
  band60g : List UInt32
  deriving DecidableEq

/-- The kernel's answers during one call. Repeated queries are numbered, and may be
answered differently. -/
structure Kernel where
  getWiphyIndex : ℕ → IfaceName → Option UInt32
  /-- Whether the dump succeeds, and the interfaces filled in either way. -/
  getInterfaces : UInt32 → Bool × List InterfaceInfo
  getWiphyInfo : ℕ → UInt32 → Option BandInfo
  getCountryCode : Option (List UInt8)

/-- The tables of `NetlinkManager` that are keyed by interface index. -/
inductive HandlerTable
  | mlmeEvent
  | frameTxStatusEvent
  | channelSwitchEvent
  | stationEvent
  | scanResultNotification
  | schedScanResultNotification
  deriving DecidableEq

structure NetlinkManager where
  handlers : HandlerTable → Std.ExtTreeMap UInt32 ObjectId
  onRegDomainChangedHandler : Std.ExtTreeSet UInt32

namespace NetlinkManager

def empty : NetlinkManager := ⟨fun _ => ∅, ∅⟩

def handler? (n : NetlinkManager) (table : HandlerTable) (index : UInt32) : Option ObjectId :=
  (n.handlers table)[index]?

def subscribe (table : HandlerTable) (index : UInt32) (owner : ObjectId) (n : NetlinkManager) :
    NetlinkManager :=
  { n with handlers := Function.update n.handlers table ((n.handlers table).insert index owner) }

def unsubscribe (table : HandlerTable) (index : UInt32) (n : NetlinkManager) : NetlinkManager :=
  { n with handlers := Function.update n.handlers table ((n.handlers table).erase index) }

def subscribeStationEvent := subscribe .stationEvent
def unsubscribeStationEvent := unsubscribe .stationEvent
def subscribeChannelSwitchEvent := subscribe .channelSwitchEvent
def unsubscribeChannelSwitchEvent := unsubscribe .channelSwitchEvent
def subscribeScanResultNotification := subscribe .scanResultNotification
def unsubscribeScanResultNotification := unsubscribe .scanResultNotification
def subscribeMlmeEvent := subscribe .mlmeEvent
def unsubscribeMlmeEvent := unsubscribe .mlmeEvent
def subscribeSchedScanResultNotification := subscribe .schedScanResultNotification
def unsubscribeSchedScanResultNotification := unsubscribe .schedScanResultNotification
def subscribeFrameTxStatusEvent := subscribe .frameTxStatusEvent
def unsubscribeFrameTxStatusEvent := unsubscribe .frameTxStatusEvent

/-- Every handler in this table is the server's own. -/
def subscribeRegDomainChange (wiphy : UInt32) (n : NetlinkManager) : NetlinkManager :=
  { n with onRegDomainChangedHandler := n.onRegDomainChangedHandler.insert wiphy }

def unsubscribeRegDomainChange (wiphy : UInt32) (n : NetlinkManager) : NetlinkManager :=
  { n with onRegDomainChangedHandler := n.onRegDomainChangedHandler.erase wiphy }

theorem handler?_subscribe (n : NetlinkManager) (table table' : HandlerTable)
    (index index' : UInt32) (owner : ObjectId) :
    (n.subscribe table index owner).handler? table' index' =
      if table' = table ∧ index' = index then some owner else n.handler? table' index' := by
  by_cases ht : table' = table
  · subst ht
    simp [subscribe, handler?, Std.ExtTreeMap.getElem?_insert, eq_comm (a := index)]
  · simp [subscribe, handler?, ht]

theorem handler?_unsubscribe (n : NetlinkManager) (table table' : HandlerTable)
    (index index' : UInt32) :
    (n.unsubscribe table index).handler? table' index' =
      if table' = table ∧ index' = index then none else n.handler? table' index' := by
  by_cases ht : table' = table
  · subst ht
    simp [unsubscribe, handler?, Std.ExtTreeMap.getElem?_erase, eq_comm (a := index)]
  · simp [unsubscribe, handler?, ht]

/-- A table holds one owner under an index. -/
theorem owner_eq {n : NetlinkManager} {table : HandlerTable} {index index' : UInt32}
    {owner owner' : ObjectId} (h : n.handler? table index = some owner)
    (h' : n.handler? table index' = some owner') (hidx : index = index') : owner = owner' := by
  rw [hidx, h'] at h
  exact (Option.some.inj h).symm

end NetlinkManager

/-- What the interface objects act on: the handler tables, and the last `SetUpState`
issued for each interface. Objects are numbered in the order they are constructed. -/
structure Platform where
  netlink : NetlinkManager
  upState : Std.ExtTreeMap IfaceName Bool
  created : ObjectId

namespace Platform

def initial : Platform := ⟨.empty, ∅, 0⟩

def setUpState (name : IfaceName) (up : Bool) (p : Platform) : Platform :=
  { p with upState := p.upState.insert name up }

end Platform

structure ClientInterfaceImpl where
  id : ObjectId
  wiphyIndex : UInt32
  interfaceName : IfaceName
  interfaceIndex : UInt32
  interfaceMacAddr : Vector UInt8 6
  /-- Unassigned until a `GetWiphyInfo` succeeds. -/
  bandInfo : Option BandInfo
  deriving DecidableEq

structure ApInterfaceImpl where
  id : ObjectId
  interfaceName : IfaceName
  interfaceIndex : UInt32
  deriving DecidableEq

namespace ClientInterfaceImpl

/-- The tables a client interface and its scanner register in. -/
def tables : List HandlerTable :=
  [.mlmeEvent, .frameTxStatusEvent, .channelSwitchEvent, .scanResultNotification,
    .schedScanResultNotification]

/-- The constructor, including that of the scanner. -/
def create (k : Kernel) (wiphy : UInt32) (interface : InterfaceInfo) (p : Platform) :
    ClientInterfaceImpl × Platform :=
  let client : ClientInterfaceImpl :=
    { id := p.created, wiphyIndex := wiphy, interfaceName := interface.name,
      interfaceIndex := interface.ifIndex, interfaceMacAddr := interface.macAddress,
      bandInfo := k.getWiphyInfo 0 wiphy }
  let netlink := p.netlink.subscribeMlmeEvent client.interfaceIndex client.id
  let netlink := netlink.subscribeFrameTxStatusEvent client.interfaceIndex client.id
  let netlink := netlink.subscribeChannelSwitchEvent client.interfaceIndex client.id
  let netlink := netlink.subscribeScanResultNotification client.interfaceIndex client.id
  let netlink := netlink.subscribeSchedScanResultNotification client.interfaceIndex client.id
  let p := { p with netlink := netlink, created := p.created + 1 }
  (client, p.setUpState client.interfaceName true)

/-- The destructor: `ScannerImpl::Invalidate` first. -/
def destroy (client : ClientInterfaceImpl) (p : Platform) : Platform :=
  let netlink := p.netlink.unsubscribeScanResultNotification client.interfaceIndex
  let netlink := netlink.unsubscribeSchedScanResultNotification client.interfaceIndex
  let netlink := netlink.unsubscribeFrameTxStatusEvent client.interfaceIndex
  let netlink := netlink.unsubscribeMlmeEvent client.interfaceIndex
  let netlink := netlink.unsubscribeChannelSwitchEvent client.interfaceIndex
  { p with netlink := netlink }.setUpState client.interfaceName false

def updateBandInfo (k : Kernel) (number : ℕ) (client : ClientInterfaceImpl) :
    ClientInterfaceImpl :=
  match k.getWiphyInfo number client.wiphyIndex with
  | some bandInfo => { client with bandInfo := some bandInfo }
  | none => client

/-- Construction takes over the tables of a client under its index, and no more. -/
theorem handler?_create (k : Kernel) (wiphy : UInt32) (interface : InterfaceInfo) (p : Platform)
    (table : HandlerTable) (index : UInt32) :
    (create k wiphy interface p).2.netlink.handler? table index =
      if table ∈ tables ∧ index = interface.ifIndex then some p.created
      else p.netlink.handler? table index := by
  simp only [create, tables, Platform.setUpState, NetlinkManager.subscribeMlmeEvent,
    NetlinkManager.subscribeFrameTxStatusEvent, NetlinkManager.subscribeChannelSwitchEvent,
    NetlinkManager.subscribeScanResultNotification,
    NetlinkManager.subscribeSchedScanResultNotification, NetlinkManager.handler?_subscribe]
  cases table <;> simp

/-- Destruction clears the tables of a client under its index, whoever registered there. -/
theorem handler?_destroy (client : ClientInterfaceImpl) (p : Platform) (table : HandlerTable)
    (index : UInt32) :
    (client.destroy p).netlink.handler? table index =
      if table ∈ tables ∧ index = client.interfaceIndex then none
      else p.netlink.handler? table index := by
  simp only [destroy, tables, Platform.setUpState, NetlinkManager.unsubscribeMlmeEvent,
    NetlinkManager.unsubscribeFrameTxStatusEvent, NetlinkManager.unsubscribeChannelSwitchEvent,
    NetlinkManager.unsubscribeScanResultNotification,
    NetlinkManager.unsubscribeSchedScanResultNotification, NetlinkManager.handler?_unsubscribe]
  cases table <;> simp

theorem upState_create (k : Kernel) (wiphy : UInt32) (interface : InterfaceInfo) (p : Platform)
    (name : IfaceName) :
    (create k wiphy interface p).2.upState[name]? =
      if name = interface.name then some true else p.upState[name]? := by
  simp [create, Platform.setUpState, Std.ExtTreeMap.getElem?_insert, eq_comm (a := name)]

theorem upState_destroy (client : ClientInterfaceImpl) (p : Platform) (name : IfaceName) :
    (client.destroy p).upState[name]? =
      if name = client.interfaceName then some false else p.upState[name]? := by
  simp [destroy, Platform.setUpState, Std.ExtTreeMap.getElem?_insert, eq_comm (a := name)]

end ClientInterfaceImpl

namespace ApInterfaceImpl

def tables : List HandlerTable := [.stationEvent, .channelSwitchEvent]

def create (interface : InterfaceInfo) (p : Platform) : ApInterfaceImpl × Platform :=
  let ap : ApInterfaceImpl :=
    { id := p.created, interfaceName := interface.name, interfaceIndex := interface.ifIndex }
  let netlink := p.netlink.subscribeStationEvent ap.interfaceIndex ap.id
  let netlink := netlink.subscribeChannelSwitchEvent ap.interfaceIndex ap.id
  (ap, { p with netlink := netlink, created := p.created + 1 })

def destroy (ap : ApInterfaceImpl) (p : Platform) : Platform :=
  let p := p.setUpState ap.interfaceName false
  let netlink := p.netlink.unsubscribeStationEvent ap.interfaceIndex
  let netlink := netlink.unsubscribeChannelSwitchEvent ap.interfaceIndex
  { p with netlink := netlink }

theorem handler?_create (interface : InterfaceInfo) (p : Platform) (table : HandlerTable)
    (index : UInt32) :
    (create interface p).2.netlink.handler? table index =
      if table ∈ tables ∧ index = interface.ifIndex then some p.created
      else p.netlink.handler? table index := by
  simp only [create, tables, NetlinkManager.subscribeStationEvent,
    NetlinkManager.subscribeChannelSwitchEvent, NetlinkManager.handler?_subscribe]
  cases table <;> simp

theorem handler?_destroy (ap : ApInterfaceImpl) (p : Platform) (table : HandlerTable)
    (index : UInt32) :
    (ap.destroy p).netlink.handler? table index =
      if table ∈ tables ∧ index = ap.interfaceIndex then none
      else p.netlink.handler? table index := by
  simp only [destroy, tables, Platform.setUpState, NetlinkManager.unsubscribeStationEvent,
    NetlinkManager.unsubscribeChannelSwitchEvent, NetlinkManager.handler?_unsubscribe]
  cases table <;> simp

/-- An AP interface is not brought up when it is constructed. -/
@[simp] theorem upState_create (interface : InterfaceInfo) (p : Platform) :
    (create interface p).2.upState = p.upState := rfl

theorem upState_destroy (ap : ApInterfaceImpl) (p : Platform) (name : IfaceName) :
    (ap.destroy p).upState[name]? =
      if name = ap.interfaceName then some false else p.upState[name]? := by
  simp [destroy, Platform.setUpState, Std.ExtTreeMap.getElem?_insert, eq_comm (a := name)]

end ApInterfaceImpl

end Wificond
