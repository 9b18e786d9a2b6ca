import Wificond.Runs
import Wificond.Server

/-!
# The effect of each call

A call either leaves the interface objects alone, or adds one, or removes one, or
removes them all. Bookkeeping of wiphys and bands never touches an object.
-/
namespace Wificond

variable {k : Kernel} {ifaceName : IfaceName} {wiphyIndex : UInt32} {interface : InterfaceInfo}
variable {s t u : Server} {number : ℕ}

/-- The interface that the kernel reports under a name, with its wiphy. -/
def Kernel.reported (k : Kernel) (ifaceName : IfaceName) : Option (InterfaceInfo × UInt32) :=
  (k.getWiphyIndex 0 ifaceName).bind fun wiphyIndex =>
    if (k.getInterfaces wiphyIndex).1 then
      ((k.getInterfaces wiphyIndex).2.find? fun iface => iface.name == ifaceName).map
        fun iface => (iface, wiphyIndex)
    else none

theorem Kernel.getWiphyIndex_of_reported
    (h : k.reported ifaceName = some (interface, wiphyIndex)) :
    k.getWiphyIndex 0 ifaceName = some wiphyIndex := by
  unfold Kernel.reported at h
  obtain ⟨w, hw, h⟩ := Option.bind_eq_some_iff.mp h
  split_ifs at h
  obtain ⟨iface, -, heq⟩ := Option.map_eq_some_iff.mp h
  rw [hw, (Prod.mk.inj heq).2]

theorem Kernel.mem_of_reported (h : k.reported ifaceName = some (interface, wiphyIndex)) :
    interface ∈ (k.getInterfaces wiphyIndex).2 ∧ interface.name = ifaceName := by
  unfold Kernel.reported at h
  obtain ⟨w, -, h⟩ := Option.bind_eq_some_iff.mp h
  split_ifs at h
  obtain ⟨iface, hfind, heq⟩ := Option.map_eq_some_iff.mp h
  obtain ⟨rfl, rfl⟩ := Prod.mk.inj heq
  exact ⟨List.mem_of_find?_eq_some hfind, by simpa using List.find?_some hfind⟩

/-- A kernel with one interface, of index 7 on wiphy 0. -/
def Kernel.oneInterface (name : IfaceName) : Kernel where
  getWiphyIndex _ _ := some 0
  getInterfaces _ := (true, [⟨7, 0, name, #v[2, 0, 0, 0, 0, 1]⟩])
  getWiphyInfo _ _ := none
  getCountryCode := none

/-- A client interface, but for its band information. -/
def ClientInterfaceImpl.identity (client : ClientInterfaceImpl) : ClientInterfaceImpl :=
  { client with bandInfo := none }

namespace Server

/-- The same interface objects, registered in the same way. -/
structure SameObjects (s t : Server) : Prop where
  clients : ∀ name : IfaceName, t.clientInterfaces[name]?.map ClientInterfaceImpl.identity =
    s.clientInterfaces[name]?.map ClientInterfaceImpl.identity
  aps : t.apInterfaces = s.apInterfaces
  handler : ∀ table index,
    t.platform.netlink.handler? table index = s.platform.netlink.handler? table index
  upState : t.platform.upState = s.platform.upState
  created : t.platform.created = s.platform.created

namespace SameObjects

theorem refl (s : Server) : SameObjects s s := ⟨fun _ => rfl, rfl, fun _ _ => rfl, rfl, rfl⟩

theorem trans (h : SameObjects s t) (h' : SameObjects t u) : SameObjects s u where
  clients name := (h'.clients name).trans (h.clients name)
  aps := h'.aps.trans h.aps
  handler table index := (h'.handler table index).trans (h.handler table index)
  upState := h'.upState.trans h.upState
  created := h'.created.trans h.created

theorem symm (h : SameObjects s t) : SameObjects t s where
  clients name := (h.clients name).symm
  aps := h.aps.symm
  handler table index := (h.handler table index).symm
  upState := h.upState.symm
  created := h.created.symm

theorem exists_client (h : SameObjects s t) {name : IfaceName} {client : ClientInterfaceImpl}
    (hc : t.clientInterfaces[name]? = some client) :
    ∃ client', s.clientInterfaces[name]? = some client' ∧ client'.id = client.id ∧
      client'.interfaceIndex = client.interfaceIndex ∧
      client'.interfaceName = client.interfaceName := by
  have heq := h.clients name
  rw [hc, Option.map_some, eq_comm, Option.map_eq_some_iff] at heq
  obtain ⟨client', hc', hidentity⟩ := heq
  have hparts := ClientInterfaceImpl.mk.inj hidentity
  exact ⟨client', hc', hparts.1, hparts.2.2.2.1, hparts.2.2.1⟩

theorem mem_clients (h : SameObjects s t) (name : IfaceName) :
    name ∈ t.clientInterfaces ↔ name ∈ s.clientInterfaces := by
  rw [Std.ExtTreeMap.mem_iff_isSome_getElem?, Std.ExtTreeMap.mem_iff_isSome_getElem?,
    ← Option.isSome_map (f := ClientInterfaceImpl.identity), h.clients, Option.isSome_map]

end SameObjects

theorem exists_updateBandWiphyIndexMap (s : Server) (k : Kernel) (number : ℕ) (wiphyIndex : Int32) :
    ∃ bands, s.updateBandWiphyIndexMap k number wiphyIndex =
      { s with bandToWiphyIndexMap := bands } := by
  unfold updateBandWiphyIndexMap
  split
  · exact ⟨s.bandToWiphyIndexMap, rfl⟩
  · exact ⟨_, rfl⟩

theorem exists_recordWiphyIndex (s : Server) (k : Kernel) (number : ℕ) (ifaceName : IfaceName)
    (wiphyIndex : UInt32) :
    ∃ bands, s.recordWiphyIndex k number ifaceName wiphyIndex =
      { s with
        bandToWiphyIndexMap := bands
        ifaceToWiphyIndexMap := s.ifaceToWiphyIndexMap.insert ifaceName wiphyIndex } := by
  unfold recordWiphyIndex
  split
  · obtain ⟨bands, h⟩ := exists_updateBandWiphyIndexMap s k number wiphyIndex.toInt32
    exact ⟨bands, by rw [h]⟩
  · exact ⟨s.bandToWiphyIndexMap, rfl⟩

theorem exists_releaseWiphyIndex (s : Server) (ifaceName : IfaceName) :
    ∃ bands, s.releaseWiphyIndex ifaceName =
      { s with
        bandToWiphyIndexMap := bands
        ifaceToWiphyIndexMap := s.ifaceToWiphyIndexMap.erase ifaceName } := by
  unfold releaseWiphyIndex
  split
  · next h =>
    refine ⟨s.bandToWiphyIndexMap, ?_⟩
    rw [OrderedMap.erase_eq_self (by simp [Std.ExtTreeMap.mem_iff_isSome_getElem?, h])]
  · dsimp only
    split
    · exact ⟨_, rfl⟩
    · exact ⟨_, rfl⟩

theorem sameObjects_recordWiphyIndex :
    SameObjects s (s.recordWiphyIndex k number ifaceName wiphyIndex) := by
  obtain ⟨bands, h⟩ := exists_recordWiphyIndex s k number ifaceName wiphyIndex
  rw [h]
  exact ⟨fun _ => rfl, rfl, fun _ _ => rfl, rfl, rfl⟩

theorem sameObjects_releaseWiphyIndex : SameObjects s (s.releaseWiphyIndex ifaceName) := by
  obtain ⟨bands, h⟩ := exists_releaseWiphyIndex s ifaceName
  rw [h]
  exact ⟨fun _ => rfl, rfl, fun _ _ => rfl, rfl, rfl⟩

theorem setupInterface_fst : (s.setupInterface k ifaceName).1 = k.reported ifaceName := by
  unfold setupInterface Kernel.reported
  cases k.getWiphyIndex 0 ifaceName with
  | none => rfl
  | some wiphyIndex =>
    simp only [Option.bind_some]
    split_ifs
    · cases (k.getInterfaces wiphyIndex).2.find? fun iface => iface.name == ifaceName <;> rfl
    · rfl

/-- Setting an interface up changes a subscription and the cached list, in every outcome. -/
theorem exists_setupInterface (s : Server) (k : Kernel) (ifaceName : IfaceName) :
    ∃ regDomain debug, (s.setupInterface k ifaceName).2 =
      { s with
        platform :=
          { s.platform with
            netlink := { s.platform.netlink with onRegDomainChangedHandler := regDomain } }
        debugInterfaces := debug } := by
  unfold setupInterface
  split
  · exact ⟨s.platform.netlink.onRegDomainChangedHandler, s.debugInterfaces, rfl⟩
  · next wiphyIndex _ =>
    refine ⟨s.platform.netlink.onRegDomainChangedHandler.insert wiphyIndex,
      (k.getInterfaces wiphyIndex).2, ?_⟩
    dsimp only
    split
    · split <;> rfl
    · rfl

theorem sameObjects_setupInterface (s : Server) (k : Kernel) (ifaceName : IfaceName) :
    SameObjects s (s.setupInterface k ifaceName).2 := by
  obtain ⟨regDomain, debug, h⟩ := exists_setupInterface s k ifaceName
  rw [h]
  exact ⟨fun _ => rfl, rfl, fun _ _ => rfl, rfl, rfl⟩

/-- A client interface constructed, announced and stored. -/
def addClientInterface (k : Kernel) (ifaceName : IfaceName) (interface : InterfaceInfo)
    (wiphyIndex : UInt32) (s : Server) : Server :=
  let (client, platform) := ClientInterfaceImpl.create k wiphyIndex interface s.platform
  ({ s with platform := platform }.broadcastClientInterfaceReady client.id).storeClientInterface
    ifaceName client

def addApInterface (ifaceName : IfaceName) (interface : InterfaceInfo) (s : Server) : Server :=
  let (ap, platform) := ApInterfaceImpl.create interface s.platform
  ({ s with platform := platform }.broadcastApInterfaceReady ap.id).storeApInterface ifaceName ap

@[simp] theorem clientInterfaces_addClientInterface :
    (s.addClientInterface k ifaceName interface wiphyIndex).clientInterfaces =
      s.clientInterfaces.insert ifaceName
        (ClientInterfaceImpl.create k wiphyIndex interface s.platform).1 := rfl

@[simp] theorem apInterfaces_addClientInterface :
    (s.addClientInterface k ifaceName interface wiphyIndex).apInterfaces = s.apInterfaces := rfl

@[simp] theorem clientInterfaces_addApInterface :
    (s.addApInterface ifaceName interface).clientInterfaces = s.clientInterfaces := rfl

@[simp] theorem apInterfaces_addApInterface :
    (s.addApInterface ifaceName interface).apInterfaces =
      s.apInterfaces.insert ifaceName (ApInterfaceImpl.create interface s.platform).1 := rfl

theorem createClientInterface_of_none (h : k.reported ifaceName = none) :
    (s.createClientInterface k ifaceName).2 = (s.setupInterface k ifaceName).2 := by
  simp [createClientInterface, setupInterface_fst, h]

theorem createApInterface_of_none (h : k.reported ifaceName = none) :
    (s.createApInterface k ifaceName).2 = (s.setupInterface k ifaceName).2 := by
  simp [createApInterface, setupInterface_fst, h]

theorem createClientInterface_of_some
    (h : k.reported ifaceName = some (interface, wiphyIndex)) :
    (s.createClientInterface k ifaceName).2 =
      ((s.setupInterface k ifaceName).2.addClientInterface k ifaceName interface
        wiphyIndex).recordWiphyIndex k 1 ifaceName wiphyIndex := by
  simp [createClientInterface, setupInterface_fst, h, addClientInterface]

theorem createApInterface_of_some (h : k.reported ifaceName = some (interface, wiphyIndex)) :
    (s.createApInterface k ifaceName).2 =
      ((s.setupInterface k ifaceName).2.addApInterface ifaceName interface).recordWiphyIndex
        k 0 ifaceName wiphyIndex := by
  simp [createApInterface, setupInterface_fst, h, addApInterface]

def removeClientInterface (ifaceName : IfaceName) (s : Server) : Server :=
  match s.clientInterfaces[ifaceName]? with
  | none => s
  | some client =>
    let s := s.broadcastClientInterfaceTornDown client.id
    { s with
      clientInterfaces := s.clientInterfaces.erase ifaceName
      platform := client.destroy s.platform }

def removeApInterface (ifaceName : IfaceName) (s : Server) : Server :=
  match s.apInterfaces[ifaceName]? with
  | none => s
  | some ap =>
    let s := s.broadcastApInterfaceTornDown ap.id
    { s with
      apInterfaces := s.apInterfaces.erase ifaceName
      platform := ap.destroy s.platform }

theorem ifaceToWiphyIndexMap_removeClientInterface :
    (s.removeClientInterface ifaceName).ifaceToWiphyIndexMap = s.ifaceToWiphyIndexMap := by
  unfold removeClientInterface
  split <;> rfl

theorem ifaceToWiphyIndexMap_removeApInterface :
    (s.removeApInterface ifaceName).ifaceToWiphyIndexMap = s.ifaceToWiphyIndexMap := by
  unfold removeApInterface
  split <;> rfl

@[simp] theorem clientInterfaces_removeClientInterface :
    (s.removeClientInterface ifaceName).clientInterfaces =
      s.clientInterfaces.erase ifaceName := by
  unfold removeClientInterface
  split
  · next h => rw [OrderedMap.erase_eq_self (by simp [Std.ExtTreeMap.mem_iff_isSome_getElem?, h])]
  · rfl

@[simp] theorem apInterfaces_removeClientInterface :
    (s.removeClientInterface ifaceName).apInterfaces = s.apInterfaces := by
  unfold removeClientInterface
  split <;> rfl

@[simp] theorem clientInterfaces_removeApInterface :
    (s.removeApInterface ifaceName).clientInterfaces = s.clientInterfaces := by
  unfold removeApInterface
  split <;> rfl

@[simp] theorem apInterfaces_removeApInterface :
    (s.removeApInterface ifaceName).apInterfaces = s.apInterfaces.erase ifaceName := by
  unfold removeApInterface
  split
  · next h => rw [OrderedMap.erase_eq_self (by simp [Std.ExtTreeMap.mem_iff_isSome_getElem?, h])]
  · rfl

theorem tearDownClientInterface_eq :
    (s.tearDownClientInterface ifaceName).2 =
      (s.removeClientInterface ifaceName).releaseWiphyIndex ifaceName := by
  unfold tearDownClientInterface removeClientInterface
  split <;> simp_all

theorem tearDownApInterface_eq :
    (s.tearDownApInterface ifaceName).2 =
      (s.removeApInterface ifaceName).releaseWiphyIndex ifaceName := by
  unfold tearDownApInterface removeApInterface
  split <;> simp_all

theorem clientInterfaces_clearApInterfaces :
    s.clearApInterfaces.clientInterfaces = s.clientInterfaces :=
  Runs.foldl_frame clientInterfaces fun _ _ => rfl

theorem clientInterfaces_clearWiphyIndices :
    s.clearWiphyIndices.clientInterfaces = s.clientInterfaces :=
  Runs.foldl_frame clientInterfaces fun _ _ => rfl

theorem apInterfaces_clearWiphyIndices : s.clearWiphyIndices.apInterfaces = s.apInterfaces :=
  Runs.foldl_frame apInterfaces fun _ _ => rfl

@[simp] theorem clientInterfaces_tearDownInterfaces :
    s.tearDownInterfaces.clientInterfaces = ∅ :=
  clientInterfaces_clearWiphyIndices.trans clientInterfaces_clearApInterfaces

@[simp] theorem apInterfaces_tearDownInterfaces : s.tearDownInterfaces.apInterfaces = ∅ :=
  apInterfaces_clearWiphyIndices

@[simp] theorem ifaceToWiphyIndexMap_tearDownInterfaces :
    s.tearDownInterfaces.ifaceToWiphyIndexMap = ∅ := rfl

theorem ClientInterfaceImpl.identity_updateBandInfo (client : ClientInterfaceImpl) :
    (client.updateBandInfo k number).identity = client.identity := by
  unfold ClientInterfaceImpl.updateBandInfo
  split <;> rfl

theorem sameObjects_updateClientBandInfo :
    SameObjects s (s.updateClientBandInfo k number ifaceName) := by
  unfold updateClientBandInfo
  split
  · exact SameObjects.refl s
  · next client hc =>
    refine ⟨fun name => ?_, rfl, fun _ _ => rfl, rfl, rfl⟩
    rw [Std.ExtTreeMap.getElem?_insert]
    split_ifs with hname
    · rw [← Std.LawfulEqCmp.compare_eq_iff_eq.mp hname, hc, Option.map_some, Option.map_some,
        ClientInterfaceImpl.identity_updateBandInfo]
    · rfl

theorem sameObjects_handleInterface (state : Server × List UInt32) :
    SameObjects state.1 (handleInterface k number ifaceName state).1 := by
  unfold handleInterface
  split
  · exact SameObjects.refl _
  · next wiphyIndex _ =>
    split_ifs
    · exact SameObjects.refl _
    · obtain ⟨bands, h⟩ := exists_updateBandWiphyIndexMap state.1 k (2 * number + 1)
        wiphyIndex.toInt32
      rw [h]
      exact ⟨fun _ => rfl, rfl, fun _ _ => rfl, rfl, rfl⟩

/-- Country code changes reach the band data only. -/
theorem sameObjects_handleCountryCodeChanged : SameObjects s (s.handleCountryCodeChanged k) := by
  let R : Server × List UInt32 → Server × List UInt32 → Prop := fun p q => SameObjects p.1 q.1
  have hrefl : ∀ p, R p p := fun p => SameObjects.refl p.1
  have htrans : ∀ p q r, R p q → R q r → R p r := fun _ _ _ h h' => h.trans h'
  refine htrans (s, []) _ _ (Runs.foldl_related hrefl htrans ?_)
    (Runs.foldl_related hrefl htrans ?_)
  · intro p entry
    exact SameObjects.trans sameObjects_updateClientBandInfo
      (sameObjects_handleInterface (p.1.updateClientBandInfo k entry.2 entry.1, p.2))
  · intro p entry
    exact sameObjects_handleInterface p

theorem ifaceToWiphyIndexMap_updateClientBandInfo :
    (s.updateClientBandInfo k number ifaceName).ifaceToWiphyIndexMap =
      s.ifaceToWiphyIndexMap := by
  unfold updateClientBandInfo
  split <;> rfl

theorem ifaceToWiphyIndexMap_handleInterface {state : Server × List UInt32} :
    (handleInterface k number ifaceName state).1.ifaceToWiphyIndexMap =
      state.1.ifaceToWiphyIndexMap := by
  unfold handleInterface
  split
  · rfl
  · next wiphyIndex _ =>
    split_ifs
    · rfl
    · obtain ⟨bands, h⟩ := exists_updateBandWiphyIndexMap state.1 k (2 * number + 1)
        wiphyIndex.toInt32
      rw [h]

theorem ifaceToWiphyIndexMap_handleCountryCodeChanged :
    (s.handleCountryCodeChanged k).ifaceToWiphyIndexMap = s.ifaceToWiphyIndexMap := by
  let wiphys : Server × List UInt32 → _ := fun state => state.1.ifaceToWiphyIndexMap
  refine (Runs.foldl_frame wiphys ?_).trans (Runs.foldl_frame wiphys ?_)
  · intro state entry
    exact ifaceToWiphyIndexMap_handleInterface
  · intro state entry
    exact ifaceToWiphyIndexMap_handleInterface.trans ifaceToWiphyIndexMap_updateClientBandInfo

theorem exists_reportCountryCode (s : Server) (k : Kernel) (countryCode : List UInt8) :
    ∃ announced, s.reportCountryCode k countryCode = { s with announced := announced } := by
  unfold reportCountryCode
  generalize (if countryCode.isEmpty then k.getCountryCode.getD [] else countryCode) = code
  dsimp only
  split
  · exact ⟨s.announced, rfl⟩
  · exact ⟨_, rfl⟩

theorem sameObjects_reportCountryCode {countryCode : List UInt8} :
    SameObjects s (s.reportCountryCode k countryCode) := by
  obtain ⟨announced, h⟩ := exists_reportCountryCode s k countryCode
  rw [h]
  exact ⟨fun _ => rfl, rfl, fun _ _ => rfl, rfl, rfl⟩

theorem sameObjects_onRegDomainChanged {countryCode : List UInt8} :
    SameObjects s (s.onRegDomainChanged k wiphyIndex countryCode) := by
  unfold onRegDomainChanged
  dsimp only
  split
  · exact sameObjects_reportCountryCode
  · exact sameObjects_reportCountryCode.trans sameObjects_handleCountryCodeChanged

theorem ifaceToWiphyIndexMap_reportCountryCode {countryCode : List UInt8} :
    (s.reportCountryCode k countryCode).ifaceToWiphyIndexMap = s.ifaceToWiphyIndexMap := by
  obtain ⟨announced, h⟩ := exists_reportCountryCode s k countryCode
  rw [h]

theorem ifaceToWiphyIndexMap_onRegDomainChanged {countryCode : List UInt8} :
    (s.onRegDomainChanged k wiphyIndex countryCode).ifaceToWiphyIndexMap =
      s.ifaceToWiphyIndexMap := by
  unfold onRegDomainChanged
  dsimp only
  split
  · exact ifaceToWiphyIndexMap_reportCountryCode
  · exact ifaceToWiphyIndexMap_handleCountryCodeChanged.trans
      ifaceToWiphyIndexMap_reportCountryCode

end Server

/-- A request that neither creates nor tears down. -/
def Request.Idle : Request → Prop
  | .createApInterface _ | .createClientInterface _ | .tearDownApInterface _
  | .tearDownClientInterface _ | .tearDownInterfaces => False
  | _ => True

namespace Server

theorem sameObjects_serve {call : Call} (h : call.request.Idle) :
    SameObjects s (s.serve call) := by
  obtain ⟨k, request⟩ := call
  cases request with
  | registerWificondEventCallback callback =>
    simp only [serve, registerWificondEventCallback]
    split_ifs <;> exact ⟨fun _ => rfl, rfl, fun _ _ => rfl, rfl, rfl⟩
  | registerCallback callback =>
    simp only [serve, registerCallback]
    split_ifs <;> exact ⟨fun _ => rfl, rfl, fun _ _ => rfl, rfl, rfl⟩
  | unregisterWificondEventCallback callback | unregisterCallback callback =>
    exact ⟨fun _ => rfl, rfl, fun _ _ => rfl, rfl, rfl⟩
  | notifyCountryCodeChanged => exact sameObjects_handleCountryCodeChanged
  | onRegDomainChanged wiphyIndex countryCode => exact sameObjects_onRegDomainChanged
  | createApInterface _ | createClientInterface _ | tearDownApInterface _
  | tearDownClientInterface _ | tearDownInterfaces => exact absurd h id

theorem ifaceToWiphyIndexMap_serve (s : Server) {call : Call} (h : call.request.Idle) :
    (s.serve call).ifaceToWiphyIndexMap = s.ifaceToWiphyIndexMap := by
  obtain ⟨k, request⟩ := call
  cases request with
  | registerWificondEventCallback callback =>
    simp only [serve, registerWificondEventCallback]
    split_ifs <;> rfl
  | registerCallback callback =>
    simp only [serve, registerCallback]
    split_ifs <;> rfl
  | unregisterWificondEventCallback callback | unregisterCallback callback => rfl
  | notifyCountryCodeChanged => exact ifaceToWiphyIndexMap_handleCountryCodeChanged
  | onRegDomainChanged wiphyIndex countryCode => exact ifaceToWiphyIndexMap_onRegDomainChanged
  | createApInterface _ | createClientInterface _ | tearDownApInterface _
  | tearDownClientInterface _ | tearDownInterfaces => exact absurd h id

end Server

end Wificond
