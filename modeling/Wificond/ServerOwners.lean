import Wificond.Nl80211
import Wificond.ServerHandlers

/-!
# Owners of handlers

A handler table keeps a raw pointer to the object that registered, one slot for each
index, and a slot is cleared by index without regard to its owner. Every slot is still
that of an object which the server holds: an object clears its slots when it goes, and a
slot can only be taken by an object of the same index.
-/
namespace Wificond

/-- The table in which `BroadcastHandler` looks for the handler of a command. -/
def HandlerTable.ofCommand (command : ℕ) : Option HandlerTable :=
  if command = cmdNewScanResults ∨ command = cmdScanAborted then some .scanResultNotification
  else if command = cmdSchedScanResults ∨ command = cmdSchedScanStopped then
    some .schedScanResultNotification
  else if command = cmdConnect ∨ command = cmdAssociate ∨ command = cmdRoam ∨
      command = cmdDisconnect ∨ command = cmdDisassociate then some .mlmeEvent
  else if command = cmdNewStation ∨ command = cmdDelStation then some .stationEvent
  else if command = cmdChSwitchNotify then some .channelSwitchEvent
  else if command = cmdFrameTxStatus then some .frameTxStatusEvent
  else none

/-- The object whose handler a broadcast for an interface runs, if there is one. -/
def NetlinkManager.broadcastOwner (n : NetlinkManager) (command : ℕ) (index : UInt32) :
    Option ObjectId :=
  (HandlerTable.ofCommand command).bind fun table => n.handler? table index

namespace Server

variable {s t : Server} {k : Kernel} {ifaceName : IfaceName} {interface : InterfaceInfo}
variable {wiphyIndex : UInt32} {call : Call} {owner : ObjectId} {table : HandlerTable}
variable {index : UInt32}

/-- The server holds an object of this identity. An object is destroyed when the server
lets go of it. -/
inductive Live (s : Server) : ObjectId → Prop
  | client (name : IfaceName) (client : ClientInterfaceImpl)
      (h : s.clientInterfaces[name]? = some client) : Live s client.id
  | ap (name : IfaceName) (ap : ApInterfaceImpl) (h : s.apInterfaces[name]? = some ap) :
      Live s ap.id

/-- The server holds an object of this identity that registers in `table` under `index`. -/
inductive Registers (s : Server) (table : HandlerTable) (index : UInt32) : ObjectId → Prop
  | client (name : IfaceName) (client : ClientInterfaceImpl)
      (h : s.clientInterfaces[name]? = some client) (htable : table ∈ ClientInterfaceImpl.tables)
      (hindex : client.interfaceIndex = index) : Registers s table index client.id
  | ap (name : IfaceName) (ap : ApInterfaceImpl) (h : s.apInterfaces[name]? = some ap)
      (htable : table ∈ ApInterfaceImpl.tables) (hindex : ap.interfaceIndex = index) :
      Registers s table index ap.id

theorem Registers.live (h : s.Registers table index owner) : s.Live owner := by
  cases h with
  | client name client h => exact .client name client h
  | ap name ap h => exact .ap name ap h

/-- Every slot belongs to an object that is held. -/
def HandlersOwned (s : Server) : Prop :=
  ∀ table index owner, s.platform.netlink.handler? table index = some owner →
    s.Registers table index owner

theorem registers_congr (h : SameObjects s t) (hs : s.Registers table index owner) :
    t.Registers table index owner := by
  cases hs with
  | client name client hc htable hindex =>
    obtain ⟨client', hc', hid, hindex', -⟩ := h.symm.exists_client hc
    rw [← hid]
    exact .client name client' hc' htable (hindex'.trans hindex)
  | ap name ap ha htable hindex =>
    rw [← h.aps] at ha
    exact .ap name ap ha htable hindex

theorem handlersOwned_congr (h : SameObjects s t) (hs : s.HandlersOwned) : t.HandlersOwned := by
  intro table index owner hslot
  rw [h.handler] at hslot
  exact registers_congr h (hs table index owner hslot)

theorem handlersOwned_addClientInterface (hs : s.HandlersOwned) :
    (s.addClientInterface k ifaceName interface wiphyIndex).HandlersOwned := by
  intro table index owner hslot
  rw [handler?_addClientInterface] at hslot
  split_ifs at hslot with hreplaced hadded
  · obtain rfl := Option.some.inj hslot
    exact .client ifaceName (ClientInterfaceImpl.create k wiphyIndex interface s.platform).1
      (by simp) hadded.1 hadded.2.symm
  · cases hs table index owner hslot with
    | client name client hc htable hindex =>
      have hn : ifaceName ≠ name := by
        rintro rfl
        exact hreplaced ⟨htable, by simp [hc, hindex]⟩
      exact .client name client (by simpa [Std.ExtTreeMap.getElem?_insert, hn] using hc) htable
        hindex
    | ap name ap ha htable hindex => exact .ap name ap ha htable hindex

theorem handlersOwned_addApInterface (hs : s.HandlersOwned) :
    (s.addApInterface ifaceName interface).HandlersOwned := by
  intro table index owner hslot
  rw [handler?_addApInterface] at hslot
  split_ifs at hslot with hreplaced hadded
  · obtain rfl := Option.some.inj hslot
    exact .ap ifaceName (ApInterfaceImpl.create interface s.platform).1 (by simp) hadded.1
      hadded.2.symm
  · cases hs table index owner hslot with
    | client name client hc htable hindex => exact .client name client hc htable hindex
    | ap name ap ha htable hindex =>
      have hn : ifaceName ≠ name := by
        rintro rfl
        exact hreplaced ⟨htable, by simp [ha, hindex]⟩
      exact .ap name ap (by simpa [Std.ExtTreeMap.getElem?_insert, hn] using ha) htable hindex

theorem handlersOwned_removeClientInterface (hs : s.HandlersOwned) :
    (s.removeClientInterface ifaceName).HandlersOwned := by
  cases hold : s.clientInterfaces[ifaceName]? with
  | none => simpa [removeClientInterface, hold] using hs
  | some old =>
    intro table index owner hslot
    rw [platform_removeClientInterface hold, ClientInterfaceImpl.handler?_destroy] at hslot
    split_ifs at hslot with hcleared
    cases hs table index owner hslot with
    | client name client hc htable hindex =>
      have hn : ifaceName ≠ name := by
        rintro rfl
        obtain rfl := Option.some.inj (hold.symm.trans hc)
        exact hcleared ⟨htable, hindex.symm⟩
      exact .client name client (by simpa [Std.ExtTreeMap.getElem?_erase, hn] using hc) htable
        hindex
    | ap name ap ha htable hindex => exact .ap name ap (by simpa using ha) htable hindex

theorem handlersOwned_removeApInterface (hs : s.HandlersOwned) :
    (s.removeApInterface ifaceName).HandlersOwned := by
  cases hold : s.apInterfaces[ifaceName]? with
  | none => simpa [removeApInterface, hold] using hs
  | some old =>
    intro table index owner hslot
    rw [platform_removeApInterface hold, ApInterfaceImpl.handler?_destroy] at hslot
    split_ifs at hslot with hcleared
    cases hs table index owner hslot with
    | client name client hc htable hindex =>
      exact .client name client (by simpa using hc) htable hindex
    | ap name ap ha htable hindex =>
      have hn : ifaceName ≠ name := by
        rintro rfl
        obtain rfl := Option.some.inj (hold.symm.trans ha)
        exact hcleared ⟨htable, hindex.symm⟩
      exact .ap name ap (by simpa [Std.ExtTreeMap.getElem?_erase, hn] using ha) htable hindex

/-- Destroying objects one after the other clears the slots of all of them. -/
theorem handler?_foldl_destroy {α : Type*} {tables : List HandlerTable} (indexOf : α → UInt32)
    {destroy : α → Platform → Platform}
    (hdestroy : ∀ a p table index, (destroy a p).netlink.handler? table index =
      if table ∈ tables ∧ index = indexOf a then none else p.netlink.handler? table index)
    (objects : List α) (p : Platform) (table : HandlerTable) (index : UInt32) :
    (objects.foldl (fun p a => destroy a p) p).netlink.handler? table index =
      if table ∈ tables ∧ index ∈ objects.map indexOf then none
      else p.netlink.handler? table index := by
  induction objects generalizing p with
  | nil => simp
  | cons a objects ih =>
    rw [List.foldl_cons, ih, hdestroy, List.map_cons]
    by_cases ht : table ∈ tables <;> by_cases ha : index = indexOf a <;> simp [ht, ha]

/-- What stays registered was registered before, and not by a client. -/
theorem handler?_clearClientInterfaces
    (h : s.clearClientInterfaces.platform.netlink.handler? table index = some owner) :
    s.platform.netlink.handler? table index = some owner ∧
      ∀ (name : IfaceName) client, s.clientInterfaces[name]? = some client →
        table ∈ ClientInterfaceImpl.tables → client.interfaceIndex ≠ index := by
  let told := s.clientInterfaces.toList.foldl
    (fun s entry => s.broadcastClientInterfaceTornDown entry.2.id) s
  have hclients : told.clientInterfaces = s.clientInterfaces :=
    Runs.foldl_frame clientInterfaces fun _ _ => rfl
  have hplatform : told.platform = s.platform := Runs.foldl_frame platform fun _ _ => rfl
  have hslots := handler?_foldl_destroy
    (fun entry : IfaceName × ClientInterfaceImpl => entry.2.interfaceIndex)
    (fun entry => ClientInterfaceImpl.handler?_destroy entry.2)
    told.clientInterfaces.toList told.platform table index
  rw [hclients, hplatform] at hslots
  have hafter : s.clearClientInterfaces.platform = s.clientInterfaces.toList.foldl
      (fun p entry => entry.2.destroy p) s.platform := by
    rw [← hplatform, ← hclients]
    rfl
  rw [hafter, hslots] at h
  split_ifs at h with hcleared
  refine ⟨h, fun name client hc htable hindex => hcleared ⟨htable, ?_⟩⟩
  exact List.mem_map.mpr ⟨(name, client),
    Std.ExtTreeMap.mem_toList_iff_getElem?_eq_some.mpr hc, hindex⟩

theorem handler?_clearApInterfaces
    (h : s.clearApInterfaces.platform.netlink.handler? table index = some owner) :
    s.platform.netlink.handler? table index = some owner ∧
      ∀ (name : IfaceName) ap, s.apInterfaces[name]? = some ap →
        table ∈ ApInterfaceImpl.tables → ap.interfaceIndex ≠ index := by
  let told := s.apInterfaces.toList.foldl
    (fun s entry => s.broadcastApInterfaceTornDown entry.2.id) s
  have haps : told.apInterfaces = s.apInterfaces := Runs.foldl_frame apInterfaces fun _ _ => rfl
  have hplatform : told.platform = s.platform := Runs.foldl_frame platform fun _ _ => rfl
  have hslots := handler?_foldl_destroy
    (fun entry : IfaceName × ApInterfaceImpl => entry.2.interfaceIndex)
    (fun entry => ApInterfaceImpl.handler?_destroy entry.2)
    told.apInterfaces.toList told.platform table index
  rw [haps, hplatform] at hslots
  have hafter : s.clearApInterfaces.platform = s.apInterfaces.toList.foldl
      (fun p entry => entry.2.destroy p) s.platform := by
    rw [← hplatform, ← haps]
    rfl
  rw [hafter, hslots] at h
  split_ifs at h with hcleared
  refine ⟨h, fun name ap ha htable hindex => hcleared ⟨htable, ?_⟩⟩
  exact List.mem_map.mpr ⟨(name, ap),
    Std.ExtTreeMap.mem_toList_iff_getElem?_eq_some.mpr ha, hindex⟩

/-- Marking the interfaces down and releasing the wiphys leaves the tables alone. -/
theorem handler?_clearWiphyIndices :
    s.markDownAllInterfaces.clearWiphyIndices.platform.netlink.handler? table index =
      s.platform.netlink.handler? table index := by
  have hdown : s.markDownAllInterfaces.platform.netlink = s.platform.netlink :=
    Runs.foldl_frame (σ := Platform) Platform.netlink fun _ _ => rfl
  have hwiphys : s.markDownAllInterfaces.clearWiphyIndices.platform.netlink.handlers =
      s.markDownAllInterfaces.platform.netlink.handlers :=
    Runs.foldl_frame (σ := Server) (fun s => s.platform.netlink.handlers) fun _ _ => rfl
  rw [NetlinkManager.handler?, hwiphys, hdown, NetlinkManager.handler?]

theorem apInterfaces_clearClientInterfaces :
    s.clearClientInterfaces.apInterfaces = s.apInterfaces :=
  Runs.foldl_frame apInterfaces fun _ _ => rfl

/-- A server that holds no object has no handler registered. -/
theorem handler?_tearDownInterfaces (hs : s.HandlersOwned) (table : HandlerTable)
    (index : UInt32) : s.tearDownInterfaces.platform.netlink.handler? table index = none := by
  by_contra hsome
  obtain ⟨owner, h⟩ := Option.ne_none_iff_exists'.mp hsome
  rw [tearDownInterfaces, handler?_clearWiphyIndices] at h
  obtain ⟨hslot, haps⟩ := handler?_clearApInterfaces h
  obtain ⟨hslot, hclients⟩ := handler?_clearClientInterfaces hslot
  cases hs table index owner hslot with
  | client name client hc htable hindex => exact hclients name client hc htable hindex
  | ap name ap ha htable hindex =>
    exact haps name ap (apInterfaces_clearClientInterfaces.symm ▸ ha) htable hindex

theorem handlersOwned_serve (hs : s.HandlersOwned) : (s.serve call).HandlersOwned := by
  obtain ⟨k, request⟩ := call
  cases request with
  | createClientInterface name =>
    have hsetup := handlersOwned_congr (sameObjects_setupInterface s k name) hs
    cases hr : k.reported name with
    | none => simpa only [serve, createClientInterface_of_none hr] using hsetup
    | some reported =>
      simp only [serve, createClientInterface_of_some hr]
      exact handlersOwned_congr sameObjects_recordWiphyIndex
        (handlersOwned_addClientInterface hsetup)
  | createApInterface name =>
    have hsetup := handlersOwned_congr (sameObjects_setupInterface s k name) hs
    cases hr : k.reported name with
    | none => simpa only [serve, createApInterface_of_none hr] using hsetup
    | some reported =>
      simp only [serve, createApInterface_of_some hr]
      exact handlersOwned_congr sameObjects_recordWiphyIndex (handlersOwned_addApInterface hsetup)
  | tearDownClientInterface name =>
    simp only [serve, tearDownClientInterface_eq]
    exact handlersOwned_congr sameObjects_releaseWiphyIndex
      (handlersOwned_removeClientInterface hs)
  | tearDownApInterface name =>
    simp only [serve, tearDownApInterface_eq]
    exact handlersOwned_congr sameObjects_releaseWiphyIndex (handlersOwned_removeApInterface hs)
  | tearDownInterfaces =>
    intro table index owner hslot
    exact absurd ((handler?_tearDownInterfaces hs table index).symm.trans hslot) (by simp)
  | registerWificondEventCallback callback | unregisterWificondEventCallback callback
  | registerCallback callback | unregisterCallback callback | notifyCountryCodeChanged
  | onRegDomainChanged wiphyIndex countryCode =>
    exact handlersOwned_congr (sameObjects_serve trivial) hs

theorem handlersOwned_fresh : fresh.HandlersOwned := by
  intro table index owner hslot
  simp [fresh, Platform.initial, NetlinkManager.empty, NetlinkManager.handler?] at hslot

theorem always_handlersOwned (calls : List Call) :
    Runs.Always serve HandlersOwned fresh calls :=
  Runs.always_of_step (fun _ _ hs => handlersOwned_serve hs) handlersOwned_fresh

/-- Between the calls of any run, every handler in a table keyed by interface index, and
whatever a broadcast runs, is that of an object which has not been destroyed. -/
theorem handlers_of_live_objects (calls : List Call) :
    Runs.Always serve (fun s =>
      (∀ table index owner, s.platform.netlink.handler? table index = some owner →
        s.Live owner) ∧
      ∀ command index owner, s.platform.netlink.broadcastOwner command index = some owner →
        s.Live owner) fresh calls := by
  refine Runs.always_mono (fun s hs => ⟨fun table index owner hslot => ?_, ?_⟩)
    (always_handlersOwned calls)
  · exact (hs table index owner hslot).live
  · intro command index owner hrun
    obtain ⟨table, -, hslot⟩ := Option.bind_eq_some_iff.mp hrun
    exact (hs table index owner hslot).live

end Server

end Wificond
