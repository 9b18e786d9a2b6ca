import Wificond.ServerCalls

/-!
# Live interfaces and their handlers

Handlers are removed by index alone and an interface is brought down by name alone,
so creating or destroying an object can disable another one that shares its index or
its name. The condition on calls below is the one under which no call does so, and it
is exact, call by call.
-/
namespace Wificond

/-- The client's own handlers are registered and its interface was last brought up. -/
def ClientInterfaceImpl.Registered (client : ClientInterfaceImpl) (p : Platform) : Prop :=
  (∀ table ∈ ClientInterfaceImpl.tables,
    p.netlink.handler? table client.interfaceIndex = some client.id) ∧
  p.upState[client.interfaceName]? = some true

def ApInterfaceImpl.Registered (ap : ApInterfaceImpl) (p : Platform) : Prop :=
  ∀ table ∈ ApInterfaceImpl.tables, p.netlink.handler? table ap.interfaceIndex = some ap.id

namespace Server

variable {s t : Server} {k : Kernel} {ifaceName : IfaceName} {interface : InterfaceInfo}
variable {wiphyIndex : UInt32} {call : Call}

structure HandlersRegistered (s : Server) : Prop where
  clients : ∀ (name : IfaceName) client, s.clientInterfaces[name]? = some client →
    client.Registered s.platform
  aps : ∀ (name : IfaceName) ap, s.apInterfaces[name]? = some ap → ap.Registered s.platform

/-- Objects are stored under their own names, and no object is stored twice. -/
structure WellNamed (s : Server) : Prop where
  client : ∀ (name : IfaceName) client, s.clientInterfaces[name]? = some client →
    client.interfaceName = name ∧ client.id < s.platform.created
  ap : ∀ (name : IfaceName) ap, s.apInterfaces[name]? = some ap →
    ap.interfaceName = name ∧ ap.id < s.platform.created
  clients : ∀ (name name' : IfaceName) client client', s.clientInterfaces[name]? = some client →
    s.clientInterfaces[name']? = some client' → client.id = client'.id → name = name'
  aps : ∀ (name name' : IfaceName) ap ap', s.apInterfaces[name]? = some ap →
    s.apInterfaces[name']? = some ap' → ap.id = ap'.id → name = name'
  apart : ∀ (name name' : IfaceName) client ap, s.clientInterfaces[name]? = some client →
    s.apInterfaces[name']? = some ap → client.id ≠ ap.id

/-- No live interface has the index. -/
structure IndexFree (s : Server) (index : UInt32) : Prop where
  clients : ∀ (name : IfaceName) client, s.clientInterfaces[name]? = some client →
    client.interfaceIndex ≠ index
  aps : ∀ (name : IfaceName) ap, s.apInterfaces[name]? = some ap → ap.interfaceIndex ≠ index

/-- A call that disables no live interface: what it adds has an index that is free, no
client takes the place of a client, and no AP interface goes whose name is a client's. -/
def SparesLive (s : Server) (call : Call) : Prop :=
  match call.request with
  | .createClientInterface name =>
    ∀ reported, call.kernel.reported name = some reported →
      s.IndexFree reported.1.ifIndex ∧ name ∉ s.clientInterfaces
  | .createApInterface name =>
    ∀ reported, call.kernel.reported name = some reported →
      s.IndexFree reported.1.ifIndex ∧ (name ∈ s.apInterfaces → name ∉ s.clientInterfaces)
  | .tearDownApInterface name => name ∈ s.apInterfaces → name ∉ s.clientInterfaces
  | _ => True

theorem handlersRegistered_congr (h : SameObjects s t) (hs : s.HandlersRegistered) :
    t.HandlersRegistered where
  clients name client hc := by
    obtain ⟨client', hc', hid, hindex, hname⟩ := h.exists_client hc
    obtain ⟨htables, hup⟩ := hs.clients name client' hc'
    rw [hid, hindex] at htables
    rw [hname] at hup
    exact ⟨fun table ht => (h.handler table _).trans (htables table ht), h.upState ▸ hup⟩
  aps name ap ha table ht := by
    rw [h.aps] at ha
    exact (h.handler table _).trans (hs.aps name ap ha table ht)

theorem handlersRegistered_iff_congr (h : SameObjects s t) :
    t.HandlersRegistered ↔ s.HandlersRegistered :=
  ⟨handlersRegistered_congr h.symm, handlersRegistered_congr h⟩

theorem wellNamed_congr (h : SameObjects s t) (hs : s.WellNamed) : t.WellNamed where
  client name client hc := by
    obtain ⟨client', hc', hid, -, hname⟩ := h.exists_client hc
    rw [← hid, ← hname, h.created]
    exact hs.client name client' hc'
  ap name ap ha := by
    rw [h.aps] at ha
    rw [h.created]
    exact hs.ap name ap ha
  clients name name' client₁ client₂ h₁ h₂ heq := by
    obtain ⟨client₁', h₁', hid₁, -⟩ := h.exists_client h₁
    obtain ⟨client₂', h₂', hid₂, -⟩ := h.exists_client h₂
    exact hs.clients name name' client₁' client₂' h₁' h₂' (hid₁.trans (heq.trans hid₂.symm))
  aps name name' ap₁ ap₂ h₁ h₂ heq := by
    rw [h.aps] at h₁ h₂
    exact hs.aps name name' ap₁ ap₂ h₁ h₂ heq
  apart name name' client ap hc ha := by
    obtain ⟨client', hc', hid, -⟩ := h.exists_client hc
    rw [h.aps] at ha
    exact hid ▸ hs.apart name name' client' ap hc' ha

theorem indexFree_congr (h : SameObjects s t) {index : UInt32} (hs : s.IndexFree index) :
    t.IndexFree index where
  clients name client hc := by
    obtain ⟨client', hc', -, hindex, -⟩ := h.exists_client hc
    exact hindex ▸ hs.clients name client' hc'
  aps name ap ha := by
    rw [h.aps] at ha
    exact hs.aps name ap ha

theorem indexFree_iff_congr (h : SameObjects s t) {index : UInt32} :
    t.IndexFree index ↔ s.IndexFree index :=
  ⟨indexFree_congr h.symm, indexFree_congr h⟩

/-! Interfaces that are registered have different indices: all of them need the channel
switch handler of their index. -/

theorem index_ne_of_client_ap (hwell : s.WellNamed) (hs : s.HandlersRegistered)
    {name name' : IfaceName} {client ap} (hc : s.clientInterfaces[name]? = some client)
    (ha : s.apInterfaces[name']? = some ap) : client.interfaceIndex ≠ ap.interfaceIndex := by
  intro hidx
  have hclient := (hs.clients name client hc).1 .channelSwitchEvent (by decide)
  have hap := hs.aps name' ap ha .channelSwitchEvent (by decide)
  exact hwell.apart name name' client ap hc ha (NetlinkManager.owner_eq hclient hap hidx)

theorem index_ne_of_clients (hwell : s.WellNamed) (hs : s.HandlersRegistered)
    {name name' : IfaceName} {client client'} (h : s.clientInterfaces[name]? = some client)
    (h' : s.clientInterfaces[name']? = some client') (hne : name ≠ name') :
    client.interfaceIndex ≠ client'.interfaceIndex := by
  intro hidx
  have hclient := (hs.clients name client h).1 .channelSwitchEvent (by decide)
  have hclient' := (hs.clients name' client' h').1 .channelSwitchEvent (by decide)
  exact hne (hwell.clients name name' client client' h h'
    (NetlinkManager.owner_eq hclient hclient' hidx))

theorem index_ne_of_aps (hwell : s.WellNamed) (hs : s.HandlersRegistered)
    {name name' : IfaceName} {ap ap'} (h : s.apInterfaces[name]? = some ap)
    (h' : s.apInterfaces[name']? = some ap') (hne : name ≠ name') :
    ap.interfaceIndex ≠ ap'.interfaceIndex := by
  intro hidx
  have hap := hs.aps name ap h .channelSwitchEvent (by decide)
  have hap' := hs.aps name' ap' h' .channelSwitchEvent (by decide)
  exact hne (hwell.aps name name' ap ap' h h' (NetlinkManager.owner_eq hap hap' hidx))

theorem handler?_addClientInterface (table : HandlerTable) (index : UInt32) :
    (s.addClientInterface k ifaceName interface wiphyIndex).platform.netlink.handler? table index =
      if table ∈ ClientInterfaceImpl.tables ∧
          s.clientInterfaces[ifaceName]?.map (·.interfaceIndex) = some index then none
      else if table ∈ ClientInterfaceImpl.tables ∧ index = interface.ifIndex then
        some s.platform.created
      else s.platform.netlink.handler? table index := by
  simp only [addClientInterface, storeClientInterface, broadcastClientInterfaceReady, announce]
  cases s.clientInterfaces[ifaceName]? with
  | none => simp [ClientInterfaceImpl.handler?_create]
  | some replaced =>
    simp [ClientInterfaceImpl.handler?_destroy, ClientInterfaceImpl.handler?_create,
      eq_comm (a := index)]

theorem upState_addClientInterface (hwell : s.WellNamed) (hname : interface.name = ifaceName)
    (name : IfaceName) :
    (s.addClientInterface k ifaceName interface wiphyIndex).platform.upState[name]? =
      if name = ifaceName then some (!s.clientInterfaces[ifaceName]?.isSome)
      else s.platform.upState[name]? := by
  simp only [addClientInterface, storeClientInterface, broadcastClientInterfaceReady, announce]
  cases hold : s.clientInterfaces[ifaceName]? with
  | none => simp [ClientInterfaceImpl.upState_create, hname]
  | some replaced =>
    have hreplaced := (hwell.client _ _ hold).1
    rw [ClientInterfaceImpl.upState_destroy, ClientInterfaceImpl.upState_create, hreplaced, hname]
    split_ifs <;> rfl

theorem handler?_addApInterface (table : HandlerTable) (index : UInt32) :
    (s.addApInterface ifaceName interface).platform.netlink.handler? table index =
      if table ∈ ApInterfaceImpl.tables ∧
          s.apInterfaces[ifaceName]?.map (·.interfaceIndex) = some index then none
      else if table ∈ ApInterfaceImpl.tables ∧ index = interface.ifIndex then
        some s.platform.created
      else s.platform.netlink.handler? table index := by
  simp only [addApInterface, storeApInterface, broadcastApInterfaceReady, announce]
  cases s.apInterfaces[ifaceName]? with
  | none => simp [ApInterfaceImpl.handler?_create]
  | some replaced =>
    simp [ApInterfaceImpl.handler?_destroy, ApInterfaceImpl.handler?_create, eq_comm (a := index)]

theorem upState_addApInterface (hwell : s.WellNamed) (name : IfaceName) :
    (s.addApInterface ifaceName interface).platform.upState[name]? =
      if name = ifaceName ∧ s.apInterfaces[ifaceName]?.isSome then some false
      else s.platform.upState[name]? := by
  simp only [addApInterface, storeApInterface, broadcastApInterfaceReady, announce]
  cases hold : s.apInterfaces[ifaceName]? with
  | none => simp
  | some replaced =>
    have hreplaced := (hwell.ap _ _ hold).1
    simp [ApInterfaceImpl.upState_destroy, hreplaced]

/-- Where no client is replaced, other indices keep their handlers. -/
theorem handler?_addClientInterface_of_ne (hfree : s.clientInterfaces[ifaceName]? = none)
    {index : UInt32} (hne : index ≠ interface.ifIndex) (table : HandlerTable) :
    (s.addClientInterface k ifaceName interface wiphyIndex).platform.netlink.handler? table index =
      s.platform.netlink.handler? table index := by
  rw [handler?_addClientInterface, hfree, if_neg (by simp), if_neg fun h => hne h.2]

/-- A new client that is registered replaced no client and took no live interface's index. -/
theorem indexFree_of_addClientInterface (hwell : s.WellNamed) (hname : interface.name = ifaceName)
    (h : (s.addClientInterface k ifaceName interface wiphyIndex).HandlersRegistered) :
    s.IndexFree interface.ifIndex ∧ ifaceName ∉ s.clientInterfaces := by
  have hfree : s.clientInterfaces[ifaceName]? = none := by
    have hup := (h.clients ifaceName _ (by simp; rfl)).2
    rw [upState_addClientInterface hwell hname] at hup
    cases hc : s.clientInterfaces[ifaceName]? with
    | none => rfl
    | some replaced => simp [ClientInterfaceImpl.create, hname, hc] at hup
  refine ⟨⟨fun name client hc hidx => ?_, fun name ap ha hidx => ?_⟩,
    OrderedMap.notMem_iff.mpr hfree⟩
  · have hn : ifaceName ≠ name := by
      rintro rfl
      simp [hfree] at hc
    have hreg := (h.clients name client (by
      simpa [Std.ExtTreeMap.getElem?_insert, hn] using hc)).1 .channelSwitchEvent (by decide)
    rw [handler?_addClientInterface, hfree, if_neg (by simp), if_pos ⟨by decide, hidx⟩] at hreg
    exact absurd (Option.some.inj hreg) (Nat.ne_of_gt (hwell.client name client hc).2)
  · have hreg := h.aps name ap ha .channelSwitchEvent (by decide)
    rw [handler?_addClientInterface, hfree, if_neg (by simp), if_pos ⟨by decide, hidx⟩] at hreg
    exact absurd (Option.some.inj hreg) (Nat.ne_of_gt (hwell.ap name ap ha).2)

theorem handlersRegistered_addClientInterface_of_free (hwell : s.WellNamed)
    (hs : s.HandlersRegistered) (hname : interface.name = ifaceName)
    (hindex : s.IndexFree interface.ifIndex) (hfree : s.clientInterfaces[ifaceName]? = none) :
    (s.addClientInterface k ifaceName interface wiphyIndex).HandlersRegistered where
  clients name client hc := by
    rw [clientInterfaces_addClientInterface, Std.ExtTreeMap.getElem?_insert] at hc
    split_ifs at hc with hn
    · obtain rfl := Option.some.inj hc
      refine ⟨fun table ht => ?_, ?_⟩
      · rw [handler?_addClientInterface, hfree, if_neg (by simp), if_pos ⟨ht, rfl⟩]
        rfl
      · rw [upState_addClientInterface hwell hname, hfree]
        exact if_pos hname
    · replace hn : ifaceName ≠ name := by simpa using hn
      obtain ⟨htables, hup⟩ := hs.clients name client hc
      refine ⟨fun table ht => ?_, ?_⟩
      · rw [handler?_addClientInterface_of_ne hfree (hindex.clients name client hc)]
        exact htables table ht
      · rw [upState_addClientInterface hwell hname, if_neg]
        · exact hup
        · rw [(hwell.client name client hc).1]
          exact hn.symm
  aps name ap ha table ht := by
    rw [handler?_addClientInterface_of_ne hfree (hindex.aps name ap ha)]
    exact hs.aps name ap ha table ht

theorem handlersRegistered_addClientInterface (hwell : s.WellNamed)
    (hs : s.HandlersRegistered) (hname : interface.name = ifaceName) :
    (s.addClientInterface k ifaceName interface wiphyIndex).HandlersRegistered ↔
      s.IndexFree interface.ifIndex ∧ ifaceName ∉ s.clientInterfaces := by
  constructor
  · exact indexFree_of_addClientInterface hwell hname
  · intro h
    obtain ⟨hindex, hfree⟩ := h
    rw [OrderedMap.notMem_iff] at hfree
    exact handlersRegistered_addClientInterface_of_free hwell hs hname hindex hfree

/-- Handlers stay but under the index of the new AP interface and of the one it replaces. -/
theorem handler?_addApInterface_of_ne {index : UInt32} (hne : index ≠ interface.ifIndex)
    (hold : ∀ old, s.apInterfaces[ifaceName]? = some old → old.interfaceIndex ≠ index)
    (table : HandlerTable) :
    (s.addApInterface ifaceName interface).platform.netlink.handler? table index =
      s.platform.netlink.handler? table index := by
  rw [handler?_addApInterface, if_neg, if_neg fun h => hne h.2]
  rintro ⟨-, hreplaced⟩
  obtain ⟨old, ho, hidx⟩ := Option.map_eq_some_iff.mp hreplaced
  exact hold old ho hidx

/-- Next to a new AP interface that is registered, the others keep their handlers only if
it took no live interface's index. -/
theorem indexFree_of_addApInterface (hwell : s.WellNamed)
    (h : (s.addApInterface ifaceName interface).HandlersRegistered) :
    s.IndexFree interface.ifIndex where
  clients name client hc hidx := by
    have hreg := (h.clients name client hc).1 .channelSwitchEvent (by decide)
    rw [handler?_addApInterface] at hreg
    split_ifs at hreg with hreplaced hadded
    · exact absurd (Option.some.inj hreg) (Nat.ne_of_gt (hwell.client name client hc).2)
    · exact hadded ⟨by decide, hidx⟩
  aps name ap ha hidx := by
    by_cases hn : ifaceName = name
    · subst hn
      have hreg := h.aps ifaceName _ (by simp; rfl) .stationEvent (by decide)
      rw [handler?_addApInterface,
        if_pos ⟨by decide, by simp [ha, hidx, ApInterfaceImpl.create]⟩] at hreg
      exact absurd hreg (by simp)
    · have hreg := h.aps name ap (by
        simpa [Std.ExtTreeMap.getElem?_insert, hn] using ha) .stationEvent (by decide)
      rw [handler?_addApInterface] at hreg
      split_ifs at hreg with hreplaced hadded
      · exact absurd (Option.some.inj hreg) (Nat.ne_of_gt (hwell.ap name ap ha).2)
      · exact hadded ⟨by decide, hidx⟩

/-- The AP interface that is replaced brings the interface down. -/
theorem notMem_of_addApInterface (hwell : s.WellNamed)
    (h : (s.addApInterface ifaceName interface).HandlersRegistered)
    (hap : ifaceName ∈ s.apInterfaces) : ifaceName ∉ s.clientInterfaces := by
  intro hmem
  obtain ⟨old, hold⟩ := OrderedMap.mem_iff_exists.mp hap
  obtain ⟨client, hc⟩ := OrderedMap.mem_iff_exists.mp hmem
  have hup := (h.clients ifaceName client hc).2
  rw [upState_addApInterface hwell, (hwell.client ifaceName client hc).1,
    if_pos ⟨rfl, by simp [hold]⟩] at hup
  exact absurd hup (by simp)

theorem handlersRegistered_addApInterface_of_free (hwell : s.WellNamed)
    (hs : s.HandlersRegistered) (hindex : s.IndexFree interface.ifIndex)
    (hkinds : ifaceName ∈ s.apInterfaces → ifaceName ∉ s.clientInterfaces) :
    (s.addApInterface ifaceName interface).HandlersRegistered where
  clients name client hc := by
    obtain ⟨htables, hup⟩ := hs.clients name client hc
    have hold : ∀ old, s.apInterfaces[ifaceName]? = some old →
        old.interfaceIndex ≠ client.interfaceIndex :=
      fun old ho => (index_ne_of_client_ap hwell hs hc ho).symm
    refine ⟨fun table ht => ?_, ?_⟩
    · rw [handler?_addApInterface_of_ne (hindex.clients name client hc) hold]
      exact htables table ht
    · rw [upState_addApInterface hwell, if_neg]
      · exact hup
      · intro hreplaced
        obtain ⟨hn, hsome⟩ := hreplaced
        obtain ⟨old, ho⟩ := Option.isSome_iff_exists.mp hsome
        rw [(hwell.client name client hc).1] at hn
        subst hn
        exact hkinds (OrderedMap.mem_iff_exists.mpr ⟨old, ho⟩)
          (OrderedMap.mem_iff_exists.mpr ⟨client, hc⟩)
  aps name ap ha table ht := by
    rw [apInterfaces_addApInterface, Std.ExtTreeMap.getElem?_insert] at ha
    split_ifs at ha with hn
    · obtain rfl := Option.some.inj ha
      rw [handler?_addApInterface, if_neg, if_pos ⟨ht, rfl⟩]
      · rfl
      · rintro ⟨-, hreplaced⟩
        obtain ⟨old, ho, hidx⟩ := Option.map_eq_some_iff.mp hreplaced
        exact hindex.aps ifaceName old ho hidx
    · replace hn : ifaceName ≠ name := by simpa using hn
      rw [handler?_addApInterface_of_ne (hindex.aps name ap ha) fun old ho =>
        index_ne_of_aps hwell hs ho ha hn]
      exact hs.aps name ap ha table ht

theorem handlersRegistered_addApInterface (hwell : s.WellNamed) (hs : s.HandlersRegistered) :
    (s.addApInterface ifaceName interface).HandlersRegistered ↔
      s.IndexFree interface.ifIndex ∧
      (ifaceName ∈ s.apInterfaces → ifaceName ∉ s.clientInterfaces) := by
  constructor
  · exact fun h => ⟨indexFree_of_addApInterface hwell h, notMem_of_addApInterface hwell h⟩
  · exact fun h => handlersRegistered_addApInterface_of_free hwell hs h.1 h.2

theorem platform_removeClientInterface {client : ClientInterfaceImpl}
    (h : s.clientInterfaces[ifaceName]? = some client) :
    (s.removeClientInterface ifaceName).platform = client.destroy s.platform := by
  simp [removeClientInterface, h, broadcastClientInterfaceTornDown, announce]

theorem platform_removeApInterface {ap : ApInterfaceImpl}
    (h : s.apInterfaces[ifaceName]? = some ap) :
    (s.removeApInterface ifaceName).platform = ap.destroy s.platform := by
  simp [removeApInterface, h, broadcastApInterfaceTornDown, announce]

theorem handlersRegistered_removeClientInterface (hwell : s.WellNamed)
    (hs : s.HandlersRegistered) : (s.removeClientInterface ifaceName).HandlersRegistered := by
  cases hold : s.clientInterfaces[ifaceName]? with
  | none => simpa [removeClientInterface, hold] using hs
  | some old =>
    constructor
    · intro name client hc
      rw [clientInterfaces_removeClientInterface, Std.ExtTreeMap.getElem?_erase] at hc
      split_ifs at hc with hn
      replace hn : ifaceName ≠ name := by simpa using hn
      obtain ⟨htables, hup⟩ := hs.clients name client hc
      rw [platform_removeClientInterface hold]
      refine ⟨fun table ht => ?_, ?_⟩
      · rw [ClientInterfaceImpl.handler?_destroy, if_neg]
        · exact htables table ht
        · exact fun h => index_ne_of_clients hwell hs hold hc hn h.2.symm
      · rw [ClientInterfaceImpl.upState_destroy, if_neg]
        · exact hup
        · rw [(hwell.client ifaceName old hold).1, (hwell.client name client hc).1]
          exact hn.symm
    · intro name ap ha table ht
      rw [apInterfaces_removeClientInterface] at ha
      rw [platform_removeClientInterface hold, ClientInterfaceImpl.handler?_destroy, if_neg]
      · exact hs.aps name ap ha table ht
      · exact fun h => index_ne_of_client_ap hwell hs hold ha h.2.symm

theorem handlersRegistered_removeApInterface (hwell : s.WellNamed) (hs : s.HandlersRegistered) :
    (s.removeApInterface ifaceName).HandlersRegistered ↔
      (ifaceName ∈ s.apInterfaces → ifaceName ∉ s.clientInterfaces) := by
  cases hold : s.apInterfaces[ifaceName]? with
  | none =>
    have hsame : s.removeApInterface ifaceName = s := by simp [removeApInterface, hold]
    rw [hsame]
    exact iff_of_true hs fun hmem => absurd hmem (OrderedMap.notMem_iff.mpr hold)
  | some old =>
    have hname := (hwell.ap ifaceName old hold).1
    constructor
    · intro h hap hmem
      obtain ⟨client, hc⟩ := OrderedMap.mem_iff_exists.mp hmem
      have hup := (h.clients ifaceName client (by simpa using hc)).2
      rw [platform_removeApInterface hold, ApInterfaceImpl.upState_destroy, hname,
        (hwell.client ifaceName client hc).1, if_pos rfl] at hup
      exact absurd hup (by simp)
    · intro hkinds
      have hfree : s.clientInterfaces[ifaceName]? = none :=
        OrderedMap.notMem_iff.mp (hkinds (OrderedMap.mem_iff_exists.mpr ⟨old, hold⟩))
      constructor
      · intro name client hc
        rw [clientInterfaces_removeApInterface] at hc
        have hn : name ≠ ifaceName := by
          rintro rfl
          simp [hfree] at hc
        obtain ⟨htables, hup⟩ := hs.clients name client hc
        rw [platform_removeApInterface hold]
        refine ⟨fun table ht => ?_, ?_⟩
        · rw [ApInterfaceImpl.handler?_destroy, if_neg]
          · exact htables table ht
          · exact fun h => index_ne_of_client_ap hwell hs hc hold h.2
        · rw [ApInterfaceImpl.upState_destroy, if_neg]
          · exact hup
          · rwa [hname, (hwell.client name client hc).1]
      · intro name ap ha table ht
        rw [apInterfaces_removeApInterface, Std.ExtTreeMap.getElem?_erase] at ha
        split_ifs at ha with hn
        replace hn : ifaceName ≠ name := by simpa using hn
        rw [platform_removeApInterface hold, ApInterfaceImpl.handler?_destroy, if_neg]
        · exact hs.aps name ap ha table ht
        · exact fun h => index_ne_of_aps hwell hs hold ha hn h.2.symm

theorem created_addClientInterface :
    (s.addClientInterface k ifaceName interface wiphyIndex).platform.created =
      s.platform.created + 1 := by
  simp only [addClientInterface, storeClientInterface, broadcastClientInterfaceReady, announce]
  cases s.clientInterfaces[ifaceName]? <;> rfl

theorem created_addApInterface :
    (s.addApInterface ifaceName interface).platform.created = s.platform.created + 1 := by
  simp only [addApInterface, storeApInterface, broadcastApInterfaceReady, announce]
  cases s.apInterfaces[ifaceName]? <;> rfl

theorem wellNamed_addClientInterface (hwell : s.WellNamed) (hname : interface.name = ifaceName) :
    (s.addClientInterface k ifaceName interface wiphyIndex).WellNamed where
  client name client hc := by
    rw [created_addClientInterface]
    rw [clientInterfaces_addClientInterface, Std.ExtTreeMap.getElem?_insert] at hc
    split_ifs at hc with hn
    · obtain rfl := Option.some.inj hc
      obtain rfl : ifaceName = name := by simpa using hn
      exact ⟨hname, Nat.lt_succ_self _⟩
    · obtain ⟨hcname, hid⟩ := hwell.client name client hc
      exact ⟨hcname, Nat.lt_succ_of_lt hid⟩
  ap name ap ha := by
    obtain ⟨haname, hid⟩ := hwell.ap name ap ha
    rw [created_addClientInterface]
    exact ⟨haname, Nat.lt_succ_of_lt hid⟩
  clients name name' client client' hc hc' heq := by
    rw [clientInterfaces_addClientInterface, Std.ExtTreeMap.getElem?_insert] at hc hc'
    split_ifs at hc hc' with hn hn' hn'
    · obtain rfl : ifaceName = name := by simpa using hn
      simpa using hn'
    · obtain rfl := Option.some.inj hc
      exact absurd heq (Nat.ne_of_gt (hwell.client name' client' hc').2)
    · obtain rfl := Option.some.inj hc'
      exact absurd heq (Nat.ne_of_lt (hwell.client name client hc).2)
    · exact hwell.clients name name' client client' hc hc' heq
  aps := hwell.aps
  apart name name' client ap hc ha := by
    rw [clientInterfaces_addClientInterface, Std.ExtTreeMap.getElem?_insert] at hc
    split_ifs at hc with hn
    · obtain rfl := Option.some.inj hc
      exact Nat.ne_of_gt (hwell.ap name' ap ha).2
    · exact hwell.apart name name' client ap hc ha

theorem wellNamed_addApInterface (hwell : s.WellNamed) (hname : interface.name = ifaceName) :
    (s.addApInterface ifaceName interface).WellNamed where
  client name client hc := by
    obtain ⟨hcname, hid⟩ := hwell.client name client hc
    rw [created_addApInterface]
    exact ⟨hcname, Nat.lt_succ_of_lt hid⟩
  ap name ap ha := by
    rw [created_addApInterface]
    rw [apInterfaces_addApInterface, Std.ExtTreeMap.getElem?_insert] at ha
    split_ifs at ha with hn
    · obtain rfl := Option.some.inj ha
      obtain rfl : ifaceName = name := by simpa using hn
      exact ⟨hname, Nat.lt_succ_self _⟩
    · obtain ⟨haname, hid⟩ := hwell.ap name ap ha
      exact ⟨haname, Nat.lt_succ_of_lt hid⟩
  clients := hwell.clients
  aps name name' ap ap' ha ha' heq := by
    rw [apInterfaces_addApInterface, Std.ExtTreeMap.getElem?_insert] at ha ha'
    split_ifs at ha ha' with hn hn' hn'
    · obtain rfl : ifaceName = name := by simpa using hn
      simpa using hn'
    · obtain rfl := Option.some.inj ha
      exact absurd heq (Nat.ne_of_gt (hwell.ap name' ap' ha').2)
    · obtain rfl := Option.some.inj ha'
      exact absurd heq (Nat.ne_of_lt (hwell.ap name ap ha).2)
    · exact hwell.aps name name' ap ap' ha ha' heq
  apart name name' client ap hc ha := by
    rw [apInterfaces_addApInterface, Std.ExtTreeMap.getElem?_insert] at ha
    split_ifs at ha with hn
    · obtain rfl := Option.some.inj ha
      exact Nat.ne_of_lt (hwell.client name client hc).2
    · exact hwell.apart name name' client ap hc ha

/-- Fewer objects stay well named. -/
theorem wellNamed_of_subset (hwell : s.WellNamed)
    (hclients : ∀ (name : IfaceName) client, t.clientInterfaces[name]? = some client →
      s.clientInterfaces[name]? = some client)
    (haps : ∀ (name : IfaceName) ap, t.apInterfaces[name]? = some ap →
      s.apInterfaces[name]? = some ap)
    (hcreated : t.platform.created = s.platform.created) : t.WellNamed where
  client name client hc := hcreated ▸ hwell.client name client (hclients name client hc)
  ap name ap ha := hcreated ▸ hwell.ap name ap (haps name ap ha)
  clients name name' client client' hc hc' :=
    hwell.clients name name' client client' (hclients name client hc) (hclients name' client' hc')
  aps name name' ap ap' ha ha' :=
    hwell.aps name name' ap ap' (haps name ap ha) (haps name' ap' ha')
  apart name name' client ap hc ha :=
    hwell.apart name name' client ap (hclients name client hc) (haps name' ap ha)

theorem wellNamed_removeClientInterface (hwell : s.WellNamed) :
    (s.removeClientInterface ifaceName).WellNamed := by
  refine wellNamed_of_subset hwell (fun name client hc => ?_) (fun name ap ha => ?_) ?_
  · rw [clientInterfaces_removeClientInterface, Std.ExtTreeMap.getElem?_erase] at hc
    split_ifs at hc
    exact hc
  · rwa [apInterfaces_removeClientInterface] at ha
  · unfold removeClientInterface
    split <;> rfl

theorem wellNamed_removeApInterface (hwell : s.WellNamed) :
    (s.removeApInterface ifaceName).WellNamed := by
  refine wellNamed_of_subset hwell (fun name client hc => ?_) (fun name ap ha => ?_) ?_
  · rwa [clientInterfaces_removeApInterface] at hc
  · rw [apInterfaces_removeApInterface, Std.ExtTreeMap.getElem?_erase] at ha
    split_ifs at ha
    exact ha
  · unfold removeApInterface
    split <;> rfl

theorem wellNamed_serve (hwell : s.WellNamed) : (s.serve call).WellNamed := by
  obtain ⟨k, request⟩ := call
  cases request with
  | createClientInterface name =>
    have hsetup := wellNamed_congr (sameObjects_setupInterface s k name) hwell
    cases hr : k.reported name with
    | none => simpa only [serve, createClientInterface_of_none hr] using hsetup
    | some reported =>
      simp only [serve, createClientInterface_of_some hr]
      exact wellNamed_congr sameObjects_recordWiphyIndex
        (wellNamed_addClientInterface hsetup (Kernel.mem_of_reported hr).2)
  | createApInterface name =>
    have hsetup := wellNamed_congr (sameObjects_setupInterface s k name) hwell
    cases hr : k.reported name with
    | none => simpa only [serve, createApInterface_of_none hr] using hsetup
    | some reported =>
      simp only [serve, createApInterface_of_some hr]
      exact wellNamed_congr sameObjects_recordWiphyIndex
        (wellNamed_addApInterface hsetup (Kernel.mem_of_reported hr).2)
  | tearDownClientInterface name =>
    simp only [serve, tearDownClientInterface_eq]
    exact wellNamed_congr sameObjects_releaseWiphyIndex (wellNamed_removeClientInterface hwell)
  | tearDownApInterface name =>
    simp only [serve, tearDownApInterface_eq]
    exact wellNamed_congr sameObjects_releaseWiphyIndex (wellNamed_removeApInterface hwell)
  | tearDownInterfaces => constructor <;> simp [serve]
  | registerWificondEventCallback callback | unregisterWificondEventCallback callback
  | registerCallback callback | unregisterCallback callback | notifyCountryCodeChanged
  | onRegDomainChanged wiphyIndex countryCode =>
    exact wellNamed_congr (sameObjects_serve trivial) hwell

/-- A call leaves every live interface registered exactly when it spares them. -/
theorem handlersRegistered_serve (hwell : s.WellNamed) (hs : s.HandlersRegistered) :
    (s.serve call).HandlersRegistered ↔ s.SparesLive call := by
  obtain ⟨k, request⟩ := call
  cases request with
  | createClientInterface name =>
    have hsame := sameObjects_setupInterface s k name
    have hsetup := handlersRegistered_congr hsame hs
    cases hr : k.reported name with
    | none =>
      simp only [serve, createClientInterface_of_none hr]
      exact iff_of_true hsetup (by simp [SparesLive, hr])
    | some reported =>
      simp only [serve, createClientInterface_of_some hr]
      rw [handlersRegistered_iff_congr sameObjects_recordWiphyIndex,
        handlersRegistered_addClientInterface (wellNamed_congr hsame hwell) hsetup
          (Kernel.mem_of_reported hr).2,
        indexFree_iff_congr hsame, hsame.mem_clients]
      simp [SparesLive, hr]
  | createApInterface name =>
    have hsame := sameObjects_setupInterface s k name
    have hsetup := handlersRegistered_congr hsame hs
    cases hr : k.reported name with
    | none =>
      simp only [serve, createApInterface_of_none hr]
      exact iff_of_true hsetup (by simp [SparesLive, hr])
    | some reported =>
      simp only [serve, createApInterface_of_some hr]
      rw [handlersRegistered_iff_congr sameObjects_recordWiphyIndex,
        handlersRegistered_addApInterface (wellNamed_congr hsame hwell) hsetup,
        indexFree_iff_congr hsame, hsame.mem_clients, hsame.aps]
      simp [SparesLive, hr]
  | tearDownClientInterface name =>
    simp only [serve, tearDownClientInterface_eq]
    rw [handlersRegistered_iff_congr sameObjects_releaseWiphyIndex]
    exact iff_of_true (handlersRegistered_removeClientInterface hwell hs) trivial
  | tearDownApInterface name =>
    simp only [serve, tearDownApInterface_eq]
    rw [handlersRegistered_iff_congr sameObjects_releaseWiphyIndex]
    exact handlersRegistered_removeApInterface hwell hs
  | tearDownInterfaces => exact iff_of_true (by constructor <;> simp [serve]) trivial
  | registerWificondEventCallback callback | unregisterWificondEventCallback callback
  | registerCallback callback | unregisterCallback callback | notifyCountryCodeChanged
  | onRegDomainChanged wiphyIndex countryCode =>
    exact iff_of_true (handlersRegistered_congr (sameObjects_serve trivial) hs) trivial

theorem wellNamed_fresh : fresh.WellNamed := by constructor <;> simp [fresh]

theorem handlersRegistered_fresh : fresh.HandlersRegistered := by constructor <;> simp [fresh]

/-- In a run from a fresh server, every live interface is registered in every state
exactly when every call spares the live interfaces. -/
theorem live_interfaces_registered_iff (calls : List Call) :
    Runs.Always serve HandlersRegistered fresh calls ↔ Runs.Along serve SparesLive fresh calls :=
  Runs.always_iff_along WellNamed (fun _ => True)
    (fun _ _ hwell _ => wellNamed_serve hwell)
    (fun _ _ hwell _ hs => handlersRegistered_serve hwell hs) wellNamed_fresh
    handlersRegistered_fresh fun _ _ => trivial

/-- The kernel gives interfaces of different names different indices. -/
def DistinctIndices (calls : List Call) : Prop :=
  ∀ call ∈ calls, ∀ call' ∈ calls, ∀ wiphyIndex wiphyIndex',
    ∀ interface ∈ (call.kernel.getInterfaces wiphyIndex).2,
    ∀ interface' ∈ (call'.kernel.getInterfaces wiphyIndex').2,
      interface.ifIndex = interface'.ifIndex → interface.name = interface'.name

/-- Creating a live client again leaves the new one with no handler. -/
theorem recreated_client_unregistered :
    DistinctIndices
        [⟨.oneInterface [119], .createClientInterface [119]⟩,
          ⟨.oneInterface [119], .createClientInterface [119]⟩] ∧
      ¬ (List.foldl serve fresh
        [⟨.oneInterface [119], .createClientInterface [119]⟩,
          ⟨.oneInterface [119], .createClientInterface [119]⟩]).HandlersRegistered := by
  constructor
  · simp [DistinctIndices, Kernel.oneInterface]
  · intro h
    have hmlme := (h.clients [119] ⟨1, 0, [119], 7, #v[2, 0, 0, 0, 0, 1], none⟩
      (by decide)).1 .mlmeEvent (by decide)
    exact absurd hmlme (by decide)

end Server

end Wificond
