import Wificond.BroadcastDelivery
import Wificond.ObjectNumbers

/-!
# States of client interfaces

A client interface keeps fields that only its constructor, its handlers and its methods change.
Between the kernel and these fields stand the tables of handlers and the lifetime of the object.
The fields of a live interface are those of an interface that is alone and hears what the
broadcasts since its construction carry for its index.
-/
namespace Wificond

/-- Some fields of client interfaces: what the constructor makes of the memory before it, what
a handler does, with the kernel's answers to requests of its own, and what a method does. -/
structure ClientPart (ι σ α μ : Type) where
  construct : ι → σ
  hear : α → HandlerEvent → σ → σ
  call : μ → σ → σ

/-- The server, and the fields of the client interfaces that exist. -/
structure Clients (σ : Type) where
  server : Server
  fields : ObjectId → Option σ

/-- A call of the server, with the memory that an object is constructed in, one of a method by
a binder, or a broadcast, with the kernel's answers while it is handled. -/
inductive ClientsStep (ι α μ : Type)
  | serve (call : Call) (memory : ι)
  | invoke (id : ObjectId) (method : μ)
  | broadcast (regType : UInt8) (kernels : UInt32 → Kernel) (answers : α)
    (packet : NL80211Packet)

namespace Clients

variable {ι σ α μ : Type}

def fresh : Clients σ := ⟨.fresh, fun _ => none⟩

def observe (initial : σ) (fields : ObjectId → Option σ) :
    LifecycleEvent → ObjectId → Option σ
  | .clientConstructed id => Function.update fields id (some initial)
  | .clientDestroyed id => Function.update fields id none
  | .apConstructed _ | .apDestroyed _ => fields

def serve (part : ClientPart ι σ α μ) (call : Call) (memory : ι) (c : Clients σ) : Clients σ where
  server := c.server.serve call
  fields := (c.server.lifecycle call).foldl (observe (part.construct memory)) c.fields

/-- Of an object that is destroyed the binder has no pointer any more. -/
def update (id : ObjectId) (change : σ → σ) (c : Clients σ) : Clients σ :=
  { c with fields := Function.update c.fields id ((c.fields id).map change) }

/-- The handlers of AP interfaces change no fields of client interfaces. -/
def deliver (part : ClientPart ι σ α μ) (answers : α) (call : HandlerCall) (c : Clients σ) :
    Clients σ :=
  c.update call.owner (part.hear answers call.event)

/-- The handlers of regulatory changes construct and destroy nothing. -/
def broadcast (part : ClientPart ι σ α μ) (familyId : UInt16) (regType : UInt8)
    (kernels : UInt32 → Kernel) (answers : α) (packet : NL80211Packet) (c : Clients σ) :
    Clients σ :=
  let handled := (NetlinkManager.broadcastHandler familyId regType packet).after
    ⟨c.server.platform.netlink, [], []⟩
  let told := handled.calls.foldl (fun c call => c.deliver part answers call) c
  { told with
    server := handled.regDomainCalls.foldl (fun s call =>
      s.serve ⟨kernels call.1, .onRegDomainChanged call.1 call.2⟩) told.server }

def step (part : ClientPart ι σ α μ) (familyId : UInt16) (c : Clients σ) :
    ClientsStep ι α μ → Clients σ
  | .serve call memory => c.serve part call memory
  | .invoke id method => c.update id (part.call method)
  | .broadcast regType kernels answers packet =>
    c.broadcast part familyId regType kernels answers packet

/-- The state behind a history. -/
def after (part : ClientPart ι σ α μ) (familyId : UInt16) (history : List (ClientsStep ι α μ)) :
    Clients σ :=
  history.foldl (step part familyId) fresh

/-- No call of the server disables a live interface. -/
def SparesLive (c : Clients σ) (next : ClientsStep ι α μ) : Prop :=
  ∀ call memory, next = .serve call memory → c.server.SparesLive call

end Clients

/-- A broadcast carries an event for the client interface of an index. -/
structure Concerns (familyId : UInt16) (index : UInt32) (packet : NL80211Packet)
    (event : HandlerEvent) : Prop where
  family : packet.getMessageType = familyId.toNat
  interface : packet.getUInt32 attrIfindex = .ok (some index)
  carried : ∃ command table, packet.getCommand = .ok command ∧
    eventTable command = some table ∧ table ∈ ClientInterfaceImpl.tables ∧
    Carries packet index command event

/-- The handlers of a client interface that is alone. -/
def listening (index : UInt32) : NetlinkManager :=
  ClientInterfaceImpl.tables.foldl (fun n table => n.subscribe table index 0) .empty

def heard (familyId : UInt16) (index : UInt32) (packet : NL80211Packet) : Option HandlerEvent :=
  ((NetlinkManager.broadcastHandler familyId 0 packet).after
    ⟨listening index, [], []⟩).calls.head?.map HandlerCall.event

/-- What a step does to the fields of an interface that is alone. -/
def ClientPart.follow {ι σ α μ : Type} (part : ClientPart ι σ α μ) (familyId : UInt16)
    (id : ObjectId) (index : UInt32) (fields : σ) : ClientsStep ι α μ → σ
  | .serve .. => fields
  | .invoke id' method => if id' = id then part.call method fields else fields
  | .broadcast _ _ answers packet =>
    (heard familyId index packet).elim fields fun event => part.hear answers event fields

section Heard
variable {familyId : UInt16} {index index' : UInt32} {packet : NL80211Packet}
  {event : HandlerEvent} {table : HandlerTable} {owner : ObjectId}

theorem handler?_listening : (listening index).handler? table index' = some owner ↔
    table ∈ ClientInterfaceImpl.tables ∧ index' = index ∧ owner = 0 := by
  simp only [listening, ClientInterfaceImpl.tables, List.foldl_cons, List.foldl_nil,
    NetlinkManager.handler?_subscribe]
  cases table <;> simp [NetlinkManager.handler?, NetlinkManager.empty, eq_comm]

theorem heard_eq_some_iff :
    heard familyId index packet = some event ↔ Concerns familyId index packet event := by
  obtain ⟨call, hcalls, hcall⟩ :=
    NetlinkManager.calls_broadcastHandler familyId 0 packet (listening index)
  have hheard : heard familyId index packet = call.map HandlerCall.event := by
    rw [heard, hcalls]
    cases call <;> rfl
  rw [hheard, Option.map_eq_some_iff]
  constructor
  · rintro ⟨c, hc, rfl⟩
    obtain ⟨hfamily, command, hcommand, hrouted⟩ := (hcall c).mp hc
    obtain ⟨htable, hindex, -⟩ := handler?_listening.mp hrouted.owner
    refine ⟨hfamily, hindex ▸ hrouted.index, command, c.table, hcommand, hrouted.table, htable, ?_⟩
    exact hindex ▸ hrouted.carries
  · intro h
    obtain ⟨command, table, hcommand, htable, hclient, hcarries⟩ := h.carried
    have hrouted : Routed (listening index) packet command ⟨table, index, 0, event⟩ :=
      ⟨htable, h.interface, handler?_listening.mpr ⟨hclient, rfl, rfl⟩, hcarries⟩
    exact ⟨_, (hcall _).mpr ⟨h.family, command, hcommand, hrouted⟩, rfl⟩

/-- A broadcast carries one event at most, and the interface hears it. -/
theorem ClientPart.follow_broadcast {ι σ α μ : Type} {part : ClientPart ι σ α μ} {id : ObjectId}
    {regType : UInt8} {kernels : UInt32 → Kernel} {answers : α} {fields : σ}
    (h : Concerns familyId index packet event) :
    part.follow familyId id index fields (.broadcast regType kernels answers packet) =
      part.hear answers event fields := by
  show (heard familyId index packet).elim fields _ = _
  rw [heard_eq_some_iff.mpr h, Option.elim_some]

theorem ClientPart.follow_broadcast_of_silent {ι σ α μ : Type} {part : ClientPart ι σ α μ}
    {id : ObjectId} {regType : UInt8} {kernels : UInt32 → Kernel} {answers : α} {fields : σ}
    (h : ∀ event, ¬ Concerns familyId index packet event) :
    part.follow familyId id index fields (.broadcast regType kernels answers packet) = fields := by
  have hnone : heard familyId index packet = none := by
    rw [Option.eq_none_iff_forall_ne_some]
    intro event hevent
    exact h event (heard_eq_some_iff.mp hevent)
  show (heard familyId index packet).elim fields _ = _
  rw [hnone, Option.elim_none]

end Heard

namespace Server

variable {s : Server} {call : Call} {name : IfaceName} {client : ClientInterfaceImpl}

/-- Where objects are the same, a client is there with its index. -/
theorem SameObjects.exists_client_index {t : Server} (h : SameObjects s t)
    (hclient : t.clientInterfaces[name]? = some client) : ∃ client',
      s.clientInterfaces[name]? = some client' ∧ client'.id = client.id ∧
        client'.interfaceIndex = client.interfaceIndex := by
  obtain ⟨client', hclient', hid, hindex, -⟩ := h.exists_client hclient
  exact ⟨client', hclient', hid, hindex⟩

/-- A client interface that is live behind a call is constructed in it, or was live before. -/
theorem constructed_or_live (hclient : (s.serve call).clientInterfaces[name]? = some client) :
    .clientConstructed client.id ∈ s.lifecycle call ∨
      ∃ client', s.clientInterfaces[name]? = some client' ∧ client'.id = client.id ∧
        client'.interfaceIndex = client.interfaceIndex := by
  obtain ⟨k, request⟩ := call
  cases request with
  | createClientInterface ifaceName =>
    have hsetup := sameObjects_setupInterface s k ifaceName
    replace hclient :
      (s.createClientInterface k ifaceName).2.clientInterfaces[name]? = some client := hclient
    cases hreported : k.reported ifaceName with
    | none =>
      rw [createClientInterface_of_none hreported] at hclient
      exact .inr (hsetup.exists_client_index hclient)
    | some r =>
      rw [createClientInterface_of_some hreported] at hclient
      obtain ⟨added, hadded, hid, hindex⟩ :=
        sameObjects_recordWiphyIndex.exists_client_index hclient
      rw [clientInterfaces_addClientInterface, OrderedMap.getElem?_insert_ite] at hadded
      split_ifs at hadded with hname
      · left
        obtain rfl := Option.some.inj hadded
        rw [← hid, lifecycle]
        simp [hreported, ClientInterfaceImpl.create, hsetup.created]
      · right
        obtain ⟨client', hclient', hid', hindex'⟩ := hsetup.exists_client_index hadded
        exact ⟨client', hclient', hid'.trans hid, hindex'.trans hindex⟩
  | createApInterface ifaceName =>
    have hsetup := sameObjects_setupInterface s k ifaceName
    right
    replace hclient :
      (s.createApInterface k ifaceName).2.clientInterfaces[name]? = some client := hclient
    cases hreported : k.reported ifaceName with
    | none =>
      rw [createApInterface_of_none hreported] at hclient
      exact hsetup.exists_client_index hclient
    | some r =>
      rw [createApInterface_of_some hreported] at hclient
      obtain ⟨client', hclient', hid, hindex⟩ :=
        sameObjects_recordWiphyIndex.exists_client_index hclient
      obtain ⟨client'', hclient'', hid', hindex'⟩ := hsetup.exists_client_index hclient'
      exact ⟨client'', hclient'', hid'.trans hid, hindex'.trans hindex⟩
  | tearDownClientInterface ifaceName =>
    right
    replace hclient :
      (s.tearDownClientInterface ifaceName).2.clientInterfaces[name]? = some client := hclient
    rw [tearDownClientInterface_eq] at hclient
    obtain ⟨client', hclient', hid, hindex⟩ :=
      sameObjects_releaseWiphyIndex.exists_client_index hclient
    rw [clientInterfaces_removeClientInterface, OrderedMap.getElem?_erase_ite] at hclient'
    split_ifs at hclient' with hname
    exact ⟨client', hclient', hid, hindex⟩
  | tearDownApInterface ifaceName =>
    right
    replace hclient :
      (s.tearDownApInterface ifaceName).2.clientInterfaces[name]? = some client := hclient
    rw [tearDownApInterface_eq] at hclient
    obtain ⟨client', hclient', hid, hindex⟩ :=
      sameObjects_releaseWiphyIndex.exists_client_index hclient
    rw [clientInterfaces_removeApInterface] at hclient'
    exact ⟨client', hclient', hid, hindex⟩
  | tearDownInterfaces => simp [serve] at hclient
  | _ => exact .inr ((sameObjects_serve (by trivial)).exists_client_index hclient)

end Server

namespace Clients

variable {ι σ α μ : Type} {part : ClientPart ι σ α μ} {familyId : UInt16} {c : Clients σ}
  {history : List (ClientsStep ι α μ)} {next : ClientsStep ι α μ} {id : ObjectId}
  {name : IfaceName} {client : ClientInterfaceImpl} {packet : NL80211Packet}

/-- Where an object exists behind some events, its fields are new if it was constructed in
them, and else the same. -/
theorem foldl_observe {live : LiveObjects} {initial : σ} {events : List LifecycleEvent}
    (fields : ObjectId → Option σ) (h : id ∈ (events.foldl LiveObjects.after live).clients) :
    events.foldl (observe initial) fields id =
      if .clientConstructed id ∈ events then some initial else fields id := by
  induction events using List.reverseRecOn with
  | nil => simp
  | append_singleton events event ih =>
    rw [List.foldl_append, List.foldl_cons, List.foldl_nil] at h ⊢
    cases event with
    | clientConstructed new =>
      by_cases hnew : id = new
      · simp [observe, hnew]
      · have hbefore := (Set.mem_insert_iff.mp h).resolve_left hnew
        simp [observe, ih hbefore, hnew]
    | clientDestroyed dead =>
      have hne : id ≠ dead := h.2
      simp [observe, Function.update_of_ne hne, ih h.1]
    | apConstructed new => simp [observe, ih h]
    | apDestroyed dead => simp [observe, ih h]

/-- A broadcast comes to the fields of the owner that it is routed to, if there is one, and
leads the server through calls of its handlers of regulatory changes. -/
theorem exists_broadcast_eq (part : ClientPart ι σ α μ) (familyId : UInt16) (regType : UInt8)
    (kernels : UInt32 → Kernel) (answers : α) (packet : NL80211Packet) (c : Clients σ) :
    ∃ (call : Option HandlerCall) (calls : List Call),
      (∀ call ∈ calls, call.request.Idle) ∧
      (c.broadcast part familyId regType kernels answers packet).server =
        calls.foldl (fun s call => s.serve call) c.server ∧
      (c.broadcast part familyId regType kernels answers packet).fields =
        (call.elim c fun told => c.deliver part answers told).fields ∧
      ∀ told, call = some told ↔ packet.getMessageType = familyId.toNat ∧
        ∃ command, packet.getCommand = .ok command ∧
          Routed c.server.platform.netlink packet command told := by
  obtain ⟨call, hcalls, hcall⟩ := NetlinkManager.calls_broadcastHandler familyId regType packet
    c.server.platform.netlink
  let handled := (NetlinkManager.broadcastHandler familyId regType packet).after
    ⟨c.server.platform.netlink, [], []⟩
  refine ⟨call, handled.regDomainCalls.map fun call =>
    ⟨kernels call.1, .onRegDomainChanged call.1 call.2⟩, ?_, ?_, ?_, hcall⟩
  · intro call hmem
    obtain ⟨told, -, rfl⟩ := List.mem_map.mp hmem
    trivial
  · rw [List.foldl_map, broadcast, hcalls]
    cases call <;> rfl
  · rw [broadcast, hcalls]
    cases call <;> rfl

theorem spares_step (hspare : SparesLive c next) :
    c.server.Spares (c.step part familyId next).server := by
  cases next with
  | serve call memory => exact .serve (hspare call memory rfl)
  | invoke id method => exact .same (.refl _)
  | broadcast regType kernels answers packet =>
    obtain ⟨call, calls, hcalls, hserver, -⟩ :=
      exists_broadcast_eq part familyId regType kernels answers packet c
    show c.server.Spares (c.broadcast part familyId regType kernels answers packet).server
    rw [hserver]
    exact .same (Server.sameObjects_foldl_serve hcalls _)

theorem intact_after
    (hspares : Runs.Along (step part familyId) SparesLive (fresh : Clients σ) history) :
    (after part familyId history).server.Intact :=
  Server.intact_of_along (fun c : Clients σ => c.server) rfl
    (fun _ _ hspare => spares_step hspare) hspares

/-- The handler that runs for a live client is its own. -/
theorem concerns_of_routed (hc : c.server.Intact)
    (hclient : c.server.clientInterfaces[name]? = some client) {command : ℕ}
    {told : HandlerCall} (hfamily : packet.getMessageType = familyId.toNat)
    (hcommand : packet.getCommand = .ok command)
    (hrouted : Routed c.server.platform.netlink packet command told)
    (howner : told.owner = client.id) :
    Concerns familyId client.interfaceIndex packet told.event := by
  have hregisters := hc.owned told.table told.index told.owner hrouted.owner
  generalize told.owner = owner at howner hregisters
  cases hregisters with
  | client name' client' hclient' htable hindex =>
    obtain rfl := hc.wellNamed.clients name' name client' client hclient' hclient howner
    obtain rfl : client' = client := Option.some.inj (hclient'.symm.trans hclient)
    exact ⟨hfamily, hindex ▸ hrouted.index, command, told.table, hcommand, hrouted.table, htable,
      hindex ▸ hrouted.carries⟩
  | ap name' ap hap htable hindex =>
    exact absurd howner.symm (hc.wellNamed.apart name name' client ap hclient hap)

/-- A live client interface hears of a broadcast what it would hear if it were alone. -/
theorem fields_broadcast (hc : c.server.Intact)
    (hclient : c.server.clientInterfaces[name]? = some client) (regType : UInt8)
    (kernels : UInt32 → Kernel) (answers : α) (packet : NL80211Packet) :
    (c.broadcast part familyId regType kernels answers packet).fields client.id =
      (c.fields client.id).map fun fields => part.follow familyId client.id
        client.interfaceIndex fields (.broadcast regType kernels answers packet) := by
  obtain ⟨call, calls, -, -, hfields, hcall⟩ :=
    exists_broadcast_eq part familyId regType kernels answers packet c
  have hheard (event : HandlerEvent) :
      heard familyId client.interfaceIndex packet = some event ↔
        ∃ told, call = some told ∧ told.owner = client.id ∧ told.event = event := by
    rw [heard_eq_some_iff]
    constructor
    · intro h
      obtain ⟨command, table, hcommand, htable, hmem, hcarries⟩ := h.carried
      have howner := (hc.registered.clients name client hclient).1 table hmem
      have hrouted : Routed c.server.platform.netlink packet command
          ⟨table, client.interfaceIndex, client.id, event⟩ :=
        ⟨htable, h.interface, howner, hcarries⟩
      exact ⟨_, (hcall _).mpr ⟨h.family, command, hcommand, hrouted⟩, rfl, rfl⟩
    · rintro ⟨told, htold, howner, rfl⟩
      obtain ⟨hfamily, command, hcommand, hrouted⟩ := (hcall told).mp htold
      exact concerns_of_routed hc hclient hfamily hcommand hrouted howner
  rw [hfields]
  show _ = (c.fields client.id).map fun fields => (heard familyId client.interfaceIndex packet).elim
    fields fun event => part.hear answers event fields
  cases hevent : heard familyId client.interfaceIndex packet with
  | some event =>
    obtain ⟨told, rfl, howner, rfl⟩ := (hheard event).mp hevent
    rw [Option.elim_some, deliver, update, howner]
    simp
  | none =>
    have hsilent (told : HandlerCall) (htold : call = some told) : client.id ≠ told.owner := by
      intro howner
      have hsome := (hheard told.event).mpr ⟨told, htold, howner.symm, rfl⟩
      simp [hevent] at hsome
    cases call with
    | none => simp
    | some told =>
      rw [Option.elim_some, deliver, update]
      simp [Function.update_of_ne (hsilent told rfl)]

/-- While a client interface lives, its fields go on by themselves. -/
theorem fields_step (hc : c.server.Intact)
    (hclient : c.server.clientInterfaces[name]? = some client)
    (hlive : client.id ∈ (c.step part familyId next).server.live.clients) :
    (c.step part familyId next).fields client.id = (c.fields client.id).map fun fields =>
      part.follow familyId client.id client.interfaceIndex fields next := by
  cases next with
  | serve call memory =>
    have hold : .clientConstructed client.id ∉ c.server.lifecycle call := by
      intro hnew
      have hlt := (hc.wellNamed.client name client hclient).2
      exact absurd (Server.eq_created_of_constructed hnew rfl).1 (Nat.ne_of_lt hlt)
    replace hlive : client.id ∈ (c.server.serve call).live.clients := hlive
    rw [Server.live_serve hc.wellNamed] at hlive
    show (c.server.lifecycle call).foldl (observe (part.construct memory)) c.fields client.id = _
    rw [foldl_observe c.fields hlive, if_neg hold]
    exact Option.map_id'.symm
  | invoke id method =>
    show (c.update id (part.call method)).fields client.id = (c.fields client.id).map fun fields =>
      if id = client.id then part.call method fields else fields
    by_cases hid : id = client.id
    · simp [update, hid]
    · simp [update, hid, Function.update_of_ne (Ne.symm hid)]
  | broadcast regType kernels answers packet =>
    exact fields_broadcast hc hclient regType kernels answers packet

theorem after_append (history : List (ClientsStep ι α μ)) (next : ClientsStep ι α μ) :
    after part familyId (history ++ [next]) =
      (after part familyId history).step part familyId next := by
  rw [after, List.foldl_append]
  rfl

/-- A client interface that is live behind a step is constructed in it, or was live before. -/
theorem constructed_or_live_step
    (hclient : (c.step part familyId next).server.clientInterfaces[name]? = some client) :
    (∃ call memory, next = .serve call memory ∧
      .clientConstructed client.id ∈ c.server.lifecycle call) ∨
      ∃ client', c.server.clientInterfaces[name]? = some client' ∧ client'.id = client.id ∧
        client'.interfaceIndex = client.interfaceIndex := by
  cases next with
  | serve call memory =>
    rcases Server.constructed_or_live hclient with hnew | hold
    · exact .inl ⟨call, memory, rfl, hnew⟩
    · exact .inr hold
  | invoke id method => exact .inr ⟨client, hclient, rfl, rfl⟩
  | broadcast regType kernels answers packet =>
    obtain ⟨call, calls, hcalls, hserver, -⟩ :=
      exists_broadcast_eq part familyId regType kernels answers packet c
    replace hclient : (c.broadcast part familyId regType kernels answers
      packet).server.clientInterfaces[name]? = some client := hclient
    rw [hserver] at hclient
    exact .inr ((Server.sameObjects_foldl_serve hcalls c.server).exists_client_index hclient)

/-- The fields of a live client interface are those of one that was constructed with it and
then was alone. -/
theorem fields_of_live
    (hspares : Runs.Along (step part familyId) SparesLive (fresh : Clients σ) history)
    (hclient : (after part familyId history).server.clientInterfaces[name]? = some client) :
    ∃ pre call memory post, history = pre ++ .serve call memory :: post ∧
      .clientConstructed client.id ∈ (after part familyId pre).server.lifecycle call ∧
      (after part familyId history).fields client.id =
        some (post.foldl (part.follow familyId client.id client.interfaceIndex)
          (part.construct memory)) := by
  induction history using List.reverseRecOn generalizing name client with
  | nil => simp [after, fresh, Server.fresh] at hclient
  | append_singleton history next ih =>
    have hbefore := Runs.along_of_append hspares
    have hc := intact_after hbefore
    have hlive : client.id ∈ (after part familyId (history ++ [next])).server.live.clients :=
      ⟨name, client, hclient, rfl⟩
    rw [after_append] at hclient hlive ⊢
    rcases constructed_or_live_step hclient with ⟨call, memory, rfl, hnew⟩ | hold
    · refine ⟨history, call, memory, [], rfl, hnew, ?_⟩
      replace hlive : client.id ∈ ((after part familyId history).server.serve call).live.clients :=
        hlive
      rw [Server.live_serve hc.wellNamed] at hlive
      show ((after part familyId history).server.lifecycle call).foldl
        (observe (part.construct memory)) (after part familyId history).fields client.id = _
      rw [foldl_observe _ hlive, if_pos hnew, List.foldl_nil]
    · obtain ⟨client', hclient', hid, hindex⟩ := hold
      obtain ⟨pre, call, memory, post, rfl, hnew, hfields⟩ := ih hbefore hclient'
      refine ⟨pre, call, memory, post ++ [next], by simp, hid ▸ hnew, ?_⟩
      rw [← hid] at hlive
      rw [← hid, ← hindex, fields_step hc hclient' hlive, hfields, Option.map_some,
        List.foldl_append]
      rfl

end Clients

end Wificond
