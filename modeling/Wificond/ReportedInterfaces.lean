import Wificond.InterfaceDump
import Wificond.ServerCalls

/-!
# Interfaces that the kernel reported

The server constructs an interface object from what two dumps say about a name. Whatever
calls were made, and whatever packets the kernel sent, an object is live exactly if its
creation is the last call that wrote its name, with what the packets of that call say.
-/
namespace Wificond

open NetlinkUtils

/-- A synchronous query: what its request is headed with, and what the kernel answers. -/
structure Query where
  header : RequestHeader
  respond : Responses

/-- What is answered during one call, with the two dumps as packets. The walks over these
packets come to an end and stay inside them. -/
structure DumpAnswers where
  ifNametoindex : IfaceName → UInt32
  wiphyIndex : ℕ → Query
  interfaces : Query
  wiphyInfo : ℕ → UInt32 → Option BandInfo
  countryCode : Option (List UInt8)
  wiphyIndex_readable : ∀ number ifaceName, ∃ result, getWiphyIndex (wiphyIndex number).header
    ifNametoindex (wiphyIndex number).respond ifaceName 0 = .ok result
  interfaces_readable : ∀ index, ∃ result,
    getInterfaces interfaces.header interfaces.respond index = .ok result

namespace DumpAnswers

def getWiphyIndex (answers : DumpAnswers) (number : ℕ) (ifaceName : IfaceName) : Option UInt32 :=
  let query := answers.wiphyIndex number
  match NetlinkUtils.getWiphyIndex query.header answers.ifNametoindex query.respond ifaceName 0 with
  | .ok (true, index) => some index
  | _ => none

def getInterfaces (answers : DumpAnswers) (wiphyIndex : UInt32) : Bool × List InterfaceInfo :=
  match NetlinkUtils.getInterfaces answers.interfaces.header answers.interfaces.respond
    wiphyIndex with
  | .ok result => result
  | .error _ => (false, [])

/-- The answers as the server sees them. -/
def kernel (answers : DumpAnswers) : Kernel where
  getWiphyIndex := answers.getWiphyIndex
  getInterfaces := answers.getInterfaces
  getWiphyInfo := answers.wiphyInfo
  getCountryCode := answers.countryCode

/-- The response of the first query for a wiphy: of the first attempt, or of both. -/
def WiphyPackets (answers : DumpAnswers) (ifaceName : IfaceName) (packets : List NL80211Packet) :
    Prop :=
  let query := answers.wiphyIndex 0
  let request := wiphyIndexRequest query.header
    (if ifaceName = [] then none else some (answers.ifNametoindex ifaceName))
  (query.respond 0 request).1 = true ∧ packets = (query.respond 0 request).2 ∨
    (query.respond 0 request).1 = false ∧ (query.respond 1 request).1 = true ∧
      packets = (query.respond 0 request).2 ++ (query.respond 1 request).2

/-- The packets report an interface under a name: the last packet of the first dump gives its
wiphy, and in the dump of this wiphy it is the first interface of that name. -/
structure Reports (answers : DumpAnswers) (ifaceName : IfaceName) (interface : InterfaceInfo) :
    Prop where
  known : ifaceName ≠ [] → answers.ifNametoindex ifaceName ≠ 0
  wiphy : ∃ packets last, answers.WiphyPackets ifaceName (packets ++ [last]) ∧
    (∀ packet ∈ packets, ∃ current,
      GivesWiphy (answers.wiphyIndex 0).header packet current) ∧
    GivesWiphy (answers.wiphyIndex 0).header last interface.wiphyIndex
  dumped : (answers.interfaces.respond 0
    (interfacesRequest answers.interfaces.header interface.wiphyIndex)).1 = true
  first : ∃ before packet after, (answers.interfaces.respond 0
      (interfacesRequest answers.interfaces.header interface.wiphyIndex)).2 =
        before ++ packet :: after ∧
    GivesInterface answers.interfaces.header interface.wiphyIndex packet (some interface) ∧
    interface.name = ifaceName ∧
    (∀ other ∈ before, ∃ iface, GivesInterface answers.interfaces.header interface.wiphyIndex
      other iface ∧ ∀ i ∈ iface, i.name ≠ ifaceName) ∧
    ∀ other ∈ after, ∃ iface, GivesInterface answers.interfaces.header interface.wiphyIndex
      other iface

theorem Reports.name_eq {answers : DumpAnswers} {ifaceName : IfaceName}
    {interface : InterfaceInfo} (h : answers.Reports ifaceName interface) :
    interface.name = ifaceName := by
  obtain ⟨before, packet, after, hsplit, hpacket, hname, hrest⟩ := h.first
  exact hname

section Reports
variable {answers : DumpAnswers} {ifaceName : IfaceName} {interface : InterfaceInfo}
  {wiphyIndex : UInt32} {infos : List InterfaceInfo}

theorem getWiphyIndex_eq_some_iff : answers.getWiphyIndex 0 ifaceName = some wiphyIndex ↔
    NetlinkUtils.getWiphyIndex (answers.wiphyIndex 0).header answers.ifNametoindex
      (answers.wiphyIndex 0).respond ifaceName 0 = .ok (true, wiphyIndex) := by
  rw [getWiphyIndex]
  split
  · next index hok => simp [hok]
  · next hnot => simpa using hnot wiphyIndex

theorem getInterfaces_kernel_iff : answers.kernel.getInterfaces wiphyIndex = (true, infos) ↔
    NetlinkUtils.getInterfaces answers.interfaces.header answers.interfaces.respond wiphyIndex =
      .ok (true, infos) := by
  show answers.getInterfaces wiphyIndex = _ ↔ _
  rw [getInterfaces]
  split
  · next result hok => rw [hok, Except.ok.injEq]
  · next fault hfault => simp [hfault]

/-- A dump that succeeds brings some packets, and none that is refused. -/
theorem dump_eq_true_iff {header : RequestHeader} {respond : Responses} :
    NetlinkUtils.getInterfaces header respond wiphyIndex = .ok (true, infos) ↔
      (respond 0 (interfacesRequest header wiphyIndex)).1 = true ∧
      (respond 0 (interfacesRequest header wiphyIndex)).2 ≠ [] ∧
      ∃ ifaces, List.Forall₂ (GivesInterface header wiphyIndex)
        (respond 0 (interfacesRequest header wiphyIndex)).2 ifaces ∧
        infos = ifaces.flatMap Option.toList := by
  rw [NetlinkUtils.getInterfaces]
  cases hsent : (respond 0 (interfacesRequest header wiphyIndex)).1 with
  | false => simp
  | true =>
    by_cases hempty : (respond 0 (interfacesRequest header wiphyIndex)).2 = []
    · simp [hempty]
    · simp only [Bool.not_true, Bool.false_eq_true, if_false, readInterfaces_iff, List.nil_append,
        true_and, ne_eq, hempty, not_false_eq_true]

/-- Each element of a list has a partner that meets a condition. -/
theorem exists_forall₂_iff {α β : Type*} {R : α → β → Prop} {Q : β → Prop} {as : List α} :
    (∃ bs, List.Forall₂ R as bs ∧ ∀ b ∈ bs, Q b) ↔ ∀ a ∈ as, ∃ b, R a b ∧ Q b := by
  induction as with
  | nil => simp
  | cons a as ih =>
    rw [List.forall_mem_cons, ← ih]
    constructor
    · intro h
      obtain ⟨bs, hrel, hall⟩ := h
      obtain ⟨b, rest, hab, hrest, rfl⟩ := List.forall₂_cons_left_iff.mp hrel
      exact ⟨⟨b, hab, hall b (by simp)⟩, rest, hrest, fun c hc => hall c (by simp [hc])⟩
    · intro h
      obtain ⟨⟨b, hab, hb⟩, rest, hrest, hall⟩ := h
      exact ⟨b :: rest, .cons hab hrest, List.forall_mem_cons.mpr ⟨hb, hall⟩⟩

theorem find?_flatMap_toList {α : Type*} {p : α → Bool} {found : List (Option α)} {a : α} :
    (found.flatMap Option.toList).find? p = some a ↔ p a = true ∧
      ∃ before after, found = before ++ some a :: after ∧
        ∀ o ∈ before, ∀ b ∈ o, ¬ p b = true := by
  have hfilter : found.flatMap Option.toList = found.filterMap id :=
    (List.filterMap_eq_flatMap_toList id found).symm
  have hany (o : Option α) : (!o.any p) = true ↔ ∀ b ∈ o, ¬ p b = true := by
    cases o <;> simp
  rw [hfilter, List.find?_filterMap, Option.bind_eq_some_iff]
  constructor
  · intro h
    obtain ⟨o, hfind, rfl⟩ := h
    obtain ⟨hp, before, after, hsplit, hbefore⟩ := List.find?_eq_some_iff_append.mp hfind
    exact ⟨hp, before, after, hsplit, fun o ho => (hany o).mp (hbefore o ho)⟩
  · intro h
    obtain ⟨hp, before, after, hsplit, hbefore⟩ := h
    refine ⟨some a, List.find?_eq_some_iff_append.mpr ⟨hp, before, after, hsplit, ?_⟩, rfl⟩
    exact fun o ho => (hany o).mpr (hbefore o ho)

theorem wiphyIndex_of_gives {header : RequestHeader} {packet : NL80211Packet}
    (h : GivesInterface header wiphyIndex packet (some interface)) :
    interface.wiphyIndex = wiphyIndex := by
  obtain ⟨ifIndex, -, h⟩ := Runs.exists_of_bind_some h.2 rfl
  obtain ⟨ifName, -, h⟩ := Runs.exists_of_bind_some h rfl
  obtain ⟨ifMacAddr, -, h⟩ := Runs.exists_of_bind_some h rfl
  obtain rfl : _ = interface := Option.some.inj (Except.ok.inj h)
  rfl

/-- What the search through a dump comes to. -/
theorem find_in_dump_iff {header : RequestHeader} {packets : List NL80211Packet} :
    (∃ ifaces, List.Forall₂ (GivesInterface header wiphyIndex) packets ifaces ∧
        (ifaces.flatMap Option.toList).find? (fun iface => iface.name == ifaceName) =
          some interface) ↔
      ∃ before packet after, packets = before ++ packet :: after ∧
        GivesInterface header wiphyIndex packet (some interface) ∧ interface.name = ifaceName ∧
        (∀ other ∈ before, ∃ iface, GivesInterface header wiphyIndex other iface ∧
          ∀ i ∈ iface, i.name ≠ ifaceName) ∧
        ∀ other ∈ after, ∃ iface, GivesInterface header wiphyIndex other iface := by
  constructor
  · intro h
    obtain ⟨ifaces, hgives, hfind⟩ := h
    obtain ⟨hname, found, others, rfl, hfound⟩ := find?_flatMap_toList.mp hfind
    have hbefore := List.forall₂_take_append _ _ _ hgives
    obtain ⟨packet, after, hpacket, hafter, hdrop⟩ :=
      List.forall₂_cons_right_iff.mp (List.forall₂_drop_append _ _ _ hgives)
    refine ⟨packets.take found.length, packet, after, ?_, hpacket, by simpa using hname, ?_, ?_⟩
    · rw [← hdrop, List.take_append_drop]
    · refine exists_forall₂_iff.mp ⟨found, hbefore, fun o ho i hi => ?_⟩
      simpa using hfound o ho i hi
    · intro other hother
      obtain ⟨iface, hiface, -⟩ := (exists_forall₂_iff (Q := fun _ => True)).mp
        ⟨others, hafter, fun _ _ => trivial⟩ other hother
      exact ⟨iface, hiface⟩
  · intro h
    obtain ⟨before, packet, after, rfl, hpacket, hname, hbefore, hafter⟩ := h
    obtain ⟨found, hfound, hothers⟩ := exists_forall₂_iff.mpr hbefore
    obtain ⟨rest, hrest, -⟩ := (exists_forall₂_iff (Q := fun _ => True)).mpr
      fun other hother => (hafter other hother).imp fun _ hiface => ⟨hiface, trivial⟩
    refine ⟨found ++ some interface :: rest, List.rel_append hfound (.cons hpacket hrest), ?_⟩
    refine find?_flatMap_toList.mpr ⟨by simpa using hname, found, rest, rfl, fun o ho i hi => ?_⟩
    simpa using hothers o ho i hi

theorem getWiphyIndex_kernel_iff : answers.kernel.getWiphyIndex 0 ifaceName = some wiphyIndex ↔
    (ifaceName ≠ [] → answers.ifNametoindex ifaceName ≠ 0) ∧ ∃ packets last,
      answers.WiphyPackets ifaceName (packets ++ [last]) ∧
      (∀ packet ∈ packets, ∃ current,
        GivesWiphy (answers.wiphyIndex 0).header packet current) ∧
      GivesWiphy (answers.wiphyIndex 0).header last wiphyIndex :=
  getWiphyIndex_eq_some_iff.trans (getWiphyIndex_eq_true_iff _ _ _)

/-- The interface that the server takes is the one that the packets report. -/
theorem reported_iff : answers.kernel.reported ifaceName = some (interface, wiphyIndex) ↔
    interface.wiphyIndex = wiphyIndex ∧ answers.Reports ifaceName interface := by
  constructor
  · intro h
    have hindex := Kernel.getWiphyIndex_of_reported h
    obtain ⟨hknown, hwiphy⟩ := getWiphyIndex_kernel_iff.mp hindex
    rw [Kernel.reported, hindex, Option.bind_some] at h
    split_ifs at h with hsuccess
    obtain ⟨iface, hfind, hpair⟩ := Option.map_eq_some_iff.mp h
    obtain rfl : iface = interface := congrArg Prod.fst hpair
    have hdump : answers.kernel.getInterfaces wiphyIndex =
        (true, (answers.kernel.getInterfaces wiphyIndex).2) := Prod.ext hsuccess rfl
    obtain ⟨hdumped, -, ifaces, hgives, hinfos⟩ :=
      dump_eq_true_iff.mp (getInterfaces_kernel_iff.mp hdump)
    rw [hinfos] at hfind
    have hfirst := find_in_dump_iff.mp ⟨ifaces, hgives, hfind⟩
    obtain ⟨before, packet, after, hsplit, hpacket, hrest⟩ := hfirst
    obtain rfl := wiphyIndex_of_gives hpacket
    exact ⟨rfl, hknown, hwiphy, hdumped, before, packet, after, hsplit, hpacket, hrest⟩
  · intro h
    obtain ⟨rfl, h⟩ := h
    have hindex := getWiphyIndex_kernel_iff.mpr ⟨h.known, h.wiphy⟩
    obtain ⟨ifaces, hgives, hfind⟩ := find_in_dump_iff.mpr h.first
    obtain ⟨before, packet, after, hsplit, -⟩ := h.first
    have hdump : answers.kernel.getInterfaces interface.wiphyIndex =
        (true, ifaces.flatMap Option.toList) := by
      refine getInterfaces_kernel_iff.mpr (dump_eq_true_iff.mpr ⟨h.dumped, ?_, ifaces, hgives, rfl⟩)
      simp [hsplit]
    rw [Kernel.reported, hindex, Option.bind_some, hdump, if_pos rfl, hfind]
    rfl

end Reports

end DumpAnswers

/-- The interface that a client object stands for. -/
def ClientInterfaceImpl.interfaceInfo (client : ClientInterfaceImpl) : InterfaceInfo :=
  ⟨client.interfaceIndex, client.wiphyIndex, client.interfaceName, client.interfaceMacAddr⟩

/-- An access point keeps the name and the index only. -/
def ApInterfaceImpl.nameAndIndex (ap : ApInterfaceImpl) : IfaceName × UInt32 :=
  (ap.interfaceName, ap.interfaceIndex)

namespace Server
variable {s t : Server} {call : Call} {name : IfaceName}

/-- What a call writes under a name: the interface that is reported, or nothing any more. -/
def writesClient (name : IfaceName) (call : Call) : Option (Option InterfaceInfo) :=
  match call.request with
  | .createClientInterface ifaceName =>
    if ifaceName = name then
      (call.kernel.reported name).map fun r => some { r.1 with wiphyIndex := r.2 }
    else none
  | .tearDownClientInterface ifaceName => if ifaceName = name then some none else none
  | .tearDownInterfaces => some none
  | _ => none

def writesAp (name : IfaceName) (call : Call) : Option (Option (IfaceName × UInt32)) :=
  match call.request with
  | .createApInterface ifaceName =>
    if ifaceName = name then
      (call.kernel.reported name).map fun r => some (r.1.name, r.1.ifIndex)
    else none
  | .tearDownApInterface ifaceName => if ifaceName = name then some none else none
  | .tearDownInterfaces => some none
  | _ => none

/-- The interface that a server has for clients under a name. -/
def clientInfo (name : IfaceName) (s : Server) : Option InterfaceInfo :=
  s.clientInterfaces[name]?.map ClientInterfaceImpl.interfaceInfo

def apInfo (name : IfaceName) (s : Server) : Option (IfaceName × UInt32) :=
  s.apInterfaces[name]?.map ApInterfaceImpl.nameAndIndex

theorem SameObjects.clientInfo_eq (h : SameObjects s t) :
    t.clientInfo name = s.clientInfo name := by
  have hinfo (client? : Option ClientInterfaceImpl) :
      client?.map ClientInterfaceImpl.interfaceInfo =
        (client?.map ClientInterfaceImpl.identity).map ClientInterfaceImpl.interfaceInfo := by
    cases client? <;> rfl
  rw [clientInfo, clientInfo, hinfo, h.clients name, ← hinfo]

theorem SameObjects.apInfo_eq (h : SameObjects s t) : t.apInfo name = s.apInfo name := by
  rw [apInfo, apInfo, h.aps]

theorem clientInfo_serve (s : Server) (call : Call) :
    (s.serve call).clientInfo name = (writesClient name call).getD (s.clientInfo name) := by
  obtain ⟨k, request⟩ := call
  cases request with
  | createClientInterface ifaceName =>
    have hsetup (other : IfaceName) :
        (s.setupInterface k ifaceName).2.clientInfo other = s.clientInfo other :=
      (sameObjects_setupInterface s k ifaceName).clientInfo_eq
    show (s.createClientInterface k ifaceName).2.clientInfo name =
      (if ifaceName = name then
        (k.reported name).map fun r => some { r.1 with wiphyIndex := r.2 } else none).getD _
    cases hreported : k.reported ifaceName with
    | none =>
      rw [createClientInterface_of_none hreported, hsetup]
      split_ifs with hname
      · rw [← hname, hreported, Option.map_none, Option.getD_none]
      · rw [Option.getD_none]
    | some r =>
      rw [createClientInterface_of_some hreported, sameObjects_recordWiphyIndex.clientInfo_eq,
        clientInfo, clientInterfaces_addClientInterface, OrderedMap.getElem?_insert_ite]
      split_ifs with hname
      · rw [← hname, hreported]
        rfl
      · exact hsetup name
  | createApInterface ifaceName =>
    have hsetup : (s.setupInterface k ifaceName).2.clientInfo name = s.clientInfo name :=
      (sameObjects_setupInterface s k ifaceName).clientInfo_eq
    show (s.createApInterface k ifaceName).2.clientInfo name = s.clientInfo name
    cases hreported : k.reported ifaceName with
    | none =>
      rw [createApInterface_of_none hreported]
      exact hsetup
    | some r =>
      rw [createApInterface_of_some hreported, sameObjects_recordWiphyIndex.clientInfo_eq]
      exact hsetup
  | tearDownClientInterface ifaceName =>
    show (s.tearDownClientInterface ifaceName).2.clientInfo name =
      (if ifaceName = name then some none else none).getD _
    rw [tearDownClientInterface_eq, sameObjects_releaseWiphyIndex.clientInfo_eq, clientInfo,
      clientInterfaces_removeClientInterface, OrderedMap.getElem?_erase_ite]
    split_ifs <;> rfl
  | tearDownApInterface ifaceName =>
    show (s.tearDownApInterface ifaceName).2.clientInfo name = s.clientInfo name
    rw [tearDownApInterface_eq, sameObjects_releaseWiphyIndex.clientInfo_eq, clientInfo,
      clientInterfaces_removeApInterface]
    rfl
  | tearDownInterfaces => simp [serve, clientInfo, writesClient]
  | _ => exact (sameObjects_serve (by trivial)).clientInfo_eq

theorem apInfo_serve (s : Server) (call : Call) :
    (s.serve call).apInfo name = (writesAp name call).getD (s.apInfo name) := by
  obtain ⟨k, request⟩ := call
  cases request with
  | createApInterface ifaceName =>
    have hsetup (other : IfaceName) :
        (s.setupInterface k ifaceName).2.apInfo other = s.apInfo other :=
      (sameObjects_setupInterface s k ifaceName).apInfo_eq
    show (s.createApInterface k ifaceName).2.apInfo name =
      (if ifaceName = name then
        (k.reported name).map fun r => some (r.1.name, r.1.ifIndex) else none).getD _
    cases hreported : k.reported ifaceName with
    | none =>
      rw [createApInterface_of_none hreported, hsetup]
      split_ifs with hname
      · rw [← hname, hreported, Option.map_none, Option.getD_none]
      · rw [Option.getD_none]
    | some r =>
      rw [createApInterface_of_some hreported, sameObjects_recordWiphyIndex.apInfo_eq, apInfo,
        apInterfaces_addApInterface, OrderedMap.getElem?_insert_ite]
      split_ifs with hname
      · rw [← hname, hreported]
        rfl
      · exact hsetup name
  | createClientInterface ifaceName =>
    have hsetup : (s.setupInterface k ifaceName).2.apInfo name = s.apInfo name :=
      (sameObjects_setupInterface s k ifaceName).apInfo_eq
    show (s.createClientInterface k ifaceName).2.apInfo name = s.apInfo name
    cases hreported : k.reported ifaceName with
    | none =>
      rw [createClientInterface_of_none hreported]
      exact hsetup
    | some r =>
      rw [createClientInterface_of_some hreported, sameObjects_recordWiphyIndex.apInfo_eq]
      exact hsetup
  | tearDownApInterface ifaceName =>
    show (s.tearDownApInterface ifaceName).2.apInfo name =
      (if ifaceName = name then some none else none).getD _
    rw [tearDownApInterface_eq, sameObjects_releaseWiphyIndex.apInfo_eq, apInfo,
      apInterfaces_removeApInterface, OrderedMap.getElem?_erase_ite]
    split_ifs <;> rfl
  | tearDownClientInterface ifaceName =>
    show (s.tearDownClientInterface ifaceName).2.apInfo name = s.apInfo name
    rw [tearDownClientInterface_eq, sameObjects_releaseWiphyIndex.apInfo_eq, apInfo,
      apInterfaces_removeClientInterface]
    rfl
  | tearDownInterfaces => simp [serve, apInfo, writesAp]
  | _ => exact (sameObjects_serve (by trivial)).apInfo_eq

end Server

/-- A request, and what the kernel sends while it is served. -/
structure WireCall where
  answers : DumpAnswers
  request : Request

def WireCall.call (c : WireCall) : Call := ⟨c.answers.kernel, c.request⟩

/-- The call neither tears down nor replaces an object. -/
def WireCall.Spares (create tearDown : IfaceName → Request) (name : IfaceName) (c : WireCall) :
    Prop :=
  c.request ≠ tearDown name ∧ c.request ≠ .tearDownInterfaces ∧
    (c.request = create name → ∀ interface, ¬ c.answers.Reports name interface)

section WireCall
variable {name : IfaceName} {c : WireCall} {interface : InterfaceInfo} {ifIndex : UInt32}

theorem DumpAnswers.reported_eq_none_iff {answers : DumpAnswers} :
    answers.kernel.reported name = none ↔ ∀ interface, ¬ answers.Reports name interface := by
  rw [Option.eq_none_iff_forall_ne_some]
  constructor
  · intro h interface hreports
    exact h _ (DumpAnswers.reported_iff.mpr ⟨rfl, hreports⟩)
  · intro h r hr
    exact h r.1 (DumpAnswers.reported_iff.mp hr).2

theorem writesClient_call_eq_some_iff : Server.writesClient name c.call = some (some interface) ↔
    c.request = .createClientInterface name ∧ c.answers.Reports name interface := by
  obtain ⟨answers, request⟩ := c
  cases request with
  | createClientInterface ifaceName =>
    show (if ifaceName = name then (answers.kernel.reported name).map
      fun r => some { r.1 with wiphyIndex := r.2 } else none) = _ ↔ _
    by_cases hname : ifaceName = name
    · rw [if_pos hname, Option.map_eq_some_iff]
      constructor
      · intro h
        obtain ⟨r, hr, hinterface⟩ := h
        obtain ⟨hwiphy, hreports⟩ := DumpAnswers.reported_iff.mp hr
        obtain rfl : r.1 = interface := by
          rw [← Option.some.inj hinterface, ← hwiphy]
        exact ⟨by rw [hname], hreports⟩
      · intro h
        exact ⟨(interface, interface.wiphyIndex), DumpAnswers.reported_iff.mpr ⟨rfl, h.2⟩, rfl⟩
    · simp [hname]
  | tearDownClientInterface ifaceName =>
    show (if ifaceName = name then some none else none) = _ ↔ _
    split_ifs <;> simp
  | _ => simp [Server.writesClient, WireCall.call]

theorem writesClient_call_eq_none_iff : Server.writesClient name c.call = none ↔
    c.Spares .createClientInterface .tearDownClientInterface name := by
  obtain ⟨answers, request⟩ := c
  cases request with
  | createClientInterface ifaceName =>
    show (if ifaceName = name then (answers.kernel.reported name).map
      fun r => some { r.1 with wiphyIndex := r.2 } else none) = _ ↔ _
    by_cases hname : ifaceName = name
    · rw [if_pos hname, Option.map_eq_none_iff, DumpAnswers.reported_eq_none_iff]
      simp [WireCall.Spares, hname]
    · simp [WireCall.Spares, hname]
  | tearDownClientInterface ifaceName =>
    show (if ifaceName = name then some none else none) = _ ↔ _
    by_cases hname : ifaceName = name <;> simp [WireCall.Spares, hname]
  | _ => simp [Server.writesClient, WireCall.call, WireCall.Spares]

theorem writesAp_call_eq_some_iff : Server.writesAp name c.call = some (some (name, ifIndex)) ↔
    c.request = .createApInterface name ∧
      ∃ interface, c.answers.Reports name interface ∧ interface.ifIndex = ifIndex := by
  obtain ⟨answers, request⟩ := c
  cases request with
  | createApInterface ifaceName =>
    show (if ifaceName = name then (answers.kernel.reported name).map
      fun r => some (r.1.name, r.1.ifIndex) else none) = _ ↔ _
    by_cases hname : ifaceName = name
    · rw [if_pos hname, Option.map_eq_some_iff]
      constructor
      · intro h
        obtain ⟨r, hr, hpair⟩ := h
        obtain ⟨-, hindex⟩ := Prod.mk.inj (Option.some.inj hpair)
        exact ⟨by rw [hname], r.1, (DumpAnswers.reported_iff.mp hr).2, hindex⟩
      · intro h
        obtain ⟨-, interface, hreports, rfl⟩ := h
        refine ⟨(interface, interface.wiphyIndex),
          DumpAnswers.reported_iff.mpr ⟨rfl, hreports⟩, ?_⟩
        rw [hreports.name_eq]
    · simp [hname]
  | tearDownApInterface ifaceName =>
    show (if ifaceName = name then some none else none) = _ ↔ _
    split_ifs <;> simp
  | _ => simp [Server.writesAp, WireCall.call]

theorem writesAp_call_eq_none_iff : Server.writesAp name c.call = none ↔
    c.Spares .createApInterface .tearDownApInterface name := by
  obtain ⟨answers, request⟩ := c
  cases request with
  | createApInterface ifaceName =>
    show (if ifaceName = name then (answers.kernel.reported name).map
      fun r => some (r.1.name, r.1.ifIndex) else none) = _ ↔ _
    by_cases hname : ifaceName = name
    · rw [if_pos hname, Option.map_eq_none_iff, DumpAnswers.reported_eq_none_iff]
      simp [WireCall.Spares, hname]
    · simp [WireCall.Spares, hname]
  | tearDownApInterface ifaceName =>
    show (if ifaceName = name then some none else none) = _ ↔ _
    by_cases hname : ifaceName = name <;> simp [WireCall.Spares, hname]
  | _ => simp [Server.writesAp, WireCall.call, WireCall.Spares]

/-- After any calls, an object is live under a name exactly if some call created it, the packets
of that call report its interface, and no call after it has torn down or replaced it. -/
theorem live_interfaces_reported (calls : List WireCall) (name : IfaceName) :
    let s := (calls.map WireCall.call).foldl Server.serve Server.fresh
    (∀ interface, (∃ client, s.clientInterfaces[name]? = some client ∧
        client.interfaceInfo = interface) ↔
      ∃ pre c post, calls = pre ++ c :: post ∧ c.request = .createClientInterface name ∧
        c.answers.Reports name interface ∧
        ∀ d ∈ post, d.Spares .createClientInterface .tearDownClientInterface name) ∧
    ∀ ifIndex, (∃ ap, s.apInterfaces[name]? = some ap ∧ ap.interfaceName = name ∧
        ap.interfaceIndex = ifIndex) ↔
      ∃ pre c post, calls = pre ++ c :: post ∧ c.request = .createApInterface name ∧
        (∃ interface, c.answers.Reports name interface ∧ interface.ifIndex = ifIndex) ∧
        ∀ d ∈ post, d.Spares .createApInterface .tearDownApInterface name := by
  intro s
  have hfold : s = calls.foldl (fun s c => s.serve c.call) Server.fresh := List.foldl_map
  have hclient : (Server.fresh).clientInfo name = none := by simp [Server.clientInfo, Server.fresh]
  have hap : (Server.fresh).apInfo name = none := by simp [Server.apInfo, Server.fresh]
  constructor
  · intro interface
    rw [← Option.map_eq_some_iff]
    show s.clientInfo name = some interface ↔ _
    rw [hfold, Runs.foldl_eq_iff_written (fun c : WireCall => Server.writesClient name c.call)
      (fun s c => Server.clientInfo_serve s c.call) (by simp [hclient])]
    simp only [writesClient_call_eq_some_iff, writesClient_call_eq_none_iff, and_assoc]
  · intro ifIndex
    have hinfo : (∃ ap, s.apInterfaces[name]? = some ap ∧ ap.interfaceName = name ∧
        ap.interfaceIndex = ifIndex) ↔ s.apInfo name = some (name, ifIndex) := by
      rw [Server.apInfo, Option.map_eq_some_iff]
      simp only [ApInterfaceImpl.nameAndIndex, Prod.mk.injEq]
    rw [hinfo, hfold, Runs.foldl_eq_iff_written (fun c : WireCall => Server.writesAp name c.call)
      (fun s c => Server.apInfo_serve s c.call) (by simp [hap])]
    simp only [writesAp_call_eq_some_iff, writesAp_call_eq_none_iff, and_assoc]

end WireCall

end Wificond
