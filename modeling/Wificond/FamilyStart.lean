import Wificond.ControlResponses
import Wificond.ScanDump

/-!
# The family that the manager starts with

The kernel describes the nl80211 family in one message. Every call of `Start` that gets so far
asks for it again, and the groups have to be listed there and joined before the manager counts
as started. What is known then is the family that the call heard of, whatever was left behind
by the calls that failed.
-/
namespace Wificond

/-- An entry of the list of multicast groups. -/
structure McastGroup where
  name : Option GenlName
  id : Option UInt32

namespace McastGroup

/-- An entry without a name or an id is passed over. -/
def listed (group : McastGroup) : Option (GenlName × UInt32) := do
  let name ← group.name
  let id ← group.id
  return (name, id)

/-- The attributes of the entry, among any others and in any order. -/
structure IsIn (group : McastGroup) (ts : List AttrTree) : Prop where
  name : AttrTree.HasValue ts ctrlAttrMcastGrpName .string group.name
  id : AttrTree.HasValue ts ctrlAttrMcastGrpId (.int .uint32)
    (group.id.map fun v => (v.toNat : ℤ))

end McastGroup

/-- The nl80211 family; the list of groups may be missing. -/
structure GenlFamily where
  id : UInt16
  groups : Option (List McastGroup)

namespace GenlFamily

def listedGroups (family : GenlFamily) : List (GenlName × UInt32) :=
  (family.groups.getD []).filterMap McastGroup.listed

/-- The id of a group, the last one where a name is listed twice. -/
def groupId (family : GenlFamily) (name : GenlName) : Option UInt32 :=
  (family.listedGroups.reverse.find? fun group => group.1 = name).map Prod.snd

/-- The attributes of the family, among any others and in any order. -/
structure IsIn (family : GenlFamily) (ts : List AttrTree) : Prop where
  id : AttrTree.HasValue ts ctrlAttrFamilyId (.int .uint16) (some (family.id.toNat : ℤ))
  name : AttrTree.HasValue ts ctrlAttrFamilyName .string (some nl80211GenlName)
  groups : family.groups = none ∧ ts.find? (·.id = ctrlAttrMcastGroups) = none ∨
    ∃ groups entries, family.groups = some groups ∧
      ts.find? (·.id = ctrlAttrMcastGroups) = some (.nested ctrlAttrMcastGroups entries) ∧
      List.Forall₂ (fun entry (group : McastGroup) =>
        ∃ id children, entry = .nested id children ∧ group.IsIn children) entries groups

end GenlFamily

/-- The kernel's message about the family. -/
structure DescribesFamily (m : Message) (family : GenlFamily) : Prop where
  type : m.type = genlIdCtrl
  command : m.packet.getCommand = .ok ctrlCmdNewFamily
  attributes : ∃ roots, m.packet.HasArea (AttrTree.area roots) ∧
    (∀ t ∈ roots, t.WellFormed) ∧ family.IsIn roots

namespace FamilyManager

/-- The entry of nl80211 is what is known of the family. -/
def HasFamily (manager : FamilyManager) (family : GenlFamily) : Prop :=
  ∃ type, manager.messageTypes[nl80211GenlName]? = some type ∧
    type.familyId = some family.id ∧ ∀ group, type.groups[group]? = family.groupId group

section Reads
variable {manager : FamilyManager} {m : Message} {family : GenlFamily}

theorem addGroup_of_isIn {group : McastGroup} {id : ℕ} {children : List AttrTree}
    {type : MessageType} (hwf : (AttrTree.nested id children).WellFormed)
    (hin : group.IsIn children) (htype : manager.messageTypes[nl80211GenlName]? = some type) :
    ∃ manager', addGroup nl80211GenlName manager (AttrTree.nested id children).attr =
        .ok manager' ∧
      manager'.started = manager.started ∧
      manager'.messageTypes[nl80211GenlName]? = some { type with
        groups := group.listed.toList.foldl (fun groups e => groups.insert e.1 e.2)
          type.groups } := by
  have hfinds := (AttrTree.readsChildren hwf).finds
  have hname : NL80211NestedAttr.getAttributeValue (AttrTree.nested id children).attr
      AttrTemplate.string ctrlAttrMcastGrpName = .ok group.name :=
    hfinds.getValue_of_hasValue hin.name
  have hid : NL80211NestedAttr.getAttributeValue (AttrTree.nested id children).attr
      (AttrTemplate.int .uint32) ctrlAttrMcastGrpId =
        .ok (group.id.map fun v => (v.toNat : ℤ)) :=
    hfinds.getValue_of_hasValue hin.id
  unfold addGroup
  rw [hname]
  cases hgroup : group.name with
  | none =>
    have hlisted : group.listed = none := by simp [McastGroup.listed, hgroup]
    exact ⟨manager, rfl, rfl, by simp [hlisted, htype]⟩
  | some name =>
    simp only [bind, Except.bind]
    rw [hid]
    cases hgroupId : group.id with
    | none =>
      have hlisted : group.listed = none := by simp [McastGroup.listed, hgroup, hgroupId]
      exact ⟨manager, rfl, rfl, by simp [hlisted, htype]⟩
    | some v =>
      have hlisted : group.listed = some (name, v) := by
        simp [McastGroup.listed, hgroup, hgroupId]
      simp only [Option.map_some, entry_of_some htype, uint32_ofInt_toNat, hlisted]
      exact ⟨_, rfl, rfl, by simp⟩

/-- The loop writes the listed groups in their order. -/
theorem foldlM_addGroup {entries : List AttrTree} {groups : List McastGroup} {type : MessageType}
    (hwf : ∀ t ∈ entries, t.WellFormed)
    (hentries : List.Forall₂ (fun entry (group : McastGroup) =>
      ∃ id children, entry = .nested id children ∧ group.IsIn children) entries groups)
    (htype : manager.messageTypes[nl80211GenlName]? = some type) :
    ∃ manager', (entries.map AttrTree.attr).foldlM (addGroup nl80211GenlName) manager =
        .ok manager' ∧
      manager'.started = manager.started ∧
      manager'.messageTypes[nl80211GenlName]? = some { type with
        groups := (groups.filterMap McastGroup.listed).foldl
          (fun groups e => groups.insert e.1 e.2) type.groups } := by
  induction hentries generalizing manager type with
  | nil => exact ⟨manager, rfl, rfl, htype⟩
  | @cons entry group entries groups hfirst hothers ih =>
    obtain ⟨id, children, rfl, hin⟩ := hfirst
    obtain ⟨next, hadd, hstarted, hnext⟩ :=
      addGroup_of_isIn (hwf (.nested id children) (by simp)) hin htype
    obtain ⟨manager', hfold, hstarted', htype'⟩ := ih (fun t ht => hwf t (by simp [ht])) hnext
    refine ⟨manager', ?_, hstarted'.trans hstarted, ?_⟩
    · rw [List.map_cons, Runs.foldlM_cons_eq_ok]
      exact ⟨next, hadd, hfold⟩
    · rw [htype']
      cases hlisted : group.listed with
      | none => simp [hlisted]
      | some e => simp [hlisted]

/-- A description is read whole, whatever the map held before. -/
theorem onNewFamily_of_describes (h : DescribesFamily m family) (manager : FamilyManager) :
    ∃ manager', manager.onNewFamily m.packet = .ok manager' ∧
      manager'.started = manager.started ∧ manager'.HasFamily family := by
  obtain ⟨roots, harea, hroots, hin⟩ := h.attributes
  have hfinds := harea.findsFirst hroots
  have hid : m.packet.getAttributeValue (AttrTemplate.int .uint16) ctrlAttrFamilyId =
      .ok (some (family.id.toNat : ℤ)) := hfinds.getValue_of_hasValue hin.id
  have hname : m.packet.getAttributeValue AttrTemplate.string ctrlAttrFamilyName =
      .ok (some nl80211GenlName) := hfinds.getValue_of_hasValue hin.name
  have hget := hfinds.get_eq ctrlAttrMcastGroups
  let fresh : MessageType := ⟨some family.id, ∅⟩
  let named : FamilyManager := ⟨manager.started,
    manager.messageTypes.insert nl80211GenlName fresh, manager.received ++ [m.packet]⟩
  have hfresh : named.messageTypes[nl80211GenlName]? = some fresh := by simp [named]
  have htype : m.packet.getMessageType = genlIdCtrl := h.type
  unfold onNewFamily readFamily
  rw [if_neg (not_not.mpr htype), h.command, hid, hname, hget]
  simp only [bind, Except.bind, ne_eq, not_true_eq_false, if_false, uint16_ofInt_toNat]
  rcases hin.groups with ⟨hnone, hfind⟩ | ⟨groups, entries, hgroups, hfind, hentries⟩
  · refine ⟨named, ?_, rfl, fresh, hfresh, rfl, fun group => ?_⟩
    · rw [hfind]
      rfl
    · simp [fresh, GenlFamily.groupId, GenlFamily.listedGroups, hnone]
  · have hwf := hroots _ (List.mem_of_find?_eq_some hfind)
    have hlist := (AttrTree.readsChildren hwf).nested_eq
    have hchildren : ∀ t ∈ entries, t.WellFormed := by
      cases hwf with
      | nested hchildren _ => exact hchildren
    obtain ⟨manager', hfold, hstarted, htypes⟩ := foldlM_addGroup hchildren hentries hfresh
    refine ⟨manager', ?_, hstarted, _, htypes, rfl, fun group => ?_⟩
    · rw [hfind]
      show Except.bind (NL80211NestedAttr.getListOfNestedAttributes _) _ = _
      rw [hlist]
      exact hfold
    · rw [OrderedMap.getElem?_foldl_insert, GenlFamily.groupId, GenlFamily.listedGroups, hgroups]
      simp [fresh]

theorem HasFamily.of_touched {manager' : FamilyManager} (h : manager.HasFamily family)
    (htouched : Touched manager manager') : manager'.HasFamily family := by
  obtain ⟨type, htype, hrest⟩ := h
  exact ⟨type, htouched.kept _ _ htype, hrest⟩

/-- The groups that are known can be joined, in any order of asking. -/
theorem HasFamily.subscribeAll_eq (h : manager.HasFamily family) (subscribed : GenlName → Bool)
    (groups : List GenlName) : manager.subscribeAll subscribed groups =
      (groups.all fun group => (family.groupId group).isSome && subscribed group, manager) := by
  obtain ⟨type, htype, -, hgroups⟩ := h
  induction groups with
  | nil => rfl
  | cons group groups ih =>
    have hmem : group ∈ type.groups ↔ (family.groupId group).isSome = true := by
      rw [Std.ExtTreeMap.mem_iff_isSome_getElem?, hgroups]
    rw [subscribeAll, subscribeToEvents, entry_of_some htype]
    by_cases hlisted : group ∈ type.groups
    · have hsome := hmem.mp hlisted
      cases hsubscribed : subscribed group <;> simp [hlisted, hsome, hsubscribed, ih]
    · have hnone : family.groupId group = none := by simpa using mt hmem.mpr hlisted
      simp [hlisted, hnone]

end Reads

end FamilyManager

/-- What one call of `Start` gets to know where the kernel describes the family, or nothing. -/
def StartOutcome.joined (outcome : StartOutcome) (heard : Option GenlFamily) :
    Option GenlFamily :=
  heard.filter fun family => outcome.setupSync && outcome.setupAsync && outcome.watched &&
    FamilyManager.startGroups.all fun group =>
      (family.groupId group).isSome && outcome.subscribed group

def FamilyCall.joined (call : FamilyCall) (heard : Option GenlFamily) : Option GenlFamily :=
  match call with
  | .start outcome => outcome.joined heard
  | _ => none

/-- The answer to a request for the family: a description, a refusal, or none in time. -/
inductive FamilyExchange.Hears (H : Type) (exchange : FamilyExchange) : Option GenlFamily → Prop
  | described {traffic : Traffic H} {sequence pid : UInt32} {m : Message} {family : GenlFamily}
      (hresponses : exchange.responses =
        traffic.responses (NetlinkReads.familyRequest sequence pid))
      (hbrings : traffic.Brings (NetlinkReads.familyRequest sequence pid) [] m)
      (hdescribes : DescribesFamily m family) : Hears H exchange (some family)
  | refused {traffic : Traffic H} {sequence pid : UInt32} {m : Message} {code : ℤ}
      (hresponses : exchange.responses =
        traffic.responses (NetlinkReads.familyRequest sequence pid))
      (hbrings : traffic.Brings (NetlinkReads.familyRequest sequence pid) [] m)
      (herror : m.type = nlmsgError) (hcode : m.packet.getErrorCode = .ok code) :
      Hears H exchange none
  | silent (hresponses : exchange.responses = none) : Hears H exchange none

/-- What is heard in a call, if it is one of `Start`. -/
def FamilyCall.Hears (H : Type) (heard : Option GenlFamily) : FamilyCall → Prop
  | .start outcome => outcome.exchange.Hears H heard
  | _ => True

namespace FamilyManager

section Starts
variable {H : Type} {manager : FamilyManager} {exchange : FamilyExchange} {outcome : StartOutcome}
  {heard known : Option GenlFamily} {call : FamilyCall} {family : GenlFamily}

theorem responses_of_brings {traffic : Traffic H} {request : NL80211Packet} {m : Message}
    (h : traffic.Brings request [] m) (hcontrol : ¬ IsControl m.type) :
    traffic.responses request = some [m.packet] := by
  rw [h.responses_eq, lastPart, if_neg hcontrol]
  rfl

theorem discoverFamilyId_of_hears_none (h : exchange.Hears H none) (manager : FamilyManager) :
    ∃ manager', manager.discoverFamilyId exchange = .ok (false, manager') ∧
      manager'.started = manager.started := by
  have htouched := afterBroadcast_touched exchange.handledBroadcast manager
  have hnone : singleResponse exchange.responses = .ok none := by
    cases h with
    | silent hresponses =>
      rw [hresponses]
      rfl
    | @refused traffic sequence pid m code hresponses hbrings herror hcode =>
      have hcontrol : ¬ IsControl m.type := by
        rw [herror]
        decide
      have htype : m.packet.getMessageType = nlmsgError := herror
      rw [hresponses, responses_of_brings hbrings hcontrol]
      simp only [singleResponse, htype, if_true, hcode]
      rfl
  refine ⟨manager.afterBroadcast exchange.handledBroadcast, ?_, htouched.started_eq⟩
  rw [discoverFamilyId, hnone]
  rfl

theorem discoverFamilyId_of_hears (h : exchange.Hears H (some family)) (manager : FamilyManager) :
    ∃ manager', manager.discoverFamilyId exchange = .ok (true, manager') ∧
      manager'.started = manager.started ∧ manager'.HasFamily family := by
  have htouched := afterBroadcast_touched exchange.handledBroadcast manager
  cases h with
  | @described traffic sequence pid m family hresponses hbrings hdescribes =>
    have hcontrol : ¬ IsControl m.type := by
      rw [hdescribes.type]
      decide
    have htype : m.packet.getMessageType = genlIdCtrl := hdescribes.type
    have hsingle : singleResponse exchange.responses = .ok (some m.packet) := by
      rw [hresponses, responses_of_brings hbrings hcontrol]
      simp [singleResponse, htype, genlIdCtrl, nlmsgMinType, nlmsgError, pure, Except.pure]
    obtain ⟨manager', hread, hstarted, hfamily⟩ := onNewFamily_of_describes hdescribes
      (manager.afterBroadcast exchange.handledBroadcast)
    refine ⟨manager', ?_, hstarted.trans htouched.started_eq, hfamily⟩
    have hmem : manager'.messageTypes.contains nl80211GenlName = true := by
      obtain ⟨type, hentry, -⟩ := hfamily
      exact Std.ExtTreeMap.mem_iff_contains.mp (OrderedMap.mem_iff_exists.mpr ⟨type, hentry⟩)
    rw [discoverFamilyId, hsingle]
    simp [bind, Except.bind, hread, hmem, pure, Except.pure]

/-- A call of `Start` of a manager that is not started. -/
theorem start_of_hears (h : outcome.exchange.Hears H heard) (hidle : manager.started = false) :
    ∃ manager', manager.start outcome = .ok ((outcome.joined heard).isSome, manager') ∧
      manager'.started = (outcome.joined heard).isSome ∧
      ∀ family, outcome.joined heard = some family → manager'.HasFamily family := by
  unfold start
  rw [if_neg (by simp [hidle])]
  cases hsync : outcome.setupSync with
  | false =>
    have hnone : outcome.joined heard = none := by
      cases heard <;> simp [StartOutcome.joined, hsync]
    exact ⟨manager, by simp [hnone, pure, Except.pure], by simp [hnone, hidle], by simp [hnone]⟩
  | true =>
  cases hasync : outcome.setupAsync with
  | false =>
    have hnone : outcome.joined heard = none := by
      cases heard <;> simp [StartOutcome.joined, hasync]
    exact ⟨manager, by simp [hnone, pure, Except.pure], by simp [hnone, hidle], by simp [hnone]⟩
  | true =>
  cases heard with
  | none =>
    obtain ⟨manager', hdiscover, hstarted⟩ := discoverFamilyId_of_hears_none h manager
    refine ⟨manager', ?_, hstarted.trans hidle, by simp [StartOutcome.joined]⟩
    rw [hdiscover]
    rfl
  | some family =>
    obtain ⟨manager', hdiscover, hstarted, hfamily⟩ := discoverFamilyId_of_hears h manager
    have hidle' := hstarted.trans hidle
    rw [hdiscover]
    cases hwatched : outcome.watched with
    | false =>
      have hnone : outcome.joined (some family) = none := by
        simp [StartOutcome.joined, hwatched]
      refine ⟨manager', ?_, by simp [hnone, hidle'], by simp [hnone]⟩
      simp [bind, Except.bind, hnone, pure, Except.pure]
    | true =>
      have hall := hfamily.subscribeAll_eq outcome.subscribed startGroups
      by_cases hjoins : startGroups.all (fun group =>
          (family.groupId group).isSome && outcome.subscribed group) = true
      · have hsome : outcome.joined (some family) = some family := by
          rw [StartOutcome.joined, hsync, hasync, hwatched, Option.filter_some, if_pos]
          simpa using hjoins
        rw [hjoins] at hall
        refine ⟨{ manager' with started := true }, ?_, by simp [hsome], ?_⟩
        · simp [bind, Except.bind, hall, hsome, pure, Except.pure]
        · intro other hother
          obtain rfl := Option.some.inj (hsome.symm.trans hother)
          exact hfamily
      · have hnone : outcome.joined (some family) = none := by
          rw [StartOutcome.joined, hsync, hasync, hwatched, Option.filter_some, if_neg]
          simpa using hjoins
        rw [Bool.not_eq_true] at hjoins
        rw [hjoins] at hall
        refine ⟨manager', ?_, by simp [hnone, hidle'], by simp [hnone]⟩
        simp [bind, Except.bind, hall, hnone, pure, Except.pure]

/-- The manager counts as started where a family is known, and its entry is that family. -/
structure Knowing (manager : FamilyManager) (known : Option GenlFamily) : Prop where
  started_eq : manager.started = known.isSome
  hasFamily : ∀ family, known = some family → manager.HasFamily family

theorem Knowing.of_touched {manager' : FamilyManager} (h : manager.Knowing known)
    (htouched : Touched manager manager') : manager'.Knowing known :=
  ⟨htouched.started_eq.trans h.started_eq,
    fun family hfamily => (h.hasFamily family hfamily).of_touched htouched⟩

/-- A family that is known stays; else the call may get to know one. -/
theorem Knowing.step (h : manager.Knowing known) (hhears : call.Hears H heard) :
    ∃ manager', manager.step call = .ok manager' ∧
      manager'.Knowing (known.or (call.joined heard)) := by
  cases call with
  | start outcome =>
    cases known with
    | some family =>
      have hstarted : manager.started = true := h.started_eq
      refine ⟨manager, ?_, h⟩
      rw [FamilyManager.step, FamilyManager.start, if_pos hstarted]
      rfl
    | none =>
      have hidle : manager.started = false := h.started_eq
      obtain ⟨manager', hstart, hstarted, hfamily⟩ := start_of_hears hhears hidle
      refine ⟨manager', ?_, hstarted, hfamily⟩
      rw [FamilyManager.step, hstart]
      rfl
  | getFamilyId =>
    refine ⟨_, rfl, ?_⟩
    have hnone : FamilyCall.getFamilyId.joined heard = none := rfl
    rw [hnone, Option.or_none]
    exact h.of_touched (entry_touched manager nl80211GenlName)
  | subscribeToEvents group subscribed =>
    refine ⟨_, rfl, ?_⟩
    have hnone : (FamilyCall.subscribeToEvents group subscribed).joined heard = none := rfl
    rw [hnone, Option.or_none]
    exact h.of_touched (subscribeToEvents_touched group subscribed manager)

theorem Knowing.run {calls : List FamilyCall} {families : List (Option GenlFamily)}
    (h : manager.Knowing known)
    (hhears : List.Forall₂ (fun call heard => call.Hears H heard) calls families) :
    ∃ manager', calls.foldlM FamilyManager.step manager = .ok manager' ∧
      manager'.Knowing (known.or
        ((List.zipWith FamilyCall.joined calls families).findSome? id)) := by
  induction hhears generalizing manager known with
  | nil => exact ⟨manager, rfl, by simpa using h⟩
  | @cons call heard calls families hfirst hothers ih =>
    obtain ⟨next, hstep, hnext⟩ := h.step hfirst
    obtain ⟨manager', hrun, hend⟩ := ih hnext
    refine ⟨manager', Runs.foldlM_cons_eq_ok.mpr ⟨next, hstep, hrun⟩, ?_⟩
    rw [Option.or_assoc] at hend
    rw [List.zipWith_cons_cons, List.findSome?_cons]
    cases hjoined : call.joined heard with
    | none => simpa [hjoined] using hend
    | some family => simpa [hjoined] using hend

/-- Whatever failed attempts came before and whatever they left in the map, the family that is
known is the one that the kernel described to the first call of `Start` that found all its
groups and joined them; without such a call the manager is not started. -/
theorem family_of_first_start {calls : List FamilyCall} {families : List (Option GenlFamily)}
    (hhears : List.Forall₂ (fun call heard => call.Hears H heard) calls families) :
    ∃ manager, calls.foldlM FamilyManager.step construct = .ok manager ∧
      manager.started = ((List.zipWith FamilyCall.joined calls families).findSome? id).isSome ∧
      ∀ family, (List.zipWith FamilyCall.joined calls families).findSome? id = some family →
        manager.getFamilyId = (some family.id, manager) ∧ manager.HasFamily family := by
  have hstart : construct.Knowing none := ⟨rfl, by simp⟩
  obtain ⟨manager, hrun, hknowing⟩ := hstart.run hhears
  rw [Option.none_or] at hknowing
  refine ⟨manager, hrun, hknowing.started_eq, fun family hfamily => ?_⟩
  have hhas := hknowing.hasFamily family hfamily
  obtain ⟨type, htype, hid, -⟩ := id hhas
  refine ⟨?_, hhas⟩
  rw [getFamilyId, entry_of_some htype]
  simp [hid]

end Starts

/-- The first call handles a broadcast while it waits in vain. -/
theorem family_of_first_start_second_call :
    let whole : Message := ⟨⟨[120, 0, 0, 0, 16, 0, 0, 0, 2, 0, 0, 0, 0, 0, 0, 0, 1, 0, 0, 0,
      6, 0, 1, 0, 28, 0, 0, 0, 12, 0, 2, 0, 110, 108, 56, 48, 50, 49, 49, 0, 80, 0, 7, 0,
      24, 0, 1, 0, 9, 0, 1, 0, 115, 99, 97, 110, 0, 0, 0, 0, 8, 0, 2, 0, 5, 0, 0, 0,
      28, 0, 2, 0, 15, 0, 1, 0, 114, 101, 103, 117, 108, 97, 116, 111, 114, 121, 0, 0,
      8, 0, 2, 0, 6, 0, 0, 0, 24, 0, 3, 0, 9, 0, 1, 0, 109, 108, 109, 101, 0, 0, 0, 0,
      8, 0, 2, 0, 7, 0, 0, 0]⟩, by decide, by decide⟩
    let traffic : Traffic Unit := ⟨(), fun _ => [.datagram [whole] 4], ⟨fun _ => 0, ∅, []⟩⟩
    let attempt (handledBroadcast : Bool) (responses : Option (List NL80211Packet)) : FamilyCall :=
      .start ⟨true, true, ⟨handledBroadcast, responses⟩, true, fun _ => true⟩
    ∃ manager, [attempt true none, .getFamilyId,
        attempt false (traffic.responses (NetlinkReads.familyRequest 2 0))].foldlM
        FamilyManager.step construct = .ok manager ∧ manager.started = true ∧
      manager.getFamilyId = (some 28, manager) := by
  intro whole traffic attempt
  let family : GenlFamily := ⟨28, some [⟨some multicastGroupScan, some 5⟩,
    ⟨some multicastGroupReg, some 6⟩, ⟨some multicastGroupMlme, some 7⟩]⟩
  have hdescribes : DescribesFamily whole family := by
    let ts (name : GenlName) (id : ℤ) : List AttrTree :=
      [.leaf 1 .string name, .leaf 2 (.int .uint32) id]
    let entries : List AttrTree := [.nested 1 (ts multicastGroupScan 5),
      .nested 2 (ts multicastGroupReg 6), .nested 3 (ts multicastGroupMlme 7)]
    refine ⟨by decide, by decide +kernel,
      [.leaf 1 (.int .uint16) 28, .leaf 2 .string nl80211GenlName, .nested 7 entries], ?_, ?_,
      rfl, rfl, .inr ⟨_, entries, rfl, rfl, ?_⟩⟩
    · exact ⟨whole.packet.data.take 20, by decide, by decide +kernel⟩
    · apply AttrTree.allWellFormed_of_fits
      · simp only [entries, ts, AttrTree.AllFit, AttrTree.FitsDeep, and_true]
        decide +kernel
      · simp only [entries, ts, AttrTree.AllHold, AttrTree.HoldsDeep, and_true]
        decide
    · exact .cons ⟨1, _, rfl, rfl, rfl⟩ (.cons ⟨2, _, rfl, rfl, rfl⟩
        (.cons ⟨3, _, rfl, rfl, rfl⟩ .nil))
  have harrives : Arrives 2 maximumNetlinkMessageWait [] whole [.datagram [whole] 4] := by
    have hsequence : whole.sequence = 2 := by decide
    refine ⟨by decide, by simp, ⟨hsequence, .inr (by decide)⟩, ?_, ?_,
      ⟨3996, by decide +kernel, by decide⟩, by decide +kernel⟩
    · simp [messagesOf, Arrival.messages, hsequence]
    · simp [messagesOf, Arrival.messages, hsequence]
  have hbrings : traffic.Brings (NetlinkReads.familyRequest 2 0) [] whole := by
    have hsequence : (NetlinkReads.familyRequest 2 0).getMessageSequence = 2 := by decide +kernel
    refine ⟨[.datagram [whole] 4], [], rfl, ?_⟩
    rw [hsequence]
    exact harrives
  have hheard (exchange : FamilyExchange) (hresponses : exchange.responses =
      traffic.responses (NetlinkReads.familyRequest 2 0)) : exchange.Hears Unit (some family) :=
    .described hresponses hbrings hdescribes
  generalize traffic.responses (NetlinkReads.familyRequest 2 0) = responses at hheard ⊢
  have hhears : List.Forall₂ (fun call heard => FamilyCall.Hears Unit heard call)
      [attempt true none, .getFamilyId, attempt false responses] [none, none, some family] :=
    .cons (.silent rfl) (.cons trivial (.cons (hheard ⟨false, responses⟩ rfl) .nil))
  obtain ⟨manager, hrun, hstarted, hfamily⟩ := family_of_first_start hhears
  exact ⟨manager, hrun, hstarted, (hfamily family rfl).1⟩

end FamilyManager

end Wificond
