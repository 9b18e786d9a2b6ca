import Wificond.Packet
import Wificond.OrderedMap
import Wificond.Runs

/-!
# Discovery of the nl80211 family

`NetlinkManager` keeps an entry for each family name in a map, and reading the map by
`operator[]` leaves an entry behind that holds nothing. A start succeeds only where the
three multicast groups are found in the entry of nl80211.
-/
namespace Wificond

/-- `GENL_ID_CTRL` -/
abbrev genlIdCtrl : ℕ := nlmsgMinType

/-- `CTRL_CMD_NEWFAMILY` -/
abbrev ctrlCmdNewFamily : ℕ := 1

/-- `CTRL_ATTR_FAMILY_ID` -/
abbrev ctrlAttrFamilyId : ℕ := 1

/-- `CTRL_ATTR_FAMILY_NAME` -/
abbrev ctrlAttrFamilyName : ℕ := 2

/-- `CTRL_ATTR_MCAST_GROUPS` -/
abbrev ctrlAttrMcastGroups : ℕ := 7

/-- `CTRL_ATTR_MCAST_GRP_NAME` -/
abbrev ctrlAttrMcastGrpName : ℕ := 1

/-- `CTRL_ATTR_MCAST_GRP_ID` -/
abbrev ctrlAttrMcastGrpId : ℕ := 2

/-- The bytes of a family's or a group's name. -/
abbrev GenlName := List UInt8

/-- `NL80211_GENL_NAME`, "nl80211" -/
def nl80211GenlName : GenlName := [110, 108, 56, 48, 50, 49, 49]

/-- `NL80211_MULTICAST_GROUP_REG`, "regulatory" -/
def multicastGroupReg : GenlName := [114, 101, 103, 117, 108, 97, 116, 111, 114, 121]

/-- `NL80211_MULTICAST_GROUP_SCAN`, "scan" -/
def multicastGroupScan : GenlName := [115, 99, 97, 110]

/-- `NL80211_MULTICAST_GROUP_MLME`, "mlme" -/
def multicastGroupMlme : GenlName := [109, 108, 109, 101]

structure MessageType where
  /-- `none` where `family_id` is left uninitialised. -/
  familyId : Option UInt16
  groups : Std.ExtTreeMap GenlName UInt32

/-- The constructor that `map[key]` needs. -/
def MessageType.default : MessageType := ⟨none, ∅⟩

/-- The part of `NetlinkManager` that discovery is about. -/
structure FamilyManager where
  started : Bool
  messageTypes : Std.ExtTreeMap GenlName MessageType
  /-- Every packet that `OnNewFamily` was called with. No code reads it. -/
  received : List NL80211Packet

/-- What comes of `SendMessageAndGetResponses`: whether a broadcast is handled while it waits,
and the responses unless it fails. -/
structure FamilyExchange where
  handledBroadcast : Bool
  responses : Option (List NL80211Packet)

/-- What the sockets answer during one call of `Start`. -/
structure StartOutcome where
  setupSync : Bool
  setupAsync : Bool
  exchange : FamilyExchange
  watched : Bool
  subscribed : GenlName → Bool

namespace FamilyManager

def construct : FamilyManager := ⟨false, ∅, []⟩

/-- `message_types_[name]` -/
def entry (manager : FamilyManager) (name : GenlName) : MessageType × FamilyManager :=
  match manager.messageTypes[name]? with
  | some type => (type, manager)
  | none => (.default,
      { manager with messageTypes := manager.messageTypes.insert name .default })

def getFamilyId (manager : FamilyManager) : Option UInt16 × FamilyManager :=
  let (type, manager) := manager.entry nl80211GenlName
  (type.familyId, manager)

/-- The pass of `OnNewFamily` for one group. -/
def addGroup (familyName : GenlName) (manager : FamilyManager) (group : NL80211NestedAttr) :
    Exec FamilyManager := do
  let some groupName ← group.getAttributeValue AttrTemplate.string ctrlAttrMcastGrpName
    | return manager
  let some groupId ← group.getAttributeValue (AttrTemplate.int .uint32) ctrlAttrMcastGrpId
    | return manager
  let (type, manager) := manager.entry familyName
  return { manager with
    messageTypes := manager.messageTypes.insert familyName
      { type with groups := type.groups.insert groupName (UInt32.ofInt groupId) } }

/-- A family of another name is kept as well. -/
def readFamily (packet : NL80211Packet) (manager : FamilyManager) : Exec FamilyManager := do
  if packet.getMessageType ≠ genlIdCtrl then return manager
  if (← packet.getCommand) ≠ ctrlCmdNewFamily then return manager
  let some familyId ← packet.getAttributeValue (AttrTemplate.int .uint16) ctrlAttrFamilyId
    | return manager
  let some familyName ← packet.getAttributeValue AttrTemplate.string ctrlAttrFamilyName
    | return manager
  let manager := { manager with
    messageTypes := manager.messageTypes.insert familyName ⟨some (UInt16.ofInt familyId), ∅⟩ }
  let some multicastGroups ← packet.getAttribute ctrlAttrMcastGroups | return manager
  let some groups ← multicastGroups.getListOfNestedAttributes | return manager
  groups.foldlM (addGroup familyName) manager

def onNewFamily (packet : NL80211Packet) (manager : FamilyManager) : Exec FamilyManager :=
  readFamily packet { manager with received := manager.received ++ [packet] }

/-- `SendMessageAndGetSingleResponse`: the only response, unless it is an error. The error is
read for the log. -/
def singleResponse (responses : Option (List NL80211Packet)) : Exec (Option NL80211Packet) := do
  let some [response] := responses | return none
  if response.getMessageType = nlmsgError then
    let _ ← response.getErrorCode
    return none
  return some response

/-- `BroadcastHandler` asks for the family id first. -/
def afterBroadcast (handledBroadcast : Bool) (manager : FamilyManager) : FamilyManager :=
  if handledBroadcast then manager.getFamilyId.2 else manager

def discoverFamilyId (exchange : FamilyExchange) (manager : FamilyManager) :
    Exec (Bool × FamilyManager) := do
  let manager := manager.afterBroadcast exchange.handledBroadcast
  let some response ← singleResponse exchange.responses | return (false, manager)
  let manager ← manager.onNewFamily response
  return (manager.messageTypes.contains nl80211GenlName, manager)

/-- `subscribed` is what the socket or the interceptor answers. -/
def subscribeToEvents (group : GenlName) (subscribed : Bool) (manager : FamilyManager) :
    Bool × FamilyManager :=
  let (type, manager) := manager.entry nl80211GenlName
  if group ∉ type.groups then (false, manager) else (subscribed, manager)

/-- The groups in the order in which `Start` subscribes to them. -/
def startGroups : List GenlName := [multicastGroupReg, multicastGroupScan, multicastGroupMlme]

/-- Subscribe to one group after the other until one fails. -/
def subscribeAll (subscribed : GenlName → Bool) :
    List GenlName → FamilyManager → Bool × FamilyManager
  | [], manager => (true, manager)
  | group :: groups, manager =>
    let (ok, manager) := manager.subscribeToEvents group (subscribed group)
    if ok then subscribeAll subscribed groups manager else (false, manager)

def start (outcome : StartOutcome) (manager : FamilyManager) : Exec (Bool × FamilyManager) := do
  if manager.started then return (true, manager)
  if !outcome.setupSync then return (false, manager)
  if !outcome.setupAsync then return (false, manager)
  let (discovered, manager) ← manager.discoverFamilyId outcome.exchange
  if !discovered then return (false, manager)
  if !outcome.watched then return (false, manager)
  let (ok, manager) := manager.subscribeAll outcome.subscribed startGroups
  if !ok then return (false, manager)
  return (true, { manager with started := true })

end FamilyManager

inductive FamilyCall
  | start (outcome : StartOutcome)
  | getFamilyId
  | subscribeToEvents (group : GenlName) (subscribed : Bool)

/-- A call that is faulty ends the run. -/
def FamilyManager.step (manager : FamilyManager) : FamilyCall → Exec FamilyManager
  | .start outcome => (manager.start outcome).map Prod.snd
  | .getFamilyId => .ok manager.getFamilyId.2
  | .subscribeToEvents group subscribed => .ok (manager.subscribeToEvents group subscribed).2

/-- The packet is a `CTRL_CMD_NEWFAMILY` message for the family. -/
structure NL80211Packet.IsNewFamily (packet : NL80211Packet) (name : GenlName) : Prop where
  type_eq : packet.getMessageType = genlIdCtrl
  command_eq : packet.getCommand = .ok ctrlCmdNewFamily
  name_eq : packet.getAttributeValue AttrTemplate.string ctrlAttrFamilyName = .ok (some name)

/-- The packet lists a multicast group of this name and id. -/
def NL80211Packet.ListsGroup (packet : NL80211Packet) (name : GenlName) (id : UInt32) : Prop :=
  ∃ multicastGroups groups,
    packet.getAttribute ctrlAttrMcastGroups = .ok (some multicastGroups) ∧
    multicastGroups.getListOfNestedAttributes = .ok (some groups) ∧
    ∃ group ∈ groups, ∃ value,
      group.getAttributeValue AttrTemplate.string ctrlAttrMcastGrpName = .ok (some name) ∧
      group.getAttributeValue (AttrTemplate.int .uint32) ctrlAttrMcastGrpId =
        .ok (some value) ∧ id = UInt32.ofInt value

/-- The entry of a family was read from the packet. -/
structure MessageType.ReadFrom (type : MessageType) (packet : NL80211Packet) (name : GenlName) :
    Prop extends packet.IsNewFamily name where
  familyId_eq : ∃ value, packet.getAttributeValue (AttrTemplate.int .uint16) ctrlAttrFamilyId =
    .ok (some value) ∧ type.familyId = some (UInt16.ofInt value)
  listed : ∀ (group : GenlName) (id : UInt32),
    type.groups[group]? = some id → packet.ListsGroup group id

namespace FamilyManager

/-- Every entry is empty or was read from a packet. -/
def Grounded (manager : FamilyManager) : Prop :=
  ∀ (name : GenlName) (type : MessageType), manager.messageTypes[name]? = some type →
    type = .default ∨ ∃ packet ∈ manager.received, type.ReadFrom packet name

/-- The entry of nl80211 has this group. -/
def Knows (manager : FamilyManager) (group : GenlName) : Prop :=
  ∃ type, manager.messageTypes[nl80211GenlName]? = some type ∧ group ∈ type.groups

structure Sound (manager : FamilyManager) : Prop where
  grounded : manager.Grounded
  knows : manager.started = true → ∀ group ∈ startGroups, manager.Knows group

/-- Nothing changes but that empty entries are added. -/
structure Touched (before after : FamilyManager) : Prop where
  started_eq : after.started = before.started
  received_eq : after.received = before.received
  kept : ∀ (name : GenlName) (type : MessageType),
    before.messageTypes[name]? = some type → after.messageTypes[name]? = some type
  added : ∀ (name : GenlName) (type : MessageType),
    after.messageTypes[name]? = some type → before.messageTypes[name]? = some type ∨ type = .default

variable {before after manager manager' : FamilyManager} {name : GenlName} {type : MessageType}

theorem Touched.refl (manager : FamilyManager) : Touched manager manager :=
  ⟨rfl, rfl, fun _ _ h => h, fun _ _ h => .inl h⟩

theorem Touched.trans {middle : FamilyManager} (h : Touched before middle)
    (h' : Touched middle after) : Touched before after := by
  refine ⟨h'.started_eq.trans h.started_eq, h'.received_eq.trans h.received_eq,
    fun name type hname => h'.kept name type (h.kept name type hname), fun name type hname => ?_⟩
  rcases h'.added name type hname with hmiddle | hdefault
  · exact h.added name type hmiddle
  · exact .inr hdefault

theorem Touched.grounded (h : Touched before after) (hb : before.Grounded) : after.Grounded := by
  intro name type hname
  rcases h.added name type hname with hbefore | hdefault
  · rw [h.received_eq]
    exact hb name type hbefore
  · exact .inl hdefault

theorem Touched.knows (h : Touched before after) {group : GenlName} (hb : before.Knows group) :
    after.Knows group := by
  obtain ⟨type, htype, hgroup⟩ := hb
  exact ⟨type, h.kept _ _ htype, hgroup⟩

theorem Touched.sound (h : Touched before after) (hb : before.Sound) : after.Sound := by
  refine ⟨h.grounded hb.grounded, fun hstarted group hgroup => ?_⟩
  rw [h.started_eq] at hstarted
  exact h.knows (hb.knows hstarted group hgroup)

theorem entry_of_some (h : manager.messageTypes[name]? = some type) :
    manager.entry name = (type, manager) := by
  rw [entry, h]

theorem entry_touched (manager : FamilyManager) (name : GenlName) :
    Touched manager (manager.entry name).2 := by
  unfold entry
  split
  · exact .refl manager
  · rename_i hnone
    refine ⟨rfl, rfl, fun other type htype => ?_, fun other type htype => ?_⟩
    · have hne : name ≠ other := by
        rintro rfl
        simp [hnone] at htype
      simpa [Std.ExtTreeMap.getElem?_insert, hne] using htype
    · by_cases hne : name = other
      · exact .inr (by simpa [hne, eq_comm] using htype)
      · exact .inl (by simpa [Std.ExtTreeMap.getElem?_insert, hne] using htype)

/-- The entry that is read is in the map afterwards. -/
theorem entry_kept (manager : FamilyManager) (name : GenlName) :
    (manager.entry name).2.messageTypes[name]? = some (manager.entry name).1 := by
  unfold entry
  split
  · assumption
  · simp

theorem afterBroadcast_touched (handledBroadcast : Bool) (manager : FamilyManager) :
    Touched manager (manager.afterBroadcast handledBroadcast) := by
  unfold afterBroadcast
  split_ifs
  · exact entry_touched manager nl80211GenlName
  · exact .refl manager

theorem subscribeToEvents_touched (group : GenlName) (subscribed : Bool)
    (manager : FamilyManager) :
    Touched manager (manager.subscribeToEvents group subscribed).2 := by
  have htouched := entry_touched manager nl80211GenlName
  unfold subscribeToEvents
  dsimp only
  split_ifs <;> exact htouched

theorem knows_of_subscribeToEvents {group : GenlName} {subscribed : Bool}
    (h : (manager.subscribeToEvents group subscribed).1 = true) :
    (manager.subscribeToEvents group subscribed).2.Knows group := by
  unfold subscribeToEvents at h ⊢
  dsimp only at h ⊢
  by_cases hgroup : group ∉ (manager.entry nl80211GenlName).1.groups
  · rw [if_pos hgroup] at h
    exact absurd h (by simp)
  · rw [if_neg hgroup]
    exact ⟨_, entry_kept manager nl80211GenlName, not_not.mp hgroup⟩

theorem subscribeAll_spec (subscribed : GenlName → Bool) (groups : List GenlName)
    (manager : FamilyManager) :
    Touched manager (manager.subscribeAll subscribed groups).2 ∧
      ((manager.subscribeAll subscribed groups).1 = true →
        ∀ group ∈ groups, (manager.subscribeAll subscribed groups).2.Knows group) := by
  induction groups generalizing manager with
  | nil => exact ⟨.refl manager, by simp⟩
  | cons group groups ih =>
    have hfirst := subscribeToEvents_touched group (subscribed group) manager
    rw [subscribeAll]
    dsimp only
    split_ifs with hok
    · obtain ⟨htouched, hknows⟩ := ih (manager.subscribeToEvents group (subscribed group)).2
      refine ⟨hfirst.trans htouched, fun htrue other hother => ?_⟩
      rcases List.mem_cons.mp hother with rfl | hother
      · exact htouched.knows (knows_of_subscribeToEvents hok)
      · exact hknows htrue other hother
    · exact ⟨hfirst, by simp⟩

/-- What the passes over the groups of a packet keep: the family's entry was read from it. -/
structure Reading (packet : NL80211Packet) (name : GenlName) (start manager : FamilyManager) :
    Prop where
  started_eq : manager.started = start.started
  received_eq : manager.received = start.received
  own : ∃ type, manager.messageTypes[name]? = some type ∧ type.ReadFrom packet name
  others : ∀ other ≠ name, manager.messageTypes[other]? = start.messageTypes[other]?

theorem Reading.grounded {packet : NL80211Packet} {start : FamilyManager}
    (h : Reading packet name start manager) (hstart : start.Grounded)
    (hpacket : packet ∈ start.received) : manager.Grounded := by
  intro other type htype
  rw [h.received_eq]
  by_cases hother : other = name
  · obtain ⟨own, hown, hread⟩ := h.own
    subst hother
    obtain rfl : own = type := by simpa [hown] using htype
    exact .inr ⟨packet, hpacket, hread⟩
  · rw [h.others other hother] at htype
    exact hstart other type htype

theorem addGroup_reading {packet : NL80211Packet} {start : FamilyManager}
    {multicastGroups group : NL80211NestedAttr} {groups : List NL80211NestedAttr}
    (hattr : packet.getAttribute ctrlAttrMcastGroups = .ok (some multicastGroups))
    (hlist : multicastGroups.getListOfNestedAttributes = .ok (some groups))
    (hgroup : group ∈ groups) (h : Reading packet name start manager)
    (hadd : addGroup name manager group = .ok manager') : Reading packet name start manager' := by
  obtain ⟨hstarted, hreceived, ⟨type, hown, hread⟩, hothers⟩ := h
  unfold addGroup at hadd
  obtain ⟨groupName?, hname, hadd⟩ := Runs.bind_eq_ok.mp hadd
  cases groupName? with
  | none =>
    obtain rfl := Except.ok.inj hadd
    exact ⟨hstarted, hreceived, ⟨type, hown, hread⟩, hothers⟩
  | some groupName =>
    obtain ⟨groupId?, hid, hadd⟩ := Runs.bind_eq_ok.mp hadd
    cases groupId? with
    | none =>
      obtain rfl := Except.ok.inj hadd
      exact ⟨hstarted, hreceived, ⟨type, hown, hread⟩, hothers⟩
    | some groupId =>
      simp only [entry_of_some hown] at hadd
      obtain rfl := Except.ok.inj hadd
      refine ⟨hstarted, hreceived, ⟨_, Std.ExtTreeMap.getElem?_insert_self, ?_⟩, ?_⟩
      · refine ⟨hread.toIsNewFamily, hread.familyId_eq, fun other id hother => ?_⟩
        rw [Std.ExtTreeMap.getElem?_insert] at hother
        split_ifs at hother with hsame
        · obtain rfl := Option.some.inj hother
          obtain rfl : groupName = other := by simpa using hsame
          exact ⟨multicastGroups, groups, hattr, hlist, group, hgroup, groupId, hname, hid, rfl⟩
        · exact hread.listed other id hother
      · intro other hother
        rw [Std.ExtTreeMap.getElem?_insert, if_neg (by simpa using hother.symm)]
        exact hothers other hother

/-- A reply leaves the map as it was, or the entry of one family is read from it. -/
theorem readFamily_cases {packet : NL80211Packet}
    (h : readFamily packet manager = .ok manager') :
    manager' = manager ∨ ∃ name, Reading packet name manager manager' := by
  unfold readFamily at h
  split_ifs at h with htype
  · exact .inl (Except.ok.inj h).symm
  obtain ⟨command, hcommand, h⟩ := Runs.bind_eq_ok.mp h
  split_ifs at h with hnew
  · exact .inl (Except.ok.inj h).symm
  obtain rfl : command = ctrlCmdNewFamily := not_not.mp hnew
  obtain ⟨familyId?, hid, h⟩ := Runs.bind_eq_ok.mp h
  cases familyId? with
  | none => exact .inl (Except.ok.inj h).symm
  | some familyId =>
  obtain ⟨name?, hname, h⟩ := Runs.bind_eq_ok.mp h
  cases name? with
  | none => exact .inl (Except.ok.inj h).symm
  | some name =>
  right
  refine ⟨name, ?_⟩
  have hfresh : Reading packet name manager { manager with
      messageTypes := manager.messageTypes.insert name ⟨some (UInt16.ofInt familyId), ∅⟩ } := by
    refine ⟨rfl, rfl, ⟨_, Std.ExtTreeMap.getElem?_insert_self, ?_⟩, fun other hother => ?_⟩
    · exact ⟨⟨not_not.mp htype, hcommand, hname⟩, ⟨familyId, hid, rfl⟩, by simp⟩
    · rw [Std.ExtTreeMap.getElem?_insert, if_neg (by simpa using hother.symm)]
  obtain ⟨multicastGroups?, hattr, h⟩ := Runs.bind_eq_ok.mp h
  cases multicastGroups? with
  | none =>
    obtain rfl := Except.ok.inj h
    exact hfresh
  | some multicastGroups =>
  obtain ⟨groups?, hlist, h⟩ := Runs.bind_eq_ok.mp h
  cases groups? with
  | none =>
    obtain rfl := Except.ok.inj h
    exact hfresh
  | some groups =>
  exact Runs.foldlM_keeps (Reading packet name manager)
    (fun s group hgroup u hs hu => addGroup_reading hattr hlist hgroup hs hu) hfresh h

theorem onNewFamily_grounded {packet : NL80211Packet} (hm : manager.Grounded)
    (h : manager.onNewFamily packet = .ok manager') :
    manager'.Grounded ∧ manager'.started = manager.started := by
  have hlonger : Grounded { manager with received := manager.received ++ [packet] } := by
    intro name type htype
    rcases hm name type htype with hdefault | ⟨earlier, hmem, hread⟩
    · exact .inl hdefault
    · exact .inr ⟨earlier, List.mem_append_left _ hmem, hread⟩
  rcases readFamily_cases h with rfl | ⟨name, hreading⟩
  · exact ⟨hlonger, rfl⟩
  · exact ⟨hreading.grounded hlonger (by simp), hreading.started_eq⟩

theorem discoverFamilyId_grounded {exchange : FamilyExchange} {discovered : Bool}
    (hm : manager.Grounded) (h : manager.discoverFamilyId exchange = .ok (discovered, manager')) :
    manager'.Grounded ∧ manager'.started = manager.started := by
  have htouched := afterBroadcast_touched exchange.handledBroadcast manager
  unfold discoverFamilyId at h
  obtain ⟨response?, -, h⟩ := Runs.bind_eq_ok.mp h
  cases response? with
  | none =>
    obtain ⟨-, rfl⟩ := Prod.mk.inj (Except.ok.inj h)
    exact ⟨htouched.grounded hm, htouched.started_eq⟩
  | some response =>
    obtain ⟨read, hread, h⟩ := Runs.bind_eq_ok.mp h
    obtain ⟨-, rfl⟩ := Prod.mk.inj (Except.ok.inj h)
    obtain ⟨hgrounded, hstarted⟩ := onNewFamily_grounded (htouched.grounded hm) hread
    exact ⟨hgrounded, hstarted.trans htouched.started_eq⟩

theorem start_sound {outcome : StartOutcome} {result : Bool × FamilyManager}
    (hm : manager.Sound) (h : manager.start outcome = .ok result) : result.2.Sound := by
  unfold start at h
  by_cases hstarted : manager.started = true
  · rw [if_pos hstarted] at h
    obtain rfl := Except.ok.inj h
    exact hm
  rw [if_neg hstarted] at h
  by_cases hsync : (!outcome.setupSync) = true
  · rw [if_pos hsync] at h
    obtain rfl := Except.ok.inj h
    exact hm
  rw [if_neg hsync] at h
  by_cases hasync : (!outcome.setupAsync) = true
  · rw [if_pos hasync] at h
    obtain rfl := Except.ok.inj h
    exact hm
  rw [if_neg hasync] at h
  obtain ⟨⟨discovered, found⟩, hdiscover, h⟩ := Runs.bind_eq_ok.mp h
  obtain ⟨hfound, hidle⟩ := discoverFamilyId_grounded hm.grounded hdiscover
  have hsound : found.Sound := ⟨hfound, fun hs => absurd (hidle ▸ hs) hstarted⟩
  obtain ⟨htouched, hknows⟩ := subscribeAll_spec outcome.subscribed startGroups found
  dsimp only at h
  split_ifs at h with hfailed hwatch hsubscribed
  · obtain rfl := Except.ok.inj h
    exact hsound
  · obtain rfl := Except.ok.inj h
    exact hsound
  · obtain rfl := Except.ok.inj h
    exact htouched.sound hsound
  · obtain rfl := Except.ok.inj h
    exact ⟨htouched.grounded hfound, fun _ => hknows (by simpa using hsubscribed)⟩

theorem step_sound {call : FamilyCall} (hm : manager.Sound)
    (h : manager.step call = .ok manager') : manager'.Sound := by
  cases call with
  | start outcome =>
    rw [step] at h
    cases hstart : manager.start outcome with
    | error fault => simp [hstart, Except.map] at h
    | ok result =>
      rw [hstart] at h
      obtain rfl := Except.ok.inj h
      exact start_sound hm hstart
  | getFamilyId =>
    obtain rfl := Except.ok.inj h
    exact (entry_touched manager nl80211GenlName).sound hm
  | subscribeToEvents group subscribed =>
    obtain rfl := Except.ok.inj h
    exact (subscribeToEvents_touched group subscribed manager).sound hm

theorem sound_construct : construct.Sound := ⟨by simp [Grounded, construct], by simp [construct]⟩

/-- Whenever the manager is started, the family id and the ids of the three groups were read
from one and the same message for nl80211. -/
theorem started_discovered {calls : List FamilyCall}
    (h : calls.foldlM step construct = .ok manager) (hstarted : manager.started = true) :
    ∃ packet ∈ manager.received, packet.IsNewFamily nl80211GenlName ∧
      (∃ value, packet.getAttributeValue (AttrTemplate.int .uint16) ctrlAttrFamilyId =
        .ok (some value) ∧ manager.getFamilyId.1 = some (UInt16.ofInt value)) ∧
      ∀ group ∈ [multicastGroupReg, multicastGroupScan, multicastGroupMlme],
        ∃ id, (manager.entry nl80211GenlName).1.groups[group]? = some id ∧
          packet.ListsGroup group id := by
  have hsound := Runs.foldlM_keeps Sound (fun _ _ _ _ hs hu => step_sound hs hu) sound_construct h
  obtain ⟨type, htype, hreg⟩ := hsound.knows hstarted multicastGroupReg (by simp [startGroups])
  have hentry := entry_of_some htype
  rcases hsound.grounded _ _ htype with rfl | ⟨packet, hpacket, hread⟩
  · exact absurd hreg (by simp [MessageType.default])
  · refine ⟨packet, hpacket, hread.toIsNewFamily, ?_, fun group hgroup => ?_⟩
    · obtain ⟨value, hvalue, hid⟩ := hread.familyId_eq
      refine ⟨value, hvalue, ?_⟩
      rw [getFamilyId, hentry]
      exact hid
    · obtain ⟨type', htype', hmem⟩ := hsound.knows hstarted group hgroup
      obtain rfl : type = type' := by simpa [htype] using htype'
      obtain ⟨id, hid⟩ := OrderedMap.mem_iff_exists.mp hmem
      refine ⟨id, ?_, hread.listed group id hid⟩
      rw [hentry]
      exact hid

def groupAttr (group : GenlName) : NL80211NestedAttr :=
  let attr := NL80211NestedAttr.ofId 1
  let attr := attr.addAttribute (NL80211Attr.ofString ctrlAttrMcastGrpName group)
  attr.addAttribute (NL80211Attr.ofInt .uint32 ctrlAttrMcastGrpId 5)

/-- A message for a family, with the three groups that a start asks for. -/
def newFamilyMessage (name : GenlName) : NL80211Packet :=
  let groups := NL80211NestedAttr.ofId ctrlAttrMcastGroups
  let groups := groups.addAttribute (groupAttr multicastGroupReg)
  let groups := groups.addAttribute (groupAttr multicastGroupScan)
  let groups := groups.addAttribute (groupAttr multicastGroupMlme)
  let packet := NL80211Packet.ofHeader 16 1 1 0
  let packet := packet.addAttribute (NL80211Attr.ofInt .uint16 ctrlAttrFamilyId 28)
  let packet := packet.addAttribute (NL80211Attr.ofString ctrlAttrFamilyName name)
  packet.addAttribute groups

def answered (name : GenlName) : FamilyCall :=
  .start ⟨true, true, ⟨true, some [newFamilyMessage name]⟩, true, fun _ => true⟩

/-- A reply for another family, behind a broadcast, leaves an empty entry for nl80211. The
next start reads the family from its own reply. -/
theorem started_discovered_at_second_start :
    ∃ manager, [answered [120], .getFamilyId, answered nl80211GenlName].foldlM step construct =
      .ok manager ∧ manager.started = true ∧
      ∃ packet ∈ manager.received, packet.IsNewFamily nl80211GenlName ∧
        (∃ value, packet.getAttributeValue (AttrTemplate.int .uint16) ctrlAttrFamilyId =
          .ok (some value) ∧ manager.getFamilyId.1 = some (UInt16.ofInt value)) ∧
        ∀ group ∈ [multicastGroupReg, multicastGroupScan, multicastGroupMlme],
          ∃ id, (manager.entry nl80211GenlName).1.groups[group]? = some id ∧
            packet.ListsGroup group id := by
  have hrun : (([answered [120], .getFamilyId, answered nl80211GenlName].foldlM step
      construct).map FamilyManager.started) = .ok true := by
    decide +kernel
  cases h : [answered [120], .getFamilyId, answered nl80211GenlName].foldlM step construct with
  | error fault => simp [h, Except.map] at hrun
  | ok manager =>
    have hstarted : manager.started = true := by
      simpa [h, Except.map] using hrun
    exact ⟨manager, rfl, hstarted, started_discovered h hstarted⟩

end FamilyManager

end Wificond
