import Wificond.ClientMemory
import Wificond.ClientStates

/-!
# Associations and broadcasts

Whether a client interface is associated, and with which access point, is known from broadcasts
only. While interfaces come and go, and broadcasts for all of them arrive in between, each live
interface knows what the latest ones since its construction said about its own index.
-/
namespace Wificond

/-- `ClientInterfaceImpl::OnChannelSwitchEvent` -/
def Association.onChannelSwitchEvent (frequency : UInt32) (a : Association) : Association :=
  if frequency = 0 then a else { a with associateFreq := frequency }

/-- The fields for the association. The answer while an event is handled is that to
`GetScanResult`, and no method of the interface changes them. -/
def Association.part :
    ClientPart Memory Association (Option (List (Bool × UInt32))) ClientMethod where
  construct memory := .construct memory.bssid memory.associateFreq
  hear scanResults event a :=
    match event with
    | .mlme event => a.onEvent scanResults event
    | .channelSwitch frequency _ => a.onChannelSwitchEvent frequency
    | .scanResults .. | .schedScanResults .. | .station .. | .frameTxStatus .. => a
  call _ a := a

/-- Whether there is an association, and the address of the peer. -/
def Association.link (a : Association) : Bool × MacAddress := (a.isAssociated, a.bssid)

/-- What an event says of the two. -/
def MlmeEvent.link (event : MlmeEvent) : Bool × MacAddress :=
  if event.Succeeds then (true, event.getBSSID) else (false, zeroMac)

abbrev AssociationStep := ClientsStep Memory (Option (List (Bool × UInt32))) ClientMethod

/-- The step is a broadcast with an MLME event for the interface of an index. -/
def BringsMlme (familyId : UInt16) (index : UInt32) (step : AssociationStep) (event : MlmeEvent) :
    Prop :=
  ∃ regType kernels scanResults packet, step = .broadcast regType kernels scanResults packet ∧
    Concerns familyId index packet (.mlme event)

/-- The step tells the frequency of the access point: the scan results that are asked for when
the interface associates hold it, or the channel is switched. -/
inductive BringsFrequency (familyId : UInt16) (index : UInt32) : AssociationStep → UInt32 → Prop
  | associated {regType kernels scanResults packet event frequency}
      (hevent : Concerns familyId index packet (.mlme event)) (hsucceeds : event.Succeeds)
      (hfrequency : associatedFrequency scanResults = some frequency) :
      BringsFrequency familyId index (.broadcast regType kernels scanResults packet) frequency
  | switched {regType kernels scanResults packet frequency bandwidth}
      (hevent : Concerns familyId index packet (.channelSwitch frequency bandwidth))
      (hne : frequency ≠ 0) :
      BringsFrequency familyId index (.broadcast regType kernels scanResults packet) frequency

/-- What an interface knows behind some steps, where it was constructed before them. -/
structure FollowsBroadcasts (familyId : UInt16) (index : UInt32) (steps : List AssociationStep)
    (memory : Memory) (a : Association) : Prop where
  latest : ∀ event, Runs.Latest (BringsMlme familyId index) steps event → a.link = event.link
  never : (∀ step ∈ steps, ∀ event, ¬ BringsMlme familyId index step event) →
    a.link = (false, memory.bssid)
  frequency : ∀ frequency, Runs.Latest (BringsFrequency familyId index) steps frequency →
    a.associateFreq = frequency
  unassigned : (∀ step ∈ steps, ∀ frequency, ¬ BringsFrequency familyId index step frequency) →
    a.associateFreq = memory.associateFreq
  polls : ∀ station mac, (a.signalPoll station).sent = some mac ↔ ∃ event,
    Runs.Latest (BringsMlme familyId index) steps event ∧ event.Succeeds ∧ event.getBSSID = mac

theorem MlmeEvent.link_eq_iff {event : MlmeEvent} {mac : MacAddress} :
    event.link = (true, mac) ↔ event.Succeeds ∧ event.getBSSID = mac := by
  rw [link]
  split_ifs with hsucceeds <;> simp [hsucceeds]

namespace Association

variable {familyId : UInt16} {index : UInt32} {id : ObjectId} {a : Association}
  {step : AssociationStep} {event : MlmeEvent} {frequency : UInt32}

theorem link_onEvent (scanResults : Option (List (Bool × UInt32))) (event : MlmeEvent)
    (a : Association) : (a.onEvent scanResults event).link = event.link := by
  rw [onEvent_eq, MlmeEvent.link, link]
  split_ifs
  · rw [isAssociated_associate, bssid_associate]
  · rfl

theorem associateFreq_onEvent (scanResults : Option (List (Bool × UInt32))) (event : MlmeEvent)
    (a : Association) : (a.onEvent scanResults event).associateFreq =
      if event.Succeeds then (associatedFrequency scanResults).getD a.associateFreq
      else a.associateFreq := by
  rw [onEvent_eq]
  split_ifs
  · rw [associate, refreshAssociateFreq_eq]
  · rfl

theorem onChannelSwitchEvent_eq (frequency : UInt32) (a : Association) :
    a.onChannelSwitchEvent frequency =
      { a with associateFreq := if frequency = 0 then a.associateFreq else frequency } := by
  rw [onChannelSwitchEvent]
  split_ifs <;> rfl

/-- A step that brings an MLME event leaves what the event says. -/
theorem link_follow_of_bringsMlme (h : BringsMlme familyId index step event) :
    (part.follow familyId id index a step).link = event.link := by
  obtain ⟨regType, kernels, scanResults, packet, rfl, hevent⟩ := h
  rw [ClientPart.follow_broadcast hevent]
  exact link_onEvent scanResults event a

theorem link_follow_of_not_bringsMlme (h : ∀ event, ¬ BringsMlme familyId index step event) :
    (part.follow familyId id index a step).link = a.link := by
  cases step with
  | serve call memory => rfl
  | invoke id' method => exact congrArg link (ite_self a)
  | broadcast regType kernels scanResults packet =>
    by_cases hany : ∃ event, Concerns familyId index packet event
    · obtain ⟨event, hevent⟩ := hany
      rw [ClientPart.follow_broadcast hevent]
      cases event with
      | mlme event => exact absurd ⟨regType, kernels, scanResults, packet, rfl, hevent⟩ (h event)
      | channelSwitch frequency bandwidth =>
        show (a.onChannelSwitchEvent frequency).link = a.link
        rw [onChannelSwitchEvent_eq]
        rfl
      | _ => rfl
    · rw [not_exists] at hany
      rw [ClientPart.follow_broadcast_of_silent hany]

theorem associateFreq_follow_of_bringsFrequency
    (h : BringsFrequency familyId index step frequency) :
    (part.follow familyId id index a step).associateFreq = frequency := by
  cases h with
  | associated hevent hsucceeds hfrequency =>
    rw [ClientPart.follow_broadcast hevent]
    show (a.onEvent _ _).associateFreq = frequency
    rw [associateFreq_onEvent, if_pos hsucceeds, hfrequency, Option.getD_some]
  | switched hevent hne =>
    rw [ClientPart.follow_broadcast hevent]
    show (a.onChannelSwitchEvent frequency).associateFreq = frequency
    rw [onChannelSwitchEvent_eq, if_neg hne]

theorem associateFreq_follow_of_not_bringsFrequency
    (h : ∀ frequency, ¬ BringsFrequency familyId index step frequency) :
    (part.follow familyId id index a step).associateFreq = a.associateFreq := by
  cases step with
  | serve call memory => rfl
  | invoke id' method =>
    exact congrArg associateFreq (ite_self a)
  | broadcast regType kernels scanResults packet =>
    by_cases hany : ∃ event, Concerns familyId index packet event
    · obtain ⟨event, hevent⟩ := hany
      rw [ClientPart.follow_broadcast hevent]
      cases event with
      | mlme event =>
        show (a.onEvent scanResults event).associateFreq = a.associateFreq
        rw [associateFreq_onEvent]
        split_ifs with hsucceeds
        · cases hfrequency : associatedFrequency scanResults with
          | none => rfl
          | some frequency => exact absurd (.associated hevent hsucceeds hfrequency) (h frequency)
        · rfl
      | channelSwitch frequency bandwidth =>
        show (a.onChannelSwitchEvent frequency).associateFreq = a.associateFreq
        rw [onChannelSwitchEvent_eq]
        by_cases hzero : frequency = 0
        · rw [if_pos hzero]
        · exact absurd (.switched hevent hzero) (h frequency)
      | _ => rfl
    · rw [not_exists] at hany
      rw [ClientPart.follow_broadcast_of_silent hany]

theorem sent_signalPoll {station : MacAddress → Option StationInfo} {mac : MacAddress} :
    (a.signalPoll station).sent = some mac ↔ a.isAssociated = true ∧ a.bssid = mac := by
  rw [signalPoll]
  cases a.isAssociated <;> simp

/-- The fields of an interface that is alone. -/
theorem followsBroadcasts_foldl (familyId : UInt16) (index : UInt32) (id : ObjectId)
    (steps : List AssociationStep) (memory : Memory) :
    FollowsBroadcasts familyId index steps memory
      (steps.foldl (part.follow familyId id index) (part.construct memory)) := by
  have hlatest {event : MlmeEvent} (h : Runs.Latest (BringsMlme familyId index) steps event) :
      (steps.foldl (part.follow familyId id index) (part.construct memory)).link = event.link :=
    Runs.foldl_eq_of_latest (fun _ _ _ h => link_follow_of_bringsMlme h)
      (fun _ _ h => link_follow_of_not_bringsMlme h) h
  have hnever (h : ∀ step ∈ steps, ∀ event, ¬ BringsMlme familyId index step event) :
      (steps.foldl (part.follow familyId id index) (part.construct memory)).link =
        (false, memory.bssid) :=
    Runs.foldl_eq_of_silent (fun _ _ h => link_follow_of_not_bringsMlme h) h
  refine ⟨fun _ => hlatest, hnever, fun frequency h => ?_, fun h => ?_, fun station mac => ?_⟩
  · exact Runs.foldl_eq_of_latest (g := fun frequency => frequency)
      (fun _ _ _ h => associateFreq_follow_of_bringsFrequency h)
      (fun _ _ h => associateFreq_follow_of_not_bringsFrequency h) h
  · exact Runs.foldl_eq_of_silent (fun _ _ h => associateFreq_follow_of_not_bringsFrequency h) h
  · rw [sent_signalPoll, ← Prod.mk.injEq]
    constructor
    · intro hlink
      rcases Runs.latest_or_silent (BringsMlme familyId index) steps with ⟨event, h⟩ | h
      · exact ⟨event, h, MlmeEvent.link_eq_iff.mp ((hlatest h).symm.trans hlink)⟩
      · have hfalse := (hnever h).symm.trans hlink
        simp at hfalse
    · intro h
      obtain ⟨event, hevent, hsucceeds⟩ := h
      exact (hlatest hevent).trans (MlmeEvent.link_eq_iff.mpr hsucceeds)

/-- A live client interface knows what the latest broadcasts since its construction carried for
its index, whatever else was constructed, destroyed or told meanwhile. -/
theorem association_of_live (familyId : UInt16) (history : List AssociationStep)
    (hspares : Runs.Along (Clients.step part familyId) Clients.SparesLive .fresh history)
    (name : IfaceName) (client : ClientInterfaceImpl)
    (hclient : (Clients.after part familyId history).server.clientInterfaces[name]? =
      some client) :
    ∃ pre call memory post a, history = pre ++ .serve call memory :: post ∧
      .clientConstructed client.id ∈ (Clients.after part familyId pre).server.lifecycle call ∧
      (Clients.after part familyId history).fields client.id = some a ∧
      FollowsBroadcasts familyId client.interfaceIndex post memory a := by
  obtain ⟨pre, call, memory, post, hsplit, hnew, hfields⟩ :=
    Clients.fields_of_live hspares hclient
  exact ⟨pre, call, memory, post, _, hsplit, hnew, hfields,
    followsBroadcasts_foldl familyId client.interfaceIndex client.id post memory⟩

/-- Interface 7 is created and connects to station 2. -/
theorem association_of_live_connected :
    let packet := ((NL80211Packet.ofHeader 24 46 0 0).addAttribute
      (NL80211Attr.ofInt .uint32 attrIfindex 7)).addAttribute
      (NL80211Attr.ofBytes attrMac [2, 0, 0, 0, 0, 2])
    let history : List AssociationStep :=
      [.serve ⟨.oneInterface [119], .createClientInterface [119]⟩ .zero,
        .broadcast 0 (fun _ => .oneInterface [119]) none packet]
    ∃ a, (Clients.after part 24 history).fields 0 = some a ∧ a.isAssociated = true ∧
      a.bssid = #v[2, 0, 0, 0, 0, 2] := by
  intro packet history
  have hspares : Runs.Along (Clients.step part 24) Clients.SparesLive .fresh history := by
    refine ⟨?_, by simp [Clients.SparesLive], trivial⟩
    intro call memory hcall
    obtain ⟨rfl, rfl⟩ := ClientsStep.serve.inj hcall
    intro reported _
    exact ⟨by constructor <;> simp [Clients.fresh, Server.fresh], by
      simp [Clients.fresh, Server.fresh]⟩
  let event : MlmeEvent := .connect ((some [2, 0, 0, 0, 0, 2]).map MacAddress.ofBytes)
    (((none : Option ℤ).map UInt16.ofInt).getD 0) false
  have hconnect : Concerns 24 7 packet (.mlme event) :=
    ⟨by decide +kernel, by decide +kernel, cmdConnect, .mlmeEvent, by decide +kernel, by decide,
      by decide, .connect (by decide +kernel) (by decide +kernel) (by decide +kernel)⟩
  obtain ⟨pre, call, memory, post, a, hsplit, -, hfields, hfollows⟩ :=
    association_of_live 24 history hspares [119] ⟨0, 0, [119], 7, #v[2, 0, 0, 0, 0, 1], none⟩
      (by decide +kernel)
  have hpost : post = history.drop 1 := by
    rcases pre with _ | ⟨first, _ | ⟨second, pre⟩⟩
    · exact (List.cons.inj hsplit).2.symm
    all_goals simp [history] at hsplit
  have hlatest : Runs.Latest (BringsMlme 24 7) post event := by
    rw [hpost]
    exact ⟨[], _, [], rfl, ⟨0, _, none, packet, rfl, hconnect⟩, by simp⟩
  have hlink : a.link = (true, #v[2, 0, 0, 0, 0, 2]) := hfollows.latest event hlatest
  exact ⟨a, hfields, congrArg Prod.fst hlink, congrArg Prod.snd hlink⟩

end Association

end Wificond
