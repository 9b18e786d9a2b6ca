import Wificond.MlmeEvents

/-!
# Queries about the station

The handlers for associations ask for the scan results and store the address afterwards;
broadcasts that come in meanwhile are handled before. Between them, the queries about the
station are answered from what the handlers have left.
-/
namespace Wificond

/-- A client interface, with the events whose handlers wait in `RefreshAssociateFreq` for the
scan results, the innermost first. -/
structure MlmeHandlers where
  association : Association
  refreshing : List MlmeEvent
  deriving DecidableEq

/-- A broadcast, which may also come in while a handler waits, the return from the innermost
`RefreshAssociateFreq`, or a query. -/
inductive MlmeStep
  | broadcast (packet : NL80211Packet)
  | refreshed (scanResults : Option (List (Bool × UInt32)))
  | getPacketCounters (station : MacAddress → Option StationInfo)
  | signalPoll (station : MacAddress → Option StationInfo)

namespace MlmeHandlers

/-- A handler, for an association up to its request for the scan results. -/
def onEvent (event : MlmeEvent) (h : MlmeHandlers) : MlmeHandlers :=
  if event.Succeeds then ⟨{ h.association with isAssociated := true }, event :: h.refreshing⟩
  else { h with association := h.association.dissociate }

/-- The rest of the innermost handler that waits. -/
def refreshed (scanResults : Option (List (Bool × UInt32))) (h : MlmeHandlers) : MlmeHandlers :=
  match h.refreshing with
  | [] => h
  | event :: outer =>
    ⟨{ h.association.refreshAssociateFreq scanResults with bssid := event.getBSSID }, outer⟩

/-- `BroadcastHandler`, for a client interface that subscribed under `interfaceIndex`. -/
def broadcastHandler (familyId : UInt16) (interfaceIndex : UInt32) (packet : NL80211Packet)
    (h : MlmeHandlers) : Exec MlmeHandlers := do
  if packet.getMessageType ≠ familyId.toNat then return h
  let command ← packet.getCommand
  if command ∉ [cmdConnect, cmdAssociate, cmdRoam, cmdDisconnect, cmdDisassociate] then return h
  match ← NetlinkManager.mlmeEvent packet with
  | none => return h
  | some (ifIndex, event) => return if ifIndex = interfaceIndex then h.onEvent event else h

def step (familyId : UInt16) (interfaceIndex : UInt32) (h : MlmeHandlers) :
    MlmeStep → Exec MlmeHandlers
  | .broadcast packet => h.broadcastHandler familyId interfaceIndex packet
  | .refreshed scanResults => .ok (h.refreshed scanResults)
  | .getPacketCounters _ | .signalPoll _ => .ok h

def run (familyId : UInt16) (interfaceIndex : UInt32) (a : Association) (steps : List MlmeStep) :
    Exec MlmeHandlers :=
  steps.foldlM (step familyId interfaceIndex) ⟨a, []⟩

end MlmeHandlers

/-- What a step sends and returns. -/
def Association.answer (a : Association) : MlmeStep → StationAnswer
  | .broadcast _ | .refreshed _ => ⟨none, []⟩
  | .getPacketCounters station => a.getPacketCounters station
  | .signalPoll station => a.signalPoll station

/-- How a connection fared. `refused` is an ASSOCIATE with a status that says so. -/
inductive MlmeOutcome
  | success | refused | failure
  deriving DecidableEq

structure MlmeReport where
  outcome : MlmeOutcome
  mac : Option MacAddress

/-- The outcome in the packet of a command. An ASSOCIATE has its status in a frame, which is not
parsed: `associateStatus` is what it would be. -/
inductive ReportsOutcome (associateStatus : NL80211Packet → UInt16) (packet : NL80211Packet) :
    ℕ → MlmeOutcome → Prop
  | connect {statusCode : Option ℤ} {timedOut : Bool}
      (hstatus : packet.getAttributeValue (AttrTemplate.int .uint16) attrStatusCode =
        .ok statusCode)
      (htimedOut : packet.hasAttribute attrTimedOut = .ok timedOut) :
      ReportsOutcome associateStatus packet cmdConnect
        (if !timedOut ∧ (statusCode.map UInt16.ofInt).getD 0 = 0 then .success else .failure)
  | associate {timedOut : Bool} (htimedOut : packet.hasAttribute attrTimedOut = .ok timedOut) :
      ReportsOutcome associateStatus packet cmdAssociate
        (if timedOut then .failure else if associateStatus packet = 0 then .success else .refused)
  | roam : ReportsOutcome associateStatus packet cmdRoam .success
  | disconnect : ReportsOutcome associateStatus packet cmdDisconnect .failure
  | disassociate : ReportsOutcome associateStatus packet cmdDisassociate .failure

/-- A packet is an MLME event of the interface, and says this of it. -/
structure Reports (familyId : UInt16) (interfaceIndex : UInt32)
    (associateStatus : NL80211Packet → UInt16) (packet : NL80211Packet) (report : MlmeReport) :
    Prop where
  family : packet.getMessageType = familyId.toNat
  interface : ∃ ifIndex, UInt32.ofInt ifIndex = interfaceIndex ∧
    packet.getAttributeValue (AttrTemplate.int .uint32) attrIfindex = .ok (some ifIndex)
  outcome : ∃ command, packet.getCommand = .ok command ∧
    ReportsOutcome associateStatus packet command report.outcome
  mac : ∃ bssid, report.mac = bssid.map MacAddress.ofBytes ∧
    packet.getAttributeValue (AttrTemplate.array 6) attrMac = .ok bssid

/-- The step is a broadcast that reports this. -/
def Brings (familyId : UInt16) (interfaceIndex : UInt32)
    (associateStatus : NL80211Packet → UInt16) (step : MlmeStep) (report : MlmeReport) : Prop :=
  ∃ packet, step = .broadcast packet ∧
    Reports familyId interfaceIndex associateStatus packet report

section History
variable (R : MlmeStep → MlmeReport → Prop) (steps : List MlmeStep)

/-- The most recent outcome is a success. -/
def Connected : Prop := ∃ report, Runs.Latest R steps report ∧ report.outcome = .success

/-- The address of the most recent successful event that contains one. -/
def LatestMac (mac : MacAddress) : Prop :=
  Runs.Latest (fun step mac => R step ⟨.success, some mac⟩) steps mac

/-- A request for the station is only sent while connected, with the address of the most
recent successful event that contains one; else the answer is empty. -/
structure AnswersWhenConnected (answer : StationAnswer) : Prop where
  sent : ∀ mac, answer.sent = some mac → Connected R steps ∧ LatestMac R steps mac
  empty : ¬ Connected R steps → answer.result = []

/-- The most recent event is a refused ASSOCIATE. -/
def Refused : Prop := ∃ report, Runs.Latest R steps report ∧ report.outcome = .refused

end History

/-- What the last handler to return makes of the address: an event without one brings zeros. -/
def MlmeReport.bssid (report : MlmeReport) : MacAddress :=
  if report.outcome = .failure then zeroMac else report.mac.getD zeroMac

section Queries
variable (familyId : UInt16) (interfaceIndex : UInt32) (a : Association)
  (R : MlmeStep → MlmeReport → Prop) (steps : List MlmeStep)

/-- No handler of the interface waits for scan results. -/
def AtRest : Prop :=
  ∀ h, MlmeHandlers.run familyId interfaceIndex a steps = .ok h → h.refreshing = []

/-- Of the events that did not come in while a handler was waiting, the last one has the
address of the most recent successful event that contains one. -/
def AddressKnown : Prop :=
  ∃ report, Runs.LatestBehind (AtRest familyId interfaceIndex a) R steps report ∧
    LatestMac R steps report.bssid

/-- The packet counters are only asked for while connected, no refused ASSOCIATE is the most
recent event when the signal is polled, and the address is known when a query needs it. -/
def Informed : MlmeStep → Prop
  | .broadcast _ | .refreshed _ => True
  | .getPacketCounters _ => Connected R steps ∧ AddressKnown familyId interfaceIndex a R steps
  | .signalPoll _ => ¬ Refused R steps ∧
    (Connected R steps → AddressKnown familyId interfaceIndex a R steps)

end Queries

section Reads
variable {familyId : UInt16} {interfaceIndex ifIndex : UInt32}
  {associateStatus : NL80211Packet → UInt16} {packet : NL80211Packet} {command : ℕ}
  {event : MlmeEvent} {outcome : MlmeOutcome} {report : MlmeReport}

theorem ReportsOutcome.unique {other : MlmeOutcome}
    (h : ReportsOutcome associateStatus packet command outcome)
    (h' : ReportsOutcome associateStatus packet command other) : outcome = other := by
  cases h with
  | connect hstatus htimedOut =>
    cases h' with
    | connect hstatus' htimedOut' =>
      obtain rfl := Except.ok.inj (hstatus.symm.trans hstatus')
      obtain rfl := Except.ok.inj (htimedOut.symm.trans htimedOut')
      rfl
  | associate htimedOut =>
    cases h' with
    | associate htimedOut' =>
      obtain rfl := Except.ok.inj (htimedOut.symm.trans htimedOut')
      rfl
  | roam => cases h'; rfl
  | disconnect => cases h'; rfl
  | disassociate => cases h'; rfl

theorem Reports.unique {other : MlmeReport}
    (h : Reports familyId interfaceIndex associateStatus packet report)
    (h' : Reports familyId interfaceIndex associateStatus packet other) : report = other := by
  obtain ⟨command, hcommand, houtcome⟩ := h.outcome
  obtain ⟨command', hcommand', houtcome'⟩ := h'.outcome
  obtain rfl := Except.ok.inj (hcommand.symm.trans hcommand')
  obtain ⟨bssid, hbssid, hmac⟩ := h.mac
  obtain ⟨bssid', hbssid', hmac'⟩ := h'.mac
  obtain rfl := Except.ok.inj (hmac.symm.trans hmac')
  cases report
  cases other
  rw [MlmeReport.mk.injEq]
  exact ⟨houtcome.unique houtcome', hbssid.trans hbssid'.symm⟩

/-- What the class of a command stores is what the packet says, but for the status of an
ASSOCIATE. -/
theorem exists_outcome_of_initFromPacket (associateStatus : NL80211Packet → UInt16)
    (h : MlmeEvent.initFromPacket command packet = .ok (some event)) : ∃ bssid outcome,
      packet.getAttributeValue (AttrTemplate.array 6) attrMac = .ok bssid ∧
        event.mac = bssid.map MacAddress.ofBytes ∧
        ReportsOutcome associateStatus packet command outcome ∧
        (event.Succeeds ↔ outcome ≠ .failure) := by
  obtain ⟨⟨ifIndex, mac⟩, hcommon, h⟩ := Runs.exists_of_bind_some h rfl
  obtain ⟨index, -, hcommon⟩ := Runs.exists_of_bind_some hcommon rfl
  obtain ⟨bssid, hmac, hcommon⟩ := Runs.bind_eq_ok.mp hcommon
  have hfields := Option.some.inj (Except.ok.inj hcommon)
  obtain ⟨-, rfl⟩ := Prod.mk.inj hfields
  refine ⟨bssid, ?_⟩
  dsimp only at h
  split_ifs at h with hconnect hassociate hroam hdisconnect hdisassociate
  · obtain ⟨statusCode, hstatus, h⟩ := Runs.bind_eq_ok.mp h
    obtain ⟨timedOut, htimedOut, h⟩ := Runs.bind_eq_ok.mp h
    obtain rfl := Option.some.inj (Except.ok.inj h)
    refine ⟨_, hmac, rfl, hconnect ▸ ReportsOutcome.connect hstatus htimedOut, ?_⟩
    split_ifs with hsuccess <;> simpa [MlmeEvent.Succeeds] using hsuccess
  · obtain ⟨timedOut, htimedOut, h⟩ := Runs.bind_eq_ok.mp h
    obtain rfl := Option.some.inj (Except.ok.inj h)
    refine ⟨_, hmac, rfl, hassociate ▸ ReportsOutcome.associate htimedOut, ?_⟩
    cases timedOut with
    | true => simp [MlmeEvent.Succeeds]
    | false => by_cases hzero : associateStatus packet = 0 <;> simp [MlmeEvent.Succeeds, hzero]
  · obtain rfl := Option.some.inj (Except.ok.inj h)
    exact ⟨.success, hmac, rfl, hroam ▸ .roam, by simp [MlmeEvent.Succeeds]⟩
  · obtain rfl := Option.some.inj (Except.ok.inj h)
    exact ⟨.failure, hmac, rfl, hdisconnect ▸ .disconnect, by simp [MlmeEvent.Succeeds]⟩
  · obtain rfl := Option.some.inj (Except.ok.inj h)
    exact ⟨.failure, hmac, rfl, hdisassociate ▸ .disassociate, by simp [MlmeEvent.Succeeds]⟩
  · cases h

theorem MlmeEvent.getBSSID_eq_bssid (hmac : event.mac = report.mac)
    (hsucceeds : report.outcome ≠ .failure) : event.getBSSID = report.bssid := by
  rw [MlmeReport.bssid, if_neg hsucceeds, getBSSID, hmac]

/-- The class of a command always makes an event where there is an index. -/
theorem initFromPacket_ne_none (hcommand : command ∈
      [cmdConnect, cmdAssociate, cmdRoam, cmdDisconnect, cmdDisassociate]) {value : ℤ}
    (hindex : packet.getAttributeValue (AttrTemplate.int .uint32) attrIfindex = .ok (some value)) :
    MlmeEvent.initFromPacket command packet ≠ .ok none := by
  intro h
  obtain ⟨fields, hcommon, h⟩ := Runs.bind_eq_ok.mp h
  rw [MlmeEvent.getCommonFields_eq hindex] at hcommon
  cases hmac : packet.getAttributeValue (AttrTemplate.array 6) attrMac with
  | error fault => simp [hmac, Except.map] at hcommon
  | ok bssid =>
    rw [hmac] at hcommon
    obtain rfl := Except.ok.inj hcommon
    dsimp only at h
    split_ifs at h with hconnect hassociate hroam hdisconnect hdisassociate
    · obtain ⟨statusCode, -, h⟩ := Runs.bind_eq_ok.mp h
      obtain ⟨timedOut, -, h⟩ := Runs.bind_eq_ok.mp h
      cases h
    · obtain ⟨timedOut, -, h⟩ := Runs.bind_eq_ok.mp h
      cases h
    · cases h
    · cases h
    · cases h
    · simp [hconnect, hassociate, hroam, hdisconnect, hdisassociate] at hcommand

theorem ReportsOutcome.command_mem (h : ReportsOutcome associateStatus packet command outcome) :
    command ∈ [cmdConnect, cmdAssociate, cmdRoam, cmdDisconnect, cmdDisassociate] := by
  cases h <;> decide

namespace MlmeHandlers
variable {h h' : MlmeHandlers}

/-- A broadcast is an event of the interface, or changes nothing. -/
theorem broadcastHandler_cases (associateStatus : NL80211Packet → UInt16)
    (hrun : h.broadcastHandler familyId interfaceIndex packet = .ok h') :
    (∃ event report, Reports familyId interfaceIndex associateStatus packet report ∧
      event.mac = report.mac ∧ (event.Succeeds ↔ report.outcome ≠ .failure) ∧
        h' = h.onEvent event) ∨
    (∀ report, ¬ Reports familyId interfaceIndex associateStatus packet report) ∧ h' = h := by
  by_cases hfamily : packet.getMessageType = familyId.toNat
  · rw [broadcastHandler, if_neg (not_not.mpr hfamily)] at hrun
    obtain ⟨command, hcommand, hrun⟩ := Runs.bind_eq_ok.mp hrun
    split_ifs at hrun with hmlme
    · obtain ⟨found, hfound, hrun⟩ := Runs.bind_eq_ok.mp hrun
      obtain ⟨index, hindex, hfound⟩ := Runs.bind_eq_ok.mp hfound
      cases index with
      | none =>
        obtain rfl := Except.ok.inj hfound
        refine .inr ⟨fun report hreport => ?_, (Except.ok.inj hrun).symm⟩
        obtain ⟨ifIndex, -, hread⟩ := hreport.interface
        simp [hread] at hindex
      | some value =>
        obtain ⟨command', hcommand', hfound⟩ := Runs.bind_eq_ok.mp hfound
        obtain rfl := Except.ok.inj (hcommand.symm.trans hcommand')
        obtain ⟨made, hmade, hfound⟩ := Runs.bind_eq_ok.mp hfound
        cases made with
        | none => exact absurd hmade (initFromPacket_ne_none (by simpa using hmlme) hindex)
        | some event =>
          obtain rfl := Except.ok.inj hfound
          obtain rfl := Except.ok.inj hrun
          obtain ⟨bssid, outcome, hmac, hbssid, houtcome, hsucceeds⟩ :=
            exists_outcome_of_initFromPacket associateStatus hmade
          by_cases hown : UInt32.ofInt value = interfaceIndex
          · refine .inl ⟨event, ⟨outcome, event.mac⟩, ?_, rfl, hsucceeds, ?_⟩
            · exact ⟨hfamily, ⟨value, hown, hindex⟩, ⟨command, hcommand, houtcome⟩,
                ⟨bssid, hbssid, hmac⟩⟩
            · exact if_pos hown
          · refine .inr ⟨fun report hreport => ?_, if_neg hown⟩
            obtain ⟨ifIndex, hsame, hread⟩ := hreport.interface
            obtain rfl : value = ifIndex := by simpa using hindex.symm.trans hread
            exact hown hsame
    · refine .inr ⟨fun report hreport => ?_, (Except.ok.inj hrun).symm⟩
      obtain ⟨command', hcommand', houtcome⟩ := hreport.outcome
      obtain rfl := Except.ok.inj (hcommand.symm.trans hcommand')
      exact absurd houtcome.command_mem (by simpa using hmlme)
  · rw [broadcastHandler, if_pos hfamily] at hrun
    exact .inr ⟨fun report hreport => hfamily hreport.family, (Except.ok.inj hrun).symm⟩

end MlmeHandlers

end Reads

namespace MlmeHandlers
variable {h : MlmeHandlers} {event : MlmeEvent}

/-- A handler that is not interrupted does what the handlers do as a whole. -/
theorem refreshed_onEvent (scanResults : Option (List (Bool × UInt32)))
    (hsucceeds : event.Succeeds) : (h.onEvent event).refreshed scanResults =
      ⟨h.association.onEvent scanResults event, h.refreshing⟩ := by
  rw [onEvent, if_pos hsucceeds, Association.onEvent_eq, if_pos hsucceeds]
  rfl

/-- The address that the fields hold once all waiting handlers have returned. -/
def bssid (h : MlmeHandlers) : MacAddress :=
  (h.refreshing.getLast?.map MlmeEvent.getBSSID).getD h.association.bssid

theorem bssid_of_rest (hrest : h.refreshing = []) : h.bssid = h.association.bssid := by
  rw [bssid, hrest]
  rfl

theorem bssid_refreshed (scanResults : Option (List (Bool × UInt32))) :
    (h.refreshed scanResults).bssid = h.bssid := by
  obtain ⟨a, refreshing⟩ := h
  match refreshing with
  | [] => rfl
  | [event] => rfl
  | event :: outer :: outers =>
    simp only [bssid, refreshed]
    rw [List.getLast?_cons_cons, List.getLast?_cons]
    rfl

theorem isAssociated_refreshed (scanResults : Option (List (Bool × UInt32))) :
    (h.refreshed scanResults).association.isAssociated = h.association.isAssociated := by
  obtain ⟨a, refreshing⟩ := h
  cases refreshing with
  | nil => rfl
  | cons event outer =>
    exact Association.refreshAssociateFreq_frame Association.isAssociated (fun _ _ => rfl)
      scanResults

theorem bssid_onEvent_of_waiting (hwaits : h.refreshing ≠ []) :
    (h.onEvent event).bssid = h.bssid := by
  obtain ⟨outer, houter⟩ : ∃ outer, h.refreshing.getLast? = some outer :=
    ⟨_, List.getLast?_eq_some_getLast hwaits⟩
  rw [onEvent]
  split_ifs
  · simp [bssid, List.getLast?_cons, houter]
  · simp [bssid, houter]

theorem bssid_onEvent_of_rest (hrest : h.refreshing = []) :
    (h.onEvent event).bssid = if event.Succeeds then event.getBSSID else zeroMac := by
  rw [onEvent]
  split_ifs
  · simp [bssid, hrest]
  · simp [bssid, hrest, Association.dissociate]

theorem isAssociated_onEvent :
    (h.onEvent event).association.isAssociated = true ↔ event.Succeeds := by
  rw [onEvent]
  split_ifs with hsucceeds <;> simp [hsucceeds, Association.dissociate]

end MlmeHandlers

section Steps
variable {familyId : UInt16} {interfaceIndex : UInt32} {associateStatus : NL80211Packet → UInt16}
  {a : Association} {steps : List MlmeStep} {h h' : MlmeHandlers} {step : MlmeStep}

theorem brings_unique (step : MlmeStep) (report other : MlmeReport)
    (hreport : Brings familyId interfaceIndex associateStatus step report)
    (hother : Brings familyId interfaceIndex associateStatus step other) : report = other := by
  obtain ⟨packet, rfl, hreport⟩ := hreport
  obtain ⟨packet', hsame, hother⟩ := hother
  obtain rfl := MlmeStep.broadcast.inj hsame
  exact hreport.unique hother

/-- A step is an event of the interface, the return of a handler, or changes nothing. -/
theorem MlmeHandlers.step_cases (associateStatus : NL80211Packet → UInt16)
    (hstep : h.step familyId interfaceIndex step = .ok h') :
    (∃ event report, Brings familyId interfaceIndex associateStatus step report ∧
      event.mac = report.mac ∧ (event.Succeeds ↔ report.outcome ≠ .failure) ∧
        h' = h.onEvent event) ∨
    (∀ report, ¬ Brings familyId interfaceIndex associateStatus step report) ∧
      (h' = h ∨ ∃ scanResults, h' = h.refreshed scanResults) := by
  cases step with
  | broadcast packet =>
    rcases broadcastHandler_cases associateStatus hstep with
      ⟨event, report, hreport, hevent⟩ | ⟨hsilent, hsame⟩
    · exact .inl ⟨event, report, ⟨packet, rfl, hreport⟩, hevent⟩
    · refine .inr ⟨?_, .inl hsame⟩
      rintro report ⟨packet', hsame', hreport⟩
      obtain rfl := MlmeStep.broadcast.inj hsame'
      exact hsilent report hreport
  | refreshed scanResults =>
    refine .inr ⟨?_, .inr ⟨scanResults, (Except.ok.inj hstep).symm⟩⟩
    rintro report ⟨packet, hsame, -⟩
    cases hsame
  | getPacketCounters station =>
    refine .inr ⟨?_, .inl (Except.ok.inj hstep).symm⟩
    rintro report ⟨packet, hsame, -⟩
    cases hsame
  | signalPoll station =>
    refine .inr ⟨?_, .inl (Except.ok.inj hstep).symm⟩
    rintro report ⟨packet, hsame, -⟩
    cases hsame

end Steps

/-- The fields go by the most recent event, and the address, once all handlers have returned,
by the last event that did not come in while one was waiting. -/
structure FollowsEvents (familyId : UInt16) (interfaceIndex : UInt32) (a : Association)
    (R : MlmeStep → MlmeReport → Prop) (steps : List MlmeStep) (h : MlmeHandlers) : Prop where
  isAssociated_iff : h.association.isAssociated = true ↔
    ∃ report, Runs.Latest R steps report ∧ report.outcome ≠ .failure
  bssid_eq : ∀ report,
    Runs.LatestBehind (AtRest familyId interfaceIndex a) R steps report → h.bssid = report.bssid
  heard : (∃ report, Runs.LatestBehind (AtRest familyId interfaceIndex a) R steps report) ∨
    h.refreshing = [] ∧ ∀ report, ¬ Runs.Latest R steps report

section Invariant
variable {familyId : UInt16} {interfaceIndex : UInt32} {associateStatus : NL80211Packet → UInt16}
  {a : Association} {steps : List MlmeStep} {h h' : MlmeHandlers} {step : MlmeStep}
  {R : MlmeStep → MlmeReport → Prop} {event : MlmeEvent} {report : MlmeReport}

theorem atRest_iff (hrun : MlmeHandlers.run familyId interfaceIndex a steps = .ok h) :
    AtRest familyId interfaceIndex a steps ↔ h.refreshing = [] := by
  constructor
  · intro hrest
    exact hrest h hrun
  · intro hrest h' hrun'
    obtain rfl := Except.ok.inj (hrun.symm.trans hrun')
    exact hrest

theorem followsEvents_nil (a : Association) (hconstructed : a.isAssociated = false) :
    FollowsEvents familyId interfaceIndex a R [] ⟨a, []⟩ where
  isAssociated_iff := by simp [hconstructed, Runs.Latest]
  bssid_eq := by simp [Runs.LatestBehind]
  heard := .inr ⟨rfl, by simp [Runs.Latest]⟩

theorem FollowsEvents.onEvent (hfollows : FollowsEvents familyId interfaceIndex a R steps h)
    (hR : ∀ step report other, R step report → R step other → report = other)
    (hrun : MlmeHandlers.run familyId interfaceIndex a steps = .ok h) (hbrings : R step report)
    (hmac : event.mac = report.mac) (hsucceeds : event.Succeeds ↔ report.outcome ≠ .failure) :
    FollowsEvents familyId interfaceIndex a R (steps ++ [step]) (h.onEvent event) := by
  have hlatest {other : MlmeReport} : Runs.Latest R (steps ++ [step]) other ↔ other = report := by
    rw [Runs.latest_append_singleton]
    constructor
    · rintro (hother | ⟨-, hsilent⟩)
      · exact hR step other report hother hbrings
      · exact absurd hbrings (hsilent report)
    · rintro rfl
      exact .inl hbrings
  have hassociated : (h.onEvent event).association.isAssociated = true ↔
      ∃ other, Runs.Latest R (steps ++ [step]) other ∧ other.outcome ≠ .failure := by
    rw [MlmeHandlers.isAssociated_onEvent, hsucceeds]
    simp [hlatest]
  by_cases hrest : h.refreshing = []
  · have hat := (atRest_iff hrun).mpr hrest
    refine ⟨hassociated, fun other hother => ?_, .inl ⟨report, ?_⟩⟩
    · rcases Runs.latestBehind_append_singleton.mp hother with ⟨-, hother⟩ | ⟨-, hsilent⟩
      · obtain rfl := hR step other report hother hbrings
        rw [MlmeHandlers.bssid_onEvent_of_rest hrest]
        split_ifs with hsuccess
        · exact MlmeEvent.getBSSID_eq_bssid hmac (hsucceeds.mp hsuccess)
        · rw [MlmeReport.bssid, if_pos (not_not.mp fun hne => hsuccess (hsucceeds.mpr hne))]
      · exact absurd hbrings (hsilent hat report)
    · exact Runs.latestBehind_append_singleton.mpr (.inl ⟨hat, hbrings⟩)
  · -- a handler waits: the address will be the one that it stores
    have hat : ¬ AtRest familyId interfaceIndex a steps := fun hat =>
      hrest ((atRest_iff hrun).mp hat)
    have hbehind {other : MlmeReport} :
        Runs.LatestBehind (AtRest familyId interfaceIndex a) R (steps ++ [step]) other ↔
          Runs.LatestBehind (AtRest familyId interfaceIndex a) R steps other := by
      rw [Runs.latestBehind_append_singleton]
      simp [hat]
    refine ⟨hassociated, fun other hother => ?_, ?_⟩
    · rw [MlmeHandlers.bssid_onEvent_of_waiting hrest]
      exact hfollows.bssid_eq other (hbehind.mp hother)
    · obtain ⟨other, hother⟩ := hfollows.heard.resolve_right fun hnone => hrest hnone.1
      exact .inl ⟨other, hbehind.mpr hother⟩

/-- A step that reports nothing of the interface. -/
theorem FollowsEvents.silent (hfollows : FollowsEvents familyId interfaceIndex a R steps h)
    (hsilent : ∀ report, ¬ R step report)
    (hassociated : h'.association.isAssociated = h.association.isAssociated)
    (hbssid : h'.bssid = h.bssid) (hrest : h.refreshing = [] → h'.refreshing = []) :
    FollowsEvents familyId interfaceIndex a R (steps ++ [step]) h' := by
  have hlatest {report : MlmeReport} :
      Runs.Latest R (steps ++ [step]) report ↔ Runs.Latest R steps report := by
    rw [Runs.latest_append_singleton]
    simp [hsilent]
  have hbehind {report : MlmeReport} :
      Runs.LatestBehind (AtRest familyId interfaceIndex a) R (steps ++ [step]) report ↔
        Runs.LatestBehind (AtRest familyId interfaceIndex a) R steps report := by
    rw [Runs.latestBehind_append_singleton]
    simp [hsilent]
  refine ⟨?_, fun report hreport => ?_, ?_⟩
  · rw [hassociated, hfollows.isAssociated_iff]
    simp only [hlatest]
  · rw [hbssid]
    exact hfollows.bssid_eq report (hbehind.mp hreport)
  · rcases hfollows.heard with ⟨report, hreport⟩ | ⟨hnone, hnever⟩
    · exact .inl ⟨report, hbehind.mpr hreport⟩
    · exact .inr ⟨hrest hnone, fun report hreport => hnever report (hlatest.mp hreport)⟩

theorem followsEvents_step
    (hfollows : FollowsEvents familyId interfaceIndex a
      (Brings familyId interfaceIndex associateStatus) steps h)
    (hrun : MlmeHandlers.run familyId interfaceIndex a steps = .ok h)
    (hstep : h.step familyId interfaceIndex step = .ok h') :
    FollowsEvents familyId interfaceIndex a (Brings familyId interfaceIndex associateStatus)
      (steps ++ [step]) h' := by
  rcases MlmeHandlers.step_cases associateStatus hstep with
    ⟨event, report, hbrings, hmac, hsucceeds, rfl⟩ | ⟨hsilent, rfl | ⟨scanResults, rfl⟩⟩
  · exact hfollows.onEvent brings_unique hrun hbrings hmac hsucceeds
  · exact hfollows.silent hsilent rfl rfl fun hrest => hrest
  · refine hfollows.silent hsilent (MlmeHandlers.isAssociated_refreshed scanResults)
      (MlmeHandlers.bssid_refreshed scanResults) fun hrest => ?_
    rw [MlmeHandlers.refreshed, hrest]
    exact hrest

theorem followsEvents_run (bssid : MacAddress) (associateFreq : UInt32)
    (hrun : MlmeHandlers.run familyId interfaceIndex (.construct bssid associateFreq) steps =
      .ok h) :
    FollowsEvents familyId interfaceIndex (.construct bssid associateFreq)
      (Brings familyId interfaceIndex associateStatus) steps h := by
  induction steps using List.reverseRecOn generalizing h with
  | nil =>
    obtain rfl := Except.ok.inj hrun
    exact followsEvents_nil (.construct bssid associateFreq) rfl
  | append_singleton steps step ih =>
    obtain ⟨before, hbefore, hstep⟩ := Runs.foldlM_append_singleton_eq_ok.mp hrun
    exact followsEvents_step (ih hbefore) hbefore hstep

/-- A request that carries the stored address is right in these states. -/
theorem FollowsEvents.answersWhenConnected_iff
    (hfollows : FollowsEvents familyId interfaceIndex a R steps h)
    (hrest : h.refreshing = []) {answer : StationAnswer}
    (hsent : answer.sent = some h.association.bssid) :
    AnswersWhenConnected R steps answer ↔
      Connected R steps ∧ AddressKnown familyId interfaceIndex a R steps := by
  rw [← MlmeHandlers.bssid_of_rest hrest] at hsent
  constructor
  · intro hright
    obtain ⟨hconnected, hmac⟩ := hright.sent h.bssid hsent
    refine ⟨hconnected, ?_⟩
    obtain ⟨latest, hlatest, -⟩ := hconnected
    obtain ⟨report, hreport⟩ := hfollows.heard.resolve_right fun hnone => hnone.2 latest hlatest
    exact ⟨report, hreport, hfollows.bssid_eq report hreport ▸ hmac⟩
  · rintro ⟨hconnected, report, hreport, hmac⟩
    refine ⟨fun mac hsame => ⟨hconnected, ?_⟩, fun hnot => absurd hconnected hnot⟩
    obtain rfl := Option.some.inj (hsent.symm.trans hsame)
    rw [hfollows.bssid_eq report hreport]
    exact hmac

theorem FollowsEvents.answer_iff
    (hfollows : FollowsEvents familyId interfaceIndex a R steps h)
    (hR : ∀ step report other, R step report → R step other → report = other)
    (hrest : h.refreshing = []) (step : MlmeStep) :
    AnswersWhenConnected R steps (h.association.answer step) ↔
      Informed familyId interfaceIndex a R steps step := by
  have hsilent : AnswersWhenConnected R steps ⟨none, []⟩ := ⟨by simp, fun _ => rfl⟩
  cases step with
  | broadcast packet => exact iff_of_true hsilent trivial
  | refreshed scanResults => exact iff_of_true hsilent trivial
  | getPacketCounters station => exact hfollows.answersWhenConnected_iff hrest rfl
  | signalPoll station =>
    rw [Association.answer, Association.signalPoll, Informed]
    by_cases hassociated : h.association.isAssociated = true
    · obtain ⟨latest, hlatest, houtcome⟩ := hfollows.isAssociated_iff.mp hassociated
      have honly {other : MlmeReport} (hother : Runs.Latest R steps other) : other = latest :=
        Runs.latest_unique hR hother hlatest
      rw [if_neg (by simp [hassociated]), hfollows.answersWhenConnected_iff hrest rfl]
      constructor
      · rintro ⟨⟨report, hreport, hsuccess⟩, hknown⟩
        refine ⟨?_, fun _ => hknown⟩
        rintro ⟨other, hother, hrefused⟩
        rw [honly hreport] at hsuccess
        rw [honly hother, hsuccess] at hrefused
        cases hrefused
      · rintro ⟨hrefused, hknown⟩
        have hconnected : Connected R steps := by
          refine ⟨latest, hlatest, ?_⟩
          cases hcase : latest.outcome with
          | success => rfl
          | refused => exact absurd ⟨latest, hlatest, hcase⟩ hrefused
          | failure => exact absurd hcase houtcome
        exact ⟨hconnected, hknown hconnected⟩
    · have hnot (report : MlmeReport) (hreport : Runs.Latest R steps report) :
          report.outcome = .failure := by
        by_contra hne
        exact hassociated (hfollows.isAssociated_iff.mpr ⟨report, hreport, hne⟩)
      rw [if_pos (by simpa using hassociated)]
      refine iff_of_true hsilent ⟨?_, ?_⟩
      · rintro ⟨report, hreport, hrefused⟩
        simp [hnot report hreport] at hrefused
      · rintro ⟨report, hreport, hsuccess⟩
        simp [hnot report hreport] at hsuccess

end Invariant

/-- In every run of a client interface over broadcasts and queries, with broadcasts also while
a handler waits for scan results, each query is answered as it should be exactly if the packet
counters are only asked for while connected, no refused ASSOCIATE is taken for a connection,
and the address that a query needs is the one stored last. -/
theorem station_queries_iff (familyId : UInt16) (interfaceIndex : UInt32)
    (associateStatus : NL80211Packet → UInt16) (bssid : MacAddress) (associateFreq : UInt32)
    (steps : List MlmeStep) :
    let a := Association.construct bssid associateFreq
    let R := Brings familyId interfaceIndex associateStatus
    (∀ pre step post h, steps = pre ++ step :: post →
      MlmeHandlers.run familyId interfaceIndex a pre = .ok h → h.refreshing = [] →
        AnswersWhenConnected R pre (h.association.answer step)) ↔
    ∀ pre step post h, steps = pre ++ step :: post →
      MlmeHandlers.run familyId interfaceIndex a pre = .ok h → h.refreshing = [] →
        Informed familyId interfaceIndex a R pre step := by
  intro a R
  have hanswer (pre : List MlmeStep) (step : MlmeStep) (h : MlmeHandlers)
      (hrun : MlmeHandlers.run familyId interfaceIndex a pre = .ok h) (hrest : h.refreshing = []) :
      AnswersWhenConnected R pre (h.association.answer step) ↔
        Informed familyId interfaceIndex a R pre step :=
    (followsEvents_run bssid associateFreq hrun).answer_iff brings_unique hrest step
  constructor
  · intro hright pre step post h hsplit hrun hrest
    exact (hanswer pre step h hrun hrest).mp (hright pre step post h hsplit hrun hrest)
  · intro hinformed pre step post h hsplit hrun hrest
    exact (hanswer pre step h hrun hrest).mpr (hinformed pre step post h hsplit hrun hrest)

/-- A packet of the command for interface 7. -/
def mlmePacket (command : UInt8) : NL80211Packet :=
  (NL80211Packet.ofHeader 24 command 0 0).addAttribute (NL80211Attr.ofInt .uint32 attrIfindex 7)

/-- The counters of a fresh interface are asked for with the address that happens to be in
memory; after a roam without an address the signal is polled with one that came from no event;
and after a refused ASSOCIATE it is polled although there is no connection. -/
theorem getPacketCounters_before_association :
    let garbage : MacAddress := Vector.replicate 6 0xA5
    let fresh := Association.construct garbage 0
    let R := Brings 24 7 fun _ => 1
    let connect := (mlmePacket 46).addAttribute (NL80211Attr.ofBytes attrMac [2, 0, 0, 0, 0, 2])
    let roam := mlmePacket 47
    let associate := mlmePacket 38
    let roamed := [.broadcast connect, .refreshed none, .broadcast roam, .refreshed none]
    let refused := [.broadcast associate, .refreshed none]
    (fresh.answer (.getPacketCounters fun _ => none) = ⟨some garbage, []⟩ ∧
      ¬ AnswersWhenConnected R [] (fresh.answer (.getPacketCounters fun _ => none))) ∧
    (∃ h, MlmeHandlers.run 24 7 fresh roamed = .ok h ∧ h.refreshing = [] ∧
      ¬ AnswersWhenConnected R roamed (h.association.answer (.signalPoll fun _ => none))) ∧
    ∃ h, MlmeHandlers.run 24 7 fresh refused = .ok h ∧ h.refreshing = [] ∧
      ¬ AnswersWhenConnected R refused (h.association.answer (.signalPoll fun _ => none)) := by
  intro garbage fresh R connect roam associate roamed refused
  refine ⟨⟨rfl, fun hright => ?_⟩, ⟨⟨⟨true, zeroMac, 0⟩, []⟩, by decide +kernel, rfl,
    fun hright => ?_⟩, ⟨⟨⟨true, zeroMac, 0⟩, []⟩, by decide +kernel, rfl, fun hright => ?_⟩⟩
  · obtain ⟨⟨report, ⟨pre, step, post, hnil, -⟩, -⟩, -⟩ := hright.sent garbage rfl
    simp at hnil
  · obtain ⟨pre, step, post, hsplit, ⟨packet, rfl, hreport⟩, -⟩ := (hright.sent zeroMac rfl).2
    have hmem : .broadcast packet ∈ roamed := by simp [hsplit]
    obtain ⟨bssid, hbssid, hmac⟩ := hreport.mac
    obtain rfl | rfl : packet = connect ∨ packet = roam := by simpa [roamed] using hmem
    · have hread : connect.getAttributeValue (AttrTemplate.array 6) attrMac =
          .ok (some [2, 0, 0, 0, 0, 2]) := by decide +kernel
      obtain rfl := Except.ok.inj (hread.symm.trans hmac)
      exact absurd hbssid (by decide)
    · have hread : roam.getAttributeValue (AttrTemplate.array 6) attrMac = .ok none := by
        decide +kernel
      obtain rfl := Except.ok.inj (hread.symm.trans hmac)
      cases hbssid
  · obtain ⟨report, ⟨pre, step, post, hsplit, ⟨packet, rfl, hreport⟩, -⟩, hsuccess⟩ :=
      (hright.sent zeroMac rfl).1
    have hmem : .broadcast packet ∈ refused := by simp [hsplit]
    obtain rfl : packet = associate := by simpa [refused] using hmem
    obtain ⟨command, hcommand, houtcome⟩ := hreport.outcome
    have hassociate : associate.getCommand = .ok cmdAssociate := by decide +kernel
    obtain rfl := Except.ok.inj (hassociate.symm.trans hcommand)
    rw [hsuccess] at houtcome
    generalize houtcome' : MlmeOutcome.success = outcome at houtcome
    cases houtcome with
    | @associate timedOut htimedOut => cases timedOut <;> simp at houtcome'

end Wificond
