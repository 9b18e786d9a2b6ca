import Wificond.NetlinkRequests
import Wificond.Runs

/-!
# MLME events and the association

The kernel reports on connections by broadcasts, which may lack the address of the peer.
A client interface keeps two fields of them, whether it is associated and the address, and
answers the queries about its station from these.
-/
namespace Wificond

/-- The events, with what `InitFromPacket` reads from a packet. -/
inductive MlmeEvent
  | connect (mac : Option MacAddress) (statusCode : UInt16) (isTimeout : Bool)
  | associate (mac : Option MacAddress) (statusCode : UInt16) (isTimeout : Bool)
  | roam (mac : Option MacAddress)
  | disconnect (mac : Option MacAddress)
  | disassociate (mac : Option MacAddress)
  deriving DecidableEq

/-- A value-initialized `array<uint8_t, ETH_ALEN>`. -/
def zeroMac : MacAddress := Vector.replicate 6 0

namespace MlmeEvent

def mac : MlmeEvent → Option MacAddress
  | connect mac .. | associate mac .. | roam mac | disconnect mac | disassociate mac => mac

/-- The event is value-initialized before its address is read. -/
def getBSSID (event : MlmeEvent) : MacAddress := event.mac.getD zeroMac

/-- `GetCommonFields`: some events do not contain an address. -/
def getCommonFields (packet : NL80211Packet) : Exec (Option (UInt32 × Option MacAddress)) := do
  let some ifIndex ← packet.getAttributeValue (AttrTemplate.int .uint32) attrIfindex
    | return none
  let bssid ← packet.getAttributeValue (AttrTemplate.array 6) attrMac
  return some (UInt32.ofInt ifIndex, bssid.map MacAddress.ofBytes)

/-- `InitFromPacket` of the class that belongs to the command. -/
def initFromPacket (command : ℕ) (packet : NL80211Packet) : Exec (Option MlmeEvent) := do
  let some (_, mac) ← getCommonFields packet | return none
  if command = cmdConnect then
    let statusCode ← packet.getAttributeValue (AttrTemplate.int .uint16) attrStatusCode
    let isTimeout ← packet.hasAttribute attrTimedOut
    return some (.connect mac ((statusCode.map UInt16.ofInt).getD 0) isTimeout)
  else if command = cmdAssociate then
    -- the status code is not parsed
    let isTimeout ← packet.hasAttribute attrTimedOut
    return some (.associate mac 0 isTimeout)
  else if command = cmdRoam then return some (.roam mac)
  else if command = cmdDisconnect then return some (.disconnect mac)
  else if command = cmdDisassociate then return some (.disassociate mac)
  else return none

end MlmeEvent

/-- `OnMlmeEvent`: the interface whose handler is looked up, and the event it is given. -/
def NetlinkManager.mlmeEvent (packet : NL80211Packet) :
    Exec (Option (UInt32 × MlmeEvent)) := do
  let some ifIndex ← packet.getAttributeValue (AttrTemplate.int .uint32) attrIfindex
    | return none
  let command ← packet.getCommand
  let event ← MlmeEvent.initFromPacket command packet
  return event.map fun event => (UInt32.ofInt ifIndex, event)

/-- The fields of a client interface for its association. -/
structure Association where
  isAssociated : Bool
  bssid : MacAddress
  associateFreq : UInt32
  deriving DecidableEq

/-- A query's answer, with the address of the `GET_STATION` request if one is sent. -/
structure StationAnswer where
  sent : Option MacAddress
  result : List Int32
  deriving DecidableEq

namespace Association

/-- The constructor initializes neither the address nor the frequency: what they hold is in
memory before. -/
def construct (bssid : MacAddress) (associateFreq : UInt32) : Association :=
  ⟨false, bssid, associateFreq⟩

/-- With what `GetScanResult` returns of the scan results, if it succeeds: whether they are
those of the access point, and their frequencies. -/
def refreshAssociateFreq (scanResults : Option (List (Bool × UInt32))) (a : Association) :
    Association :=
  (scanResults.getD []).foldl
    (fun a result => if result.1 then { a with associateFreq := result.2 } else a) a

/-- The branch of the handlers for an association. -/
def associate (scanResults : Option (List (Bool × UInt32))) (event : MlmeEvent)
    (a : Association) : Association :=
  let a := { a with isAssociated := true }
  let a := a.refreshAssociateFreq scanResults
  { a with bssid := event.getBSSID }

/-- The branch of the handlers for a failure or an end. -/
def dissociate (a : Association) : Association :=
  { a with isAssociated := false, bssid := zeroMac }

/-- `OnConnect`, `OnAssociate`, `OnRoam`, `OnDisconnect` and `OnDisassociate` -/
def onEvent (scanResults : Option (List (Bool × UInt32))) (event : MlmeEvent) (a : Association) :
    Association :=
  match event with
  | .connect _ statusCode isTimeout | .associate _ statusCode isTimeout =>
    if !isTimeout ∧ statusCode = 0 then a.associate scanResults event else a.dissociate
  | .roam _ => a.associate scanResults event
  | .disconnect _ | .disassociate _ => a.dissociate

/-- `GetPacketCounters`, with `GetStationInfo` as a parameter. -/
def getPacketCounters (station : MacAddress → Option StationInfo) (a : Association) :
    StationAnswer where
  sent := some a.bssid
  result :=
    match station a.bssid with
    | none => []
    | some info => [info.stationTxPackets, info.stationTxFailed]

def signalPoll (station : MacAddress → Option StationInfo) (a : Association) : StationAnswer :=
  if !a.isAssociated then ⟨none, []⟩
  else
    { sent := some a.bssid
      result :=
        match station a.bssid with
        | none => []
        | some info => [info.currentRssi.toInt32, (info.stationTxBitrate / 10).toInt32,
            a.associateFreq.toInt32, (info.stationRxBitrate / 10).toInt32] }

end Association

/-- A successful connect, associate or roam, as far as the handlers can tell. -/
def MlmeEvent.Succeeds : MlmeEvent → Prop
  | connect _ statusCode isTimeout | associate _ statusCode isTimeout =>
    !isTimeout ∧ statusCode = 0
  | roam _ => True
  | disconnect _ | disassociate _ => False

instance : DecidablePred MlmeEvent.Succeeds := fun event =>
  match event with
  | .connect .. | .associate .. => inferInstanceAs (Decidable (_ ∧ _))
  | .roam _ => .isTrue trivial
  | .disconnect _ | .disassociate _ => .isFalse id

theorem MlmeEvent.getCommonFields_eq {packet : NL80211Packet} {value : ℤ}
    (hindex : packet.getAttributeValue (AttrTemplate.int .uint32) attrIfindex = .ok (some value)) :
    getCommonFields packet = (packet.getAttributeValue (AttrTemplate.array 6) attrMac).map
      fun bssid => some (UInt32.ofInt value, bssid.map MacAddress.ofBytes) := by
  rw [getCommonFields, hindex]
  cases packet.getAttributeValue (AttrTemplate.array 6) attrMac <;> rfl

namespace Association
variable {a : Association}

theorem bssid_associate (scanResults : Option (List (Bool × UInt32))) (event : MlmeEvent) :
    (a.associate scanResults event).bssid = event.getBSSID := rfl

theorem refreshAssociateFreq_frame {α : Type} (f : Association → α)
    (hf : ∀ (a : Association) frequency, f { a with associateFreq := frequency } = f a)
    (scanResults : Option (List (Bool × UInt32))) :
    f (a.refreshAssociateFreq scanResults) = f a := by
  refine Runs.foldl_frame f fun a result => ?_
  split_ifs
  · exact hf a result.2
  · rfl

theorem isAssociated_associate (scanResults : Option (List (Bool × UInt32))) (event : MlmeEvent) :
    (a.associate scanResults event).isAssociated = true :=
  refreshAssociateFreq_frame isAssociated (fun _ _ => rfl) scanResults

theorem onEvent_eq (scanResults : Option (List (Bool × UInt32))) (event : MlmeEvent) :
    a.onEvent scanResults event =
      if event.Succeeds then a.associate scanResults event else a.dissociate := by
  cases event <;> simp [onEvent, MlmeEvent.Succeeds]

end Association

end Wificond
