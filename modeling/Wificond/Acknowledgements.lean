import Wificond.HandlerRemoval
import Wificond.OneShotScans
import Wificond.ScheduledScan
import Wificond.SequenceNumbers
import Wificond.SocketAnswers

/-!
# Acknowledgements

A command waits for a single message: an error, or with the code zero an acknowledgement. One
that comes too late stays in the socket and is met by a later call. It is not taken for the
answer of that call, but it ends the pass through its datagram, so the answer is heard where
it stands in a datagram of its own, or in front.
-/
namespace Wificond

open LittleEndian

/-- `NL80211_CMD_STOP_SCHED_SCAN` -/
abbrev cmdStopSchedScan : UInt8 := 76

namespace NetlinkManager

/-- `SendMessageAndGetSingleResponseOrError` -/
def singleResponseOrError (answer : Answer) : Option NL80211Packet :=
  if !answer.1 then none
  else
    match answer.2 with
    | [response] => some response
    | _ => none

/-- `SendMessageAndGetAckOrError` -/
def ackOrError (answer : Answer) : Exec (Option ℤ) := do
  let some response := singleResponseOrError answer | return none
  if response.getMessageType ≠ nlmsgError then return none
  return some (← response.getErrorCode)

/-- `SendMessageAndGetAck` -/
def ack (answer : Answer) : Exec Bool := do
  let some errorCode ← ackOrError answer | return false
  return errorCode = 0

end NetlinkManager

/-- The packet has a whole header with this number. -/
def NL80211Packet.HasSequence (packet : NL80211Packet) (sequence : ℕ) : Prop :=
  20 ≤ packet.data.length ∧ packet.getMessageSequence = sequence

namespace NL80211Packet.HasSequence
variable {packet : NL80211Packet} {sequence : ℕ}

theorem of_drop {data rest : List UInt8} (h : packet.HasSequence sequence)
    (hdrop : data.drop 8 = packet.data.drop 8 ++ rest) : HasSequence ⟨data⟩ sequence := by
  have hlen := h.1
  have hroom : 4 ≤ (packet.data.drop 8).length := by
    rw [List.length_drop]
    omega
  have hdata := congrArg List.length hdrop
  rw [List.length_append, List.length_drop, List.length_drop] at hdata
  refine ⟨show 20 ≤ data.length by omega, ?_⟩
  rw [← h.2]
  show valueOf ((data.drop 8).take 4) = valueOf ((packet.data.drop 8).take 4)
  rw [hdrop, List.take_append_of_le_length hroom]

theorem request (header : RequestHeader) (command : UInt8) :
    (header.request command).HasSequence header.sequence.toNat := by
  rw [RequestHeader.request, ofHeader_eq_ofArea]
  have hheader := header_ofArea header.familyId command header.sequence header.pid [] (by decide)
  refine ⟨?_, hheader.2.2.2.2.1⟩
  rw [length_ofArea]
  omega

theorem addFlag (h : packet.HasSequence sequence) (flag : ℕ) :
    (packet.addFlag flag).HasSequence sequence := by
  have hlen := h.1
  apply h.of_drop
  rw [drop_setField _ (by omega) (by decide)]
  exact (List.append_nil _).symm

theorem addAttribute (h : packet.HasSequence sequence) (attr : BaseNL80211Attr) :
    (packet.addAttribute attr).HasSequence sequence := by
  have hlen := h.1
  apply h.of_drop
  rw [drop_setField _ (by omega) (by decide)]
  exact List.drop_append_of_le_length (by omega)

theorem ite {p : Prop} [Decidable p] {other : NL80211Packet} (h : packet.HasSequence sequence)
    (hother : other.HasSequence sequence) :
    (if p then packet else other).HasSequence sequence := by
  split_ifs
  · exact h
  · exact hother

end NL80211Packet.HasSequence

namespace ScanUtils
variable (header : RequestHeader) (interfaceIndex : UInt32)

/-- The request of `StopScheduledScan`. -/
def stopSchedScanRequest : NL80211Packet :=
  ((header.request cmdStopSchedScan).addFlag nlmFAck).addAttribute
    (NL80211Attr.ofInt .uint32 attrIfindex interfaceIndex.toNat)

/-- `StopScheduledScan`. With `ENOENT` no scheduled scan is running, which is logged. -/
def stopScheduledScan (answer : Answer) : Exec Bool := do
  let some errorCode ← NetlinkManager.ackOrError answer | return false
  if errorCode = 2 then return false
  else if errorCode ≠ 0 then return false
  else return true

/-- Stopping a scan succeeds and fails with its acknowledgement. -/
theorem stopScheduledScan_eq_ack (answer : Answer) :
    stopScheduledScan answer = NetlinkManager.ack answer := by
  rw [stopScheduledScan, NetlinkManager.ack]
  congr 1
  ext answered
  cases answered with
  | none => rfl
  | some errorCode =>
    by_cases hzero : errorCode = 0
    · simp [hzero]
    · simp [hzero]

theorem stopSchedScanRequest_sequence :
    (stopSchedScanRequest header interfaceIndex).HasSequence header.sequence.toNat :=
  ((NL80211Packet.HasSequence.request header cmdStopSchedScan).addFlag nlmFAck).addAttribute _

theorem abortScanRequest_sequence :
    (abortScanRequest header interfaceIndex).HasSequence header.sequence.toNat :=
  ((NL80211Packet.HasSequence.request header cmdAbortScan).addFlag nlmFAck).addAttribute _

theorem schedScanRequest_sequence (settings : SchedScanSettings) :
    (schedScanRequest header interfaceIndex settings).HasSequence header.sequence.toNat := by
  have hstart := (NL80211Packet.HasSequence.request header cmdStartSchedScan).addFlag nlmFAck
  have hmatch := hstart.addAttribute
    (nestedList attrSchedScanMatch (matchGroup settings.rssiThreshold5g) settings.matchSsids)
  have hadjust := (hmatch.addAttribute (NL80211Attr.ofBytes attrSchedScanRssiAdjust
    (rssiAdjust settings))).ite (p := settings.reqFlags.requestSchedScanRelativeRssi) hmatch
  have hssids := (hadjust.addAttribute (NL80211Attr.ofInt .uint32 attrIfindex
    interfaceIndex.toNat)).addAttribute
      (nestedList attrScanSsids NL80211Attr.ofBytes settings.scanSsids)
  have hfreqs := (hssids.addAttribute (nestedList attrScanFrequencies
    (fun i freq => NL80211Attr.ofInt .uint32 i freq.toNat) settings.freqs)).ite
      (p := settings.freqs ≠ []) hssids
  have hplans := (hfreqs.addAttribute (scanPlans settings.intervalSetting)).ite
    (p := settings.intervalSetting.plans ≠ []) (hfreqs.addAttribute
      (NL80211Attr.ofInt .uint32 attrSchedScanInterval
        settings.intervalSetting.finalIntervalMs.toNat))
  exact (hplans.addAttribute _).ite hplans

theorem scanRequest_sequence {settings : ScanSettings} {packet : NL80211Packet}
    (h : scanRequest header interfaceIndex settings = some packet) :
    packet.HasSequence header.sequence.toNat := by
  have hstart := (NL80211Packet.HasSequence.request header cmdTriggerScan).addFlag nlmFAck
  have hssids := (hstart.addAttribute (NL80211Attr.ofInt .uint32 attrIfindex
    interfaceIndex.toNat)).addAttribute
      (nestedList attrScanSsids NL80211Attr.ofBytes settings.ssids)
  have hfreqs := (hssids.addAttribute (nestedList attrScanFrequencies
    (fun i freq => NL80211Attr.ofInt .uint32 i freq.toNat) settings.freqs)).ite
      (p := settings.freqs ≠ []) hssids
  obtain ⟨flags, hflags, h⟩ := Option.bind_eq_some_iff.mp h
  rw [← Option.some.inj h]
  have hscan := (hfreqs.addAttribute (NL80211Attr.ofInt .uint32 attrScanFlags flags.toNat)).ite
    (p := flags ≠ 0) hfreqs
  exact (hscan.addAttribute _).ite hscan

end ScanUtils

section Meeting
variable {H : Type} {sequence : ℕ} {time : ℤ} {table : Std.ExtTreeMap ℕ H}
  {arrivals : List Arrival} {packets : List NL80211Packet} {messages : List Message}

end Meeting

/-- A command that is built under a number of its own, and what arrives while its call waits. -/
structure AckCall where
  build : RequestHeader → NL80211Packet
  numbered : ∀ header, (build header).HasSequence header.sequence.toNat
  arrivals : List Arrival

structure AckState where
  sequenceNumber : UInt32
  netlink : NetlinkState Unit (List (Delivery Unit))

namespace AckCall

def startScheduledScan (interfaceIndex : UInt32) (settings : ScanUtils.SchedScanSettings)
    (arrivals : List Arrival) : AckCall :=
  ⟨fun header => ScanUtils.schedScanRequest header interfaceIndex settings,
    fun header => ScanUtils.schedScanRequest_sequence header interfaceIndex settings, arrivals⟩

/-- A scan of a type at which the process is not aborted. -/
def scan (interfaceIndex : UInt32) (settings : ScanUtils.ScanSettings)
    (h : ∀ header, (ScanUtils.scanRequest header interfaceIndex settings).isSome)
    (arrivals : List Arrival) : AckCall :=
  ⟨fun header => (ScanUtils.scanRequest header interfaceIndex settings).get (h header),
    fun header => ScanUtils.scanRequest_sequence header interfaceIndex (Option.some_get _).symm,
    arrivals⟩

def stopScheduledScan (interfaceIndex : UInt32) (arrivals : List Arrival) : AckCall :=
  ⟨fun header => ScanUtils.stopSchedScanRequest header interfaceIndex,
    fun header => ScanUtils.stopSchedScanRequest_sequence header interfaceIndex, arrivals⟩

def abortScan (interfaceIndex : UInt32) (arrivals : List Arrival) : AckCall :=
  ⟨fun header => ScanUtils.abortScanRequest header interfaceIndex,
    fun header => ScanUtils.abortScanRequest_sequence header interfaceIndex, arrivals⟩

/-- The call takes the next number; its result and the state behind it. -/
def run (familyId : UInt16) (pid : UInt32) (s : AckState) (call : AckCall) :
    Exec (Option ℤ × AckState) := do
  let sequenceNumber := NetlinkManager.getSequenceNumber s.sequenceNumber
  let (answer, netlink) ←
    exchangeOn (call.build ⟨familyId, sequenceNumber, pid⟩) () call.arrivals s.netlink
  let result ← NetlinkManager.ackOrError answer
  return (result, ⟨sequenceNumber, netlink⟩)

def results (familyId : UInt16) (pid : UInt32) : AckState → List AckCall → Exec (List (Option ℤ))
  | _, [] => .ok []
  | s, call :: calls => do
    let (result, s) ← call.run familyId pid s
    let others ← results familyId pid s calls
    return result :: others

end AckCall

section Run
variable {calls : List AckCall} {i : ℕ} {call : AckCall} {s : AckState} {familyId : UInt16}
  {pid : UInt32} {verdict : ℕ → ℤ}

open NetlinkManager SequenceNumbers

end Run

end Wificond
