import Wificond.WiphyOutputs

/-!
# Which outputs a wiphy request assigns

Band information is assigned of every packet of the wiphy that has it, scan capabilities only
of one that has these as well, and features only of one that has everything. What is assigned
does not depend on what the outputs held before, and the others stay as they were.
-/
namespace Wificond.NetlinkUtils

/-- What is assigned of each output, if anything is. -/
structure WiphyAssignment where
  bandInfo : Option WiphyBandInfo
  scanCapabilities : Option ScanCapabilities
  wiphyFeatures : Option WiphyFeatures

namespace WiphyAssignment

def apply (assigned : WiphyAssignment) (outs : WiphyInfo) : WiphyInfo where
  bandInfo := assigned.bandInfo.getD outs.bandInfo
  scanCapabilities := assigned.scanCapabilities.getD outs.scanCapabilities
  wiphyFeatures := assigned.wiphyFeatures.getD outs.wiphyFeatures

/-- The later assignment counts. -/
def before (assigned later : WiphyAssignment) : WiphyAssignment where
  bandInfo := later.bandInfo.or assigned.bandInfo
  scanCapabilities := later.scanCapabilities.or assigned.scanCapabilities
  wiphyFeatures := later.wiphyFeatures.or assigned.wiphyFeatures

end WiphyAssignment

/-- The packet is one of the wiphy with its bands and all scan capabilities. -/
structure GivesCapabilities (wiphyIndex : UInt32) (packet : NL80211Packet) : Prop where
  own : OfWiphy wiphyIndex packet
  command_eq : packet.getCommand = .ok cmdNewWiphy.toNat
  bands : ∃ bandInfo, parseBandInfo packet = .ok (some bandInfo)
  capabilities : ∃ scanCapabilities, parseScanCapabilities packet = .ok (some scanCapabilities)

/-- The packet is one of the wiphy from which everything is read. -/
def GivesFeatures (wiphyIndex : UInt32) (packet : NL80211Packet) : Prop :=
  ∃ info, OfWiphy wiphyIndex packet ∧ Describes packet info

section Packets
variable {wiphyIndex : UInt32} {packet : NL80211Packet} {packets : List NL80211Packet}

/-- What is assigned of the packets: capabilities and features if some packet gives them. -/
structure AssignedOf (wiphyIndex : UInt32) (packets : List NL80211Packet)
    (assigned : WiphyAssignment) : Prop where
  capabilities_iff : assigned.scanCapabilities.isSome ↔
    ∃ packet ∈ packets, GivesCapabilities wiphyIndex packet
  features_iff : assigned.wiphyFeatures.isSome ↔
    ∃ packet ∈ packets, GivesFeatures wiphyIndex packet

theorem AssignedOf.cons {first later : WiphyAssignment} (h : AssignedOf wiphyIndex [packet] first)
    (hlater : AssignedOf wiphyIndex packets later) :
    AssignedOf wiphyIndex (packet :: packets) (first.before later) := by
  constructor
  · simp [WiphyAssignment.before, hlater.capabilities_iff, h.capabilities_iff, or_comm]
  · simp [WiphyAssignment.before, hlater.features_iff, h.features_iff, or_comm]

end Packets

section Call
variable (header : RequestHeader) (respond : Responses) (split : Bool) (wiphyIndex : UInt32)

variable {header respond split wiphyIndex}

theorem LooksAt.eq {packets packets' : List NL80211Packet}
    (h : LooksAt header respond split wiphyIndex packets)
    (h' : LooksAt header respond split wiphyIndex packets') : packets = packets' := by
  obtain ⟨response, hresponse, hpackets⟩ := h
  obtain ⟨response', hresponse', hpackets'⟩ := h'
  obtain rfl := Option.some.inj (hresponse.symm.trans hresponse')
  exact Except.ok.inj (hpackets.symm.trans hpackets')

end Call

end Wificond.NetlinkUtils
