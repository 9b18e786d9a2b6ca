import Wificond.AccessLog
import Wificond.AttributeBounds

/-!
# Reads of a packet

The readers of `NL80211Packet` with the bytes that they read. A lookup also computes the
length of the attribute area, `data_.size()` less the two headers, which wraps for a packet
that is shorter than these. Reads of a vector that was copied out of the packet are no
accesses to the packet. Neither are those of the netlink header listed, which every packet
has that `IsValid` accepts.
-/
namespace Wificond

open StepLoop

/-- The packet has a netlink and a generic netlink header. -/
def NL80211Packet.HasHeaders (packet : NL80211Packet) : Prop :=
  NL80211Packet.attributeStart ≤ packet.data.length

instance (packet : NL80211Packet) : Decidable packet.HasHeaders :=
  inferInstanceAs (Decidable (_ ≤ _))

inductive PacketAccess
  /-- The bytes from `first` up to `last`. Of a reversed range none is read: the constructor
  of the vector refuses it. -/
  | bytes (packet : NL80211Packet) (first last : ℕ)
  /-- `data_.size() - NLMSG_HDRLEN - GENL_HDRLEN` -/
  | areaLength (packet : NL80211Packet)
  deriving DecidableEq

/-- Every byte is inside the packet, and the length does not wrap. -/
def PacketAccess.Inside : PacketAccess → Prop
  | bytes packet first last => first < last → last ≤ packet.data.length
  | areaLength packet => packet.HasHeaders

abbrev Reading := Logged PacketAccess Fault

namespace NL80211Packet

def readCommand (packet : NL80211Packet) : Reading ℕ :=
  ⟨[.bytes packet nlmsgHdrlen (nlmsgHdrlen + 1)], packet.getCommand⟩

def readErrorCode (packet : NL80211Packet) : Reading ℤ :=
  ⟨[.bytes packet nlmsgHdrlen (nlmsgHdrlen + 4)], packet.getErrorCode⟩

/-- A walk reads the header at `ptr` if there is room for one. -/
def headerAccess (packet : NL80211Packet) (ptr : ℕ) : List PacketAccess :=
  if ptr + nlaHdrlen ≤ packet.data.length then [.bytes packet ptr (ptr + nlaHdrlen)] else []

/-- `GetAttribute` copies the attribute that is found. -/
def copyAccess (packet : NL80211Packet) : Exec (Option (ℕ × ℕ)) → List PacketAccess
  | .ok (some (first, last)) => [.bytes packet first last]
  | _ => []

/-- `GetAttribute` with the test `valid` of the class that is asked for. -/
def readAttributeOf (packet : NL80211Packet) (valid : BaseNL80211Attr → Bool) (id : ℕ) :
    Reading (Option BaseNL80211Attr) where
  accesses := .areaLength packet ::
    ((visited (getAttributeStep packet.data id) (packet.data.length + 1) attributeStart).flatMap
      packet.headerAccess ++ packet.copyAccess (getAttributeImpl packet.data attributeStart id))
  result := getAttributeFrom packet.data attributeStart valid id

/-- `GetAttribute` for a nested attribute. -/
def readAttribute (packet : NL80211Packet) (id : ℕ) : Reading (Option NL80211NestedAttr) :=
  packet.readAttributeOf BaseNL80211Attr.isValid id

def readAttributeValue {α : Type} (packet : NL80211Packet) (t : AttrTemplate α) (id : ℕ) :
    Reading (Option α) := do
  match ← packet.readAttributeOf t.isValid id with
  | none => return none
  | some attr => return some (← Logged.lift (t.getValue attr))

/-- `GetAllAttributes` copies the payload of an attribute that passes its test. -/
def payloadAccess (packet : NL80211Packet) (ptr : ℕ) : List PacketAccess :=
  if ptr + nlaAlign (nlaLen packet.data ptr) ≤ packet.data.length ∧ nlaLen packet.data ptr ≠ 0 then
    [.bytes packet (ptr + nlaHdrlen) (ptr + nlaLen packet.data ptr)]
  else []

/-- `GetAllAttributes` compares pointers and computes no length. -/
def readAllAttributes (packet : NL80211Packet) : Reading (Bool × List BaseNL80211Attr) where
  accesses :=
    (visited (getAllStep packet.data) (packet.data.length + 1) (attributeStart, [])).flatMap
      fun t => packet.headerAccess t.1 ++ packet.payloadAccess t.1
  result := packet.getAllAttributes

section Results
variable {packet : NL80211Packet} {α : Type}

@[simp] theorem result_readCommand : packet.readCommand.result = packet.getCommand := rfl

@[simp] theorem result_readErrorCode : packet.readErrorCode.result = packet.getErrorCode := rfl

@[simp] theorem result_readAttribute (id : ℕ) :
    (packet.readAttribute id).result = packet.getAttribute id := rfl

@[simp] theorem result_readAttributeValue (t : AttrTemplate α) (id : ℕ) :
    (packet.readAttributeValue t id).result = packet.getAttributeValue t id := by
  rw [readAttributeValue, Logged.result_bind, getAttributeValue, getAttributeValueFrom]
  apply congrArg
  ext found
  cases found with
  | none => rfl
  | some attr => cases hvalue : t.getValue attr <;> simp [hvalue] <;> rfl

@[simp] theorem result_readAllAttributes :
    packet.readAllAttributes.result = packet.getAllAttributes := rfl

end Results

section Inside
variable {packet : NL80211Packet} {α : Type}

@[simp] theorem readCommand_inside_iff :
    packet.readCommand.All PacketAccess.Inside ↔ nlmsgHdrlen + 1 ≤ packet.data.length := by
  simp [Logged.All, readCommand, PacketAccess.Inside]

@[simp] theorem readErrorCode_inside_iff :
    packet.readErrorCode.All PacketAccess.Inside ↔ nlmsgHdrlen + 4 ≤ packet.data.length := by
  simp [Logged.All, readErrorCode, PacketAccess.Inside]

theorem inside_of_mem_headerAccess {ptr : ℕ} {a : PacketAccess} (h : a ∈ packet.headerAccess ptr) :
    a.Inside := by
  rw [headerAccess] at h
  split_ifs at h with hroom
  · obtain rfl := List.mem_singleton.mp h
    exact fun _ => hroom
  · simp at h

theorem inside_of_mem_payloadAccess {ptr : ℕ} {a : PacketAccess}
    (h : a ∈ packet.payloadAccess ptr) : a.Inside := by
  rw [payloadAccess] at h
  split_ifs at h with hroom
  · obtain rfl := List.mem_singleton.mp h
    have hle : nlaLen packet.data ptr ≤ nlaAlign (nlaLen packet.data ptr) := PaddedTlv.le_align4 _
    exact fun _ => Nat.le_trans (Nat.add_le_add_left hle ptr) hroom.1
  · simp at h

theorem inside_of_mem_copyAccess {id : ℕ} {a : PacketAccess}
    (h : a ∈ packet.copyAccess (getAttributeImpl packet.data attributeStart id)) : a.Inside := by
  cases himpl : getAttributeImpl packet.data attributeStart id with
  | error fault => simp [himpl, copyAccess] at h
  | ok range =>
    cases range with
    | none => simp [himpl, copyAccess] at h
    | some range =>
      obtain ⟨-, hin, hlast⟩ := getAttributeImpl_eq_some_iff.mp himpl
      rw [himpl, copyAccess, List.mem_singleton] at h
      subst h
      intro _
      rw [hlast]
      exact hin

/-- A lookup tests each header and each range against the end of the packet. Only the length
of the area is not tested. -/
@[simp] theorem readAttributeOf_inside_iff (valid : BaseNL80211Attr → Bool) (id : ℕ) :
    (packet.readAttributeOf valid id).All PacketAccess.Inside ↔ packet.HasHeaders := by
  constructor
  · intro h
    exact h (.areaLength packet) (by simp [readAttributeOf])
  · intro h a ha
    simp only [readAttributeOf, List.mem_cons, List.mem_append, List.mem_flatMap] at ha
    rcases ha with rfl | ⟨ptr, -, hheader⟩ | hcopy
    · exact h
    · exact inside_of_mem_headerAccess hheader
    · exact inside_of_mem_copyAccess hcopy

@[simp] theorem readAttribute_inside_iff (id : ℕ) :
    (packet.readAttribute id).All PacketAccess.Inside ↔ packet.HasHeaders :=
  readAttributeOf_inside_iff _ id

@[simp] theorem readAttributeValue_inside_iff (t : AttrTemplate α) (id : ℕ) :
    (packet.readAttributeValue t id).All PacketAccess.Inside ↔ packet.HasHeaders := by
  rw [readAttributeValue, Logged.all_bind_iff, readAttributeOf_inside_iff]
  refine and_iff_left_of_imp fun _ found _ => ?_
  cases found <;> simp

@[simp] theorem readAllAttributes_inside : packet.readAllAttributes.All PacketAccess.Inside := by
  intro a ha
  simp only [readAllAttributes, List.mem_flatMap, List.mem_append] at ha
  obtain ⟨t, -, hheader | hpayload⟩ := ha
  · exact inside_of_mem_headerAccess hheader
  · exact inside_of_mem_payloadAccess hpayload

end Inside

end NL80211Packet

end Wificond
