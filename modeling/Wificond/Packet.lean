import Wificond.Attribute

/-!
# Generic netlink messages

The model of `net/nl80211_packet.{h,cpp}`. A packet is the byte vector `data_`:
a sixteen-byte `nlmsghdr`, a four-byte `genlmsghdr` unless the message is a
control message, and an area of attributes.
-/
namespace Wificond

open LittleEndian

/-- `NLMSG_HDRLEN`, the size of `nlmsghdr` -/
abbrev nlmsgHdrlen : ℕ := 16

/-- `GENL_HDRLEN` -/
abbrev genlHdrlen : ℕ := 4

abbrev nlmsgNoop : ℕ := 1
abbrev nlmsgError : ℕ := 2
abbrev nlmsgDone : ℕ := 3
abbrev nlmsgOverrun : ℕ := 4
abbrev nlmsgMinType : ℕ := 0x10

abbrev nlmFRequest : ℕ := 0x1
abbrev nlmFMulti : ℕ := 0x2
abbrev nlmFAck : ℕ := 0x4
abbrev nlmFDump : ℕ := 0x300

/-- `nlmsg_len` of the header at `ptr`. -/
def nlmsgLen (data : List UInt8) (ptr : ℕ) : ℕ := field data ptr 4

structure NL80211Packet where
  data : List UInt8
  deriving DecidableEq, Repr

namespace NL80211Packet

/-- The constructor from the header fields. -/
def ofHeader (type : UInt16) (command : UInt8) (sequence pid : UInt32) : NL80211Packet :=
  let data := resize [] (nlmsgHdrlen + genlHdrlen)
  let data := setField data 0 4 data.length
  let data := setField data 6 2 (field data 6 2 ||| nlmFRequest)
  let data := setField data 4 2 type.toNat
  let data := setField data 8 4 sequence.toNat
  let data := setField data 12 4 pid.toNat
  let data := setField data 17 1 1
  ⟨setField data 16 1 command.toNat⟩

def getFlags (packet : NL80211Packet) : ℕ := field packet.data 6 2

def getMessageType (packet : NL80211Packet) : ℕ := field packet.data 4 2

def getMessageSequence (packet : NL80211Packet) : ℕ := field packet.data 8 4

def getPortId (packet : NL80211Packet) : ℕ := field packet.data 12 4

def isValid (packet : NL80211Packet) : Bool :=
  let size := packet.data.length
  let len := nlmsgLen packet.data 0
  if size < nlmsgHdrlen then false
  -- below NLMSG_MIN_TYPE there is no generic netlink header
  else if nlmsgMinType ≤ packet.getMessageType ∧
      (size < nlmsgHdrlen + genlHdrlen ∨ len < nlmsgHdrlen + genlHdrlen) then false
  -- an error message carries an `int`
  else if packet.getMessageType = nlmsgError ∧
      (size < nlmsgHdrlen + 4 ∨ len < nlmsgHdrlen + 4) then false
  else if size < len ∨ len < nlmsgHdrlen then false
  else true

def isDump (packet : NL80211Packet) : Bool := packet.getFlags &&& nlmFDump ≠ 0

def isMulti (packet : NL80211Packet) : Bool := packet.getFlags &&& nlmFMulti ≠ 0

def getCommand (packet : NL80211Packet) : Exec ℕ :=
  if nlmsgHdrlen + 1 ≤ packet.data.length then .ok (field packet.data nlmsgHdrlen 1)
  else .error .outOfRange

/-- The negated `int` behind the netlink header. -/
def getErrorCode (packet : NL80211Packet) : Exec ℤ :=
  if nlmsgHdrlen + 4 ≤ packet.data.length then
    .ok (-IntType.int32.ofBytes (slice packet.data nlmsgHdrlen (nlmsgHdrlen + 4)))
  else .error .outOfRange

def addFlag (packet : NL80211Packet) (flag : ℕ) : NL80211Packet :=
  ⟨setField packet.data 6 2 (packet.getFlags ||| flag)⟩

def addAttribute (packet : NL80211Packet) (attr : BaseNL80211Attr) : NL80211Packet :=
  let data := packet.data ++ attr.data
  ⟨setField data 0 4 (nlmsgLen data 0 + attr.data.length)⟩

def addFlagAttribute (packet : NL80211Packet) (attributeId : ℕ) : NL80211Packet :=
  let size := packet.data.length
  let data := resize packet.data (size + nlaHdrlen)
  let data := setField data (size + 2) 2 attributeId
  let data := setField data size 2 nlaHdrlen
  ⟨setField data 0 4 (nlmsgLen data 0 + nlaHdrlen)⟩

/-- Where the attributes start. -/
abbrev attributeStart : ℕ := nlmsgHdrlen + genlHdrlen

def hasAttribute (packet : NL80211Packet) (id : ℕ) : Exec Bool :=
  hasAttributeFrom packet.data attributeStart id

/-- `GetAttribute` for a nested attribute. -/
def getAttribute (packet : NL80211Packet) (id : ℕ) : Exec (Option NL80211NestedAttr) :=
  getAttributeFrom packet.data attributeStart BaseNL80211Attr.isValid id

/-- `GetAttribute<T>` -/
def getTypedAttribute {α : Type} (packet : NL80211Packet) (t : AttrTemplate α) (id : ℕ) :
    Exec (Option BaseNL80211Attr) :=
  getAttributeFrom packet.data attributeStart t.isValid id

def getAttributeValue {α : Type} (packet : NL80211Packet) (t : AttrTemplate α) (id : ℕ) :
    Exec (Option α) :=
  getAttributeValueFrom packet.data attributeStart t id

/-- One pass of the loop of `GetAllAttributes`. -/
def getAllStep (data : List UInt8) :
    ℕ × List BaseNL80211Attr → (ℕ × List BaseNL80211Attr) ⊕ Exec (Bool × List BaseNL80211Attr)
  | (ptr, attributes) =>
    if ptr + nlaHdrlen ≤ data.length then
      let len := nlaLen data ptr
      if ptr + nlaAlign len > data.length ∨ len = 0 then .inr (.ok (false, attributes))
      else if len < nlaHdrlen then .inr (.error .outOfRange)
      else
        let attr := BaseNL80211Attr.ofPayload (nlaType data ptr)
          (slice data (ptr + nlaHdrlen) (ptr + len))
        .inl (ptr + nlaAlign len, attributes ++ [attr])
    else .inr (.ok (true, attributes))

/-- Returns the success flag and the attributes found, also on failure. -/
def getAllAttributes (packet : NL80211Packet) : Exec (Bool × List BaseNL80211Attr) :=
  walk (getAllStep packet.data) packet.data.length (attributeStart, [])

end NL80211Packet

end Wificond
