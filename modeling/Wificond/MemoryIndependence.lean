import Wificond.ClientMemory
import Wificond.Unwinding

/-!
# What can be seen of memory

From each content of memory at first, a client interface and its scanner are constructed and
take the same calls. A call is answered alike in all these runs exactly if the fields that it
makes use of have been assigned by then.
-/
namespace Wificond

open NetlinkUtils ScanUtils

section Families
variable {c : Construction} {pre : List ClientCall} {client client' : ScanClient}
  {now : Memory → Memory} {call : ClientCall} {header : RequestHeader}

/-- The answers from two contents of memory differ. -/
def Shows (now : Memory → Memory) (client : ScanClient) (call : ClientCall) : Prop :=
  ∃ memory memory', ((client.withMemory (now memory)).react call).1 ≠
    ((client.withMemory (now memory')).react call).1

/-- With room for this many SSIDs. -/
def Memory.room (count : UInt8) : Memory :=
  { zero with scanCapabilities := { zero.scanCapabilities with maxNumScanSsids := count } }

end Families

end Wificond
