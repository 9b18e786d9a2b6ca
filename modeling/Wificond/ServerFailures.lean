import Wificond.ServerCalls
import Wificond.WiphyInfo

/-!
# Operations that fail

A create that returns no interface has changed a subscription and the cached list only. A
tear down that reports failure has found no interface of its kind, and goes on to erase the
wiphy of the name, which may be that of an interface of the other kind.
-/
namespace Wificond

structure DeviceWiphyCapabilities where
  is80211nSupported : Bool
  is80211acSupported : Bool
  is80211axSupported : Bool
  is80211beSupported : Bool
  is160MhzSupported : Bool
  is80p80MhzSupported : Bool
  is320MhzSupported : Bool
  maxTxStreams : UInt32
  maxRxStreams : UInt32
  deriving DecidableEq

namespace Server

def findWiphyIndex (ifaceName : IfaceName) (s : Server) : Int32 :=
  match s.ifaceToWiphyIndexMap.toList.find? fun entry => entry.1 == ifaceName with
  | some entry => entry.2.toInt32
  | none => -1

/-- `getWiphyInfo` is what the kernel answers for a wiphy. -/
def getDeviceWiphyCapabilities (getWiphyInfo : UInt32 → Option WiphyBandInfo)
    (ifaceName : IfaceName) (s : Server) : Option DeviceWiphyCapabilities :=
  if s.findWiphyIndex ifaceName = -1 then none
  else
    (getWiphyInfo (s.findWiphyIndex ifaceName).toUInt32).map fun bandInfo =>
      ⟨bandInfo.is80211nSupported, bandInfo.is80211acSupported, bandInfo.is80211axSupported,
        bandInfo.is80211beSupported, bandInfo.is160MhzSupported, bandInfo.is80p80MhzSupported,
        bandInfo.is320MhzSupported, bandInfo.maxTxStreams, bandInfo.maxRxStreams⟩

/-- The four maps are the same, and so are the answers that are taken from them. -/
structure Unchanged (s t : Server) : Prop where
  clients : t.clientInterfaces = s.clientInterfaces
  aps : t.apInterfaces = s.apInterfaces
  wiphys : t.ifaceToWiphyIndexMap = s.ifaceToWiphyIndexMap
  bands : t.bandToWiphyIndexMap = s.bandToWiphyIndexMap
  channels : ∀ band lists k,
    t.getAvailableChannels band lists k = s.getAvailableChannels band lists k
  capabilities : ∀ getWiphyInfo ifaceName,
    t.getDeviceWiphyCapabilities getWiphyInfo ifaceName =
      s.getDeviceWiphyCapabilities getWiphyInfo ifaceName

/-- A create without a result, or a tear down without success, leaves everything unchanged. -/
def FailsCleanly (s : Server) (call : Call) : Prop :=
  match call.request with
  | .createApInterface name =>
    (s.createApInterface call.kernel name).1 = none → s.Unchanged (s.serve call)
  | .createClientInterface name =>
    (s.createClientInterface call.kernel name).1 = none → s.Unchanged (s.serve call)
  | .tearDownApInterface name =>
    (s.tearDownApInterface name).1 = false → s.Unchanged (s.serve call)
  | .tearDownClientInterface name =>
    (s.tearDownClientInterface name).1 = false → s.Unchanged (s.serve call)
  | _ => True

/-- A tear down names an interface of its own kind, or a name without a wiphy. -/
def TearsDownOwnKind (s : Server) (call : Call) : Prop :=
  match call.request with
  | .tearDownApInterface name => name ∈ s.apInterfaces ∨ name ∉ s.ifaceToWiphyIndexMap
  | .tearDownClientInterface name => name ∈ s.clientInterfaces ∨ name ∉ s.ifaceToWiphyIndexMap
  | _ => True

variable {s t : Server} {k : Kernel} {ifaceName : IfaceName} {call : Call}

theorem unchanged_of_maps (hclients : t.clientInterfaces = s.clientInterfaces)
    (haps : t.apInterfaces = s.apInterfaces)
    (hwiphys : t.ifaceToWiphyIndexMap = s.ifaceToWiphyIndexMap)
    (hbands : t.bandToWiphyIndexMap = s.bandToWiphyIndexMap) : s.Unchanged t where
  clients := hclients
  aps := haps
  wiphys := hwiphys
  bands := hbands
  channels band lists k := by
    simp only [getAvailableChannels, getWiphyIndexFromBand, hbands]
  capabilities getWiphyInfo ifaceName := by
    have hindex : t.findWiphyIndex ifaceName = s.findWiphyIndex ifaceName := by
      rw [findWiphyIndex, findWiphyIndex, hwiphys]
    simp only [getDeviceWiphyCapabilities, hindex]

theorem unchanged_setupInterface (s : Server) (k : Kernel) (ifaceName : IfaceName) :
    s.Unchanged (s.setupInterface k ifaceName).2 := by
  obtain ⟨regDomain, debug, h⟩ := exists_setupInterface s k ifaceName
  rw [h]
  exact unchanged_of_maps rfl rfl rfl rfl

/-- A create returns no interface only where the kernel reports none. -/
theorem unchanged_createApInterface (h : (s.createApInterface k ifaceName).1 = none) :
    s.Unchanged (s.createApInterface k ifaceName).2 := by
  cases hreported : k.reported ifaceName with
  | none =>
    rw [createApInterface_of_none hreported]
    exact unchanged_setupInterface s k ifaceName
  | some reported => simp [createApInterface, setupInterface_fst, hreported] at h

theorem unchanged_createClientInterface (h : (s.createClientInterface k ifaceName).1 = none) :
    s.Unchanged (s.createClientInterface k ifaceName).2 := by
  cases hreported : k.reported ifaceName with
  | none =>
    rw [createClientInterface_of_none hreported]
    exact unchanged_setupInterface s k ifaceName
  | some reported => simp [createClientInterface, setupInterface_fst, hreported] at h

theorem tearDownApInterface_eq_false_iff :
    (s.tearDownApInterface ifaceName).1 = false ↔ ifaceName ∉ s.apInterfaces := by
  rw [OrderedMap.notMem_iff]
  unfold tearDownApInterface
  cases s.apInterfaces[ifaceName]? <;> simp

theorem tearDownClientInterface_eq_false_iff :
    (s.tearDownClientInterface ifaceName).1 = false ↔ ifaceName ∉ s.clientInterfaces := by
  rw [OrderedMap.notMem_iff]
  unfold tearDownClientInterface
  cases s.clientInterfaces[ifaceName]? <;> simp

/-- Without an interface all that a tear down does is to release the name's wiphy. -/
theorem tearDownApInterface_of_not_mem (h : ifaceName ∉ s.apInterfaces) :
    (s.tearDownApInterface ifaceName).2 = s.releaseWiphyIndex ifaceName := by
  rw [tearDownApInterface, OrderedMap.notMem_iff.mp h]

theorem tearDownClientInterface_of_not_mem (h : ifaceName ∉ s.clientInterfaces) :
    (s.tearDownClientInterface ifaceName).2 = s.releaseWiphyIndex ifaceName := by
  rw [tearDownClientInterface, OrderedMap.notMem_iff.mp h]

theorem unchanged_releaseWiphyIndex_iff :
    s.Unchanged (s.releaseWiphyIndex ifaceName) ↔ ifaceName ∉ s.ifaceToWiphyIndexMap := by
  constructor
  · intro h hmem
    obtain ⟨bands, hrelease⟩ := exists_releaseWiphyIndex s ifaceName
    have hkept := h.wiphys
    rw [hrelease] at hkept
    dsimp only at hkept
    rw [← hkept] at hmem
    simp at hmem
  · intro h
    rw [releaseWiphyIndex, OrderedMap.notMem_iff.mp h]
    exact unchanged_of_maps rfl rfl rfl rfl

/-- In every state, a call fails cleanly exactly if it tears down what is of its kind. -/
theorem failsCleanly_iff (s : Server) (call : Call) :
    s.FailsCleanly call ↔ s.TearsDownOwnKind call := by
  obtain ⟨k, request⟩ := call
  cases request with
  | registerWificondEventCallback _ | unregisterWificondEventCallback _ | registerCallback _
  | unregisterCallback _ | tearDownInterfaces | notifyCountryCodeChanged
  | onRegDomainChanged _ _ => exact Iff.rfl
  | createApInterface name => exact iff_of_true unchanged_createApInterface trivial
  | createClientInterface name => exact iff_of_true unchanged_createClientInterface trivial
  | tearDownApInterface name =>
    simp only [FailsCleanly, TearsDownOwnKind, tearDownApInterface_eq_false_iff, serve]
    by_cases hap : name ∈ s.apInterfaces
    · simp [hap]
    · simp [hap, tearDownApInterface_of_not_mem hap, unchanged_releaseWiphyIndex_iff]
  | tearDownClientInterface name =>
    simp only [FailsCleanly, TearsDownOwnKind, tearDownClientInterface_eq_false_iff, serve]
    by_cases hclient : name ∈ s.clientInterfaces
    · simp [hclient]
    · simp [hclient, tearDownClientInterface_of_not_mem hclient, unchanged_releaseWiphyIndex_iff]

/-- In a run from a fresh server, all calls fail cleanly exactly when every tear down names an
interface of its own kind or a name without a wiphy. -/
theorem failures_change_nothing_iff (calls : List Call) :
    Runs.Along serve FailsCleanly fresh calls ↔ Runs.Along serve TearsDownOwnKind fresh calls := by
  have hsame : FailsCleanly = TearsDownOwnKind := by
    ext s call
    exact failsCleanly_iff s call
  rw [hsame]

/-- An AP tear down of a client's name reports failure and takes the client's wiphy. -/
theorem failed_tearDown_takes_wiphy :
    ¬ Runs.Along serve FailsCleanly fresh
      [⟨Kernel.oneInterface [119], .createClientInterface [119]⟩,
        ⟨Kernel.oneInterface [119], .tearDownApInterface [119]⟩] := by
  intro h
  have hunchanged := h.2.1 (by decide)
  have hwiphys := congrArg (fun wiphys => wiphys.contains [119]) hunchanged.wiphys
  exact absurd hwiphys (by decide)

end Server

end Wificond
