import Wificond.InterfaceObjects
import Wificond.OrderedMap

/-!
# The server

The state of the daemon and the requests it serves. A request is answered in one
go, under the kernel's answers to the queries it makes; what the callbacks are
told is kept as a list of announcements.
-/
namespace Wificond

def nl80211Band2ghz : UInt32 := 0
def nl80211Band5ghz : UInt32 := 1
def nl80211Band60ghz : UInt32 := 2
def nl80211Band6ghz : UInt32 := 3

/-- A call of a registered callback. -/
inductive Announcement
  | clientInterfaceReady (callback : ℕ) (interface : ObjectId)
  | apInterfaceReady (callback : ℕ) (interface : ObjectId)
  | clientTorndownEvent (callback : ℕ) (interface : ObjectId)
  | apTorndownEvent (callback : ℕ) (interface : ObjectId)
  | regDomainChanged (callback : ℕ) (countryCode : List UInt8)
  deriving DecidableEq

structure Server where
  bandToWiphyIndexMap : Std.ExtTreeMap UInt32 UInt32
  ifaceToWiphyIndexMap : Std.ExtTreeMap IfaceName UInt32
  apInterfaces : Std.ExtTreeMap IfaceName ApInterfaceImpl
  clientInterfaces : Std.ExtTreeMap IfaceName ClientInterfaceImpl
  interfaceEventCallbacks : List ℕ
  wificondEventCallbacks : List ℕ
  debugInterfaces : List InterfaceInfo
  platform : Platform
  announced : List Announcement

namespace Server

def fresh : Server := ⟨∅, ∅, ∅, ∅, [], [], [], .initial, []⟩

def registerWificondEventCallback (callback : ℕ) (s : Server) : Server :=
  if callback ∈ s.wificondEventCallbacks then s
  else { s with wificondEventCallbacks := s.wificondEventCallbacks ++ [callback] }

def unregisterWificondEventCallback (callback : ℕ) (s : Server) : Server :=
  { s with wificondEventCallbacks := s.wificondEventCallbacks.erase callback }

def registerCallback (callback : ℕ) (s : Server) : Server :=
  if callback ∈ s.interfaceEventCallbacks then s
  else { s with interfaceEventCallbacks := s.interfaceEventCallbacks ++ [callback] }

def unregisterCallback (callback : ℕ) (s : Server) : Server :=
  { s with interfaceEventCallbacks := s.interfaceEventCallbacks.erase callback }

def announce (callbacks : List ℕ) (event : ℕ → Announcement) (s : Server) : Server :=
  { s with announced := s.announced ++ callbacks.map event }

def broadcastClientInterfaceReady (interface : ObjectId) (s : Server) : Server :=
  s.announce s.interfaceEventCallbacks fun callback => .clientInterfaceReady callback interface

def broadcastApInterfaceReady (interface : ObjectId) (s : Server) : Server :=
  s.announce s.interfaceEventCallbacks fun callback => .apInterfaceReady callback interface

def broadcastClientInterfaceTornDown (interface : ObjectId) (s : Server) : Server :=
  s.announce s.interfaceEventCallbacks fun callback => .clientTorndownEvent callback interface

def broadcastApInterfaceTornDown (interface : ObjectId) (s : Server) : Server :=
  s.announce s.interfaceEventCallbacks fun callback => .apTorndownEvent callback interface

def broadcastRegDomainChanged (countryCode : List UInt8) (s : Server) : Server :=
  s.announce s.wificondEventCallbacks fun callback => .regDomainChanged callback countryCode

/-- The sentinel `-1` is the wiphy index `0xFFFFFFFF` as well. -/
def getBandInfo (k : Kernel) (number : ℕ) (wiphyIndex : Int32) : Option BandInfo :=
  if wiphyIndex = -1 then none else k.getWiphyInfo number wiphyIndex.toUInt32

def getWiphyIndexFromBand (band : UInt32) (s : Server) : Int32 :=
  match s.bandToWiphyIndexMap[band]? with
  | some wiphyIndex => wiphyIndex.toInt32
  | none => -1

/-- One of the blocks of `UpdateBandWiphyIndexMap`. -/
def addBand (band : UInt32) (frequencies : List UInt32) (wiphyIndex : Int32)
    (bands : Std.ExtTreeMap UInt32 UInt32) : Std.ExtTreeMap UInt32 UInt32 :=
  if frequencies.length ≠ 0 ∧ bands[band]? = none then bands.insert band wiphyIndex.toUInt32
  else bands

def updateBandWiphyIndexMap (k : Kernel) (number : ℕ) (wiphyIndex : Int32) (s : Server) : Server :=
  match getBandInfo k number wiphyIndex with
  | none => s
  | some bandInfo =>
    let bands := addBand nl80211Band2ghz bandInfo.band2g wiphyIndex s.bandToWiphyIndexMap
    let bands := addBand nl80211Band5ghz bandInfo.band5g wiphyIndex bands
    let bands := addBand nl80211Band5ghz bandInfo.bandDfs wiphyIndex bands
    let bands := addBand nl80211Band6ghz bandInfo.band6g wiphyIndex bands
    let bands := addBand nl80211Band60ghz bandInfo.band60g wiphyIndex bands
    { s with bandToWiphyIndexMap := bands }

def eraseBandWiphyIndexMap (wiphyIndex : Int32) (s : Server) : Server :=
  { s with
    bandToWiphyIndexMap :=
      OrderedMap.eraseWhere (fun w => w == wiphyIndex.toUInt32) s.bandToWiphyIndexMap }

def hasNoIfaceForWiphyIndex (wiphyIndex : Int32) (s : Server) : Bool :=
  s.ifaceToWiphyIndexMap.toList.all fun entry => entry.2 != wiphyIndex.toUInt32

/-- The five `getAvailable*Channels`, for one band and one list of its wiphy. -/
def getAvailableChannels (band : UInt32) (channels : BandInfo → List UInt32) (k : Kernel)
    (s : Server) : Option (List Int32) :=
  match getBandInfo k 0 (s.getWiphyIndexFromBand band) with
  | none => none
  | some bandInfo =>
    if (channels bandInfo).length = 0 then none
    else some ((channels bandInfo).map UInt32.toInt32)

def getAvailable2gChannels := getAvailableChannels nl80211Band2ghz BandInfo.band2g
def getAvailable5gNonDFSChannels := getAvailableChannels nl80211Band5ghz BandInfo.band5g
def getAvailableDFSChannels := getAvailableChannels nl80211Band5ghz BandInfo.bandDfs
def getAvailable6gChannels := getAvailableChannels nl80211Band6ghz BandInfo.band6g
def getAvailable60gChannels := getAvailableChannels nl80211Band60ghz BandInfo.band60g

def setupInterface (k : Kernel) (ifaceName : IfaceName) (s : Server) :
    Option (InterfaceInfo × UInt32) × Server :=
  match k.getWiphyIndex 0 ifaceName with
  | none => (none, s)
  | some wiphyIndex =>
    let netlink := s.platform.netlink.subscribeRegDomainChange wiphyIndex
    let answer := k.getInterfaces wiphyIndex
    let s := { s with
      platform := { s.platform with netlink := netlink }
      debugInterfaces := answer.2 }
    if answer.1 then
      match s.debugInterfaces.find? fun iface => iface.name == ifaceName with
      | some iface => (some (iface, wiphyIndex), s)
      | none => (none, s)
    else (none, s)

/-- `ap_interfaces_[iface_name] = std::move(...)`: the replaced object is destroyed last. -/
def storeApInterface (ifaceName : IfaceName) (ap : ApInterfaceImpl) (s : Server) : Server :=
  { s with
    apInterfaces := s.apInterfaces.insert ifaceName ap
    platform :=
      match s.apInterfaces[ifaceName]? with
      | some replaced => replaced.destroy s.platform
      | none => s.platform }

def storeClientInterface (ifaceName : IfaceName) (client : ClientInterfaceImpl) (s : Server) :
    Server :=
  { s with
    clientInterfaces := s.clientInterfaces.insert ifaceName client
    platform :=
      match s.clientInterfaces[ifaceName]? with
      | some replaced => replaced.destroy s.platform
      | none => s.platform }

/-- The end of both create functions. -/
def recordWiphyIndex (k : Kernel) (number : ℕ) (ifaceName : IfaceName) (wiphyIndex : UInt32)
    (s : Server) : Server :=
  let s :=
    if s.hasNoIfaceForWiphyIndex wiphyIndex.toInt32 then
      s.updateBandWiphyIndexMap k number wiphyIndex.toInt32
    else s
  { s with ifaceToWiphyIndexMap := s.ifaceToWiphyIndexMap.insert ifaceName wiphyIndex }

/-- The end of both tear down functions, reached whether or not an interface was found. -/
def releaseWiphyIndex (ifaceName : IfaceName) (s : Server) : Server :=
  match s.ifaceToWiphyIndexMap[ifaceName]? with
  | none => s
  | some wiphyIndex =>
    let s := { s with ifaceToWiphyIndexMap := s.ifaceToWiphyIndexMap.erase ifaceName }
    if s.hasNoIfaceForWiphyIndex wiphyIndex.toInt32 then
      s.eraseBandWiphyIndexMap wiphyIndex.toInt32
    else s

def createApInterface (k : Kernel) (ifaceName : IfaceName) (s : Server) :
    Option ObjectId × Server :=
  let setup := s.setupInterface k ifaceName
  match setup.1 with
  | none => (none, setup.2)
  | some (interface, wiphyIndex) =>
    let (ap, platform) := ApInterfaceImpl.create interface setup.2.platform
    let s := { setup.2 with platform := platform }
    let s := s.broadcastApInterfaceReady ap.id
    let s := s.storeApInterface ifaceName ap
    (some ap.id, s.recordWiphyIndex k 0 ifaceName wiphyIndex)

def createClientInterface (k : Kernel) (ifaceName : IfaceName) (s : Server) :
    Option ObjectId × Server :=
  let setup := s.setupInterface k ifaceName
  match setup.1 with
  | none => (none, setup.2)
  | some (interface, wiphyIndex) =>
    let (client, platform) := ClientInterfaceImpl.create k wiphyIndex interface setup.2.platform
    let s := { setup.2 with platform := platform }
    let s := s.broadcastClientInterfaceReady client.id
    let s := s.storeClientInterface ifaceName client
    (some client.id, s.recordWiphyIndex k 1 ifaceName wiphyIndex)

def tearDownApInterface (ifaceName : IfaceName) (s : Server) : Bool × Server :=
  match s.apInterfaces[ifaceName]? with
  | some ap =>
    let s := s.broadcastApInterfaceTornDown ap.id
    let s := { s with
      apInterfaces := s.apInterfaces.erase ifaceName
      platform := ap.destroy s.platform }
    (true, s.releaseWiphyIndex ifaceName)
  | none => (false, s.releaseWiphyIndex ifaceName)

def tearDownClientInterface (ifaceName : IfaceName) (s : Server) : Bool × Server :=
  match s.clientInterfaces[ifaceName]? with
  | some client =>
    let s := s.broadcastClientInterfaceTornDown client.id
    let s := { s with
      clientInterfaces := s.clientInterfaces.erase ifaceName
      platform := client.destroy s.platform }
    (true, s.releaseWiphyIndex ifaceName)
  | none => (false, s.releaseWiphyIndex ifaceName)

/-! The four parts of `tearDownInterfaces`, in their order. -/

def clearClientInterfaces (s : Server) : Server :=
  let s := s.clientInterfaces.toList.foldl
    (fun s entry => s.broadcastClientInterfaceTornDown entry.2.id) s
  { s with
    clientInterfaces := ∅
    platform := s.clientInterfaces.toList.foldl (fun p entry => entry.2.destroy p) s.platform }

def clearApInterfaces (s : Server) : Server :=
  let s := s.apInterfaces.toList.foldl
    (fun s entry => s.broadcastApInterfaceTornDown entry.2.id) s
  { s with
    apInterfaces := ∅
    platform := s.apInterfaces.toList.foldl (fun p entry => entry.2.destroy p) s.platform }

def markDownAllInterfaces (s : Server) : Server :=
  { s with
    platform :=
      s.ifaceToWiphyIndexMap.toList.foldl (fun p entry => p.setUpState entry.1 false) s.platform }

def unsubscribeRegDomainChange (wiphyIndex : UInt32) (s : Server) : Server :=
  let netlink := s.platform.netlink.unsubscribeRegDomainChange wiphyIndex
  { s with platform := { s.platform with netlink := netlink } }

def clearWiphyIndices (s : Server) : Server :=
  let s := s.ifaceToWiphyIndexMap.toList.foldl (fun s entry =>
    (s.unsubscribeRegDomainChange entry.2).eraseBandWiphyIndexMap entry.2.toInt32) s
  { s with ifaceToWiphyIndexMap := ∅ }

def tearDownInterfaces (s : Server) : Server :=
  s.clearClientInterfaces.clearApInterfaces.markDownAllInterfaces.clearWiphyIndices

/-- What the loops of `handleCountryCodeChanged` do for an interface: its wiphy is
refreshed unless it is among those handled already. -/
def handleInterface (k : Kernel) (number : ℕ) (ifaceName : IfaceName)
    (state : Server × List UInt32) : Server × List UInt32 :=
  match k.getWiphyIndex number ifaceName with
  | none => state
  | some wiphyIndex =>
    if wiphyIndex ∈ state.2 then state
    else
      (state.1.updateBandWiphyIndexMap k (2 * number + 1) wiphyIndex.toInt32,
        wiphyIndex :: state.2)

def updateClientBandInfo (k : Kernel) (number : ℕ) (ifaceName : IfaceName) (s : Server) : Server :=
  match s.clientInterfaces[ifaceName]? with
  | none => s
  | some client =>
    { s with
      clientInterfaces :=
        s.clientInterfaces.insert ifaceName (client.updateBandInfo k (2 * number)) }

def handleCountryCodeChanged (k : Kernel) (s : Server) : Server :=
  let clients := s.clientInterfaces.keys
  let state := clients.zipIdx.foldl (fun state entry =>
    handleInterface k entry.2 entry.1 (state.1.updateClientBandInfo k entry.2 entry.1, state.2))
    (s, [])
  let state := (s.apInterfaces.keys.zipIdx clients.length).foldl
    (fun state entry => handleInterface k entry.2 entry.1 state) state
  state.1

def notifyCountryCodeChanged (k : Kernel) (s : Server) : Server := s.handleCountryCodeChanged k

/-- The first half of `OnRegDomainChanged`. -/
def reportCountryCode (k : Kernel) (countryCode : List UInt8) (s : Server) : Server :=
  let currentCountryCode :=
    if countryCode.isEmpty then k.getCountryCode.getD [] else countryCode
  if currentCountryCode.isEmpty then s else s.broadcastRegDomainChanged currentCountryCode

def onRegDomainChanged (k : Kernel) (wiphyIndex : UInt32) (countryCode : List UInt8) (s : Server) :
    Server :=
  let s := s.reportCountryCode k countryCode
  if s.hasNoIfaceForWiphyIndex wiphyIndex.toInt32 then s else s.handleCountryCodeChanged k

end Server

inductive Request
  | registerWificondEventCallback (callback : ℕ)
  | unregisterWificondEventCallback (callback : ℕ)
  | registerCallback (callback : ℕ)
  | unregisterCallback (callback : ℕ)
  | createApInterface (ifaceName : IfaceName)
  | createClientInterface (ifaceName : IfaceName)
  | tearDownApInterface (ifaceName : IfaceName)
  | tearDownClientInterface (ifaceName : IfaceName)
  | tearDownInterfaces
  | notifyCountryCodeChanged
  | onRegDomainChanged (wiphyIndex : UInt32) (countryCode : List UInt8)
  deriving DecidableEq

/-- A request and the kernel's answers while it is served. -/
structure Call where
  kernel : Kernel
  request : Request

/-- The state after a call. -/
def Server.serve (s : Server) (call : Call) : Server :=
  match call.request with
  | .registerWificondEventCallback callback => s.registerWificondEventCallback callback
  | .unregisterWificondEventCallback callback => s.unregisterWificondEventCallback callback
  | .registerCallback callback => s.registerCallback callback
  | .unregisterCallback callback => s.unregisterCallback callback
  | .createApInterface ifaceName => (s.createApInterface call.kernel ifaceName).2
  | .createClientInterface ifaceName => (s.createClientInterface call.kernel ifaceName).2
  | .tearDownApInterface ifaceName => (s.tearDownApInterface ifaceName).2
  | .tearDownClientInterface ifaceName => (s.tearDownClientInterface ifaceName).2
  | .tearDownInterfaces => s.tearDownInterfaces
  | .notifyCountryCodeChanged => s.notifyCountryCodeChanged call.kernel
  | .onRegDomainChanged wiphyIndex countryCode =>
    s.onRegDomainChanged call.kernel wiphyIndex countryCode

end Wificond
