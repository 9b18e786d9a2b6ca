import Wificond.NetlinkRequests
import Wificond.ServerAnnouncements
import Wificond.ServerCleanup

/-!
# Regulatory broadcasts

A broadcast of a regulatory change runs the handlers of all wiphys that are subscribed, and
each of them tells every callback. Setting an interface up subscribes its wiphy, and of the
tear downs only that of all interfaces unsubscribes one, so the callbacks are told as many
times as there are wiphys that were ever set up and not cleared together since.
-/
namespace Wificond

/-- `OnRegChangeEvent` up to its loop: the country code for the handlers. Where the type is
not in the packet it is what `reg_type` happens to hold, which is `regType`. -/
def NetlinkManager.regDomainChange (regType : UInt8) (packet : NL80211Packet) :
    Exec (Option (List UInt8)) := do
  let read ← packet.getAttributeValue (AttrTemplate.int .uint8) attrRegType
  let regType := (read.map UInt8.ofInt).getD regType
  if regType = regdomTypeCountry then
    packet.getAttributeValue AttrTemplate.string attrRegAlpha2
  else if regType = regdomTypeWorld ∨ regType = regdomTypeCustomWorld ∨
      regType = regdomTypeIntersection then return some []
  else return none

/-- The broadcast is for a country, whose code it has. -/
structure CarriesCode (packet : NL80211Packet) (countryCode : List UInt8) : Prop where
  regType : packet.getAttributeValue (AttrTemplate.int .uint8) attrRegType = .ok (some 0)
  alpha2 : packet.getAttributeValue AttrTemplate.string attrRegAlpha2 = .ok (some countryCode)
  ne_nil : countryCode ≠ []

theorem CarriesCode.regDomainChange {packet : NL80211Packet} {countryCode : List UInt8}
    (h : CarriesCode packet countryCode) (regType : UInt8) :
    NetlinkManager.regDomainChange regType packet = .ok (some countryCode) := by
  simp only [NetlinkManager.regDomainChange, h.regType, bind, Except.bind]
  exact h.alpha2

/-- A call of the server, or a broadcast of a regulatory change with the kernel's answers to
the handler of each wiphy. -/
inductive ServerEvent
  | call (call : Call)
  | regChange (regType : UInt8) (kernels : UInt32 → Kernel) (packet : NL80211Packet)

/-- The wiphy that a call subscribes. -/
def Call.setsUp (call : Call) : Option UInt32 :=
  match call.request with
  | .createApInterface name | .createClientInterface name => call.kernel.getWiphyIndex 0 name
  | _ => none

namespace Server

variable {s : Server} {k : Kernel} {ifaceName : IfaceName} {call : Call} {w : UInt32}
  {countryCode : List UInt8} {callback : ℕ}

abbrev subscribed (s : Server) : Std.ExtTreeSet UInt32 :=
  s.platform.netlink.onRegDomainChangedHandler

/-- The loop of `OnRegChangeEvent`. -/
def onRegChangeEvent (kernels : UInt32 → Kernel) (countryCode : List UInt8) (s : Server) : Server :=
  s.subscribed.toList.foldl (fun s wiphyIndex =>
    s.onRegDomainChanged (kernels wiphyIndex) wiphyIndex countryCode) s

def handleEvent (s : Server) (event : ServerEvent) : Server :=
  match event with
  | .call call => s.serve call
  | .regChange regType kernels packet =>
    match NetlinkManager.regDomainChange regType packet with
    | .ok (some countryCode) => s.onRegChangeEvent kernels countryCode
    | _ => s

/-- Some interface is live. -/
def HasInterface (s : Server) : Prop :=
  (∃ name : IfaceName, name ∈ s.clientInterfaces) ∨ ∃ name : IfaceName, name ∈ s.apInterfaces

/-- Of a country code in a broadcast each callback is told once. -/
def ToldOnce (s : Server) (event : ServerEvent) : Prop :=
  ∀ regType kernels packet countryCode, event = .regChange regType kernels packet →
    CarriesCode packet countryCode → s.HasInterface → ∀ callback ∈ s.wificondEventCallbacks,
      (s.handleEvent event).announced.count (.regDomainChanged callback countryCode) =
        s.announced.count (.regDomainChanged callback countryCode) + 1

/-- Where anyone is to be told of a country code, no two wiphys are subscribed. -/
def OneSubscribed (s : Server) (event : ServerEvent) : Prop :=
  ∀ regType kernels packet countryCode, event = .regChange regType kernels packet →
    CarriesCode packet countryCode → s.HasInterface → s.wificondEventCallbacks ≠ [] →
      ∀ w ∈ s.subscribed, ∀ w' ∈ s.subscribed, w = w'

theorem subscribed_setupInterface (s : Server) (k : Kernel) (ifaceName : IfaceName) :
    w ∈ (s.setupInterface k ifaceName).2.subscribed ↔
      w ∈ s.subscribed ∨ k.getWiphyIndex 0 ifaceName = some w := by
  unfold setupInterface
  cases k.getWiphyIndex 0 ifaceName with
  | none => simp
  | some wiphyIndex =>
    have hinsert : w ∈ s.subscribed.insert wiphyIndex ↔
        w ∈ s.subscribed ∨ some wiphyIndex = some w := by
      rw [Std.ExtTreeSet.mem_insert, Std.LawfulEqCmp.compare_eq_iff_eq, Option.some.injEq, or_comm]
    dsimp only
    split
    · split <;> exact hinsert
    · exact hinsert

theorem subscribed_addClientInterface (interface : InterfaceInfo) (wiphyIndex : UInt32) :
    (s.addClientInterface k ifaceName interface wiphyIndex).subscribed = s.subscribed := by
  unfold addClientInterface storeClientInterface
  dsimp only
  split <;> rfl

theorem subscribed_addApInterface (interface : InterfaceInfo) :
    (s.addApInterface ifaceName interface).subscribed = s.subscribed := by
  unfold addApInterface storeApInterface
  dsimp only
  split <;> rfl

theorem subscribed_removeClientInterface :
    (s.removeClientInterface ifaceName).subscribed = s.subscribed := by
  unfold removeClientInterface
  split <;> rfl

theorem subscribed_removeApInterface :
    (s.removeApInterface ifaceName).subscribed = s.subscribed := by
  unfold removeApInterface
  split <;> rfl

theorem subscribed_onRegDomainChanged (wiphyIndex : UInt32) :
    (s.onRegDomainChanged k wiphyIndex countryCode).subscribed = s.subscribed := by
  obtain ⟨announced, hreport⟩ := exists_reportCountryCode s k countryCode
  have hsame : (s.reportCountryCode k countryCode).subscribed = s.subscribed := by rw [hreport]
  unfold onRegDomainChanged
  dsimp only
  split
  · exact hsame
  · exact sameContacts_handleCountryCodeChanged.subscribed.trans hsame

/-- Calls other than the tear down of all interfaces only add subscriptions. -/
theorem mem_subscribed_serve (h : call.request ≠ .tearDownInterfaces) :
    w ∈ (s.serve call).subscribed ↔ w ∈ s.subscribed ∨ call.setsUp = some w := by
  obtain ⟨k, request⟩ := call
  have hkept : ∀ {t : Server}, t.subscribed = s.subscribed →
      (w ∈ t.subscribed ↔ w ∈ s.subscribed ∨ none = some w) := by
    intro t heq
    simp [heq]
  cases request with
  | createClientInterface name =>
    rw [Call.setsUp, ← subscribed_setupInterface]
    cases hr : k.reported name with
    | none => simp only [serve, createClientInterface_of_none hr]
    | some reported =>
      simp only [serve, createClientInterface_of_some hr,
        (sameContacts_recordWiphyIndex 1 reported.2).subscribed]
      exact iff_of_eq (congrArg (w ∈ ·) (subscribed_addClientInterface reported.1 reported.2))
  | createApInterface name =>
    rw [Call.setsUp, ← subscribed_setupInterface]
    cases hr : k.reported name with
    | none => simp only [serve, createApInterface_of_none hr]
    | some reported =>
      simp only [serve, createApInterface_of_some hr,
        (sameContacts_recordWiphyIndex 0 reported.2).subscribed]
      exact iff_of_eq (congrArg (w ∈ ·) (subscribed_addApInterface reported.1))
  | tearDownClientInterface name =>
    apply hkept
    simp only [serve, tearDownClientInterface_eq]
    exact sameContacts_releaseWiphyIndex.subscribed.trans subscribed_removeClientInterface
  | tearDownApInterface name =>
    apply hkept
    simp only [serve, tearDownApInterface_eq]
    exact sameContacts_releaseWiphyIndex.subscribed.trans subscribed_removeApInterface
  | tearDownInterfaces => exact absurd rfl h
  | notifyCountryCodeChanged => exact hkept sameContacts_handleCountryCodeChanged.subscribed
  | onRegDomainChanged wiphyIndex countryCode =>
    exact hkept (subscribed_onRegDomainChanged wiphyIndex)
  | registerWificondEventCallback target =>
    apply hkept
    simp only [serve, registerWificondEventCallback]
    split <;> rfl
  | registerCallback target =>
    apply hkept
    simp only [serve, registerCallback]
    split <;> rfl
  | unregisterWificondEventCallback target | unregisterCallback target => exact hkept rfl

/-- An interface is live after a call if it was before, unless all are torn down, or if the
call set it up. -/
theorem hasInterface_serve (h : (s.serve call).HasInterface) :
    call.request ≠ .tearDownInterfaces ∧ (s.HasInterface ∨ ∃ w, call.setsUp = some w) := by
  obtain ⟨k, request⟩ := call
  have hsame : ∀ {t : Server}, SameObjects s t → t.HasInterface → s.HasInterface := by
    intro t hsame hlive
    simpa only [HasInterface, hsame.mem_clients, hsame.aps] using hlive
  cases request with
  | createClientInterface name =>
    refine ⟨by simp, ?_⟩
    cases hr : k.reported name with
    | none =>
      simp only [serve, createClientInterface_of_none hr] at h
      exact .inl (hsame (sameObjects_setupInterface s k name) h)
    | some reported => exact .inr ⟨reported.2, Kernel.getWiphyIndex_of_reported hr⟩
  | createApInterface name =>
    refine ⟨by simp, ?_⟩
    cases hr : k.reported name with
    | none =>
      simp only [serve, createApInterface_of_none hr] at h
      exact .inl (hsame (sameObjects_setupInterface s k name) h)
    | some reported => exact .inr ⟨reported.2, Kernel.getWiphyIndex_of_reported hr⟩
  | tearDownClientInterface name =>
    refine ⟨by simp, .inl ?_⟩
    simp only [serve, tearDownClientInterface_eq, HasInterface,
      sameObjects_releaseWiphyIndex.mem_clients, sameObjects_releaseWiphyIndex.aps,
      clientInterfaces_removeClientInterface, apInterfaces_removeClientInterface,
      Std.ExtTreeMap.mem_erase] at h
    exact h.imp_left fun hclient => hclient.imp fun _ => And.right
  | tearDownApInterface name =>
    refine ⟨by simp, .inl ?_⟩
    simp only [serve, tearDownApInterface_eq, HasInterface,
      sameObjects_releaseWiphyIndex.mem_clients, sameObjects_releaseWiphyIndex.aps,
      clientInterfaces_removeApInterface, apInterfaces_removeApInterface,
      Std.ExtTreeMap.mem_erase] at h
    exact h.imp_right fun hap => hap.imp fun _ => And.right
  | tearDownInterfaces =>
    simp [serve, HasInterface] at h
  | registerWificondEventCallback target | unregisterWificondEventCallback target
  | registerCallback target | unregisterCallback target | notifyCountryCodeChanged
  | onRegDomainChanged wiphyIndex countryCode =>
    refine ⟨by simp, .inl (hsame ?_ h)⟩
    exact sameObjects_serve trivial

theorem announced_onRegDomainChanged_of_ne_nil (hcode : countryCode ≠ []) (wiphyIndex : UInt32) :
    (s.onRegDomainChanged k wiphyIndex countryCode).announced = s.announced ++
      s.wificondEventCallbacks.map fun target => .regDomainChanged target countryCode := by
  have hempty : countryCode.isEmpty = false := by simpa using hcode
  rw [announced_onRegDomainChanged]
  simp [reportCountryCode, hempty, broadcastRegDomainChanged, announce]

theorem count_broadcast (callbacks : List ℕ) :
    (callbacks.map fun target => Announcement.regDomainChanged target countryCode).count
      (.regDomainChanged callback countryCode) = callbacks.count callback :=
  List.count_map_of_injective _ _ (fun _ _ h => (Announcement.regDomainChanged.inj h).1) _

/-- Each handler tells each callback. -/
theorem count_foldl_onRegDomainChanged (hcode : countryCode ≠ []) (kernels : UInt32 → Kernel)
    (wiphys : List UInt32) :
    (wiphys.foldl (fun s wiphyIndex =>
        s.onRegDomainChanged (kernels wiphyIndex) wiphyIndex countryCode) s).announced.count
      (.regDomainChanged callback countryCode) =
        s.announced.count (.regDomainChanged callback countryCode) +
          wiphys.length * s.wificondEventCallbacks.count callback := by
  induction wiphys generalizing s with
  | nil => simp
  | cons wiphyIndex wiphys ih =>
    have hsame : SameCallbacks s
        (s.serve ⟨kernels wiphyIndex, .onRegDomainChanged wiphyIndex countryCode⟩) :=
      sameCallbacks_serve id
    have hcallbacks : (s.onRegDomainChanged (kernels wiphyIndex) wiphyIndex
        countryCode).wificondEventCallbacks = s.wificondEventCallbacks :=
      hsame.wificondEventCallbacks
    rw [List.foldl_cons, ih, hcallbacks, announced_onRegDomainChanged_of_ne_nil hcode,
      List.count_append, count_broadcast, List.length_cons]
    ring

/-- No callback is registered twice, and the wiphy of a live interface is subscribed. -/
structure Contactable (s : Server) : Prop where
  nodup : s.wificondEventCallbacks.Nodup
  subscribed : s.HasInterface → ∃ w, w ∈ s.subscribed

theorem nodup_serve (h : s.wificondEventCallbacks.Nodup) :
    (s.serve call).wificondEventCallbacks.Nodup := by
  obtain ⟨k, request⟩ := call
  cases request with
  | registerWificondEventCallback target =>
    simp only [serve, registerWificondEventCallback]
    split_ifs with hmem
    · exact h
    · refine List.nodup_append.mpr ⟨h, by simp, fun other hother added hadded heq => ?_⟩
      rw [List.mem_singleton.mp hadded] at heq
      exact hmem (heq ▸ hother)
  | unregisterWificondEventCallback target => exact h.erase target
  | registerCallback target =>
    simp only [serve, registerCallback]
    split_ifs <;> exact h
  | unregisterCallback target => exact h
  | _ =>
    rw [(sameCallbacks_serve id).wificondEventCallbacks]
    exact h

theorem contactable_serve (h : s.Contactable) : (s.serve call).Contactable where
  nodup := nodup_serve h.nodup
  subscribed hlive := by
    obtain ⟨hne, hcases⟩ := hasInterface_serve hlive
    rcases hcases with hbefore | ⟨w, hw⟩
    · obtain ⟨w, hw⟩ := h.subscribed hbefore
      exact ⟨w, (mem_subscribed_serve hne).mpr (.inl hw)⟩
    · exact ⟨w, (mem_subscribed_serve hne).mpr (.inr hw)⟩

theorem contactable_handleEvent (h : s.Contactable) (event : ServerEvent) :
    (s.handleEvent event).Contactable := by
  cases event with
  | call call => exact contactable_serve h
  | regChange regType kernels packet =>
    simp only [handleEvent]
    split
    · next countryCode _ =>
      unfold onRegChangeEvent
      generalize s.subscribed.toList = wiphys
      induction wiphys generalizing s with
      | nil => exact h
      | cons wiphyIndex wiphys ih =>
        have hnext : (s.serve ⟨kernels wiphyIndex,
            .onRegDomainChanged wiphyIndex countryCode⟩).Contactable := contactable_serve h
        exact ih hnext
    · exact h

theorem contactable_fresh : fresh.Contactable :=
  ⟨List.nodup_nil, by simp [HasInterface, fresh]⟩

/-- As many times as there are wiphys subscribed. -/
theorem count_handleEvent {packet : NL80211Packet} (hcode : CarriesCode packet countryCode)
    (h : s.Contactable) (regType : UInt8) (kernels : UInt32 → Kernel)
    (hcallback : callback ∈ s.wificondEventCallbacks) :
    (s.handleEvent (.regChange regType kernels packet)).announced.count
        (.regDomainChanged callback countryCode) =
      s.announced.count (.regDomainChanged callback countryCode) + s.subscribed.toList.length := by
  have honce : s.wificondEventCallbacks.count callback = 1 :=
    List.count_eq_one_of_mem h.nodup hcallback
  simp only [handleEvent, hcode.regDomainChange]
  rw [onRegChangeEvent, count_foldl_onRegDomainChanged hcode.ne_nil, honce, Nat.mul_one]

/-- A set with an element has one exactly if no two are apart. -/
theorem nodup_toList (wiphys : Std.ExtTreeSet UInt32) : wiphys.toList.Nodup :=
  (Std.ExtTreeSet.distinct_toList (t := wiphys)).imp fun hne heq =>
    hne (Std.LawfulEqCmp.compare_eq_iff_eq.mpr heq)

theorem length_toList_eq_one_iff {wiphys : Std.ExtTreeSet UInt32} (h : ∃ w, w ∈ wiphys) :
    wiphys.toList.length = 1 ↔ ∀ w ∈ wiphys, ∀ w' ∈ wiphys, w = w' := by
  simp only [← Std.ExtTreeSet.mem_toList] at h ⊢
  have hdistinct : wiphys.toList.Pairwise fun a b => a ≠ b := nodup_toList wiphys
  constructor
  · intro hlength w hw w' hw'
    obtain ⟨wiphyIndex, hsingle⟩ := List.length_eq_one_iff.mp hlength
    rw [hsingle, List.mem_singleton] at hw hw'
    exact hw.trans hw'.symm
  · intro hall
    obtain ⟨w, hw⟩ := h
    rcases hlist : wiphys.toList with _ | ⟨first, _ | ⟨second, rest⟩⟩
    · simp [hlist] at hw
    · rfl
    · rw [hlist] at hdistinct hall
      exact absurd (hall first (by simp) second (by simp))
        (List.rel_of_pairwise_cons hdistinct (by simp))

theorem toldOnce_iff (h : s.Contactable) (event : ServerEvent) :
    s.ToldOnce event ↔ s.OneSubscribed event := by
  constructor
  · intro htold regType kernels packet countryCode hevent hcode hlive hcallbacks
    obtain ⟨callback, hcallback⟩ := List.exists_mem_of_ne_nil _ hcallbacks
    have hcount := htold regType kernels packet countryCode hevent hcode hlive callback hcallback
    rw [hevent, count_handleEvent hcode h regType kernels hcallback] at hcount
    exact (length_toList_eq_one_iff (h.subscribed hlive)).mp (by omega)
  · intro hone regType kernels packet countryCode hevent hcode hlive callback hcallback
    have hsubscribed := hone regType kernels packet countryCode hevent hcode hlive
      (List.ne_nil_of_mem hcallback)
    rw [hevent, count_handleEvent hcode h regType kernels hcallback,
      (length_toList_eq_one_iff (h.subscribed hlive)).mpr hsubscribed]

/-- What an event sets up is on one wiphy. -/
def SetsUpOnly (wiphyIndex : UInt32) (event : ServerEvent) : Prop :=
  ∀ call, event = .call call → ∀ w, call.setsUp = some w → w = wiphyIndex

theorem subscribed_onRegChangeEvent (kernels : UInt32 → Kernel) :
    (s.onRegChangeEvent kernels countryCode).subscribed = s.subscribed :=
  Runs.foldl_frame subscribed fun _ wiphyIndex => subscribed_onRegDomainChanged wiphyIndex

theorem subscribed_handleEvent {wiphyIndex : UInt32} {event : ServerEvent}
    (h : ∀ w ∈ s.subscribed, w = wiphyIndex) (honly : SetsUpOnly wiphyIndex event) :
    ∀ w ∈ (s.handleEvent event).subscribed, w = wiphyIndex := by
  intro w hw
  cases event with
  | call call =>
    by_cases hdown : call.request = .tearDownInterfaces
    · simp only [handleEvent, serve, hdown] at hw
      exact h w (mem_regDomain_tearDownInterfaces.mp hw).1
    · rcases (mem_subscribed_serve hdown).mp hw with hold | hnew
      · exact h w hold
      · exact honly call rfl w hnew
  | regChange regType kernels packet =>
    simp only [handleEvent] at hw
    split at hw
    · rw [subscribed_onRegChangeEvent] at hw
      exact h w hw
    · exact h w hw

/-- In every run, each callback is told once of each country code that is broadcast while an
interface is live, exactly if no two wiphys are subscribed at such broadcasts. This is so
where all that is ever set up is on one wiphy. -/
theorem countryCode_told_once_iff (events : List ServerEvent) :
    (Runs.Along handleEvent ToldOnce fresh events ↔
      Runs.Along handleEvent OneSubscribed fresh events) ∧
    ∀ wiphyIndex, (∀ event ∈ events, SetsUpOnly wiphyIndex event) →
      Runs.Along handleEvent ToldOnce fresh events := by
  have htold : Runs.Along handleEvent OneSubscribed fresh events →
      Runs.Along handleEvent ToldOnce fresh events :=
    Runs.along_of_along Contactable (fun s event h _ => contactable_handleEvent h event)
      (fun s event h => (toldOnce_iff h event).mpr) contactable_fresh
  refine ⟨⟨?_, htold⟩, fun wiphyIndex honly => htold ?_⟩
  · exact Runs.along_of_along Contactable (fun s event h _ => contactable_handleEvent h event)
      (fun s event h => (toldOnce_iff h event).mp) contactable_fresh
  · have halong : Runs.Along handleEvent (fun _ event => SetsUpOnly wiphyIndex event) fresh
        events := Runs.along_of_forall fun event hevent _ => honly event hevent
    refine Runs.along_of_along (fun s => ∀ w ∈ s.subscribed, w = wiphyIndex)
      (fun s event => subscribed_handleEvent) (fun s event h _ => ?_) ?_ halong
    · intro _ _ _ _ _ _ _ _ w hw w' hw'
      exact (h w hw).trans (h w' hw').symm
    · intro w hw
      exact absurd hw (by simp [subscribed, fresh, Platform.initial, NetlinkManager.empty])

end Server

/-- Two wiphys, with an interface each. -/
def Kernel.twoWiphys : Kernel where
  getWiphyIndex _ name := if name = [120] then some 1 else some 0
  getInterfaces wiphyIndex :=
    (true, if wiphyIndex = 1 then [⟨8, 1, [120], #v[2, 0, 0, 0, 0, 2]⟩]
      else [⟨7, 0, [119], #v[2, 0, 0, 0, 0, 3]⟩])
  getWiphyInfo _ _ := none
  getCountryCode := none

/-- A change to the country whose code is the bytes 85 and 83. -/
def countryPacket : NL80211Packet :=
  ((NL80211Packet.ofHeader 28 36 0 0).addAttribute
    (NL80211Attr.ofInt .uint8 attrRegType 0)).addAttribute
      (BaseNL80211Attr.ofPayload attrRegAlpha2 [85, 83, 0])

/-- The wiphy of an interface that was torn down is still subscribed, and with the wiphy of
the interface that is there it makes two: the callback is told twice. -/
theorem countryCode_told_twice :
    ¬ Runs.Along Server.handleEvent Server.ToldOnce .fresh
      [.call ⟨.twoWiphys, .registerWificondEventCallback 5⟩,
        .call ⟨.twoWiphys, .createClientInterface [119]⟩,
        .call ⟨.twoWiphys, .tearDownClientInterface [119]⟩,
        .call ⟨.twoWiphys, .createClientInterface [120]⟩,
        .regChange 0 (fun _ => .twoWiphys) countryPacket] := by
  intro h
  have hcode : CarriesCode countryPacket [85, 83] :=
    ⟨by decide +kernel, by decide +kernel, by decide⟩
  have htold := h.2.2.2.2.1 0 _ countryPacket [85, 83] rfl hcode (.inl ⟨[120], by decide⟩) 5
    (by decide)
  exact absurd htold (by decide +kernel)

end Wificond
