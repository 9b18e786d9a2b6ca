import Wificond.ObjectLifetimes

/-!
# What callbacks are told of interfaces

A callback that adds what is announced as ready and removes what is announced as torn
down should hold the interfaces of the server. An object that is replaced in its map is
destroyed, but that is not announced.
-/
namespace Wificond

/-- What a callback takes from an announcement that it gets. -/
def Announcement.heard (callback : ℕ) : Announcement → Option LifecycleEvent
  | .clientInterfaceReady target id =>
    if target = callback then some (.clientConstructed id) else none
  | .apInterfaceReady target id => if target = callback then some (.apConstructed id) else none
  | .clientTorndownEvent target id => if target = callback then some (.clientDestroyed id) else none
  | .apTorndownEvent target id => if target = callback then some (.apDestroyed id) else none
  | .regDomainChanged _ _ => none

/-- The binders announced as ready and not as torn down since. -/
def heardLive (callback : ℕ) (announced : List Announcement) : LiveObjects :=
  (announced.filterMap (Announcement.heard callback)).foldl LiveObjects.after ⟨∅, ∅⟩

variable {callback : ℕ} {callbacks : List ℕ} {announced : List Announcement}
  {event : ℕ → Announcement} {what : LifecycleEvent}

theorem heardLive_append (announced more : List Announcement) :
    heardLive callback (announced ++ more) =
      (more.filterMap (Announcement.heard callback)).foldl LiveObjects.after
        (heardLive callback announced) := by
  rw [heardLive, List.filterMap_append, List.foldl_append, heardLive]

/-- To be told again changes nothing. -/
theorem LiveObjects.after_after (live : LiveObjects) (what : LifecycleEvent) :
    (live.after what).after what = live.after what := by
  cases what <;> simp [LiveObjects.after]

theorem foldl_after_map (live : LiveObjects) (hevent : ∀ target, (event target).heard callback =
      if target = callback then some what else none) :
    ((callbacks.map event).filterMap (Announcement.heard callback)).foldl LiveObjects.after live =
      if callback ∈ callbacks then live.after what else live := by
  induction callbacks generalizing live with
  | nil => simp
  | cons target callbacks ih =>
    rw [List.map_cons, List.filterMap_cons, hevent]
    by_cases htarget : target = callback
    · have hmem : callback ∈ target :: callbacks := by simp [htarget]
      rw [if_pos htarget, List.foldl_cons, ih, LiveObjects.after_after, if_pos hmem]
      split_ifs <;> rfl
    · rw [if_neg htarget, ih]
      simp [Ne.symm htarget]

theorem heardLive_broadcast (event : ℕ → Announcement) (what : LifecycleEvent)
    (hmem : callback ∈ callbacks) (hevent : ∀ target,
      (event target).heard callback = if target = callback then some what else none) :
    heardLive callback (announced ++ callbacks.map event) =
      (heardLive callback announced).after what := by
  rw [heardLive_append, foldl_after_map _ hevent, if_pos hmem]

/-- A request that changes who is told. -/
def Request.IsRegistration : Request → Prop
  | .registerWificondEventCallback _ | .unregisterWificondEventCallback _
  | .registerCallback _ | .unregisterCallback _ => True
  | _ => False

namespace Server

variable {s t : Server} {k : Kernel} {ifaceName : IfaceName} {call : Call}

structure SameCallbacks (s t : Server) : Prop where
  interfaceEventCallbacks : t.interfaceEventCallbacks = s.interfaceEventCallbacks
  wificondEventCallbacks : t.wificondEventCallbacks = s.wificondEventCallbacks

theorem SameCallbacks.trans {u : Server} (h : SameCallbacks s t) (h' : SameCallbacks t u) :
    SameCallbacks s u where
  interfaceEventCallbacks := h'.interfaceEventCallbacks.trans h.interfaceEventCallbacks
  wificondEventCallbacks := h'.wificondEventCallbacks.trans h.wificondEventCallbacks

/-- The same callbacks, told the same. -/
structure SameContacts (s t : Server) : Prop extends SameCallbacks s t where
  announced : t.announced = s.announced
  subscribed : t.platform.netlink.onRegDomainChangedHandler =
    s.platform.netlink.onRegDomainChangedHandler

theorem SameContacts.refl (s : Server) : SameContacts s s := ⟨⟨rfl, rfl⟩, rfl, rfl⟩

theorem SameContacts.trans {u : Server} (h : SameContacts s t) (h' : SameContacts t u) :
    SameContacts s u where
  toSameCallbacks := h.toSameCallbacks.trans h'.toSameCallbacks
  announced := h'.announced.trans h.announced
  subscribed := h'.subscribed.trans h.subscribed

theorem sameContacts_recordWiphyIndex (number : ℕ) (wiphyIndex : UInt32) :
    SameContacts s (s.recordWiphyIndex k number ifaceName wiphyIndex) := by
  obtain ⟨bands, h⟩ := exists_recordWiphyIndex s k number ifaceName wiphyIndex
  rw [h]
  exact ⟨⟨rfl, rfl⟩, rfl, rfl⟩

theorem sameContacts_releaseWiphyIndex : SameContacts s (s.releaseWiphyIndex ifaceName) := by
  obtain ⟨bands, h⟩ := exists_releaseWiphyIndex s ifaceName
  rw [h]
  exact ⟨⟨rfl, rfl⟩, rfl, rfl⟩

theorem sameContacts_updateClientBandInfo (number : ℕ) :
    SameContacts s (s.updateClientBandInfo k number ifaceName) := by
  unfold updateClientBandInfo
  split
  · exact SameContacts.refl s
  · exact ⟨⟨rfl, rfl⟩, rfl, rfl⟩

theorem sameContacts_handleInterface (number : ℕ) (state : Server × List UInt32) :
    SameContacts state.1 (handleInterface k number ifaceName state).1 := by
  unfold handleInterface
  split
  · exact SameContacts.refl _
  · next wiphyIndex _ =>
    split_ifs
    · exact SameContacts.refl _
    · obtain ⟨bands, h⟩ := exists_updateBandWiphyIndexMap state.1 k (2 * number + 1)
        wiphyIndex.toInt32
      rw [h]
      exact ⟨⟨rfl, rfl⟩, rfl, rfl⟩

theorem sameContacts_handleCountryCodeChanged :
    SameContacts s (s.handleCountryCodeChanged k) := by
  let R : Server × List UInt32 → Server × List UInt32 → Prop := fun p q => SameContacts p.1 q.1
  have hrefl : ∀ p, R p p := fun p => SameContacts.refl p.1
  have htrans : ∀ p q r, R p q → R q r → R p r := fun _ _ _ h h' => h.trans h'
  refine htrans (s, []) _ _ (Runs.foldl_related hrefl htrans ?_)
    (Runs.foldl_related hrefl htrans ?_)
  · intro p entry
    exact (sameContacts_updateClientBandInfo entry.2).trans
      (sameContacts_handleInterface entry.2 (p.1.updateClientBandInfo k entry.2 entry.1, p.2))
  · intro p entry
    exact sameContacts_handleInterface entry.2 p

theorem announced_reportCountryCode (s : Server) (k : Kernel) (countryCode : List UInt8) :
    ∃ (callbacks : List ℕ) (code : List UInt8), (s.reportCountryCode k countryCode).announced =
      s.announced ++ callbacks.map fun target => .regDomainChanged target code := by
  unfold reportCountryCode
  generalize (if countryCode.isEmpty then k.getCountryCode.getD [] else countryCode) = code
  dsimp only
  split
  · exact ⟨[], code, by simp⟩
  · exact ⟨s.wificondEventCallbacks, code, rfl⟩

theorem announced_onRegDomainChanged (s : Server) (k : Kernel) (wiphyIndex : UInt32)
    (countryCode : List UInt8) :
    (s.onRegDomainChanged k wiphyIndex countryCode).announced =
      (s.reportCountryCode k countryCode).announced := by
  unfold onRegDomainChanged
  dsimp only
  split
  · rfl
  · exact sameContacts_handleCountryCodeChanged.announced

/-- The announcements of a call, taken as a callback takes them. -/
def announcedEvents (s : Server) (call : Call) : List LifecycleEvent :=
  match call.request with
  | .createClientInterface name =>
    if (call.kernel.reported name).isSome then [.clientConstructed s.platform.created] else []
  | .createApInterface name =>
    if (call.kernel.reported name).isSome then [.apConstructed s.platform.created] else []
  | _ => s.lifecycle call

/-- What is created takes a name that no interface of its kind has. -/
def TakesFreeName (s : Server) (call : Call) : Prop :=
  match call.request with
  | .createClientInterface name =>
    (call.kernel.reported name).isSome → s.clientInterfaces[name]? = none
  | .createApInterface name =>
    (call.kernel.reported name).isSome → s.apInterfaces[name]? = none
  | _ => True

theorem heardLive_foldl_broadcast {α : Type} (told : List α) (event : α → ℕ → Announcement)
    (what : α → LifecycleEvent) (hevent : ∀ a target, (event a target).heard callback =
      if target = callback then some (what a) else none)
    (hmem : callback ∈ s.interfaceEventCallbacks) :
    heardLive callback (told.foldl (fun s a =>
        s.announce s.interfaceEventCallbacks (event a)) s).announced =
      (told.map what).foldl LiveObjects.after (heardLive callback s.announced) := by
  induction told generalizing s with
  | nil => rfl
  | cons a told ih =>
    rw [List.foldl_cons, ih (s := s.announce s.interfaceEventCallbacks (event a)) hmem,
      List.map_cons, List.foldl_cons]
    rw [show (s.announce s.interfaceEventCallbacks (event a)).announced =
      s.announced ++ s.interfaceEventCallbacks.map (event a) from rfl,
      heardLive_broadcast _ _ hmem (hevent a)]

theorem announced_tearDownInterfaces :
    s.tearDownInterfaces.announced = s.clearClientInterfaces.clearApInterfaces.announced :=
  Runs.foldl_frame announced fun _ _ => rfl

theorem heardLive_tearDownInterfaces (hmem : callback ∈ s.interfaceEventCallbacks) :
    heardLive callback s.tearDownInterfaces.announced =
      (s.lifecycle ⟨k, .tearDownInterfaces⟩).foldl LiveObjects.after
        (heardLive callback s.announced) := by
  have hclients := heardLive_foldl_broadcast s.clientInterfaces.toList
    (fun entry target => .clientTorndownEvent target entry.2.id)
    (fun entry => .clientDestroyed entry.2.id)
    (fun _ _ => rfl) hmem
  have hcallbacks : s.clearClientInterfaces.interfaceEventCallbacks = s.interfaceEventCallbacks :=
    Runs.foldl_frame interfaceEventCallbacks fun _ _ => rfl
  have haps : s.clearClientInterfaces.apInterfaces = s.apInterfaces :=
    Runs.foldl_frame apInterfaces fun _ _ => rfl
  have htold := heardLive_foldl_broadcast (s := s.clearClientInterfaces) s.apInterfaces.toList
    (fun entry target => .apTorndownEvent target entry.2.id) (fun entry => .apDestroyed entry.2.id)
    (fun _ _ => rfl) (hcallbacks ▸ hmem)
  rw [announced_tearDownInterfaces, lifecycle, List.foldl_append, ← hclients, ← haps]
  rw [← haps] at htold
  exact htold

theorem heardLive_serve (hmem : callback ∈ s.interfaceEventCallbacks) :
    heardLive callback (s.serve call).announced =
      (s.announcedEvents call).foldl LiveObjects.after (heardLive callback s.announced) := by
  obtain ⟨k, request⟩ := call
  cases request with
  | createClientInterface name =>
    obtain ⟨regDomain, debug, hsetup⟩ := exists_setupInterface s k name
    cases hr : k.reported name with
    | none => simp [serve, createClientInterface_of_none hr, announcedEvents, hr, hsetup]
    | some reported =>
      have hsame : SameContacts _ (((s.setupInterface k name).2.addClientInterface k name
          reported.1 reported.2).recordWiphyIndex k 1 name reported.2) :=
        sameContacts_recordWiphyIndex 1 reported.2
      simp only [serve, createClientInterface_of_some hr, announcedEvents, hr, Option.isSome_some,
        if_true, hsame.announced]
      rw [hsetup]
      exact heardLive_broadcast (.clientInterfaceReady · s.platform.created)
        (.clientConstructed s.platform.created) hmem fun _ => rfl
  | createApInterface name =>
    obtain ⟨regDomain, debug, hsetup⟩ := exists_setupInterface s k name
    cases hr : k.reported name with
    | none => simp [serve, createApInterface_of_none hr, announcedEvents, hr, hsetup]
    | some reported =>
      have hsame : SameContacts _ (((s.setupInterface k name).2.addApInterface name
          reported.1).recordWiphyIndex k 0 name reported.2) :=
        sameContacts_recordWiphyIndex 0 reported.2
      simp only [serve, createApInterface_of_some hr, announcedEvents, hr, Option.isSome_some,
        if_true, hsame.announced]
      rw [hsetup]
      exact heardLive_broadcast (.apInterfaceReady · s.platform.created)
        (.apConstructed s.platform.created) hmem fun _ => rfl
  | tearDownClientInterface name =>
    simp only [serve, tearDownClientInterface_eq, sameContacts_releaseWiphyIndex.announced,
      announcedEvents, lifecycle]
    unfold removeClientInterface
    cases hc : s.clientInterfaces[name]? with
    | none => rfl
    | some client =>
      exact heardLive_broadcast (.clientTorndownEvent · client.id) (.clientDestroyed client.id)
        hmem fun _ => rfl
  | tearDownApInterface name =>
    simp only [serve, tearDownApInterface_eq, sameContacts_releaseWiphyIndex.announced,
      announcedEvents, lifecycle]
    unfold removeApInterface
    cases ha : s.apInterfaces[name]? with
    | none => rfl
    | some ap =>
      exact heardLive_broadcast (.apTorndownEvent · ap.id) (.apDestroyed ap.id) hmem fun _ => rfl
  | tearDownInterfaces => exact heardLive_tearDownInterfaces (k := k) hmem
  | registerWificondEventCallback target =>
    simp only [serve, registerWificondEventCallback]
    split_ifs <;> rfl
  | registerCallback target =>
    simp only [serve, registerCallback]
    split_ifs <;> rfl
  | unregisterWificondEventCallback target | unregisterCallback target => rfl
  | notifyCountryCodeChanged =>
    simp only [serve, notifyCountryCodeChanged, sameContacts_handleCountryCodeChanged.announced]
    rfl
  | onRegDomainChanged wiphyIndex countryCode =>
    obtain ⟨callbacks, code, htold⟩ := announced_reportCountryCode s k countryCode
    have hnone : (callbacks.map fun target => Announcement.regDomainChanged target code).filterMap
        (Announcement.heard callback) = [] := by
      simp [Announcement.heard]
    simp only [serve, announced_onRegDomainChanged, htold, heardLive_append, hnone]
    rfl

/-- The callback holds the binders of the interfaces that the server has. -/
def HearsLive (callback : ℕ) (s : Server) : Prop := heardLive callback s.announced = s.live

theorem sameCallbacks_setupInterface (s : Server) (k : Kernel) (ifaceName : IfaceName) :
    SameCallbacks s (s.setupInterface k ifaceName).2 := by
  obtain ⟨regDomain, debug, hsetup⟩ := exists_setupInterface s k ifaceName
  rw [hsetup]
  exact ⟨rfl, rfl⟩

theorem sameCallbacks_tearDownInterfaces : SameCallbacks s s.tearDownInterfaces := by
  have hclients : SameCallbacks s s.clearClientInterfaces :=
    ⟨Runs.foldl_frame interfaceEventCallbacks fun _ _ => rfl,
      Runs.foldl_frame wificondEventCallbacks fun _ _ => rfl⟩
  have haps : SameCallbacks s.clearClientInterfaces s.clearClientInterfaces.clearApInterfaces :=
    ⟨Runs.foldl_frame interfaceEventCallbacks fun _ _ => rfl,
      Runs.foldl_frame wificondEventCallbacks fun _ _ => rfl⟩
  have hwiphys : SameCallbacks s.clearClientInterfaces.clearApInterfaces s.tearDownInterfaces :=
    ⟨Runs.foldl_frame interfaceEventCallbacks fun _ _ => rfl,
      Runs.foldl_frame wificondEventCallbacks fun _ _ => rfl⟩
  exact (hclients.trans haps).trans hwiphys

/-- Only registrations change who is told. -/
theorem sameCallbacks_serve (h : ¬ call.request.IsRegistration) :
    SameCallbacks s (s.serve call) := by
  obtain ⟨k, request⟩ := call
  cases request with
  | createClientInterface name =>
    have hsetup := sameCallbacks_setupInterface s k name
    cases hr : k.reported name with
    | none => rwa [← createClientInterface_of_none hr] at hsetup
    | some reported =>
      simp only [serve, createClientInterface_of_some hr]
      exact SameCallbacks.trans (t := (s.setupInterface k name).2.addClientInterface k name
        reported.1 reported.2) ⟨hsetup.1, hsetup.2⟩ (sameContacts_recordWiphyIndex _ _).1
  | createApInterface name =>
    have hsetup := sameCallbacks_setupInterface s k name
    cases hr : k.reported name with
    | none => rwa [← createApInterface_of_none hr] at hsetup
    | some reported =>
      simp only [serve, createApInterface_of_some hr]
      exact SameCallbacks.trans (t := (s.setupInterface k name).2.addApInterface name
        reported.1) ⟨hsetup.1, hsetup.2⟩ (sameContacts_recordWiphyIndex _ _).1
  | tearDownClientInterface name =>
    have hremove : SameCallbacks s (s.removeClientInterface name) := by
      unfold removeClientInterface
      split <;> exact ⟨rfl, rfl⟩
    simp only [serve, tearDownClientInterface_eq]
    exact hremove.trans sameContacts_releaseWiphyIndex.1
  | tearDownApInterface name =>
    have hremove : SameCallbacks s (s.removeApInterface name) := by
      unfold removeApInterface
      split <;> exact ⟨rfl, rfl⟩
    simp only [serve, tearDownApInterface_eq]
    exact hremove.trans sameContacts_releaseWiphyIndex.1
  | tearDownInterfaces => exact sameCallbacks_tearDownInterfaces
  | notifyCountryCodeChanged => exact sameContacts_handleCountryCodeChanged.1
  | onRegDomainChanged wiphyIndex countryCode =>
    have hreport : SameCallbacks s (s.reportCountryCode k countryCode) := by
      obtain ⟨announced, heq⟩ := exists_reportCountryCode s k countryCode
      rw [heq]
      exact ⟨rfl, rfl⟩
    simp only [serve, onRegDomainChanged]
    split
    · exact hreport
    · exact hreport.trans sameContacts_handleCountryCodeChanged.1
  | registerWificondEventCallback target | unregisterWificondEventCallback target
  | registerCallback target | unregisterCallback target => exact absurd trivial h

theorem mem_serve (hmem : callback ∈ s.interfaceEventCallbacks)
    (hstays : call.request ≠ .unregisterCallback callback) :
    callback ∈ (s.serve call).interfaceEventCallbacks := by
  obtain ⟨k, request⟩ := call
  cases request with
  | registerCallback target =>
    simp only [serve, registerCallback]
    split_ifs
    · exact hmem
    · exact List.mem_append_left _ hmem
  | unregisterCallback target =>
    have hne : target ≠ callback := fun heq => hstays (congrArg Request.unregisterCallback heq)
    exact (List.mem_erase_of_ne hne.symm).mpr hmem
  | registerWificondEventCallback target =>
    simp only [serve, registerWificondEventCallback]
    split_ifs <;> exact hmem
  | unregisterWificondEventCallback target => exact hmem
  | _ =>
    rw [(sameCallbacks_serve id).interfaceEventCallbacks]
    exact hmem

/-- A replaced client stays among those that were announced as ready. -/
theorem hearsLive_serve (hwell : s.WellNamed) (hmem : callback ∈ s.interfaceEventCallbacks)
    (hears : s.HearsLive callback) :
    (s.serve call).HearsLive callback ↔ s.TakesFreeName call := by
  rw [HearsLive, heardLive_serve hmem, live_serve hwell, hears]
  obtain ⟨k, request⟩ := call
  cases request with
  | createClientInterface name =>
    simp only [announcedEvents, lifecycle, TakesFreeName]
    split_ifs with hreported
    · rw [List.foldl_cons, List.foldl_cons, List.foldl_nil, after_clientDestroyed]
      cases hc : s.clientInterfaces[name]? with
      | none => simp
      | some client =>
        have hlive : client.id ∈ s.live.clients := ⟨name, client, hc, rfl⟩
        refine iff_of_false (fun heq => ?_) (by simp [hreported])
        have hclients := congrArg (fun live => client.id ∈ live.clients) heq
        simp [LiveObjects.after, hlive] at hclients
    · simp [hreported]
  | createApInterface name =>
    simp only [announcedEvents, lifecycle, TakesFreeName]
    split_ifs with hreported
    · rw [List.foldl_cons, List.foldl_cons, List.foldl_nil, after_apDestroyed]
      cases ha : s.apInterfaces[name]? with
      | none => simp
      | some ap =>
        have hlive : ap.id ∈ s.live.aps := ⟨name, ap, ha, rfl⟩
        refine iff_of_false (fun heq => ?_) (by simp [hreported])
        have haps := congrArg (fun live => ap.id ∈ live.aps) heq
        simp [LiveObjects.after, hlive] at haps
    · simp [hreported]
  | tearDownClientInterface name | tearDownApInterface name | tearDownInterfaces
  | registerWificondEventCallback target | unregisterWificondEventCallback target
  | registerCallback target | unregisterCallback target | notifyCountryCodeChanged
  | onRegDomainChanged wiphyIndex countryCode => exact iff_of_true rfl trivial

theorem hearsLive_fresh : (fresh.registerCallback callback).HearsLive callback := by
  apply LiveObjects.ext
  · ext id
    simp [heardLive, live, fresh, registerCallback, OrderedMap.image]
  · ext id
    simp [heardLive, live, fresh, registerCallback, OrderedMap.image]

/-- A callback that stays registered holds the server's interfaces in every state of a run
exactly if every interface created takes a name that none of its kind has. -/
theorem hears_live_interfaces_iff (callback : ℕ) (calls : List Call)
    (hstays : ∀ call ∈ calls, call.request ≠ .unregisterCallback callback) :
    Runs.Always serve (HearsLive callback) (fresh.registerCallback callback) calls ↔
      Runs.Along serve TakesFreeName (fresh.registerCallback callback) calls := by
  have hwell : (fresh.serve ⟨.oneInterface [], .registerCallback callback⟩).WellNamed :=
    wellNamed_serve wellNamed_fresh
  have hmem : callback ∈ (fresh.registerCallback callback).interfaceEventCallbacks := by
    simp [registerCallback, fresh]
  exact Runs.always_iff_along (fun s => s.WellNamed ∧ callback ∈ s.interfaceEventCallbacks)
    (fun call => call.request ≠ .unregisterCallback callback)
    (fun _ _ hinv hstays => ⟨wellNamed_serve hinv.1, mem_serve hinv.2 hstays⟩)
    (fun _ _ hinv _ hears => hearsLive_serve hinv.1 hinv.2 hears)
    ⟨hwell, hmem⟩ hearsLive_fresh hstays

/-- Creating and tearing down one interface, a callback hears of both. -/
theorem hears_live_interfaces_of_one : Runs.Always serve (HearsLive 5) (fresh.registerCallback 5)
    [⟨.oneInterface [119], .createClientInterface [119]⟩,
      ⟨.oneInterface [119], .tearDownClientInterface [119]⟩] :=
  (hears_live_interfaces_iff 5 _ (by simp)).mpr ⟨fun _ => by decide, trivial, trivial⟩

/-- A client created again under its name is replaced, and its first object, which is in the
maps no more, stays announced as ready. -/
theorem replaced_client_stays_announced :
    let s := List.foldl serve (fresh.registerCallback 5)
      [⟨.oneInterface [119], .createClientInterface [119]⟩,
        ⟨.oneInterface [119], .createClientInterface [119]⟩]
    s.announced = [.clientInterfaceReady 5 0, .clientInterfaceReady 5 1] ∧
      0 ∈ (heardLive 5 s.announced).clients ∧ 0 ∉ s.live.clients ∧ 0 ∉ s.live.aps ∧
      ¬ s.HearsLive 5 := by
  intro s
  have hannounced : s.announced = [.clientInterfaceReady 5 0, .clientInterfaceReady 5 1] := by
    decide
  have hheard : 0 ∈ (heardLive 5 s.announced).clients := by
    rw [hannounced]
    simp [heardLive, Announcement.heard, LiveObjects.after]
  have hclients : s.clientInterfaces.toList =
      [([119], ⟨1, 0, [119], 7, #v[2, 0, 0, 0, 0, 1], none⟩)] := by decide
  have haps : s.apInterfaces.toList = [] := by decide
  have hlive : 0 ∉ s.live.clients := by
    rintro ⟨name, client, hclient, hid⟩
    have hmem := Std.ExtTreeMap.mem_toList_iff_getElem?_eq_some.mpr hclient
    rw [hclients, List.mem_singleton] at hmem
    obtain ⟨-, rfl⟩ := Prod.mk.inj hmem
    exact absurd hid (by decide)
  refine ⟨hannounced, hheard, hlive, ?_, fun h => hlive (h ▸ hheard)⟩
  rintro ⟨name, ap, hap, -⟩
  have hmem := Std.ExtTreeMap.mem_toList_iff_getElem?_eq_some.mpr hap
  rw [haps] at hmem
  exact absurd hmem (List.not_mem_nil)

end Server

end Wificond
