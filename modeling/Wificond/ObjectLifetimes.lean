import Wificond.ServerHandlers

/-!
# Lifetimes of interface objects

Which objects a call constructs and destroys. An object is destroyed when it is torn down
and also when another takes its name in the map, and the server holds exactly the objects
that were constructed and not destroyed yet.
-/
namespace Wificond

inductive LifecycleEvent
  | clientConstructed (id : ObjectId)
  | clientDestroyed (id : ObjectId)
  | apConstructed (id : ObjectId)
  | apDestroyed (id : ObjectId)
  deriving DecidableEq

/-- The objects that exist. -/
@[ext] structure LiveObjects where
  clients : Set ObjectId
  aps : Set ObjectId

def LiveObjects.after (live : LiveObjects) : LifecycleEvent → LiveObjects
  | .clientConstructed id => { live with clients := insert id live.clients }
  | .clientDestroyed id => { live with clients := live.clients \ {id} }
  | .apConstructed id => { live with aps := insert id live.aps }
  | .apDestroyed id => { live with aps := live.aps \ {id} }

namespace Server

/-- The constructors and destructors that run in a call, in their order. -/
def lifecycle (s : Server) (call : Call) : List LifecycleEvent :=
  match call.request with
  | .createClientInterface name =>
    if (call.kernel.reported name).isSome then
      .clientConstructed s.platform.created ::
        s.clientInterfaces[name]?.toList.map fun replaced => .clientDestroyed replaced.id
    else []
  | .createApInterface name =>
    if (call.kernel.reported name).isSome then
      .apConstructed s.platform.created ::
        s.apInterfaces[name]?.toList.map fun replaced => .apDestroyed replaced.id
    else []
  | .tearDownClientInterface name =>
    s.clientInterfaces[name]?.toList.map fun client => .clientDestroyed client.id
  | .tearDownApInterface name =>
    s.apInterfaces[name]?.toList.map fun ap => .apDestroyed ap.id
  | .tearDownInterfaces =>
    s.clientInterfaces.toList.map (fun entry => .clientDestroyed entry.2.id) ++
      s.apInterfaces.toList.map fun entry => .apDestroyed entry.2.id
  | _ => []

def live (s : Server) : LiveObjects where
  clients := OrderedMap.image ClientInterfaceImpl.id s.clientInterfaces
  aps := OrderedMap.image ApInterfaceImpl.id s.apInterfaces

variable {s t : Server} {k : Kernel} {ifaceName : IfaceName} {interface : InterfaceInfo}
variable {wiphyIndex : UInt32} {call : Call}

theorem live_congr (h : SameObjects s t) : t.live = s.live := by
  apply LiveObjects.ext
  · ext id
    constructor
    · rintro ⟨name, client, hc, hid⟩
      obtain ⟨client', hc', hid', -⟩ := h.exists_client hc
      exact ⟨name, client', hc', hid'.trans hid⟩
    · rintro ⟨name, client, hc, hid⟩
      obtain ⟨client', hc', hid', -⟩ := h.symm.exists_client hc
      exact ⟨name, client', hc', hid'.trans hid⟩
  · simp only [live, h.aps]

theorem lt_created_of_client (hwell : s.WellNamed) {id : ObjectId} (h : id ∈ s.live.clients) :
    id < s.platform.created := by
  obtain ⟨name, client, hc, rfl⟩ := h
  exact (hwell.client name client hc).2

theorem lt_created_of_ap (hwell : s.WellNamed) {id : ObjectId} (h : id ∈ s.live.aps) :
    id < s.platform.created := by
  obtain ⟨name, ap, ha, rfl⟩ := h
  exact (hwell.ap name ap ha).2

/-- The object that is destroyed, if there is one, is no longer there. -/
theorem after_clientDestroyed (live : LiveObjects) (client : Option ClientInterfaceImpl) :
    (client.toList.map fun client => .clientDestroyed client.id).foldl LiveObjects.after live =
      { live with
        clients := live.clients \ {id | client.map ClientInterfaceImpl.id = some id} } := by
  cases client with
  | none => simp
  | some client => simp [LiveObjects.after, eq_comm]

theorem after_apDestroyed (live : LiveObjects) (ap : Option ApInterfaceImpl) :
    (ap.toList.map fun ap => .apDestroyed ap.id).foldl LiveObjects.after live =
      { live with aps := live.aps \ {id | ap.map ApInterfaceImpl.id = some id} } := by
  cases ap with
  | none => simp
  | some ap => simp [LiveObjects.after, eq_comm]

theorem after_clientsDestroyed (live : LiveObjects)
    (entries : List (IfaceName × ClientInterfaceImpl)) :
    (entries.map fun entry => LifecycleEvent.clientDestroyed entry.2.id).foldl LiveObjects.after
      live = { live with clients := live.clients \ {id | ∃ entry ∈ entries, entry.2.id = id} } := by
  induction entries generalizing live with
  | nil => simp
  | cons entry entries ih =>
    rw [List.map_cons, List.foldl_cons, ih]
    apply LiveObjects.ext
    · ext id
      simp only [LiveObjects.after, List.mem_cons, exists_eq_or_imp]
      simp [and_assoc, eq_comm]
    · rfl

theorem after_apsDestroyed (live : LiveObjects)
    (entries : List (IfaceName × ApInterfaceImpl)) :
    (entries.map fun entry => LifecycleEvent.apDestroyed entry.2.id).foldl LiveObjects.after
      live = { live with aps := live.aps \ {id | ∃ entry ∈ entries, entry.2.id = id} } := by
  induction entries generalizing live with
  | nil => simp
  | cons entry entries ih =>
    rw [List.map_cons, List.foldl_cons, ih]
    apply LiveObjects.ext
    · rfl
    · ext id
      simp only [LiveObjects.after, List.mem_cons, exists_eq_or_imp]
      simp [and_assoc, eq_comm]

theorem live_addClientInterface (hwell : s.WellNamed) :
    (s.addClientInterface k ifaceName interface wiphyIndex).live =
      (.clientConstructed s.platform.created :: s.clientInterfaces[ifaceName]?.toList.map
        fun replaced => .clientDestroyed replaced.id).foldl LiveObjects.after s.live := by
  rw [List.foldl_cons, after_clientDestroyed]
  apply LiveObjects.ext
  · refine OrderedMap.image_insert hwell.clients ifaceName fun hmem => ?_
    exact absurd (lt_created_of_client hwell hmem) (lt_irrefl _)
  · rfl

theorem live_addApInterface (hwell : s.WellNamed) :
    (s.addApInterface ifaceName interface).live =
      (.apConstructed s.platform.created :: s.apInterfaces[ifaceName]?.toList.map
        fun replaced => .apDestroyed replaced.id).foldl LiveObjects.after s.live := by
  rw [List.foldl_cons, after_apDestroyed]
  apply LiveObjects.ext
  · rfl
  · refine OrderedMap.image_insert hwell.aps ifaceName fun hmem => ?_
    exact absurd (lt_created_of_ap hwell hmem) (lt_irrefl _)

theorem live_removeClientInterface (hwell : s.WellNamed) :
    (s.removeClientInterface ifaceName).live = (s.clientInterfaces[ifaceName]?.toList.map
      fun client => .clientDestroyed client.id).foldl LiveObjects.after s.live := by
  rw [after_clientDestroyed]
  apply LiveObjects.ext
  · simp only [live, clientInterfaces_removeClientInterface]
    exact OrderedMap.image_erase hwell.clients ifaceName
  · simp only [live, apInterfaces_removeClientInterface]

theorem live_removeApInterface (hwell : s.WellNamed) :
    (s.removeApInterface ifaceName).live = (s.apInterfaces[ifaceName]?.toList.map
      fun ap => .apDestroyed ap.id).foldl LiveObjects.after s.live := by
  rw [after_apDestroyed]
  apply LiveObjects.ext
  · simp only [live, clientInterfaces_removeApInterface]
  · simp only [live, apInterfaces_removeApInterface]
    exact OrderedMap.image_erase hwell.aps ifaceName

/-- Every object is destroyed with its entry. -/
theorem live_tearDownInterfaces : s.tearDownInterfaces.live =
    (s.lifecycle ⟨k, .tearDownInterfaces⟩).foldl LiveObjects.after s.live := by
  rw [lifecycle]
  rw [List.foldl_append, after_clientsDestroyed, after_apsDestroyed]
  apply LiveObjects.ext
  · ext id
    simp only [live, clientInterfaces_tearDownInterfaces]
    refine iff_of_false (fun hmem => ?_) fun hmem => ?_
    · obtain ⟨name, client, hc, -⟩ := hmem
      simp at hc
    · obtain ⟨⟨name, client, hc, rfl⟩, hnone⟩ := hmem
      exact hnone ⟨(name, client), Std.ExtTreeMap.mem_toList_iff_getElem?_eq_some.mpr hc, rfl⟩
  · ext id
    simp only [live, apInterfaces_tearDownInterfaces]
    refine iff_of_false (fun hmem => ?_) fun hmem => ?_
    · obtain ⟨name, ap, ha, -⟩ := hmem
      simp at ha
    · obtain ⟨⟨name, ap, ha, rfl⟩, hnone⟩ := hmem
      exact hnone ⟨(name, ap), Std.ExtTreeMap.mem_toList_iff_getElem?_eq_some.mpr ha, rfl⟩

/-- The server holds exactly the objects that were constructed and not destroyed yet. -/
theorem live_serve (hwell : s.WellNamed) :
    (s.serve call).live = (s.lifecycle call).foldl LiveObjects.after s.live := by
  obtain ⟨k, request⟩ := call
  cases request with
  | createClientInterface name =>
    have hsame := sameObjects_setupInterface s k name
    cases hr : k.reported name with
    | none =>
      simp only [serve, createClientInterface_of_none hr, lifecycle, hr]
      exact live_congr hsame
    | some reported =>
      obtain ⟨regDomain, debug, hsetup⟩ := exists_setupInterface s k name
      simp only [serve, createClientInterface_of_some hr, lifecycle, hr, Option.isSome_some,
        if_true]
      rw [live_congr sameObjects_recordWiphyIndex,
        live_addClientInterface (wellNamed_congr hsame hwell), live_congr hsame, hsetup]
  | createApInterface name =>
    have hsame := sameObjects_setupInterface s k name
    cases hr : k.reported name with
    | none =>
      simp only [serve, createApInterface_of_none hr, lifecycle, hr]
      exact live_congr hsame
    | some reported =>
      obtain ⟨regDomain, debug, hsetup⟩ := exists_setupInterface s k name
      simp only [serve, createApInterface_of_some hr, lifecycle, hr, Option.isSome_some, if_true]
      rw [live_congr sameObjects_recordWiphyIndex,
        live_addApInterface (wellNamed_congr hsame hwell), live_congr hsame, hsetup]
  | tearDownClientInterface name =>
    simp only [serve, tearDownClientInterface_eq]
    rw [live_congr sameObjects_releaseWiphyIndex]
    exact live_removeClientInterface hwell
  | tearDownApInterface name =>
    simp only [serve, tearDownApInterface_eq]
    rw [live_congr sameObjects_releaseWiphyIndex]
    exact live_removeApInterface hwell
  | tearDownInterfaces => exact live_tearDownInterfaces
  | registerWificondEventCallback callback | unregisterWificondEventCallback callback
  | registerCallback callback | unregisterCallback callback | notifyCountryCodeChanged
  | onRegDomainChanged wiphyIndex countryCode => exact live_congr (sameObjects_serve trivial)

end Server

end Wificond
