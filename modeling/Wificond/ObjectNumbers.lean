import Wificond.ServerAnnouncements

/-!
# Numbers of objects

Objects are numbered as they are constructed. A call constructs one at most, which takes the
next number, and no number comes back.
-/
namespace Wificond

namespace LifecycleEvent

def constructed? : LifecycleEvent → Option ObjectId
  | .clientConstructed id | .apConstructed id => some id
  | .clientDestroyed _ | .apDestroyed _ => none

def destroyed? : LifecycleEvent → Option ObjectId
  | .clientDestroyed id | .apDestroyed id => some id
  | .clientConstructed _ | .apConstructed _ => none

end LifecycleEvent

open LifecycleEvent

namespace Server

variable {s : Server} {call : Call} {event : LifecycleEvent} {id : ObjectId}

/-- A call constructs nothing, or the object of the next number. -/
theorem constructed_lifecycle (s : Server) (call : Call) :
    (s.lifecycle call).filterMap constructed? = [] ∨
      (s.lifecycle call).filterMap constructed? = [s.platform.created] := by
  obtain ⟨k, request⟩ := call
  cases request with
  | createClientInterface name =>
    simp only [lifecycle]
    split_ifs
    · right
      cases s.clientInterfaces[name]? <;> simp [constructed?]
    · simp
  | createApInterface name =>
    simp only [lifecycle]
    split_ifs
    · right
      cases s.apInterfaces[name]? <;> simp [constructed?]
    · simp
  | tearDownClientInterface name =>
    left
    cases hc : s.clientInterfaces[name]? <;> simp [lifecycle, hc, constructed?]
  | tearDownApInterface name =>
    left
    cases ha : s.apInterfaces[name]? <;> simp [lifecycle, ha, constructed?]
  | tearDownInterfaces => simp [lifecycle, List.filterMap_append, constructed?]
  | _ => simp [lifecycle]

theorem created_tearDownInterfaces :
    s.tearDownInterfaces.platform.created = s.platform.created := by
  have hclients : s.clearClientInterfaces.platform.created = s.platform.created := by
    let told := s.clientInterfaces.toList.foldl
      (fun s entry => s.broadcastClientInterfaceTornDown entry.2.id) s
    have htold : told.platform = s.platform := Runs.foldl_frame platform fun _ _ => rfl
    rw [← htold]
    exact Runs.foldl_frame Platform.created fun _ _ => rfl
  have haps : s.clearClientInterfaces.clearApInterfaces.platform.created =
      s.clearClientInterfaces.platform.created := by
    let told := s.clearClientInterfaces.apInterfaces.toList.foldl
      (fun s entry => s.broadcastApInterfaceTornDown entry.2.id) s.clearClientInterfaces
    have htold : told.platform = s.clearClientInterfaces.platform :=
      Runs.foldl_frame platform fun _ _ => rfl
    rw [← htold]
    exact Runs.foldl_frame Platform.created fun _ _ => rfl
  have hdown : s.clearClientInterfaces.clearApInterfaces.markDownAllInterfaces.platform.created =
      s.clearClientInterfaces.clearApInterfaces.platform.created :=
    Runs.foldl_frame Platform.created fun _ _ => rfl
  rw [← hclients, ← haps, ← hdown]
  exact Runs.foldl_frame (fun s : Server => s.platform.created) fun _ _ => rfl

/-- The next number goes up with each object. -/
theorem created_serve : (s.serve call).platform.created =
    s.platform.created + ((s.lifecycle call).filterMap constructed?).length := by
  obtain ⟨k, request⟩ := call
  cases request with
  | createClientInterface name =>
    have hsetup : (s.setupInterface k name).2.platform.created = s.platform.created :=
      (sameObjects_setupInterface s k name).created
    cases hr : k.reported name with
    | none => simpa [serve, createClientInterface_of_none hr, lifecycle, hr] using hsetup
    | some reported =>
      simp only [serve, createClientInterface_of_some hr, lifecycle, hr, Option.isSome_some,
        if_true, sameObjects_recordWiphyIndex.created, created_addClientInterface, hsetup]
      cases s.clientInterfaces[name]? <;> simp [constructed?]
  | createApInterface name =>
    have hsetup : (s.setupInterface k name).2.platform.created = s.platform.created :=
      (sameObjects_setupInterface s k name).created
    cases hr : k.reported name with
    | none => simpa [serve, createApInterface_of_none hr, lifecycle, hr] using hsetup
    | some reported =>
      simp only [serve, createApInterface_of_some hr, lifecycle, hr, Option.isSome_some,
        if_true, sameObjects_recordWiphyIndex.created, created_addApInterface, hsetup]
      cases s.apInterfaces[name]? <;> simp [constructed?]
  | tearDownClientInterface name =>
    simp only [serve, tearDownClientInterface_eq, sameObjects_releaseWiphyIndex.created, lifecycle]
    unfold removeClientInterface
    cases s.clientInterfaces[name]? with
    | none => rfl
    | some client => rfl
  | tearDownApInterface name =>
    simp only [serve, tearDownApInterface_eq, sameObjects_releaseWiphyIndex.created, lifecycle]
    unfold removeApInterface
    cases s.apInterfaces[name]? with
    | none => rfl
    | some ap => rfl
  | tearDownInterfaces =>
    have hnone : (s.lifecycle ⟨k, .tearDownInterfaces⟩).filterMap constructed? = [] := by
      simp [lifecycle, List.filterMap_append, constructed?]
    rw [hnone]
    exact created_tearDownInterfaces
  | registerWificondEventCallback callback | unregisterWificondEventCallback callback
  | registerCallback callback | unregisterCallback callback | notifyCountryCodeChanged
  | onRegDomainChanged wiphyIndex countryCode =>
    apply SameObjects.created
    exact sameObjects_serve trivial

/-- What a call constructs takes the next number. -/
theorem eq_created_of_constructed (hmem : event ∈ s.lifecycle call)
    (hid : event.constructed? = some id) :
    id = s.platform.created ∧ (s.serve call).platform.created = s.platform.created + 1 := by
  have hfound : id ∈ (s.lifecycle call).filterMap constructed? :=
    List.mem_filterMap.mpr ⟨event, hmem, hid⟩
  rw [created_serve]
  rcases constructed_lifecycle s call with hnone | hone
  · rw [hnone] at hfound
    simp at hfound
  · rw [hone] at hfound ⊢
    exact ⟨List.mem_singleton.mp hfound, rfl⟩

theorem created_le_serve : s.platform.created ≤ (s.serve call).platform.created := by
  rw [created_serve]
  exact Nat.le_add_right _ _

/-- No call constructs objects of both kinds. -/
theorem not_constructs_both (client ap : ObjectId) :
    ¬ (.clientConstructed client ∈ s.lifecycle call ∧ .apConstructed ap ∈ s.lifecycle call) := by
  obtain ⟨k, request⟩ := call
  cases request with
  | createClientInterface name =>
    simp only [lifecycle]
    split_ifs <;> simp
  | createApInterface name =>
    simp only [lifecycle]
    split_ifs <;> simp
  | _ => simp [lifecycle]

end Server

namespace LiveObjects

variable {live : LiveObjects} {events : List LifecycleEvent} {id : ObjectId}

theorem mem_clients_foldl_after (h : id ∈ (events.foldl after live).clients) :
    id ∈ live.clients ∨ .clientConstructed id ∈ events := by
  induction events generalizing live with
  | nil => exact .inl h
  | cons event events ih =>
    rcases ih h with hnext | hlater
    · cases event with
      | clientConstructed new =>
        rcases Set.mem_insert_iff.mp hnext with rfl | hbefore
        · exact .inr (by simp)
        · exact .inl hbefore
      | clientDestroyed dead => exact .inl hnext.1
      | apConstructed new => exact .inl hnext
      | apDestroyed dead => exact .inl hnext
    · exact .inr (List.mem_cons_of_mem _ hlater)

theorem mem_aps_foldl_after (h : id ∈ (events.foldl after live).aps) :
    id ∈ live.aps ∨ .apConstructed id ∈ events := by
  induction events generalizing live with
  | nil => exact .inl h
  | cons event events ih =>
    rcases ih h with hnext | hlater
    · cases event with
      | clientConstructed new => exact .inl hnext
      | clientDestroyed dead => exact .inl hnext
      | apConstructed new =>
        rcases Set.mem_insert_iff.mp hnext with rfl | hbefore
        · exact .inr (by simp)
        · exact .inl hbefore
      | apDestroyed dead => exact .inl hnext.1
    · exact .inr (List.mem_cons_of_mem _ hlater)

/-- What is destroyed, and is not constructed, is not there any more. -/
theorem notMem_clients_foldl_after (h : .clientDestroyed id ∈ events)
    (hnew : .clientConstructed id ∉ events) : id ∉ (events.foldl after live).clients := by
  induction events generalizing live with
  | nil => simp at h
  | cons event events ih =>
    have hlater : .clientConstructed id ∉ events := fun hmem => hnew (List.mem_cons_of_mem _ hmem)
    rcases List.mem_cons.mp h with rfl | htail
    · intro hmem
      have hrest : id ∈ (events.foldl after (live.after (.clientDestroyed id))).clients := hmem
      rcases mem_clients_foldl_after hrest with hnow | hafter
      · exact hnow.2 rfl
      · exact hlater hafter
    · exact ih htail hlater

theorem notMem_aps_foldl_after (h : .apDestroyed id ∈ events)
    (hnew : .apConstructed id ∉ events) : id ∉ (events.foldl after live).aps := by
  induction events generalizing live with
  | nil => simp at h
  | cons event events ih =>
    have hlater : .apConstructed id ∉ events := fun hmem => hnew (List.mem_cons_of_mem _ hmem)
    rcases List.mem_cons.mp h with rfl | htail
    · intro hmem
      have hrest : id ∈ (events.foldl after (live.after (.apDestroyed id))).aps := hmem
      rcases mem_aps_foldl_after hrest with hnow | hafter
      · exact hnow.2 rfl
      · exact hlater hafter
    · exact ih htail hlater

end LiveObjects

end Wificond
