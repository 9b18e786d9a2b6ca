import Wificond.ObjectNumbers

/-!
# The order of announcements

Callbacks come and go while interfaces are created and torn down. Whatever a callback hears,
it hears in an order that makes sense: of each interface once that it is ready and once that
it is gone, and nothing more.
-/
namespace Wificond

namespace LifecycleEvent

def subject : LifecycleEvent → ObjectId
  | .clientConstructed id | .clientDestroyed id | .apConstructed id | .apDestroyed id => id

/-- The order that makes sense: an object that is gone is not heard of again, and objects are
ready in the order in which they were made. -/
structure Precedes (event later : LifecycleEvent) : Prop where
  gone : ∀ id, event.destroyed? = some id → later.subject ≠ id
  made : ∀ id id', event.constructed? = some id → later.constructed? = some id' → id < id'

variable {event : LifecycleEvent} {id : ObjectId}

theorem subject_of_constructed? (h : event.constructed? = some id) : event.subject = id := by
  cases event <;> simp_all [constructed?, subject]

theorem subject_of_destroyed? (h : event.destroyed? = some id) : event.subject = id := by
  cases event <;> simp_all [destroyed?, subject]

/-- An object that is gone comes before everything about others. -/
theorem precedes_of_destroyed? {later : LifecycleEvent} (h : event.destroyed? = some id)
    (hne : later.subject ≠ id) : event.Precedes later where
  gone id' h' := by
    rw [h] at h'
    exact Option.some.inj h' ▸ hne
  made id' _ h' _ := by
    cases event <;> simp_all [constructed?, destroyed?]

end LifecycleEvent

open LifecycleEvent

/-- A callback that is registered once is told once. -/
theorem filterMap_heard_map {callback : ℕ} {callbacks : List ℕ} {event : ℕ → Announcement}
    {what : LifecycleEvent} (hnodup : callbacks.Nodup) (hevent : ∀ target,
      (event target).heard callback = if target = callback then some what else none) :
    (callbacks.map event).filterMap (Announcement.heard callback) =
      if callback ∈ callbacks then [what] else [] := by
  induction callbacks with
  | nil => rfl
  | cons target callbacks ih =>
    obtain ⟨hnot, hnodup⟩ := List.nodup_cons.mp hnodup
    rw [List.map_cons, List.filterMap_cons, hevent, ih hnodup]
    by_cases htarget : target = callback
    · subst htarget
      simp [hnot]
    · simp [htarget, Ne.symm htarget]

namespace Server

variable {s : Server} {k : Kernel} {call : Call} {callback : ℕ} {event : LifecycleEvent}
  {id : ObjectId}

/-- What a callback is told of interfaces, in order. -/
def heardEvents (callback : ℕ) (s : Server) : List LifecycleEvent :=
  s.announced.filterMap (Announcement.heard callback)

theorem heardEvents_announce (hnodup : s.interfaceEventCallbacks.Nodup)
    {told : ℕ → Announcement} (htold : ∀ target,
      (told target).heard callback = if target = callback then some event else none) :
    (s.announced ++ s.interfaceEventCallbacks.map told).filterMap (Announcement.heard callback) =
      heardEvents callback s ++ if callback ∈ s.interfaceEventCallbacks then [event] else [] := by
  rw [List.filterMap_append, filterMap_heard_map hnodup htold]
  rfl

theorem heardEvents_foldl_announce {α : Type} (callback : ℕ) (objects : List α)
    (told : α → ℕ → Announcement) (what : α → LifecycleEvent)
    (hnodup : s.interfaceEventCallbacks.Nodup)
    (htold : ∀ a target, (told a target).heard callback =
      if target = callback then some (what a) else none) :
    heardEvents callback (objects.foldl (fun s a =>
        s.announce s.interfaceEventCallbacks (told a)) s) =
      heardEvents callback s ++
        if callback ∈ s.interfaceEventCallbacks then objects.map what else [] := by
  induction objects generalizing s with
  | nil => simp
  | cons a objects ih =>
    have hnext := ih (s := s.announce s.interfaceEventCallbacks (told a)) hnodup
    have hnow : heardEvents callback (s.announce s.interfaceEventCallbacks (told a)) = _ :=
      heardEvents_announce hnodup (htold a)
    rw [List.foldl_cons, hnext, hnow]
    show (heardEvents callback s ++ if callback ∈ s.interfaceEventCallbacks then _ else _) ++
      (if callback ∈ s.interfaceEventCallbacks then _ else _) = _
    split_ifs <;> simp

theorem heardEvents_tearDownInterfaces (hnodup : s.interfaceEventCallbacks.Nodup) :
    heardEvents callback s.tearDownInterfaces = heardEvents callback s ++
      if callback ∈ s.interfaceEventCallbacks then s.lifecycle ⟨k, .tearDownInterfaces⟩
      else [] := by
  have hclients := heardEvents_foldl_announce callback s.clientInterfaces.toList
    (fun entry target => .clientTorndownEvent target entry.2.id)
    (fun entry => .clientDestroyed entry.2.id) hnodup fun _ _ => rfl
  have hcallbacks : s.clearClientInterfaces.interfaceEventCallbacks = s.interfaceEventCallbacks :=
    Runs.foldl_frame interfaceEventCallbacks fun _ _ => rfl
  have haps : s.clearClientInterfaces.apInterfaces = s.apInterfaces :=
    Runs.foldl_frame apInterfaces fun _ _ => rfl
  have htold := heardEvents_foldl_announce (s := s.clearClientInterfaces) callback
    s.clearClientInterfaces.apInterfaces.toList
    (fun entry target => .apTorndownEvent target entry.2.id) (fun entry => .apDestroyed entry.2.id)
    (hcallbacks ▸ hnodup) fun _ _ => rfl
  have hbefore : heardEvents callback s.clearClientInterfaces = _ := hclients
  rw [heardEvents, announced_tearDownInterfaces]
  refine Eq.trans htold ?_
  rw [hbefore, hcallbacks, haps, lifecycle]
  split_ifs <;> simp

theorem heardEvents_serve (hnodup : s.interfaceEventCallbacks.Nodup) :
    heardEvents callback (s.serve call) = heardEvents callback s ++
      if callback ∈ s.interfaceEventCallbacks then s.announcedEvents call else [] := by
  obtain ⟨k, request⟩ := call
  cases request with
  | createClientInterface name =>
    obtain ⟨regDomain, debug, hsetup⟩ := exists_setupInterface s k name
    cases hr : k.reported name with
    | none =>
      simp [heardEvents, serve, createClientInterface_of_none hr, announcedEvents, hr, hsetup]
    | some reported =>
      have hsame : SameContacts _ (((s.setupInterface k name).2.addClientInterface k name
          reported.1 reported.2).recordWiphyIndex k 1 name reported.2) :=
        sameContacts_recordWiphyIndex 1 reported.2
      simp only [heardEvents, serve, createClientInterface_of_some hr, announcedEvents, hr,
        Option.isSome_some, if_true, hsame.announced]
      rw [hsetup]
      exact heardEvents_announce hnodup fun _ => rfl
  | createApInterface name =>
    obtain ⟨regDomain, debug, hsetup⟩ := exists_setupInterface s k name
    cases hr : k.reported name with
    | none => simp [heardEvents, serve, createApInterface_of_none hr, announcedEvents, hr, hsetup]
    | some reported =>
      have hsame : SameContacts _ (((s.setupInterface k name).2.addApInterface name
          reported.1).recordWiphyIndex k 0 name reported.2) :=
        sameContacts_recordWiphyIndex 0 reported.2
      simp only [heardEvents, serve, createApInterface_of_some hr, announcedEvents, hr,
        Option.isSome_some, if_true, hsame.announced]
      rw [hsetup]
      exact heardEvents_announce hnodup fun _ => rfl
  | tearDownClientInterface name =>
    simp only [heardEvents, serve, tearDownClientInterface_eq,
      sameContacts_releaseWiphyIndex.announced, announcedEvents, lifecycle]
    unfold removeClientInterface
    cases hc : s.clientInterfaces[name]? with
    | none => simp
    | some client => exact heardEvents_announce hnodup fun _ => rfl
  | tearDownApInterface name =>
    simp only [heardEvents, serve, tearDownApInterface_eq,
      sameContacts_releaseWiphyIndex.announced, announcedEvents, lifecycle]
    unfold removeApInterface
    cases ha : s.apInterfaces[name]? with
    | none => simp
    | some ap => exact heardEvents_announce hnodup fun _ => rfl
  | tearDownInterfaces => exact heardEvents_tearDownInterfaces (k := k) hnodup
  | registerWificondEventCallback target =>
    simp only [serve, registerWificondEventCallback, announcedEvents, lifecycle]
    split_ifs <;> simp [heardEvents]
  | registerCallback target =>
    simp only [serve, registerCallback, announcedEvents, lifecycle]
    split_ifs <;> simp [heardEvents]
  | unregisterWificondEventCallback target | unregisterCallback target =>
    simp [heardEvents, serve, announcedEvents, lifecycle, unregisterWificondEventCallback,
      unregisterCallback]
  | notifyCountryCodeChanged =>
    simp [heardEvents, serve, notifyCountryCodeChanged, announcedEvents, lifecycle,
      sameContacts_handleCountryCodeChanged.announced]
  | onRegDomainChanged wiphyIndex countryCode =>
    obtain ⟨callbacks, code, htold⟩ := announced_reportCountryCode s k countryCode
    have hnone : (callbacks.map fun target => Announcement.regDomainChanged target code).filterMap
        (Announcement.heard callback) = [] := by
      simp [Announcement.heard]
    simp only [heardEvents, serve, announced_onRegDomainChanged, htold, List.filterMap_append,
      hnone, announcedEvents, lifecycle, ite_self]

theorem mem_lifecycle_of_mem_announcedEvents (h : event ∈ s.announcedEvents call) :
    event ∈ s.lifecycle call := by
  obtain ⟨k, request⟩ := call
  cases request with
  | createClientInterface name =>
    simp only [announcedEvents, lifecycle] at h ⊢
    split_ifs at h ⊢
    · rw [List.mem_singleton.mp h]
      simp
    · simp at h
  | createApInterface name =>
    simp only [announcedEvents, lifecycle] at h ⊢
    split_ifs at h ⊢
    · rw [List.mem_singleton.mp h]
      simp
    · simp at h
  | _ => exact h

theorem clientConstructed_mem_announcedEvents (h : .clientConstructed id ∈ s.lifecycle call) :
    .clientConstructed id ∈ s.announcedEvents call := by
  obtain ⟨k, request⟩ := call
  cases request with
  | createClientInterface name =>
    simp only [announcedEvents, lifecycle] at h ⊢
    split_ifs at h ⊢
    · simpa using h
    · simp at h
  | createApInterface name =>
    simp only [lifecycle] at h
    split_ifs at h <;> simp at h
  | _ => exact h

theorem apConstructed_mem_announcedEvents (h : .apConstructed id ∈ s.lifecycle call) :
    .apConstructed id ∈ s.announcedEvents call := by
  obtain ⟨k, request⟩ := call
  cases request with
  | createApInterface name =>
    simp only [announcedEvents, lifecycle] at h ⊢
    split_ifs at h ⊢
    · simpa using h
    · simp at h
  | createClientInterface name =>
    simp only [lifecycle] at h
    split_ifs at h <;> simp at h
  | _ => exact h

theorem mem_clients_of_clientDestroyed (h : .clientDestroyed id ∈ s.lifecycle call) :
    id ∈ s.live.clients := by
  obtain ⟨k, request⟩ := call
  cases request with
  | createClientInterface name =>
    simp only [lifecycle] at h
    split_ifs at h
    · cases hc : s.clientInterfaces[name]? with
      | none => simp [hc] at h
      | some client =>
        have hid : id = client.id := by simpa [hc] using h
        exact ⟨name, client, hc, hid.symm⟩
    · simp at h
  | createApInterface name =>
    simp only [lifecycle] at h
    split_ifs at h <;> simp at h
  | tearDownClientInterface name =>
    cases hc : s.clientInterfaces[name]? with
    | none => simp [lifecycle, hc] at h
    | some client =>
      have hid : id = client.id := by simpa [lifecycle, hc] using h
      exact ⟨name, client, hc, hid.symm⟩
  | tearDownInterfaces =>
    obtain ⟨name, client, hmem, hid⟩ : ∃ name client,
        (name, client) ∈ s.clientInterfaces.toList ∧ client.id = id := by
      simpa [lifecycle] using h
    exact ⟨name, client, Std.ExtTreeMap.mem_toList_iff_getElem?_eq_some.mp hmem, hid⟩
  | _ => simp [lifecycle] at h

theorem mem_aps_of_apDestroyed (h : .apDestroyed id ∈ s.lifecycle call) : id ∈ s.live.aps := by
  obtain ⟨k, request⟩ := call
  cases request with
  | createClientInterface name =>
    simp only [lifecycle] at h
    split_ifs at h <;> simp at h
  | createApInterface name =>
    simp only [lifecycle] at h
    split_ifs at h
    · cases ha : s.apInterfaces[name]? with
      | none => simp [ha] at h
      | some ap =>
        have hid : id = ap.id := by simpa [ha] using h
        exact ⟨name, ap, ha, hid.symm⟩
    · simp at h
  | tearDownApInterface name =>
    cases ha : s.apInterfaces[name]? with
    | none => simp [lifecycle, ha] at h
    | some ap =>
      have hid : id = ap.id := by simpa [lifecycle, ha] using h
      exact ⟨name, ap, ha, hid.symm⟩
  | tearDownInterfaces =>
    obtain ⟨name, ap, hmem, hid⟩ : ∃ name ap,
        (name, ap) ∈ s.apInterfaces.toList ∧ ap.id = id := by
      simpa [lifecycle] using h
    exact ⟨name, ap, Std.ExtTreeMap.mem_toList_iff_getElem?_eq_some.mp hmem, hid⟩
  | _ => simp [lifecycle] at h

theorem not_client_and_ap (hwell : s.WellNamed) (hclient : id ∈ s.live.clients)
    (hap : id ∈ s.live.aps) : False := by
  obtain ⟨name, client, hc, hid⟩ := hclient
  obtain ⟨name', ap, ha, hid'⟩ := hap
  exact hwell.apart name name' client ap hc ha (hid.trans hid'.symm)

/-- What a call destroys was there before it and is not there behind it. -/
theorem gone_serve (hwell : s.WellNamed) (hmem : event ∈ s.lifecycle call)
    (hid : event.destroyed? = some id) : id < s.platform.created ∧
      (id ∈ s.live.clients ∨ id ∈ s.live.aps) ∧
      id ∉ (s.serve call).live.clients ∧ id ∉ (s.serve call).live.aps := by
  have hold (hlt : id < s.platform.created) (new : LifecycleEvent) (hnew : new ∈ s.lifecycle call)
      (hconstructed : new.constructed? = some id) : False :=
    Nat.ne_of_lt hlt (eq_created_of_constructed hnew hconstructed).1
  cases event with
  | clientConstructed new => simp [destroyed?] at hid
  | apConstructed new => simp [destroyed?] at hid
  | clientDestroyed dead =>
    obtain rfl : dead = id := by simpa [destroyed?] using hid
    have hclient := mem_clients_of_clientDestroyed hmem
    have hlt := lt_created_of_client hwell hclient
    rw [live_serve hwell]
    refine ⟨hlt, .inl hclient, ?_, fun hap => ?_⟩
    · exact LiveObjects.notMem_clients_foldl_after hmem fun hnew => hold hlt _ hnew rfl
    · rcases LiveObjects.mem_aps_foldl_after hap with hbefore | hnew
      · exact not_client_and_ap hwell hclient hbefore
      · exact hold hlt _ hnew rfl
  | apDestroyed dead =>
    obtain rfl : dead = id := by simpa [destroyed?] using hid
    have hap := mem_aps_of_apDestroyed hmem
    have hlt := lt_created_of_ap hwell hap
    rw [live_serve hwell]
    refine ⟨hlt, .inr hap, fun hclient => ?_, ?_⟩
    · rcases LiveObjects.mem_clients_foldl_after hclient with hbefore | hnew
      · exact not_client_and_ap hwell hbefore hap
      · exact hold hlt _ hnew rfl
    · exact LiveObjects.notMem_aps_foldl_after hmem fun hnew => hold hlt _ hnew rfl

/-- No object comes up twice where all are torn down. -/
theorem pairwise_lifecycle_tearDownInterfaces (hwell : s.WellNamed) :
    (s.lifecycle ⟨k, .tearDownInterfaces⟩).Pairwise Precedes := by
  simp only [lifecycle, List.pairwise_append, List.pairwise_map]
  refine ⟨?_, ?_, ?_⟩
  · refine (OrderedMap.nodup_toList s.clientInterfaces).imp_of_mem ?_
    rintro ⟨name, client⟩ ⟨name', client'⟩ hc hc' hne
    apply precedes_of_destroyed? rfl
    intro hid
    rw [Std.ExtTreeMap.mem_toList_iff_getElem?_eq_some] at hc hc'
    have hname := hwell.clients name' name client' client hc' hc hid
    subst hname
    rw [hc] at hc'
    exact hne (by rw [Option.some.inj hc'])
  · refine (OrderedMap.nodup_toList s.apInterfaces).imp_of_mem ?_
    rintro ⟨name, ap⟩ ⟨name', ap'⟩ ha ha' hne
    apply precedes_of_destroyed? rfl
    intro hid
    rw [Std.ExtTreeMap.mem_toList_iff_getElem?_eq_some] at ha ha'
    have hname := hwell.aps name' name ap' ap ha' ha hid
    subst hname
    rw [ha] at ha'
    exact hne (by rw [Option.some.inj ha'])
  · intro event hevent later hlater
    obtain ⟨⟨name, client⟩, hc, rfl⟩ := List.mem_map.mp hevent
    obtain ⟨⟨name', ap⟩, ha, rfl⟩ := List.mem_map.mp hlater
    rw [Std.ExtTreeMap.mem_toList_iff_getElem?_eq_some] at hc ha
    apply precedes_of_destroyed? rfl
    exact (hwell.apart name name' client ap hc ha).symm

theorem pairwise_announcedEvents (hwell : s.WellNamed) (call : Call) :
    (s.announcedEvents call).Pairwise Precedes := by
  obtain ⟨k, request⟩ := call
  cases request with
  | createClientInterface name | createApInterface name =>
    simp only [announcedEvents]
    split_ifs <;> simp
  | tearDownClientInterface name =>
    simp only [announcedEvents, lifecycle]
    cases s.clientInterfaces[name]? <;> simp
  | tearDownApInterface name =>
    simp only [announcedEvents, lifecycle]
    cases s.apInterfaces[name]? <;> simp
  | tearDownInterfaces => exact pairwise_lifecycle_tearDownInterfaces (k := k) hwell
  | _ => simp [announcedEvents, lifecycle]

/-- What was heard is in order, and about objects of the past and the present. -/
structure Orderly (callback : ℕ) (s : Server) : Prop where
  wellNamed : s.WellNamed
  nodup : s.interfaceEventCallbacks.Nodup
  ordered : (heardEvents callback s).Pairwise Precedes
  made : ∀ event ∈ heardEvents callback s, ∀ id, event.constructed? = some id →
    id < s.platform.created
  gone : ∀ event ∈ heardEvents callback s, ∀ id, event.destroyed? = some id →
    id < s.platform.created ∧ id ∉ s.live.clients ∧ id ∉ s.live.aps

theorem nodup_interfaceEventCallbacks_serve (h : s.interfaceEventCallbacks.Nodup) :
    (s.serve call).interfaceEventCallbacks.Nodup := by
  obtain ⟨k, request⟩ := call
  cases request with
  | registerCallback target =>
    simp only [serve, registerCallback]
    split_ifs with hmem
    · exact h
    · refine List.nodup_append.mpr ⟨h, by simp, fun other hother added hadded heq => ?_⟩
      rw [List.mem_singleton.mp hadded] at heq
      exact hmem (heq ▸ hother)
  | unregisterCallback target => exact h.erase target
  | registerWificondEventCallback target =>
    simp only [serve, registerWificondEventCallback]
    split_ifs <;> exact h
  | unregisterWificondEventCallback target => exact h
  | _ =>
    rw [(sameCallbacks_serve id).interfaceEventCallbacks]
    exact h

/-- An event of a call is one that was heard before it, or one of its own. -/
theorem mem_heardEvents_serve (hnodup : s.interfaceEventCallbacks.Nodup)
    (h : event ∈ heardEvents callback (s.serve call)) :
    event ∈ heardEvents callback s ∨ event ∈ s.announcedEvents call := by
  rw [heardEvents_serve hnodup] at h
  rcases List.mem_append.mp h with hbefore | hnow
  · exact .inl hbefore
  · split_ifs at hnow
    · exact .inr hnow
    · simp at hnow

/-- The events of a call come behind what was heard. -/
theorem precedes_announcedEvents (h : s.Orderly callback) {later : LifecycleEvent}
    (hevent : event ∈ heardEvents callback s) (hlater : later ∈ s.announcedEvents call) :
    event.Precedes later := by
  have hmem := mem_lifecycle_of_mem_announcedEvents hlater
  refine ⟨fun id hid hsubject => ?_, fun id id' hid hid' => ?_⟩
  · obtain ⟨hlt, hclient, hap⟩ := h.gone event hevent id hid
    cases hdestroyed : later.destroyed? with
    | some dead =>
      obtain ⟨-, hlive, -⟩ := gone_serve h.wellNamed hmem hdestroyed
      have hdead : dead = id := (subject_of_destroyed? hdestroyed).symm.trans hsubject
      rw [hdead] at hlive
      exact hlive.elim hclient hap
    | none =>
      obtain ⟨new, hnew⟩ : ∃ new, later.constructed? = some new := by
        cases later <;> simp_all [destroyed?, constructed?]
      have hsame : new = id := (subject_of_constructed? hnew).symm.trans hsubject
      exact Nat.ne_of_lt hlt (hsame ▸ (eq_created_of_constructed hmem hnew).1)
  · rw [(eq_created_of_constructed hmem hid').1]
    exact h.made event hevent id hid

theorem orderly_serve (h : s.Orderly callback) (call : Call) :
    (s.serve call).Orderly callback where
  wellNamed := wellNamed_serve h.wellNamed
  nodup := nodup_interfaceEventCallbacks_serve h.nodup
  ordered := by
    rw [heardEvents_serve h.nodup]
    split_ifs
    · refine List.pairwise_append.mpr ⟨h.ordered, pairwise_announcedEvents h.wellNamed call, ?_⟩
      exact fun event hevent later hlater => precedes_announcedEvents h hevent hlater
    · rw [List.append_nil]
      exact h.ordered
  made event hevent id hid := by
    rcases mem_heardEvents_serve h.nodup hevent with hbefore | hnow
    · exact lt_of_lt_of_le (h.made event hbefore id hid) created_le_serve
    · obtain ⟨rfl, hcreated⟩ :=
        eq_created_of_constructed (mem_lifecycle_of_mem_announcedEvents hnow) hid
      rw [hcreated]
      exact Nat.lt_succ_self _
  gone event hevent id hid := by
    rcases mem_heardEvents_serve h.nodup hevent with hbefore | hnow
    · obtain ⟨hlt, hclient, hap⟩ := h.gone event hbefore id hid
      refine ⟨lt_of_lt_of_le hlt created_le_serve, fun hmem => ?_, fun hmem => ?_⟩
      · rw [live_serve h.wellNamed] at hmem
        rcases LiveObjects.mem_clients_foldl_after hmem with hold | hnew
        · exact hclient hold
        · exact Nat.ne_of_lt hlt (eq_created_of_constructed hnew rfl).1
      · rw [live_serve h.wellNamed] at hmem
        rcases LiveObjects.mem_aps_foldl_after hmem with hold | hnew
        · exact hap hold
        · exact Nat.ne_of_lt hlt (eq_created_of_constructed hnew rfl).1
    · obtain ⟨hlt, -, hafter⟩ :=
        gone_serve h.wellNamed (mem_lifecycle_of_mem_announcedEvents hnow) hid
      exact ⟨lt_of_lt_of_le hlt created_le_serve, hafter⟩

theorem orderly_fresh (callback : ℕ) : fresh.Orderly callback :=
  ⟨wellNamed_fresh, List.nodup_nil, List.Pairwise.nil, by simp [heardEvents, fresh],
    by simp [heardEvents, fresh]⟩

/-- A callback that was there from the start has heard of everything that is live, and of
everything that it heard is gone. -/
structure HeardAll (callback : ℕ) (s : Server) : Prop where
  registered : callback ∈ s.interfaceEventCallbacks
  clients : ∀ id, id ∈ s.live.clients ∨ .clientDestroyed id ∈ heardEvents callback s →
    .clientConstructed id ∈ heardEvents callback s
  aps : ∀ id, id ∈ s.live.aps ∨ .apDestroyed id ∈ heardEvents callback s →
    .apConstructed id ∈ heardEvents callback s

theorem heardAll_serve (horderly : s.Orderly callback) (h : s.HeardAll callback)
    (hstays : call.request ≠ .unregisterCallback callback) : (s.serve call).HeardAll callback := by
  have hheard : heardEvents callback (s.serve call) =
      heardEvents callback s ++ s.announcedEvents call := by
    rw [heardEvents_serve horderly.nodup, if_pos h.registered]
  refine ⟨mem_serve h.registered hstays, fun id hid => ?_, fun id hid => ?_⟩
  · rw [hheard, live_serve horderly.wellNamed, List.mem_append] at hid
    rw [hheard, List.mem_append]
    rcases hid with hlive | hbefore | hnow
    · rcases LiveObjects.mem_clients_foldl_after hlive with hold | hnew
      · exact .inl (h.clients id (.inl hold))
      · exact .inr (clientConstructed_mem_announcedEvents hnew)
    · exact .inl (h.clients id (.inr hbefore))
    · have hmem := mem_lifecycle_of_mem_announcedEvents hnow
      exact .inl (h.clients id (.inl (mem_clients_of_clientDestroyed hmem)))
  · rw [hheard, live_serve horderly.wellNamed, List.mem_append] at hid
    rw [hheard, List.mem_append]
    rcases hid with hlive | hbefore | hnow
    · rcases LiveObjects.mem_aps_foldl_after hlive with hold | hnew
      · exact .inl (h.aps id (.inl hold))
      · exact .inr (apConstructed_mem_announcedEvents hnew)
    · exact .inl (h.aps id (.inr hbefore))
    · have hmem := mem_lifecycle_of_mem_announcedEvents hnow
      exact .inl (h.aps id (.inl (mem_aps_of_apDestroyed hmem)))

/-- Nothing about an object comes before it is ready: it would come behind its end. -/
theorem mem_before {pre post : List LifecycleEvent} {ready : LifecycleEvent}
    (hordered : (pre ++ event :: post).Pairwise Precedes) (hdestroyed : event.destroyed? = some id)
    (hready : ready.constructed? = some id) (hmem : ready ∈ pre ++ event :: post) :
    ready ∈ pre := by
  rcases List.mem_append.mp hmem with hpre | hrest
  · exact hpre
  · obtain ⟨-, hpost, -⟩ := List.pairwise_append.mp hordered
    rcases List.mem_cons.mp hrest with rfl | hbehind
    · cases ready <;> simp_all [destroyed?, constructed?]
    · have hprecedes := (List.pairwise_cons.mp hpost).1 ready hbehind
      exact absurd (subject_of_constructed? hready) (hprecedes.gone id hdestroyed)

theorem heardAll_fresh (callback : ℕ) : (fresh.registerCallback callback).HeardAll callback where
  registered := by simp [registerCallback, fresh]
  clients id hid := by
    rcases hid with ⟨name, client, hclient, -⟩ | hgone
    · simp [registerCallback, fresh] at hclient
    · simp [heardEvents, registerCallback, fresh] at hgone
  aps id hid := by
    rcases hid with ⟨name, ap, hap, -⟩ | hgone
    · simp [registerCallback, fresh] at hap
    · simp [heardEvents, registerCallback, fresh] at hgone

/-- Whenever a callback is registered and removed, it hears of each interface at most once that
it is ready, in the order in which they are made, and at most once that it is gone, which is the
last that it hears of it. A callback that stays registered hears that an interface is gone only
behind that it is ready. -/
theorem announcements_in_order (callback : ℕ) (calls : List Call) :
    (heardEvents callback (calls.foldl serve fresh)).Pairwise Precedes ∧
    ((∀ call ∈ calls, call.request ≠ .unregisterCallback callback) →
      ∀ pre event post,
        heardEvents callback (calls.foldl serve (fresh.registerCallback callback)) =
          pre ++ event :: post →
        (∀ id, event = .clientDestroyed id → .clientConstructed id ∈ pre) ∧
        ∀ id, event = .apDestroyed id → .apConstructed id ∈ pre) := by
  constructor
  · have hend : fresh.Orderly callback → (calls.foldl serve fresh).Orderly callback :=
      Runs.foldl_related (R := fun s t : Server => s.Orderly callback → t.Orderly callback)
        (fun _ => id) (fun _ _ _ h h' => h' ∘ h) fun _ call h => orderly_serve h call
    exact (hend (orderly_fresh callback)).ordered
  · intro hstays pre event post hsplit
    have hstart : (fresh.registerCallback callback).Orderly callback :=
      orderly_serve (orderly_fresh callback) ⟨.oneInterface [], .registerCallback callback⟩
    have halways : Runs.Always serve (fun s => s.Orderly callback ∧ s.HeardAll callback)
        (fresh.registerCallback callback) calls :=
      Runs.always_of_along (P := fun _ call => call.request ≠ .unregisterCallback callback)
        (fun _ _ h hcall => ⟨orderly_serve h.1 _, heardAll_serve h.1 h.2 hcall⟩)
        ⟨hstart, heardAll_fresh callback⟩
        (Runs.along_of_forall fun call hcall _ => hstays call hcall)
    obtain ⟨horderly, hall⟩ := Runs.always_iff_foldl.mp halways calls (List.prefix_refl calls)
    have hordered := horderly.ordered
    rw [hsplit] at hordered
    have hmem : event ∈
        heardEvents callback (calls.foldl serve (fresh.registerCallback callback)) :=
      hsplit ▸ List.mem_append_right pre List.mem_cons_self
    constructor
    · rintro id rfl
      exact mem_before hordered rfl rfl (hsplit ▸ hall.clients id (.inr hmem))
    · rintro id rfl
      exact mem_before hordered rfl rfl (hsplit ▸ hall.aps id (.inr hmem))

/-- A client that comes and goes, heard of in this order. -/
theorem announcements_in_order_of_one :
    let calls : List Call := [⟨.oneInterface [119], .createClientInterface [119]⟩,
      ⟨.oneInterface [119], .tearDownClientInterface [119]⟩]
    heardEvents 5 (calls.foldl serve (fresh.registerCallback 5)) =
        [.clientConstructed 0, .clientDestroyed 0] ∧
      LifecycleEvent.clientConstructed 0 ∈ [LifecycleEvent.clientConstructed 0] := by
  intro calls
  have hheard : heardEvents 5 (calls.foldl serve (fresh.registerCallback 5)) =
      [.clientConstructed 0] ++ [.clientDestroyed 0] := by decide
  exact ⟨hheard, ((announcements_in_order 5 calls).2 (by simp [calls]) _ _ [] hheard).1 0 rfl⟩

end Server

end Wificond
