import Wificond.ServerCalls

/-!
# The interface-to-wiphy map

The map is meant to hold a wiphy for each live interface of either kind. A tear
down erases the entry of its name whatever kind of interface that name is live as,
so the map keeps its meaning exactly along the runs in which no tear down names an
interface that is live as the other kind.
-/
namespace Wificond

namespace Server

variable {s t : Server} {call : Call} {k : Kernel} {ifaceName : IfaceName}

/-- The names with a wiphy are the names of the live interfaces. -/
def WiphysOfInterfaces (s : Server) : Prop :=
  ∀ name : IfaceName, name ∈ s.ifaceToWiphyIndexMap ↔
    name ∈ s.clientInterfaces ∨ name ∈ s.apInterfaces

/-- A tear down does not name an interface that is live as the other kind. -/
def KindMatches (s : Server) (call : Call) : Prop :=
  match call.request with
  | .tearDownApInterface name => name ∉ s.clientInterfaces
  | .tearDownClientInterface name => name ∉ s.apInterfaces
  | _ => True

theorem wiphysOfInterfaces_congr (h : SameObjects s t)
    (hwiphys : t.ifaceToWiphyIndexMap = s.ifaceToWiphyIndexMap) :
    t.WiphysOfInterfaces ↔ s.WiphysOfInterfaces := by
  simp only [WiphysOfInterfaces, hwiphys, h.aps, h.mem_clients]

theorem wiphysOfInterfaces_setupInterface (k : Kernel) (ifaceName : IfaceName)
    (h : s.WiphysOfInterfaces) :
    (s.setupInterface k ifaceName).2.WiphysOfInterfaces := by
  obtain ⟨regDomain, debug, heq⟩ := exists_setupInterface s k ifaceName
  rw [heq]
  exact h

theorem wiphysOfInterfaces_createClientInterface (h : s.WiphysOfInterfaces) :
    (s.createClientInterface k ifaceName).2.WiphysOfInterfaces := by
  have hsetup := wiphysOfInterfaces_setupInterface k ifaceName h
  cases hr : k.reported ifaceName with
  | none => rwa [createClientInterface_of_none hr]
  | some reported =>
    rw [createClientInterface_of_some hr]
    obtain ⟨bands, hb⟩ := exists_recordWiphyIndex
      ((s.setupInterface k ifaceName).2.addClientInterface k ifaceName reported.1 reported.2)
      k 1 ifaceName reported.2
    rw [hb]
    intro name
    have hname := hsetup name
    simp only [Std.ExtTreeMap.mem_insert, clientInterfaces_addClientInterface,
      apInterfaces_addClientInterface]
    exact (or_congr_right hname).trans or_assoc.symm

theorem wiphysOfInterfaces_createApInterface (h : s.WiphysOfInterfaces) :
    (s.createApInterface k ifaceName).2.WiphysOfInterfaces := by
  have hsetup := wiphysOfInterfaces_setupInterface k ifaceName h
  cases hr : k.reported ifaceName with
  | none => rwa [createApInterface_of_none hr]
  | some reported =>
    rw [createApInterface_of_some hr]
    obtain ⟨bands, hb⟩ := exists_recordWiphyIndex
      ((s.setupInterface k ifaceName).2.addApInterface ifaceName reported.1) k 0 ifaceName
      reported.2
    rw [hb]
    intro name
    have hname := hsetup name
    simp only [Std.ExtTreeMap.mem_insert, clientInterfaces_addApInterface,
      apInterfaces_addApInterface]
    exact (or_congr_right hname).trans or_left_comm

/-- Releasing a name keeps the map right unless the name stays live as the other kind. -/
theorem wiphysOfInterfaces_tearDownClientInterface (h : s.WiphysOfInterfaces) :
    (s.tearDownClientInterface ifaceName).2.WiphysOfInterfaces ↔
      ifaceName ∉ s.apInterfaces := by
  rw [tearDownClientInterface_eq]
  obtain ⟨bands, hb⟩ := exists_releaseWiphyIndex (s.removeClientInterface ifaceName) ifaceName
  rw [hb]
  simp only [WiphysOfInterfaces, ifaceToWiphyIndexMap_removeClientInterface,
    clientInterfaces_removeClientInterface, apInterfaces_removeClientInterface,
    Std.ExtTreeMap.mem_erase]
  constructor
  · intro hall hap
    simpa using (hall ifaceName).mpr (.inr hap)
  · intro hap name
    rw [h name]
    by_cases hname : ifaceName = name
    · subst hname
      simpa using hap
    · simp [hname]

theorem wiphysOfInterfaces_tearDownApInterface (h : s.WiphysOfInterfaces) :
    (s.tearDownApInterface ifaceName).2.WiphysOfInterfaces ↔
      ifaceName ∉ s.clientInterfaces := by
  rw [tearDownApInterface_eq]
  obtain ⟨bands, hb⟩ := exists_releaseWiphyIndex (s.removeApInterface ifaceName) ifaceName
  rw [hb]
  simp only [WiphysOfInterfaces, ifaceToWiphyIndexMap_removeApInterface,
    clientInterfaces_removeApInterface, apInterfaces_removeApInterface, Std.ExtTreeMap.mem_erase]
  constructor
  · intro hall hclient
    simpa using (hall ifaceName).mpr (.inl hclient)
  · intro hclient name
    rw [h name]
    by_cases hname : ifaceName = name
    · subst hname
      simpa using hclient
    · simp [hname]

theorem wiphysOfInterfaces_idle (hidle : call.request.Idle) (h : s.WiphysOfInterfaces) :
    (s.serve call).WiphysOfInterfaces :=
  (wiphysOfInterfaces_congr (sameObjects_serve hidle) (ifaceToWiphyIndexMap_serve s hidle)).mpr h

/-- From a state with the right map, a call leads to one exactly when the kinds match. -/
theorem wiphysOfInterfaces_serve (h : s.WiphysOfInterfaces) :
    (s.serve call).WiphysOfInterfaces ↔ s.KindMatches call := by
  obtain ⟨k, request⟩ := call
  cases request with
  | registerWificondEventCallback callback | unregisterWificondEventCallback callback
  | registerCallback callback | unregisterCallback callback | notifyCountryCodeChanged
  | onRegDomainChanged wiphyIndex countryCode =>
    exact iff_of_true (wiphysOfInterfaces_idle trivial h) trivial
  | createApInterface name => exact iff_of_true (wiphysOfInterfaces_createApInterface h) trivial
  | createClientInterface name =>
    exact iff_of_true (wiphysOfInterfaces_createClientInterface h) trivial
  | tearDownApInterface name => exact wiphysOfInterfaces_tearDownApInterface h
  | tearDownClientInterface name => exact wiphysOfInterfaces_tearDownClientInterface h
  | tearDownInterfaces =>
    refine iff_of_true (fun name => ?_) trivial
    simp [serve]

theorem wiphysOfInterfaces_fresh : fresh.WiphysOfInterfaces := by
  intro name
  simp [fresh]

/-- In a run from a fresh server, the map is right in every state exactly when no tear
down names an interface that is live as the other kind. -/
theorem iface_map_exact_iff (calls : List Call) :
    Runs.Always serve WiphysOfInterfaces fresh calls ↔
      Runs.Along serve KindMatches fresh calls :=
  Runs.always_iff_along (fun _ => True) (fun _ => True) (fun _ _ _ _ => trivial)
    (fun _ _ _ _ h => wiphysOfInterfaces_serve h) trivial wiphysOfInterfaces_fresh
    fun _ _ => trivial

/-- An AP tear down of a client's name fails, and takes the client's wiphy. -/
theorem iface_map_loses_client :
    ¬ (List.foldl serve fresh
      [⟨Kernel.oneInterface [119], .createClientInterface [119]⟩,
        ⟨Kernel.oneInterface [119], .tearDownApInterface [119]⟩]).WiphysOfInterfaces := by
  intro h
  exact absurd ((h [119]).mpr (.inl (by decide))) (by decide)

end Server

end Wificond
