import Wificond.ServerBands
import Wificond.ServerOwners

/-!
# Tearing everything down

`tearDownInterfaces` works through the wiphys on record when it drops regulatory
subscriptions and bands. A wiphy that was subscribed or mapped to a band and is on record
no more, or never was, is passed over.
-/
namespace Wificond.Server

variable {s : Server} {w : UInt32}

/-- Nothing that belongs to an interface is left. -/
structure CleanedUp (s : Server) : Prop where
  clients : s.clientInterfaces = ∅
  aps : s.apInterfaces = ∅
  wiphys : s.ifaceToWiphyIndexMap = ∅
  bands : s.bandToWiphyIndexMap = ∅
  handlers : ∀ table index, s.platform.netlink.handler? table index = none
  regDomain : s.platform.netlink.onRegDomainChangedHandler = ∅

/-- Every wiphy that is subscribed or mapped to a band is the wiphy on record of some name. -/
structure WiphysOnRecord (s : Server) : Prop where
  regDomain : ∀ w ∈ s.platform.netlink.onRegDomainChangedHandler, s.OnRecord w
  bands : ∀ (band w : UInt32), s.bandToWiphyIndexMap[band]? = some w → s.OnRecord w

theorem not_onRecord_iff :
    ¬ s.OnRecord w ↔ ∀ entry ∈ s.ifaceToWiphyIndexMap.toList, w ≠ entry.2 := by
  constructor
  · intro h entry hmem heq
    exact h ⟨entry.1, heq ▸ Std.ExtTreeMap.mem_toList_iff_getElem?_eq_some.mp hmem⟩
  · intro h hrecord
    obtain ⟨name, hname⟩ := hrecord
    exact h (name, w) (Std.ExtTreeMap.mem_toList_iff_getElem?_eq_some.mpr hname) rfl

/-- The objects go first, and the records of wiphys and bands are not touched by that. -/
theorem records_clearInterfaces :
    s.clearClientInterfaces.clearApInterfaces.markDownAllInterfaces.ifaceToWiphyIndexMap =
        s.ifaceToWiphyIndexMap ∧
      s.clearClientInterfaces.clearApInterfaces.markDownAllInterfaces.bandToWiphyIndexMap =
        s.bandToWiphyIndexMap :=
  ⟨records_clearApInterfaces.1.trans records_clearClientInterfaces.1,
    records_clearApInterfaces.2.trans records_clearClientInterfaces.2⟩

theorem netlink_clearClientInterfaces :
    s.clearClientInterfaces.platform.netlink.onRegDomainChangedHandler =
      s.platform.netlink.onRegDomainChangedHandler := by
  have htold : (s.clientInterfaces.toList.foldl
      (fun s entry => s.broadcastClientInterfaceTornDown entry.2.id) s).platform = s.platform :=
    Runs.foldl_frame platform fun _ _ => rfl
  rw [← htold]
  exact Runs.foldl_frame (fun p : Platform => p.netlink.onRegDomainChangedHandler) fun _ _ => rfl

theorem netlink_clearApInterfaces :
    s.clearApInterfaces.platform.netlink.onRegDomainChangedHandler =
      s.platform.netlink.onRegDomainChangedHandler := by
  have htold : (s.apInterfaces.toList.foldl
      (fun s entry => s.broadcastApInterfaceTornDown entry.2.id) s).platform = s.platform :=
    Runs.foldl_frame platform fun _ _ => rfl
  rw [← htold]
  exact Runs.foldl_frame (fun p : Platform => p.netlink.onRegDomainChangedHandler) fun _ _ => rfl

/-- The loop over the wiphys on record drops their subscriptions. -/
theorem mem_foldl_unsubscribe (l : List (IfaceName × UInt32)) :
    w ∈ (l.foldl (fun s entry =>
        (s.unsubscribeRegDomainChange entry.2).eraseBandWiphyIndexMap entry.2.toInt32)
        s).platform.netlink.onRegDomainChangedHandler ↔
      w ∈ s.platform.netlink.onRegDomainChangedHandler ∧ ∀ entry ∈ l, w ≠ entry.2 := by
  induction l generalizing s with
  | nil => simp
  | cons entry l ih =>
    rw [List.foldl_cons, ih, List.forall_mem_cons, ← and_assoc]
    refine and_congr_left fun _ => ?_
    simp [eraseBandWiphyIndexMap, unsubscribeRegDomainChange,
      NetlinkManager.unsubscribeRegDomainChange, and_comm, eq_comm (a := w)]

/-- What is left subscribed is what was on record for no name. -/
theorem mem_regDomain_tearDownInterfaces :
    w ∈ s.tearDownInterfaces.platform.netlink.onRegDomainChangedHandler ↔
      w ∈ s.platform.netlink.onRegDomainChangedHandler ∧ ¬ s.OnRecord w := by
  have hdown : s.clearClientInterfaces.clearApInterfaces.markDownAllInterfaces.platform.netlink =
      s.clearClientInterfaces.clearApInterfaces.platform.netlink :=
    Runs.foldl_frame (σ := Platform) Platform.netlink fun _ _ => rfl
  have hloop := mem_foldl_unsubscribe (w := w)
    (s := s.clearClientInterfaces.clearApInterfaces.markDownAllInterfaces)
    s.ifaceToWiphyIndexMap.toList
  rw [hdown, netlink_clearApInterfaces, netlink_clearClientInterfaces,
    ← records_clearInterfaces.1] at hloop
  rw [not_onRecord_iff, ← records_clearInterfaces.1]
  exact hloop

theorem getElem?_bands_tearDownInterfaces {band : UInt32} :
    s.tearDownInterfaces.bandToWiphyIndexMap[band]? = some w ↔
      s.bandToWiphyIndexMap[band]? = some w ∧ ¬ s.OnRecord w := by
  have hloop := @getElem?_foldl_eraseBand
    s.clearClientInterfaces.clearApInterfaces.markDownAllInterfaces band w
    s.ifaceToWiphyIndexMap.toList
  rw [records_clearInterfaces.2, ← records_clearInterfaces.1] at hloop
  rw [not_onRecord_iff, ← records_clearInterfaces.1]
  exact hloop

/-- Whatever handlers belong to the server's objects, a wiphy that is not on record is the
one thing that a tear down leaves behind. -/
theorem cleanedUp_tearDownInterfaces_iff (howned : s.HandlersOwned) :
    s.tearDownInterfaces.CleanedUp ↔ s.WiphysOnRecord := by
  constructor
  · intro h
    constructor
    · intro w hw
      by_contra hrecord
      have hleft := mem_regDomain_tearDownInterfaces.mpr ⟨hw, hrecord⟩
      rw [h.regDomain] at hleft
      exact absurd hleft (by simp)
    · intro band w hw
      by_contra hrecord
      have hleft := getElem?_bands_tearDownInterfaces.mpr ⟨hw, hrecord⟩
      rw [h.bands] at hleft
      exact absurd hleft (by simp)
  · intro h
    refine ⟨clientInterfaces_tearDownInterfaces, apInterfaces_tearDownInterfaces,
      ifaceToWiphyIndexMap_tearDownInterfaces, ?_, handler?_tearDownInterfaces howned, ?_⟩
    · apply Std.ExtTreeMap.ext_getElem?
      intro band
      rw [Std.ExtTreeMap.getElem?_empty, Option.eq_none_iff_forall_ne_some]
      intro w hleft
      obtain ⟨hw, hrecord⟩ := getElem?_bands_tearDownInterfaces.mp hleft
      exact hrecord (h.bands band w hw)
    · apply Std.ExtTreeSet.ext_mem
      intro w
      rw [mem_regDomain_tearDownInterfaces]
      refine iff_of_false (fun hleft => ?_) (by simp)
      obtain ⟨hw, hrecord⟩ := hleft
      exact hrecord (h.regDomain w hw)

/-- From any state a run leads to, tearing all interfaces down leads back to a clean server
exactly when the wiphys subscribed and mapped to bands are all on record. -/
theorem tearDownInterfaces_cleans_up_iff (calls : List Call) :
    (calls.foldl serve fresh).tearDownInterfaces.CleanedUp ↔
      (calls.foldl serve fresh).WiphysOnRecord := by
  apply cleanedUp_tearDownInterfaces_iff
  exact Runs.always_iff_foldl.mp (always_handlersOwned calls) calls List.prefix_rfl

/-- A client that is created and torn down leaves its wiphy subscribed. -/
theorem tearDownInterfaces_leaves_subscription :
    ¬ ([⟨.oneInterface [119], .createClientInterface [119]⟩,
      ⟨.oneInterface [119], .tearDownClientInterface [119]⟩].foldl serve
        fresh).tearDownInterfaces.CleanedUp := by
  intro h
  have hsubscribed : (0 : UInt32) ∈ ([⟨.oneInterface [119], .createClientInterface [119]⟩,
      ⟨.oneInterface [119], .tearDownClientInterface [119]⟩].foldl serve
        fresh).tearDownInterfaces.platform.netlink.onRegDomainChangedHandler := by decide
  rw [h.regDomain] at hsubscribed
  exact absurd hsubscribed (by simp)

end Wificond.Server
