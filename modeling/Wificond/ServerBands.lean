import Wificond.OwnerTable
import Wificond.ServerIfaceMap

/-!
# The band map

The map from bands to wiphys is filled when the first interface of a wiphy appears
and on a change of the country code, and emptied of a wiphy when its last interface
leaves. It names, for each band, the wiphy that owns the band whenever that wiphy
supports it and is in use, and so the channel queries read the right wiphy's lists.
-/
namespace Wificond

/-- The wiphy has a frequency in the band. -/
def BandInfo.Supports (bandInfo : BandInfo) (band : UInt32) : Prop :=
  (band = nl80211Band2ghz ∧ bandInfo.band2g ≠ []) ∨
  (band = nl80211Band5ghz ∧ (bandInfo.band5g ≠ [] ∨ bandInfo.bandDfs ≠ [])) ∨
  (band = nl80211Band6ghz ∧ bandInfo.band6g ≠ []) ∨
  (band = nl80211Band60ghz ∧ bandInfo.band60g ≠ [])

instance (bandInfo : BandInfo) (band : UInt32) : Decidable (bandInfo.Supports band) :=
  inferInstanceAs (Decidable (_ ∨ _))

namespace Server

variable {s t : Server} {k : Kernel} {number : ℕ} {ifaceName : IfaceName} {band : UInt32}
variable {wiphyIndex w : UInt32}

/-- A name on record has the wiphy. -/
def OnRecord (s : Server) (wiphyIndex : UInt32) : Prop :=
  ∃ name : IfaceName, s.ifaceToWiphyIndexMap[name]? = some wiphyIndex

/-- A live interface has the name. -/
def IsLive (s : Server) (name : IfaceName) : Prop :=
  name ∈ s.clientInterfaces ∨ name ∈ s.apInterfaces

theorem getElem?_addBand (band' : UInt32) (frequencies : List UInt32) (wiphyIndex : Int32)
    (bands : Std.ExtTreeMap UInt32 UInt32) :
    (addBand band' frequencies wiphyIndex bands)[band]? =
      bands[band]?.or
        (if band = band' ∧ frequencies ≠ [] then some wiphyIndex.toUInt32 else none) := by
  unfold addBand
  by_cases hband : band = band'
  · subst hband
    cases hb : bands[band]? <;> cases frequencies <;> simp [hb]
  · split
    · simp [Std.ExtTreeMap.getElem?_insert, hband, Ne.symm hband]
    · simp [hband]

private theorem or_ite {α : Type*} (p q : Prop) [Decidable p] [Decidable q] (a : α) :
    (if p then some a else none).or (if q then some a else none) =
      if p ∨ q then some a else none := by
  by_cases hp : p <;> simp [hp]

/-- An update adds the bands that the wiphy supports and that are not in the map. -/
theorem getElem?_updateBandWiphyIndexMap {bandInfo : BandInfo} {wiphyIndex : Int32}
    (h : getBandInfo k number wiphyIndex = some bandInfo) :
    (s.updateBandWiphyIndexMap k number wiphyIndex).bandToWiphyIndexMap[band]? =
      s.bandToWiphyIndexMap[band]?.or
        (if bandInfo.Supports band then some wiphyIndex.toUInt32 else none) := by
  simp only [updateBandWiphyIndexMap, h, getElem?_addBand, Option.or_assoc, or_ite]
  congr 2
  exact propext (by simp only [BandInfo.Supports]; tauto)

theorem getElem?_eraseBandWiphyIndexMap :
    (s.eraseBandWiphyIndexMap wiphyIndex.toInt32).bandToWiphyIndexMap[band]? = some w ↔
      s.bandToWiphyIndexMap[band]? = some w ∧ w ≠ wiphyIndex := by
  simp [eraseBandWiphyIndexMap, OrderedMap.getElem?_eraseWhere]

theorem hasNoIfaceForWiphyIndex_iff :
    s.hasNoIfaceForWiphyIndex wiphyIndex.toInt32 = true ↔ ¬ s.OnRecord wiphyIndex := by
  simp only [hasNoIfaceForWiphyIndex, UInt32.toUInt32_toInt32, List.all_eq_true, bne_iff_ne,
    OnRecord, not_exists]
  constructor
  · intro h name hname
    exact h (name, wiphyIndex) (Std.ExtTreeMap.mem_toList_iff_getElem?_eq_some.mpr hname) rfl
  · rintro h ⟨name, w⟩ hmem rfl
    exact h name (Std.ExtTreeMap.mem_toList_iff_getElem?_eq_some.mp hmem)

theorem onRecord_congr (h : t.ifaceToWiphyIndexMap = s.ifaceToWiphyIndexMap) :
    t.OnRecord = s.OnRecord := by
  funext w
  simp only [OnRecord, h]

variable {owner : UInt32 → UInt32} {lists : UInt32 → BandInfo}

/-- The band map tracks the owners of bands among the wiphys on record. -/
def BandsTrack (owner : UInt32 → UInt32) (supports : UInt32 → UInt32 → Prop) (s : Server) : Prop :=
  OwnerTable.Tracks owner s.OnRecord supports fun band => s.bandToWiphyIndexMap[band]?

theorem onRecord_recordWiphyIndex (k : Kernel) (number : ℕ) (wiphyIndex w : UInt32)
    (hfresh : s.ifaceToWiphyIndexMap[ifaceName]? = none) :
    (s.recordWiphyIndex k number ifaceName wiphyIndex).OnRecord w ↔
      s.OnRecord w ∨ w = wiphyIndex := by
  obtain ⟨bands, h⟩ := exists_recordWiphyIndex s k number ifaceName wiphyIndex
  simp only [OnRecord, h, Std.ExtTreeMap.getElem?_insert]
  constructor
  · intro hold
    obtain ⟨name, hname⟩ := hold
    split_ifs at hname
    · exact .inr (Option.some.inj hname).symm
    · exact .inl ⟨name, hname⟩
  · rintro (⟨name, hname⟩ | rfl)
    · refine ⟨name, ?_⟩
      rw [if_neg]
      · exact hname
      · intro heq
        rw [Std.LawfulEqCmp.compare_eq_iff_eq.mp heq, hname] at hfresh
        exact absurd hfresh (by simp)
    · exact ⟨ifaceName, by simp⟩

theorem bandsTrack_recordWiphyIndex
    (h : s.BandsTrack owner fun w band => (lists w).Supports band)
    (howner : ∀ w band, (lists w).Supports band → w = owner band)
    (hinfo : getBandInfo k number wiphyIndex.toInt32 = some (lists wiphyIndex))
    (hfresh : s.ifaceToWiphyIndexMap[ifaceName]? = none) :
    (s.recordWiphyIndex k number ifaceName wiphyIndex).BandsTrack owner
      fun w band => (lists w).Supports band := by
  have hrecord := fun w => onRecord_recordWiphyIndex k number wiphyIndex w hfresh
  by_cases hno : s.hasNoIfaceForWiphyIndex wiphyIndex.toInt32
  · -- the first interface of the wiphy fills in what the wiphy supports
    refine OwnerTable.Tracks.fill wiphyIndex (lists wiphyIndex).Supports h
      (howner wiphyIndex) (fun band => ?_) (fun w hw => (hrecord w).mpr (.inl hw))
      ((hrecord wiphyIndex).mpr (.inr rfl)) fun w band hw hs => ?_
    · simp only [recordWiphyIndex, hno, if_true]
      rw [getElem?_updateBandWiphyIndexMap hinfo, UInt32.toUInt32_toInt32]
    · rcases (hrecord w).mp hw with hold | rfl
      · exact .inl ⟨hold, hs⟩
      · exact .inr hs
  · refine OwnerTable.Tracks.fill wiphyIndex (fun _ => False) h
      (fun _ => False.elim) (fun band => ?_) (fun w hw => (hrecord w).mpr (.inl hw))
      ((hrecord wiphyIndex).mpr (.inr rfl)) fun w band hw hs => ?_
    · simp [recordWiphyIndex, hno]
    · rw [hasNoIfaceForWiphyIndex_iff, not_not] at hno
      rcases (hrecord w).mp hw with hold | rfl
      · exact .inl ⟨hold, hs⟩
      · exact .inl ⟨hno, hs⟩

theorem bandsTrack_releaseWiphyIndex
    (h : s.BandsTrack owner fun w band => (lists w).Supports band)
    (howner : ∀ w band, (lists w).Supports band → w = owner band) :
    (s.releaseWiphyIndex ifaceName).BandsTrack owner fun w band => (lists w).Supports band := by
  unfold releaseWiphyIndex
  split
  · exact h
  · next wiphyIndex hname =>
    dsimp only
    have hold : ∀ w, (∃ name : IfaceName,
        (s.ifaceToWiphyIndexMap.erase ifaceName)[name]? = some w) → s.OnRecord w := by
      intro w hrecord
      obtain ⟨name, hw⟩ := hrecord
      rw [Std.ExtTreeMap.getElem?_erase] at hw
      split_ifs at hw
      exact ⟨name, hw⟩
    have hother : ∀ w, w ≠ wiphyIndex → s.OnRecord w → ∃ name : IfaceName,
        (s.ifaceToWiphyIndexMap.erase ifaceName)[name]? = some w := by
      intro w hne hrecord
      obtain ⟨name, hw⟩ := hrecord
      refine ⟨name, ?_⟩
      rw [Std.ExtTreeMap.getElem?_erase, if_neg]
      · exact hw
      · intro heq
        rw [← Std.LawfulEqCmp.compare_eq_iff_eq.mp heq, hname] at hw
        exact hne (Option.some.inj hw).symm
    split
    · next hno =>
      rw [hasNoIfaceForWiphyIndex_iff] at hno
      refine OwnerTable.Tracks.drop (w := wiphyIndex) h howner
        (fun band w => getElem?_eraseBandWiphyIndexMap) fun w => ⟨fun hw => ⟨hold w hw, ?_⟩, ?_⟩
      · rintro rfl
        exact hno hw
      · intro hkept
        obtain ⟨hw, hne⟩ := hkept
        exact hother w hne hw
    · next hno =>
      rw [hasNoIfaceForWiphyIndex_iff, not_not] at hno
      refine ⟨fun band w hentry => ?_, fun band w hw hs => h.isSome band w (hold w hw) hs⟩
      obtain ⟨hown, hw⟩ := h.entry band w hentry
      refine ⟨hown, ?_⟩
      by_cases hne : w = wiphyIndex
      · exact hne ▸ hno
      · exact hother w hne hw

variable {wiphyOf : IfaceName → UInt32}

theorem getBandInfo_eq (hsmall : wiphyIndex.toNat < 2 ^ 31)
    (hinfo : ∀ number w, k.getWiphyInfo number w = some (lists w)) :
    getBandInfo k number wiphyIndex.toInt32 = some (lists wiphyIndex) := by
  have hne : wiphyIndex.toInt32 ≠ -1 := by
    intro heq
    have hback := congrArg Int32.toUInt32 heq
    rw [UInt32.toUInt32_toInt32] at hback
    subst hback
    exact absurd hsmall (by decide)
  rw [getBandInfo, if_neg hne, UInt32.toUInt32_toInt32, hinfo]

/-- The loops of a country code change, on the way: the wiphys handled so far have their
current bands in the map. -/
def Refreshed (owner : UInt32 → UInt32) (lists : UInt32 → BandInfo) (s : Server)
    (state : Server × List UInt32) : Prop :=
  state.1.ifaceToWiphyIndexMap = s.ifaceToWiphyIndexMap ∧
  OwnerTable.Tracks owner s.OnRecord (fun w band => w ∈ state.2 ∧ (lists w).Supports band)
    fun band => state.1.bandToWiphyIndexMap[band]?

theorem subset_handleInterface (k : Kernel) (number : ℕ) (ifaceName : IfaceName)
    (state : Server × List UInt32) :
    state.2 ⊆ (handleInterface k number ifaceName state).2 := by
  unfold handleInterface
  split
  · exact fun w hw => hw
  · split_ifs
    · exact fun w hw => hw
    · exact fun w hw => List.mem_cons_of_mem _ hw

theorem refreshed_handleInterface {state : Server × List UInt32}
    (h : Refreshed owner lists s state)
    (hwiphy : k.getWiphyIndex number ifaceName = some wiphyIndex)
    (hrecord : s.OnRecord wiphyIndex) (hsmall : wiphyIndex.toNat < 2 ^ 31)
    (hinfo : ∀ number w, k.getWiphyInfo number w = some (lists w))
    (howner : ∀ w band, (lists w).Supports band → w = owner band) :
    Refreshed owner lists s (handleInterface k number ifaceName state) ∧
      wiphyIndex ∈ (handleInterface k number ifaceName state).2 := by
  simp only [handleInterface, hwiphy]
  split_ifs with hhandled
  · exact ⟨h, hhandled⟩
  · refine ⟨⟨?_, ?_⟩, by simp⟩
    · obtain ⟨bands, heq⟩ := exists_updateBandWiphyIndexMap state.1 k (2 * number + 1)
        wiphyIndex.toInt32
      rw [heq]
      exact h.1
    · refine OwnerTable.Tracks.fill wiphyIndex (lists wiphyIndex).Supports h.2
        (howner wiphyIndex) (fun band => ?_) (fun w hw => hw) hrecord fun w band hw hs => ?_
      · rw [getElem?_updateBandWiphyIndexMap (getBandInfo_eq hsmall hinfo),
          UInt32.toUInt32_toInt32]
      · rcases List.mem_cons.mp hs.1 with rfl | hmem
        · exact .inr hs.2
        · exact .inl ⟨hw, hmem, hs.2⟩

theorem refreshed_updateClientBandInfo {state : Server × List UInt32}
    (h : Refreshed owner lists s state) :
    Refreshed owner lists s (state.1.updateClientBandInfo k number ifaceName, state.2) := by
  unfold updateClientBandInfo
  split
  · exact h
  · exact h

/-- Both loops of a country code change handle the wiphys of all interfaces they go through. -/
theorem refreshed_foldl (prepare : Server × List UInt32 → IfaceName × ℕ → Server × List UInt32)
    {state : Server × List UInt32} {entries : List (IfaceName × ℕ)}
    (hprepare : ∀ state entry, Refreshed owner lists s state →
      Refreshed owner lists s (prepare state entry))
    (hhandled : ∀ state entry, (prepare state entry).2 = state.2)
    (hwiphy : ∀ entry ∈ entries, k.getWiphyIndex entry.2 entry.1 = some (wiphyOf entry.1))
    (hrecord : ∀ entry ∈ entries, s.OnRecord (wiphyOf entry.1))
    (hsmall : ∀ name, (wiphyOf name).toNat < 2 ^ 31)
    (hinfo : ∀ number w, k.getWiphyInfo number w = some (lists w))
    (howner : ∀ w band, (lists w).Supports band → w = owner band)
    (h : Refreshed owner lists s state) :
    let last := entries.foldl
      (fun state entry => handleInterface k entry.2 entry.1 (prepare state entry)) state
    (Refreshed owner lists s last ∧ state.2 ⊆ last.2) ∧
      ∀ entry ∈ entries, wiphyOf entry.1 ∈ last.2 := by
  let Handled : IfaceName × ℕ → Server × List UInt32 → Prop :=
    fun entry state => wiphyOf entry.1 ∈ state.2
  refine Runs.foldl_collects (fun state' => Refreshed owner lists s state' ∧ state.2 ⊆ state'.2)
    Handled (fun state' entry hmem hstate => ?_) (fun state' entry _ hb => ?_) ⟨h, fun w hw => hw⟩
  · have hsub := subset_handleInterface k entry.2 entry.1 (prepare state' entry)
    rw [hhandled] at hsub
    obtain ⟨hnext, hnew⟩ := refreshed_handleInterface (hprepare state' entry hstate.1)
      (hwiphy entry hmem) (hrecord entry hmem) (hsmall _) hinfo howner
    exact ⟨⟨hnext, fun w hw => hsub (hstate.2 hw)⟩, hnew⟩
  · apply subset_handleInterface k entry.2 entry.1 (prepare state' entry)
    rw [hhandled]
    exact hb

theorem mem_zipIdx_of_mem {names : List IfaceName} {name : IfaceName} (h : name ∈ names) (n : ℕ) :
    ∃ entry ∈ names.zipIdx n, entry.1 = name := by
  have hkey : name ∈ (names.zipIdx n).map Prod.fst := by rwa [List.zipIdx_map_fst]
  exact List.mem_map.mp hkey

/-- A country code change brings the bands of all wiphys in use up to date. -/
theorem bandsTrack_handleCountryCodeChanged {supports : UInt32 → UInt32 → Prop}
    (h : s.BandsTrack owner supports)
    (hlive : ∀ w, s.OnRecord w ↔ ∃ name, s.IsLive name ∧ wiphyOf name = w)
    (hsmall : ∀ name, (wiphyOf name).toNat < 2 ^ 31)
    (hwiphy : ∀ number name, s.IsLive name → k.getWiphyIndex number name = some (wiphyOf name))
    (hinfo : ∀ number w, k.getWiphyInfo number w = some (lists w))
    (howner : ∀ w band, (lists w).Supports band → w = owner band) :
    (s.handleCountryCodeChanged k).BandsTrack owner fun w band => (lists w).Supports band := by
  have hrecord : ∀ name, s.IsLive name → s.OnRecord (wiphyOf name) :=
    fun name hname => (hlive _).mpr ⟨name, hname, rfl⟩
  have hclient : ∀ n, ∀ entry ∈ s.clientInterfaces.keys.zipIdx n, s.IsLive entry.1 :=
    fun n entry hmem => .inl (Std.ExtTreeMap.mem_keys.mp (List.fst_mem_of_mem_zipIdx hmem))
  have hap : ∀ n, ∀ entry ∈ s.apInterfaces.keys.zipIdx n, s.IsLive entry.1 :=
    fun n entry hmem => .inr (Std.ExtTreeMap.mem_keys.mp (List.fst_mem_of_mem_zipIdx hmem))
  have hstart : Refreshed owner lists s (s, []) := ⟨rfl, h.mono (by simp)⟩
  obtain ⟨⟨hfirst, -⟩, hclients⟩ := refreshed_foldl
    (fun state entry => (state.1.updateClientBandInfo k entry.2 entry.1, state.2))
    (fun _ _ => refreshed_updateClientBandInfo) (fun _ _ => rfl)
    (fun entry hmem => hwiphy _ _ (hclient 0 entry hmem))
    (fun entry hmem => hrecord _ (hclient 0 entry hmem)) hsmall hinfo howner hstart
  obtain ⟨⟨hlast, hkept⟩, haps⟩ := refreshed_foldl (fun state _ => state)
    (fun _ _ => id) (fun _ _ => rfl)
    (fun entry hmem => hwiphy _ _ (hap s.clientInterfaces.keys.length entry hmem))
    (fun entry hmem => hrecord _ (hap _ entry hmem)) hsmall hinfo howner hfirst
  have hsame : (s.handleCountryCodeChanged k).OnRecord = s.OnRecord := onRecord_congr hlast.1
  rw [BandsTrack, hsame]
  refine hlast.2.mono fun w band hw hs => ⟨?_, hs⟩
  obtain ⟨name, hname | hname, rfl⟩ := (hlive w).mp hw
  · obtain ⟨entry, hmem, rfl⟩ := mem_zipIdx_of_mem (Std.ExtTreeMap.mem_keys.mpr hname) 0
    exact hkept (hclients entry hmem)
  · obtain ⟨entry, hmem, rfl⟩ := mem_zipIdx_of_mem (Std.ExtTreeMap.mem_keys.mpr hname) _
    exact haps entry hmem

/-- The loop over the wiphys on record takes their bands off the map. -/
theorem getElem?_foldl_eraseBand (l : List (IfaceName × UInt32)) :
    (l.foldl (fun s entry =>
      (s.unsubscribeRegDomainChange entry.2).eraseBandWiphyIndexMap entry.2.toInt32)
      s).bandToWiphyIndexMap[band]? = some w ↔
      s.bandToWiphyIndexMap[band]? = some w ∧ ∀ entry ∈ l, w ≠ entry.2 := by
  induction l generalizing s with
  | nil => simp
  | cons entry l ih =>
    rw [List.foldl_cons, ih, getElem?_eraseBandWiphyIndexMap, List.forall_mem_cons, and_assoc]
    exact Iff.rfl

theorem records_clearClientInterfaces :
    s.clearClientInterfaces.ifaceToWiphyIndexMap = s.ifaceToWiphyIndexMap ∧
      s.clearClientInterfaces.bandToWiphyIndexMap = s.bandToWiphyIndexMap :=
  ⟨Runs.foldl_frame ifaceToWiphyIndexMap fun _ _ => rfl,
    Runs.foldl_frame bandToWiphyIndexMap fun _ _ => rfl⟩

theorem records_clearApInterfaces :
    s.clearApInterfaces.ifaceToWiphyIndexMap = s.ifaceToWiphyIndexMap ∧
      s.clearApInterfaces.bandToWiphyIndexMap = s.bandToWiphyIndexMap :=
  ⟨Runs.foldl_frame ifaceToWiphyIndexMap fun _ _ => rfl,
    Runs.foldl_frame bandToWiphyIndexMap fun _ _ => rfl⟩

/-- Nothing is on record afterwards, and every band entry was for a wiphy on record. -/
theorem bandsTrack_tearDownInterfaces {supports supports' : UInt32 → UInt32 → Prop}
    (h : s.BandsTrack owner supports) : s.tearDownInterfaces.BandsTrack owner supports' := by
  have hwiphys := (records_clearApInterfaces (s := s.clearClientInterfaces)).1.trans
    records_clearClientInterfaces.1
  have hbands := (records_clearApInterfaces (s := s.clearClientInterfaces)).2.trans
    records_clearClientInterfaces.2
  refine ⟨fun band w hentry => ?_, fun band w hw => ?_⟩
  · obtain ⟨hold, hgone⟩ := getElem?_foldl_eraseBand _ |>.mp hentry
    obtain ⟨-, name, hname⟩ := h.entry band w (by rw [← hbands]; exact hold)
    rw [← hwiphys] at hname
    exact absurd rfl (hgone (name, w) (Std.ExtTreeMap.mem_toList_iff_getElem?_eq_some.mpr hname))
  · obtain ⟨name, hname⟩ := hw
    simp at hname

/-- What is assumed of a call in a state: the kernel maps every name to a fixed wiphy and,
unless a creation fails, finds it; wiphy information is always to be had, and the channel
lists it gives change with country code notifications only; a band is supported by its
owner at most; no live name is created again, and tear downs match in kind. -/
structure Admissible (wiphyOf : IfaceName → UInt32) (owner : UInt32 → UInt32)
    (state : Server × (UInt32 → BandInfo)) (step : Call × (UInt32 → BandInfo)) : Prop where
  wiphy : ∀ number name w, step.1.kernel.getWiphyIndex number name = some w → w = wiphyOf name
  liveWiphy : step.1.request.Idle → ∀ number name, state.1.IsLive name →
    step.1.kernel.getWiphyIndex number name = some (wiphyOf name)
  info : ∀ number w, step.1.kernel.getWiphyInfo number w = some (step.2 w)
  lists : step.2 = state.2 ∨ step.1.request = .notifyCountryCodeChanged
  owner : ∀ w band, (step.2 w).Supports band → w = owner band
  creates : ∀ name, step.1.request = .createApInterface name ∨
    step.1.request = .createClientInterface name →
    (step.1.kernel.reported name).isSome → ¬ state.1.IsLive name
  kind : state.1.KindMatches step.1

/-- A call, and the channel lists in force from it on. -/
def serveListed (state : Server × (UInt32 → BandInfo)) (step : Call × (UInt32 → BandInfo)) :
    Server × (UInt32 → BandInfo) :=
  (state.1.serve step.1, step.2)

structure BandsTracked (wiphyOf : IfaceName → UInt32) (owner : UInt32 → UInt32)
    (lists : UInt32 → BandInfo) (s : Server) : Prop where
  names : s.WiphysOfInterfaces
  wiphy : ∀ (name : IfaceName) w, s.ifaceToWiphyIndexMap[name]? = some w → w = wiphyOf name
  bands : s.BandsTrack owner fun w band => (lists w).Supports band

theorem bandsTrack_congr {supports : UInt32 → UInt32 → Prop}
    (hwiphys : t.ifaceToWiphyIndexMap = s.ifaceToWiphyIndexMap)
    (hbands : t.bandToWiphyIndexMap = s.bandToWiphyIndexMap) (h : s.BandsTrack owner supports) :
    t.BandsTrack owner supports := by
  rwa [BandsTrack, onRecord_congr hwiphys, hbands]

theorem BandsTracked.onRecord_iff (h : BandsTracked wiphyOf owner lists s) :
    s.OnRecord w ↔ ∃ name, s.IsLive name ∧ wiphyOf name = w := by
  constructor
  · intro hrecord
    obtain ⟨name, hname⟩ := hrecord
    refine ⟨name, (h.names name).mp (OrderedMap.mem_iff_exists.mpr ⟨w, hname⟩), ?_⟩
    exact (h.wiphy name w hname).symm
  · rintro ⟨name, hlive, rfl⟩
    obtain ⟨w, hw⟩ := OrderedMap.mem_iff_exists.mp ((h.names name).mpr hlive)
    exact ⟨name, (h.wiphy name w hw) ▸ hw⟩

/-- Both creations end by recording the wiphy of a name that was not live. -/
theorem BandsTracked.record (h : BandsTracked wiphyOf owner lists s)
    (hwiphys : t.ifaceToWiphyIndexMap = s.ifaceToWiphyIndexMap)
    (hbands : t.bandToWiphyIndexMap = s.bandToWiphyIndexMap)
    (howner : ∀ w band, (lists w).Supports band → w = owner band)
    (hinfo : ∀ number w, k.getWiphyInfo number w = some (lists w))
    (hsmall : (wiphyOf ifaceName).toNat < 2 ^ 31) (hfresh : ¬ s.IsLive ifaceName) :
    (∀ (name : IfaceName) w, (t.recordWiphyIndex k number ifaceName
        (wiphyOf ifaceName)).ifaceToWiphyIndexMap[name]? = some w → w = wiphyOf name) ∧
      (t.recordWiphyIndex k number ifaceName (wiphyOf ifaceName)).BandsTrack owner
        fun w band => (lists w).Supports band := by
  have hnone : t.ifaceToWiphyIndexMap[ifaceName]? = none := by
    rw [hwiphys, ← OrderedMap.notMem_iff, h.names]
    exact hfresh
  refine ⟨fun name w hname => ?_, bandsTrack_recordWiphyIndex
    (bandsTrack_congr hwiphys hbands h.bands) howner (getBandInfo_eq hsmall hinfo) hnone⟩
  obtain ⟨bands, heq⟩ := exists_recordWiphyIndex t k number ifaceName (wiphyOf ifaceName)
  simp only [heq, Std.ExtTreeMap.getElem?_insert, hwiphys] at hname
  split_ifs at hname with hcmp
  · rw [← Std.LawfulEqCmp.compare_eq_iff_eq.mp hcmp]
    exact (Option.some.inj hname).symm
  · exact h.wiphy name w hname

/-- Both tear downs end by releasing the name. -/
theorem BandsTracked.release (h : BandsTracked wiphyOf owner lists s)
    (hwiphys : t.ifaceToWiphyIndexMap = s.ifaceToWiphyIndexMap)
    (hbands : t.bandToWiphyIndexMap = s.bandToWiphyIndexMap)
    (howner : ∀ w band, (lists w).Supports band → w = owner band) :
    (∀ (name : IfaceName) w, (t.releaseWiphyIndex ifaceName).ifaceToWiphyIndexMap[name]? = some w →
        w = wiphyOf name) ∧
      (t.releaseWiphyIndex ifaceName).BandsTrack owner fun w band => (lists w).Supports band := by
  refine ⟨fun name w hname => ?_, bandsTrack_releaseWiphyIndex
    (bandsTrack_congr hwiphys hbands h.bands) howner⟩
  obtain ⟨bands, heq⟩ := exists_releaseWiphyIndex t ifaceName
  simp only [heq, Std.ExtTreeMap.getElem?_erase, hwiphys] at hname
  split_ifs at hname
  exact h.wiphy name w hname

theorem records_setupInterface (s : Server) (k : Kernel) (ifaceName : IfaceName) :
    (s.setupInterface k ifaceName).2.ifaceToWiphyIndexMap = s.ifaceToWiphyIndexMap ∧
      (s.setupInterface k ifaceName).2.bandToWiphyIndexMap = s.bandToWiphyIndexMap := by
  obtain ⟨regDomain, debug, h⟩ := exists_setupInterface s k ifaceName
  rw [h]
  exact ⟨rfl, rfl⟩

theorem bandToWiphyIndexMap_removeClientInterface :
    (s.removeClientInterface ifaceName).bandToWiphyIndexMap = s.bandToWiphyIndexMap := by
  unfold removeClientInterface
  split <;> rfl

theorem bandToWiphyIndexMap_removeApInterface :
    (s.removeApInterface ifaceName).bandToWiphyIndexMap = s.bandToWiphyIndexMap := by
  unfold removeApInterface
  split <;> rfl

/-- A country code change replaces the lists in force before by those in force after it. -/
theorem BandsTracked.countryCode (h : BandsTracked wiphyOf owner lists s)
    {lists' : UInt32 → BandInfo} (hsmall : ∀ name, (wiphyOf name).toNat < 2 ^ 31)
    (hwiphy : ∀ number name, s.IsLive name → k.getWiphyIndex number name = some (wiphyOf name))
    (hinfo : ∀ number w, k.getWiphyInfo number w = some (lists' w))
    (howner : ∀ w band, (lists' w).Supports band → w = owner band) :
    (s.handleCountryCodeChanged k).BandsTrack owner fun w band => (lists' w).Supports band :=
  bandsTrack_handleCountryCodeChanged h.bands (fun _ => h.onRecord_iff) hsmall hwiphy hinfo howner

theorem BandsTracked.regDomain (h : BandsTracked wiphyOf owner lists s)
    {countryCode : List UInt8} (hsmall : ∀ name, (wiphyOf name).toNat < 2 ^ 31)
    (hwiphy : ∀ number name, s.IsLive name → k.getWiphyIndex number name = some (wiphyOf name))
    (hinfo : ∀ number w, k.getWiphyInfo number w = some (lists w))
    (howner : ∀ w band, (lists w).Supports band → w = owner band) :
    (s.onRegDomainChanged k wiphyIndex countryCode).BandsTrack owner
      fun w band => (lists w).Supports band := by
  obtain ⟨announced, heq⟩ := exists_reportCountryCode s k countryCode
  have htold : BandsTracked wiphyOf owner lists (s.reportCountryCode k countryCode) := by
    rw [heq]
    exact ⟨h.names, h.wiphy, h.bands⟩
  unfold onRegDomainChanged
  dsimp only
  split_ifs
  · exact htold.bands
  · refine htold.countryCode hsmall (fun number name hname => ?_) hinfo howner
    rw [heq] at hname
    exact hwiphy number name hname

/-- One call keeps the tables right. -/
theorem bandsTracked_serve {state : Server × (UInt32 → BandInfo)}
    {step : Call × (UInt32 → BandInfo)} (hsmall : ∀ name, (wiphyOf name).toNat < 2 ^ 31)
    (h : BandsTracked wiphyOf owner state.2 state.1)
    (ha : Admissible wiphyOf owner state step) :
    BandsTracked wiphyOf owner (serveListed state step).2 (serveListed state step).1 := by
  obtain ⟨s, lists⟩ := state
  obtain ⟨⟨k, request⟩, lists'⟩ := step
  obtain ⟨hwiphy, hlive, hinfo, hlists, howner, hcreates, hkind⟩ := ha
  dsimp only at h hwiphy hlive hinfo hlists howner hcreates
  have hnames : (s.serve ⟨k, request⟩).WiphysOfInterfaces :=
    (wiphysOfInterfaces_serve h.names).mpr hkind
  suffices hrest : (∀ (name : IfaceName) w,
      (s.serve ⟨k, request⟩).ifaceToWiphyIndexMap[name]? = some w → w = wiphyOf name) ∧
      (s.serve ⟨k, request⟩).BandsTrack owner fun w band => (lists' w).Supports band from
    ⟨hnames, hrest.1, hrest.2⟩
  have hidle : (hi : request.Idle) → ∀ (name : IfaceName) w,
      (s.serve ⟨k, request⟩).ifaceToWiphyIndexMap[name]? = some w → w = wiphyOf name := by
    intro hi name w hname
    rw [ifaceToWiphyIndexMap_serve s hi] at hname
    exact h.wiphy name w hname
  by_cases hnotify : request = .notifyCountryCodeChanged
  · subst hnotify
    exact ⟨hidle trivial, h.countryCode hsmall (hlive trivial) hinfo howner⟩
  -- any other call is made with the lists in force
  obtain rfl := hlists.resolve_right hnotify
  cases request with
  | notifyCountryCodeChanged => exact absurd rfl hnotify
  | onRegDomainChanged wiphyIndex countryCode =>
    exact ⟨hidle trivial, h.regDomain hsmall (hlive trivial) hinfo howner⟩
  | registerWificondEventCallback callback =>
    refine ⟨hidle trivial, bandsTrack_congr (ifaceToWiphyIndexMap_serve s trivial) ?_ h.bands⟩
    simp only [serve, registerWificondEventCallback]
    split_ifs <;> rfl
  | registerCallback callback =>
    refine ⟨hidle trivial, bandsTrack_congr (ifaceToWiphyIndexMap_serve s trivial) ?_ h.bands⟩
    simp only [serve, registerCallback]
    split_ifs <;> rfl
  | unregisterWificondEventCallback callback | unregisterCallback callback =>
    exact ⟨hidle trivial, bandsTrack_congr rfl rfl h.bands⟩
  | createApInterface name =>
    have hsetup := records_setupInterface s k name
    cases hr : k.reported name with
    | none =>
      simp only [serve, createApInterface_of_none hr, hsetup.1]
      exact ⟨h.wiphy, bandsTrack_congr hsetup.1 hsetup.2 h.bands⟩
    | some reported =>
      simp only [serve, createApInterface_of_some hr]
      rw [hwiphy 0 name reported.2 (Kernel.getWiphyIndex_of_reported hr)]
      exact h.record hsetup.1 hsetup.2 howner hinfo (hsmall name)
        (hcreates name (.inl rfl) (by simp [hr]))
  | createClientInterface name =>
    have hsetup := records_setupInterface s k name
    cases hr : k.reported name with
    | none =>
      simp only [serve, createClientInterface_of_none hr, hsetup.1]
      exact ⟨h.wiphy, bandsTrack_congr hsetup.1 hsetup.2 h.bands⟩
    | some reported =>
      simp only [serve, createClientInterface_of_some hr]
      rw [hwiphy 0 name reported.2 (Kernel.getWiphyIndex_of_reported hr)]
      exact h.record hsetup.1 hsetup.2 howner hinfo (hsmall name)
        (hcreates name (.inr rfl) (by simp [hr]))
  | tearDownApInterface name =>
    simp only [serve, tearDownApInterface_eq]
    exact h.release ifaceToWiphyIndexMap_removeApInterface bandToWiphyIndexMap_removeApInterface
      howner
  | tearDownClientInterface name =>
    simp only [serve, tearDownClientInterface_eq]
    exact h.release ifaceToWiphyIndexMap_removeClientInterface
      bandToWiphyIndexMap_removeClientInterface howner
  | tearDownInterfaces =>
    exact ⟨by simp [serve], bandsTrack_tearDownInterfaces h.bands⟩

theorem bandsTracked_fresh : BandsTracked wiphyOf owner lists fresh := by
  refine ⟨wiphysOfInterfaces_fresh, by simp [fresh], ⟨by simp [fresh], ?_⟩⟩
  intro band w hrecord
  obtain ⟨name, hname⟩ := hrecord
  simp [fresh] at hname

/-- The query of a band answers with the current list of the band's owner when the owner
has a live interface and the list is not empty, and with null otherwise. -/
def AnswersWith (wiphyOf : IfaceName → UInt32) (owner : UInt32 → UInt32)
    (lists : UInt32 → BandInfo) (s : Server) (band : UInt32) (channels : BandInfo → List UInt32)
    (answer : Option (List Int32)) : Prop :=
  let current := channels (lists (owner band))
  let owned := (∃ name, s.IsLive name ∧ wiphyOf name = owner band) ∧ current ≠ []
  (owned → answer = some (current.map UInt32.toInt32)) ∧ (¬ owned → answer = none)

theorem answersWith_getAvailableChannels {channels : BandInfo → List UInt32}
    (hsmall : ∀ name, (wiphyOf name).toNat < 2 ^ 31) (h : BandsTracked wiphyOf owner lists s)
    (hinfo : ∀ number w, k.getWiphyInfo number w = some (lists w))
    (hchannels : ∀ bandInfo : BandInfo, channels bandInfo ≠ [] → bandInfo.Supports band) :
    AnswersWith wiphyOf owner lists s band channels (getAvailableChannels band channels k s) := by
  have hentry : ∀ w, s.bandToWiphyIndexMap[band]? = some w → w = owner band ∧
      (∃ name, s.IsLive name ∧ wiphyOf name = owner band) ∧
      getAvailableChannels band channels k s = if (channels (lists (owner band))).length = 0
        then none else some ((channels (lists (owner band))).map UInt32.toInt32) := by
    intro w hw
    obtain ⟨rfl, hrecord⟩ := h.bands.entry band w hw
    have hlive := h.onRecord_iff.mp hrecord
    obtain ⟨name, -, hname⟩ := hlive
    have hinfo' : getBandInfo k 0 (owner band).toInt32 = some (lists (owner band)) :=
      getBandInfo_eq (hname ▸ hsmall name) hinfo
    refine ⟨rfl, h.onRecord_iff.mp hrecord, ?_⟩
    simp only [getAvailableChannels, getWiphyIndexFromBand, hw, hinfo']
  constructor
  · intro howned
    obtain ⟨hlive, hne⟩ := howned
    have hlookup := h.bands.lookup (h.onRecord_iff.mpr hlive) (hchannels _ hne)
    rw [(hentry _ hlookup).2.2, if_neg]
    exact fun hzero => hne (List.length_eq_zero_iff.mp hzero)
  · intro hnot
    cases hw : s.bandToWiphyIndexMap[band]? with
    | none => simp [getAvailableChannels, getWiphyIndexFromBand, hw, getBandInfo]
    | some w =>
      obtain ⟨-, hlive, hanswer⟩ := hentry w hw
      rw [hanswer, if_pos]
      by_contra hne
      exact hnot ⟨hlive, fun hnil => hne (List.length_eq_zero_iff.mpr hnil)⟩

/-- All five queries answer with the current lists. -/
structure ChannelsCurrent (wiphyOf : IfaceName → UInt32) (owner : UInt32 → UInt32)
    (lists : UInt32 → BandInfo) (k : Kernel) (s : Server) : Prop where
  available2g : AnswersWith wiphyOf owner lists s nl80211Band2ghz BandInfo.band2g
    (getAvailable2gChannels k s)
  available5gNonDFS : AnswersWith wiphyOf owner lists s nl80211Band5ghz BandInfo.band5g
    (getAvailable5gNonDFSChannels k s)
  availableDFS : AnswersWith wiphyOf owner lists s nl80211Band5ghz BandInfo.bandDfs
    (getAvailableDFSChannels k s)
  available6g : AnswersWith wiphyOf owner lists s nl80211Band6ghz BandInfo.band6g
    (getAvailable6gChannels k s)
  available60g : AnswersWith wiphyOf owner lists s nl80211Band60ghz BandInfo.band60g
    (getAvailable60gChannels k s)

theorem channelsCurrent (hsmall : ∀ name, (wiphyOf name).toNat < 2 ^ 31)
    (h : BandsTracked wiphyOf owner lists s)
    (hinfo : ∀ number w, k.getWiphyInfo number w = some (lists w)) :
    ChannelsCurrent wiphyOf owner lists k s where
  available2g := answersWith_getAvailableChannels hsmall h hinfo fun _ hne => .inl ⟨rfl, hne⟩
  available5gNonDFS :=
    answersWith_getAvailableChannels hsmall h hinfo fun _ hne => .inr (.inl ⟨rfl, .inl hne⟩)
  availableDFS :=
    answersWith_getAvailableChannels hsmall h hinfo fun _ hne => .inr (.inl ⟨rfl, .inr hne⟩)
  available6g :=
    answersWith_getAvailableChannels hsmall h hinfo fun _ hne => .inr (.inr (.inl ⟨rfl, hne⟩))
  available60g :=
    answersWith_getAvailableChannels hsmall h hinfo fun _ hne => .inr (.inr (.inr ⟨rfl, hne⟩))

/-- Along a run from a fresh server, the queries answer with the current lists of the
wiphys in use in every state. -/
theorem available_channels_current (wiphyOf : IfaceName → UInt32) (owner : UInt32 → UInt32)
    (lists : UInt32 → BandInfo) (steps : List (Call × (UInt32 → BandInfo)))
    (hsmall : ∀ name, (wiphyOf name).toNat < 2 ^ 31)
    (hrun : Runs.Along serveListed (Admissible wiphyOf owner) (fresh, lists) steps) :
    Runs.Always serveListed (fun state => ∀ k : Kernel,
      (∀ number w, k.getWiphyInfo number w = some (state.2 w)) →
      ChannelsCurrent wiphyOf owner state.2 k state.1) (fresh, lists) steps :=
  Runs.always_mono (fun _ h _ hinfo => channelsCurrent hsmall h hinfo)
    (Runs.always_of_along (fun _ _ => bandsTracked_serve hsmall) bandsTracked_fresh hrun)

/-- Lists of wiphy 0 alone: one channel at 2.4 GHz, and the given DFS channels. -/
def listsOfWiphy0 (dfs : List UInt32) (w : UInt32) : BandInfo :=
  if w = 0 then ⟨[2412], [], dfs, [], []⟩ else ⟨[], [], [], [], []⟩

/-- An interface appears, then the country code allows a DFS channel. -/
theorem available_channels_current_dfs :
    Runs.Always serveListed (fun state => ∀ k : Kernel,
      (∀ number w, k.getWiphyInfo number w = some (state.2 w)) →
      ChannelsCurrent (fun _ => 0) (fun _ => 0) state.2 k state.1) (fresh, listsOfWiphy0 [])
      [(⟨{ Kernel.oneInterface [119] with getWiphyInfo := fun _ w => some (listsOfWiphy0 [] w) },
          .createClientInterface [119]⟩, listsOfWiphy0 []),
        (⟨{ Kernel.oneInterface [119] with
            getWiphyInfo := fun _ w => some (listsOfWiphy0 [5500] w) },
          .notifyCountryCodeChanged⟩, listsOfWiphy0 [5500])] := by
  have howner : ∀ dfs w band, (listsOfWiphy0 dfs w).Supports band → w = 0 := by
    intro dfs w band h
    by_contra hw
    simp [listsOfWiphy0, hw, BandInfo.Supports] at h
  refine available_channels_current (fun _ => 0) (fun _ => 0) (listsOfWiphy0 []) _
    (fun _ => by decide) ⟨?_, ?_, trivial⟩
  · exact
      { wiphy := by simp [Kernel.oneInterface]
        liveWiphy := fun hidle => absurd hidle id
        info := fun _ _ => rfl
        lists := .inl rfl
        owner := howner []
        creates := by simp [IsLive, fresh]
        kind := trivial }
  · exact
      { wiphy := by simp [Kernel.oneInterface]
        liveWiphy := fun _ _ _ _ => rfl
        info := fun _ _ => rfl
        lists := .inr rfl
        owner := howner [5500]
        creates := by simp
        kind := trivial }

end Server

end Wificond
