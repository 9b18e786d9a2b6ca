import Wificond.EventRouting

/-!
# What a regulatory change tells

The handlers of a regulatory change should be told what its packet says. The source reads
the type into a variable that holds anything before, and where the packet has no type it
goes on with what was there, while the sibling read of the country code returns.
-/
namespace Wificond

open NetlinkManager EventM

/-- `GetAttributeValue<uint8_t>` -/
def NL80211Packet.getUInt8 (packet : NL80211Packet) (id : ℕ) : Exec (Option UInt8) :=
  (packet.getAttributeValue (AttrTemplate.int .uint8) id).map (Option.map UInt8.ofInt)

/-- The packet says that the regulatory domain changed to that of this code. The world
domains have the empty code. -/
inductive SaysRegDomain (packet : NL80211Packet) : List UInt8 → Prop
  | country {countryCode : List UInt8}
      (htype : packet.getUInt8 attrRegType = .ok (some regdomTypeCountry))
      (hcode : packet.getAttributeValue AttrTemplate.string attrRegAlpha2 =
        .ok (some countryCode)) : SaysRegDomain packet countryCode
  | world {regType : UInt8}
      (hworld : regType ∈ [regdomTypeWorld, regdomTypeCustomWorld, regdomTypeIntersection])
      (htype : packet.getUInt8 attrRegType = .ok (some regType)) : SaysRegDomain packet []

/-- Between two states each subscribed handler was told once what the packet says, by its own
wiphy index, and nothing else happened. -/
structure TellsRegDomain (packet : NL80211Packet) (s t : EventState) : Prop where
  netlink_eq : t.netlink = s.netlink
  calls_eq : t.calls = s.calls
  told : ∃ told, t.regDomainCalls = s.regDomainCalls ++ told ∧ told.Nodup ∧
    ∀ wiphyIndex countryCode, (wiphyIndex, countryCode) ∈ told ↔
      wiphyIndex ∈ s.netlink.onRegDomainChangedHandler ∧ SaysRegDomain packet countryCode

/-- Whatever is on the stack, the packet and the subscriptions decide what is told. -/
structure DecidedByPacket (packet : NL80211Packet) (s : EventState) : Prop where
  tells : ∀ regType, TellsRegDomain packet s ((onRegChangeEvent regType packet).after s)
  same : ∀ regType regType', (onRegChangeEvent regType packet).after s =
    (onRegChangeEvent regType' packet).after s

/-- The packet has a type of one byte, or the search for it does not end. -/
def ReadsRegType (packet : NL80211Packet) : Prop :=
  packet.getUInt8 attrRegType ≠ .ok none

namespace EventState

/-- The calls of the loop of `OnRegChangeEvent`. -/
def tell (countryCode : Option (List UInt8)) (s : EventState) : EventState :=
  { s with
    regDomainCalls := s.regDomainCalls ++ countryCode.toList.flatMap fun countryCode =>
      s.netlink.onRegDomainChangedHandler.toList.map fun wiphyIndex => (wiphyIndex, countryCode) }

theorem tell_none (s : EventState) : s.tell none = s := by
  simp [tell]

theorem tell_of_empty {s : EventState} (h : s.netlink.onRegDomainChangedHandler.toList = [])
    (countryCode : Option (List UInt8)) : s.tell countryCode = s := by
  cases countryCode with
  | none => exact tell_none s
  | some countryCode => simp [tell, h]

end EventState

section Effect
variable {packet : NL80211Packet} {s : EventState} {countryCode : Option (List UInt8)}

/-- What the loop tells, where the part before it comes to an end. -/
def toldCode (regType : UInt8) (packet : NL80211Packet) : Option (List UInt8) :=
  (regDomainChange regType packet).toOption.join

theorem after_onRegChangeEvent (regType : UInt8) (packet : NL80211Packet) (s : EventState) :
    (onRegChangeEvent regType packet).after s = s.tell (toldCode regType packet) := by
  unfold onRegChangeEvent toldCode
  cases hchange : regDomainChange regType packet with
  | error fault => exact (EventState.tell_none s).symm
  | ok code =>
    cases code with
    | none => exact (EventState.tell_none s).symm
    | some code =>
      show EventState.mk _ _ _ = EventState.tell (some code) s
      simp [EventState.tell]

theorem tellsRegDomain_tell (h : ∀ code, countryCode = some code ↔ SaysRegDomain packet code) :
    TellsRegDomain packet s (s.tell countryCode) where
  netlink_eq := rfl
  calls_eq := rfl
  told := by
    refine ⟨_, rfl, ?_, fun wiphyIndex code => ?_⟩
    · cases countryCode with
      | none => simp
      | some code =>
        have hnodup := Server.nodup_toList s.netlink.onRegDomainChangedHandler
        simpa using hnodup.map fun w w' hsame => (Prod.mk.inj hsame).1
    · rw [← h code]
      cases countryCode with
      | none => simp
      | some own => simp

/-- A type that is read decides, and the stack does not. -/
theorem regDomainChange_of_reads {regType : UInt8}
    (hread : packet.getUInt8 attrRegType = .ok (some regType)) (stack : UInt8) :
    regDomainChange stack packet =
      if regType = regdomTypeCountry then packet.getAttributeValue AttrTemplate.string attrRegAlpha2
      else if regType = regdomTypeWorld ∨ regType = regdomTypeCustomWorld ∨
        regType = regdomTypeIntersection then .ok (some []) else .ok none := by
  unfold NL80211Packet.getUInt8 at hread
  unfold regDomainChange
  rcases hvalue : packet.getAttributeValue (AttrTemplate.int .uint8) attrRegType with
    fault | ⟨- | value⟩
  · simp [hvalue, Except.map] at hread
  · simp [hvalue, Except.map] at hread
  · obtain rfl : UInt8.ofInt value = regType := by simpa [hvalue, Except.map] using hread
    rfl

theorem toldCode_of_reads {regType : UInt8}
    (hread : packet.getUInt8 attrRegType = .ok (some regType)) (stack : UInt8) (code : List UInt8) :
    toldCode stack packet = some code ↔ SaysRegDomain packet code := by
  unfold toldCode
  rw [regDomainChange_of_reads hread]
  constructor
  · intro htold
    split_ifs at htold with hcountry hworld
    · rcases hcode : packet.getAttributeValue AttrTemplate.string attrRegAlpha2 with
        fault | ⟨- | own⟩
      · simp [hcode, Except.toOption] at htold
      · simp [hcode, Except.toOption] at htold
      · obtain rfl : own = code := by simpa [hcode, Except.toOption] using htold
        exact .country (hcountry ▸ hread) hcode
    · obtain rfl : [] = code := by simpa [Except.toOption] using htold
      exact .world (by simpa using hworld) hread
    · simp [Except.toOption] at htold
  · intro hsays
    cases hsays with
    | country htype hcode =>
      obtain rfl : regType = regdomTypeCountry := by simpa [hread] using htype
      rw [if_pos rfl, hcode]
      rfl
    | @world own hworld htype =>
      obtain rfl : regType = own := by simpa [hread] using htype
      have hnotCountry : regType ≠ regdomTypeCountry := by
        rintro rfl
        exact absurd hworld (by decide)
      rw [if_neg hnotCountry, if_pos (by simpa using hworld)]
      rfl

theorem toldCode_of_fault {fault : Fault} (hread : packet.getUInt8 attrRegType = .error fault)
    (stack : UInt8) : toldCode stack packet = none := by
  unfold NL80211Packet.getUInt8 at hread
  unfold toldCode regDomainChange
  rcases hvalue : packet.getAttributeValue (AttrTemplate.int .uint8) attrRegType with fault' | value
  · rfl
  · simp [hvalue, Except.map] at hread

/-- Without a type, the stack may hold that of a world domain. -/
theorem toldCode_of_not_reads (h : ¬ ReadsRegType packet) :
    toldCode regdomTypeWorld packet = some [] := by
  unfold ReadsRegType NL80211Packet.getUInt8 at h
  unfold toldCode regDomainChange
  rcases hvalue : packet.getAttributeValue (AttrTemplate.int .uint8) attrRegType with
    fault | ⟨- | value⟩
  · simp [hvalue, Except.map] at h
  · rfl
  · simp [hvalue, Except.map] at h

theorem not_saysRegDomain (h : ∀ regType, packet.getUInt8 attrRegType ≠ .ok (some regType))
    (code : List UInt8) : ¬ SaysRegDomain packet code := by
  intro hsays
  cases hsays with
  | country htype => exact h _ htype
  | world _ htype => exact h _ htype

end Effect

/-- On every packet and all subscriptions, what is told is what the packet says, whatever the
stack held, exactly when no wiphy is subscribed or the type can be read. -/
theorem regChange_decided_iff (packet : NL80211Packet) (s : EventState) :
    DecidedByPacket packet s ↔
      (∀ wiphyIndex, wiphyIndex ∉ s.netlink.onRegDomainChangedHandler) ∨ ReadsRegType packet := by
  have hafter := fun regType => after_onRegChangeEvent regType packet s
  constructor
  · intro hdecided
    by_cases hreads : ReadsRegType packet
    · exact .inr hreads
    · left
      intro wiphyIndex hmem
      obtain ⟨told, htold, -, hsaid⟩ := (hdecided.tells regdomTypeWorld).told
      rw [hafter, toldCode_of_not_reads hreads] at htold
      have hcall : (wiphyIndex, []) ∈ told := by
        rw [← List.append_cancel_left htold]
        simpa using hmem
      have hnone : ∀ regType, packet.getUInt8 attrRegType ≠ .ok (some regType) := by
        intro regType hread
        exact hreads (by simp [ReadsRegType, hread])
      exact not_saysRegDomain hnone [] ((hsaid wiphyIndex []).mp hcall).2
  · intro h
    rcases hread : packet.getUInt8 attrRegType with fault | ⟨- | regType⟩
    · have htold : ∀ stack, toldCode stack packet = none := toldCode_of_fault hread
      have hsays : ∀ code, none = some code ↔ SaysRegDomain packet code := fun code =>
        iff_of_false (by simp) (not_saysRegDomain (fun regType => by simp [hread]) code)
      refine ⟨fun stack => ?_, fun stack stack' => ?_⟩
      · rw [hafter, htold]
        exact tellsRegDomain_tell hsays
      · rw [hafter, hafter, htold, htold]
    · have hempty : ∀ wiphyIndex, wiphyIndex ∉ s.netlink.onRegDomainChangedHandler :=
        h.resolve_right fun hreads => hreads hread
      have hlist : s.netlink.onRegDomainChangedHandler.toList = [] := by
        rw [List.eq_nil_iff_forall_not_mem]
        intro wiphyIndex hmem
        exact hempty wiphyIndex (Std.ExtTreeSet.mem_toList.mp hmem)
      have hsame : ∀ stack, (onRegChangeEvent stack packet).after s = s := by
        intro stack
        rw [hafter, EventState.tell_of_empty hlist]
      refine ⟨fun stack => ?_, fun stack stack' => ?_⟩
      · rw [hsame]
        refine ⟨rfl, rfl, [], by simp, by simp, fun wiphyIndex code => ?_⟩
        exact iff_of_false (by simp) fun hsaid => hempty wiphyIndex hsaid.1
      · rw [hsame, hsame]
    · have htold : ∀ stack code, toldCode stack packet = some code ↔ SaysRegDomain packet code :=
        toldCode_of_reads hread
      refine ⟨fun stack => ?_, fun stack stack' => ?_⟩
      · rw [hafter]
        exact tellsRegDomain_tell (htold stack)
      · have hequal : toldCode stack packet = toldCode stack' packet :=
          Option.ext fun code => (htold stack code).trans (htold stack' code).symm
        rw [hafter, hafter, hequal]

/-- A change without a type: for one content of the stack the subscribed wiphy is told the
empty code, for another it is told nothing. -/
theorem regChange_undecided :
    let packet := NL80211Packet.ofHeader 24 (UInt8.ofNat cmdRegChange) 0 0
    let s : EventState := ⟨NetlinkManager.empty.subscribeRegDomainChange 0, [], []⟩
    ((onRegChangeEvent 1 packet).after s).regDomainCalls = [(0, [])] ∧
      ((onRegChangeEvent 4 packet).after s).regDomainCalls = [] ∧ ¬ DecidedByPacket packet s := by
  intro packet s
  have hworld : ((onRegChangeEvent 1 packet).after s).regDomainCalls = [(0, [])] := by
    decide +kernel
  have hunset : ((onRegChangeEvent 4 packet).after s).regDomainCalls = [] := by decide +kernel
  refine ⟨hworld, hunset, fun hdecided => ?_⟩
  have hsame := congrArg EventState.regDomainCalls (hdecided.same 1 4)
  rw [hworld, hunset] at hsame
  exact absurd hsame (by simp)

end Wificond
