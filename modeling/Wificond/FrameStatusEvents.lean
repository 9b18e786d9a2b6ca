import Wificond.ClientStates

/-!
# Frame callbacks and broadcasts

A client interface sends management frames for remote processes, and the kernel reports on them
by broadcasts that go by the index of the interface and the cookie of the frame. While
interfaces come and go, the callback of a call on a live one is told once at most, and exactly
what the kernel or the interface said about its own frame.
-/
namespace Wificond

/-- A call of `SendMgmtFrame`, with what was read of the kernel's answer if it was asked. -/
structure ManagementFrame where
  supportsTxMgmtFrameMcs : Bool
  mcs : ℤ
  answer : Option UInt64

def ManagementFrame.verdict (frame : ManagementFrame) : Except SendMgmtFrameError UInt64 :=
  Wificond.verdict frame.supportsTxMgmtFrameMcs frame.mcs frame.answer

def ManagementFrame.txStep (frame : ManagementFrame) : TxStep :=
  .sendMgmtFrame frame.supportsTxMgmtFrameMcs frame.mcs frame.answer

/-- The fields for transmissions. -/
def FrameTx.part : ClientPart Unit FrameTx Unit ManagementFrame where
  construct _ := .construct
  hear _ event tx :=
    match event with
    | .frameTxStatus cookie wasAcked => tx.onFrameTxStatus cookie wasAcked
    | .scanResults .. | .schedScanResults .. | .mlme .. | .station .. | .channelSwitch .. => tx
  call frame tx := tx.step frame.txStep

abbrev FrameStep := ClientsStep Unit Unit ManagementFrame

def FrameStep.isCallOf (id : ObjectId) : FrameStep → Bool
  | .invoke id' _ => id' = id
  | .serve .. | .broadcast .. => false

/-- The calls go by the number of those before them on the same object. -/
def callsOf (id : ObjectId) (steps : List FrameStep) : ℕ := steps.countP (FrameStep.isCallOf id)

/-- The kernel took the frame of the call under the cookie; since then it has taken none of
another call, and no status of this cookie has arrived. -/
def WaitsFor (familyId : UInt16) (id : ObjectId) (index : UInt32) (steps : List FrameStep)
    (call : ℕ) (cookie : UInt64) : Prop :=
  ∃ pre frame post, steps = pre ++ .invoke id frame :: post ∧ callsOf id pre = call ∧
    frame.verdict = .ok cookie ∧
    (∀ other taken, .invoke id other ∈ post → other.verdict ≠ .ok taken) ∧
    ∀ regType kernels packet wasAcked, .broadcast regType kernels () packet ∈ post →
      ¬ Concerns familyId index packet (.frameTxStatus cookie wasAcked)

/-- A step behind others tells the callback of a call something. -/
inductive TellsCall (familyId : UInt16) (id : ObjectId) (index : UInt32) (pre : List FrameStep) :
    FrameStep → ℕ × SendMgmtFrameEvent → Prop
  | refused {frame reason} (hrefused : frame.verdict = .error reason) :
      TellsCall familyId id index pre (.invoke id frame) (callsOf id pre, .onFailure reason)
  | status {regType kernels packet call cookie wasAcked}
      (hstatus : Concerns familyId index packet (.frameTxStatus cookie wasAcked))
      (hwaits : WaitsFor familyId id index pre call cookie) :
      TellsCall familyId id index pre (.broadcast regType kernels () packet)
        (call, if wasAcked then .onAck else .onFailure .noAck)

/-- What an event or a call that follows some steps tells a callback. -/
def ToldAt (pre : List TxStep) (step : TxStep) (told : ℕ × SendMgmtFrameEvent) : Prop :=
  match step with
  | .sendMgmtFrame supports mcs answer => ∃ reason, verdict supports mcs answer = .error reason ∧
    told = (pre.countP TxStep.isCall, .onFailure reason)
  | .frameTxStatus cookie wasAcked => ∃ call, Awaited pre call cookie ∧
    told = (call, if wasAcked then .onAck else .onFailure .noAck)

section Told
variable {steps : List TxStep} {step : TxStep} {told : ℕ × SendMgmtFrameEvent}

theorem mem_of_tells {now : List (ℕ × SendMgmtFrameEvent)} (h : Tells steps step now) :
    told ∈ now ↔ ToldAt steps step told := by
  cases step with
  | sendMgmtFrame supports mcs answer =>
    rw [Tells] at h
    rw [ToldAt]
    cases hverdict : verdict supports mcs answer with
    | error reason =>
      rw [hverdict] at h
      obtain rfl := h
      simp
    | ok cookie =>
      rw [hverdict] at h
      obtain rfl := h
      simp
  | frameTxStatus cookie wasAcked =>
    obtain ⟨hawaited, hnone⟩ := h
    by_cases hany : ∃ call, Awaited steps call cookie
    · obtain ⟨call, hcall⟩ := hany
      obtain rfl := hawaited call hcall
      rw [List.mem_singleton, ToldAt]
      constructor
      · rintro rfl
        exact ⟨call, hcall, rfl⟩
      · rintro ⟨other, hother, rfl⟩
        exact (List.cons.inj (hawaited other hother)).1.symm
    · rw [not_exists] at hany
      obtain rfl := hnone hany
      rw [ToldAt]
      simp [hany]

/-- The callbacks were told what the steps told them. -/
theorem mem_told_iff : told ∈ (steps.foldl FrameTx.step FrameTx.construct).told ↔
    ∃ pre step post, steps = pre ++ step :: post ∧ ToldAt pre step told := by
  induction steps using List.reverseRecOn with
  | nil => simp [FrameTx.construct]
  | append_singleton steps step ih =>
    obtain ⟨now, hnow, htells⟩ := (tracks_foldl steps).tells step
    rw [List.foldl_append, List.foldl_cons, List.foldl_nil, hnow, List.mem_append, ih,
      mem_of_tells htells, Runs.exists_split_append_singleton]

end Told

/-- What a step is for one interface. -/
def FrameStep.txStep? (familyId : UInt16) (id : ObjectId) (index : UInt32) :
    FrameStep → Option TxStep
  | .serve .. => none
  | .invoke id' frame => if id' = id then some frame.txStep else none
  | .broadcast _ _ _ packet => (heard familyId index packet).bind fun
    | .frameTxStatus cookie wasAcked => some (.frameTxStatus cookie wasAcked)
    | .scanResults .. | .schedScanResults .. | .mlme .. | .station .. | .channelSwitch .. => none

section Steps
variable {familyId : UInt16} {id : ObjectId} {index : UInt32} {steps : List FrameStep}
  {step : FrameStep} {call : ℕ} {cookie : UInt64} {wasAcked : Bool} {frame : ManagementFrame}
  {regType : UInt8} {kernels : UInt32 → Kernel} {packet : NL80211Packet} {tx : FrameTx}

theorem txStep?_eq_status_iff :
    step.txStep? familyId id index = some (.frameTxStatus cookie wasAcked) ↔
      ∃ regType kernels packet, step = .broadcast regType kernels () packet ∧
        Concerns familyId index packet (.frameTxStatus cookie wasAcked) := by
  cases step with
  | serve served memory => simp [FrameStep.txStep?]
  | invoke id' frame =>
    by_cases hid : id' = id
    · simp [FrameStep.txStep?, ManagementFrame.txStep, hid]
    · simp [FrameStep.txStep?, hid]
  | broadcast regType kernels answers packet =>
    simp only [← heard_eq_some_iff, FrameStep.txStep?, ClientsStep.broadcast.injEq]
    cases hheard : heard familyId index packet with
    | none => simp [hheard]
    | some event => cases event <;> simp [hheard]

theorem txStep?_eq_call_iff {supports : Bool} {mcs : ℤ} {answer : Option UInt64} :
    step.txStep? familyId id index = some (.sendMgmtFrame supports mcs answer) ↔
      step = .invoke id ⟨supports, mcs, answer⟩ := by
  cases step with
  | serve served memory => simp [FrameStep.txStep?]
  | invoke id' frame =>
    obtain ⟨supports', mcs', answer'⟩ := frame
    by_cases hid : id' = id
    · simp [FrameStep.txStep?, ManagementFrame.txStep, hid]
    · simp [FrameStep.txStep?, hid]
  | broadcast regType kernels answers packet =>
    rw [FrameStep.txStep?]
    cases heard familyId index packet with
    | none => simp
    | some event => cases event <;> simp

theorem follow_eq_step : FrameTx.part.follow familyId id index tx step =
    (step.txStep? familyId id index).elim tx tx.step := by
  cases step with
  | serve served memory => rfl
  | invoke id' frame =>
    show (if id' = id then tx.step frame.txStep else tx) = _
    rw [FrameStep.txStep?]
    split_ifs <;> rfl
  | broadcast regType kernels answers packet =>
    show (heard familyId index packet).elim tx _ = _
    rw [FrameStep.txStep?]
    cases heard familyId index packet with
    | none => rfl
    | some event => cases event <;> rfl

theorem foldl_follow_eq : steps.foldl (FrameTx.part.follow familyId id index) tx =
    (steps.filterMap (FrameStep.txStep? familyId id index)).foldl FrameTx.step tx := by
  induction steps generalizing tx with
  | nil => rfl
  | cons step steps ih =>
    rw [List.foldl_cons, ih, follow_eq_step, List.filterMap_cons]
    cases step.txStep? familyId id index <;> rfl

theorem countP_filterMap_txStep? :
    (steps.filterMap (FrameStep.txStep? familyId id index)).countP TxStep.isCall =
      callsOf id steps := by
  rw [List.countP_filterMap, callsOf]
  apply List.countP_congr
  intro step _
  cases step with
  | serve served memory => simp [FrameStep.txStep?, FrameStep.isCallOf]
  | invoke id' frame =>
    by_cases hid : id' = id
    · simp [FrameStep.txStep?, FrameStep.isCallOf, hid, ManagementFrame.txStep, TxStep.isCall]
    · simp [FrameStep.txStep?, FrameStep.isCallOf, hid]
  | broadcast regType kernels answers packet =>
    rw [FrameStep.txStep?, FrameStep.isCallOf]
    cases heard familyId index packet with
    | none => simp
    | some event => cases event <;> simp [TxStep.isCall]

/-- What follows a call ends the wait for it in the system as it does for its interface. -/
theorem ends_filterMap_iff : (∀ step ∈ steps.filterMap (FrameStep.txStep? familyId id index),
      (∀ other, ¬ step.Accepts other) ∧ ¬ step.Carries cookie) ↔
    (∀ frame taken, .invoke id frame ∈ steps → frame.verdict ≠ .ok taken) ∧
      ∀ regType kernels packet wasAcked, .broadcast regType kernels () packet ∈ steps →
        ¬ Concerns familyId index packet (.frameTxStatus cookie wasAcked) := by
  constructor
  · intro h
    constructor
    · intro frame taken hmem hverdict
      have hstep : frame.txStep ∈ steps.filterMap (FrameStep.txStep? familyId id index) :=
        List.mem_filterMap.mpr ⟨_, hmem, txStep?_eq_call_iff.mpr rfl⟩
      exact (h _ hstep).1 taken hverdict
    · intro regType kernels packet wasAcked hmem hconcerns
      have hstep : .frameTxStatus cookie wasAcked ∈
          steps.filterMap (FrameStep.txStep? familyId id index) :=
        List.mem_filterMap.mpr
          ⟨_, hmem, txStep?_eq_status_iff.mpr ⟨regType, kernels, packet, rfl, hconcerns⟩⟩
      exact (h _ hstep).2 rfl
  · intro h step hstep
    obtain ⟨source, hmem, hsource⟩ := List.mem_filterMap.mp hstep
    cases step with
    | sendMgmtFrame supports mcs answer =>
      obtain rfl := txStep?_eq_call_iff.mp hsource
      exact ⟨fun other haccepts => h.1 _ other hmem haccepts, fun hcarries => hcarries⟩
    | frameTxStatus carried wasAcked =>
      obtain ⟨regType, kernels, packet, rfl, hconcerns⟩ := txStep?_eq_status_iff.mp hsource
      refine ⟨fun other haccepts => haccepts, fun hcarries => ?_⟩
      obtain rfl : carried = cookie := hcarries
      exact h.2 regType kernels packet wasAcked hmem hconcerns

theorem awaited_filterMap_iff :
    Awaited (steps.filterMap (FrameStep.txStep? familyId id index)) call cookie ↔
      WaitsFor familyId id index steps call cookie := by
  rw [Awaited, Runs.exists_split_filterMap]
  constructor
  · rintro ⟨pre, source, post, rfl, step, hsource, hcall, haccepts, hpost⟩
    rw [countP_filterMap_txStep?] at hcall
    cases step with
    | sendMgmtFrame supports mcs answer =>
      obtain rfl := txStep?_eq_call_iff.mp hsource
      exact ⟨pre, _, post, rfl, hcall, haccepts, ends_filterMap_iff.mp hpost⟩
    | frameTxStatus carried wasAcked => exact haccepts.elim
  · rintro ⟨pre, frame, post, rfl, hcall, hverdict, hpost⟩
    refine ⟨pre, _, post, rfl, frame.txStep, txStep?_eq_call_iff.mpr rfl, ?_, hverdict,
      ends_filterMap_iff.mpr hpost⟩
    rw [countP_filterMap_txStep?, hcall]

/-- A step of the system tells a callback what it tells it as a step of its interface. -/
theorem toldAt_filterMap_iff {told : ℕ × SendMgmtFrameEvent} :
    (∃ tx, step.txStep? familyId id index = some tx ∧
      ToldAt (steps.filterMap (FrameStep.txStep? familyId id index)) tx told) ↔
      TellsCall familyId id index steps step told := by
  constructor
  · rintro ⟨tx, htx, htold⟩
    cases tx with
    | sendMgmtFrame supports mcs answer =>
      obtain rfl := txStep?_eq_call_iff.mp htx
      obtain ⟨reason, hverdict, rfl⟩ := htold
      rw [countP_filterMap_txStep?]
      exact .refused hverdict
    | frameTxStatus cookie wasAcked =>
      obtain ⟨regType, kernels, packet, rfl, hconcerns⟩ := txStep?_eq_status_iff.mp htx
      obtain ⟨call, hawaited, rfl⟩ := htold
      exact .status hconcerns (awaited_filterMap_iff.mp hawaited)
  · intro h
    cases h with
    | refused hrefused =>
      refine ⟨_, txStep?_eq_call_iff.mpr rfl, _, hrefused, ?_⟩
      rw [countP_filterMap_txStep?]
    | status hstatus hwaits =>
      exact ⟨_, txStep?_eq_status_iff.mpr ⟨_, _, _, rfl, hstatus⟩, _,
        awaited_filterMap_iff.mpr hwaits, rfl⟩

end Steps

/-- No callback of a live client interface was told twice, and each was told what the steps since
the construction of the interface told it, whatever else was constructed, destroyed or told. -/
theorem frame_callbacks_of_live (familyId : UInt16) (history : List FrameStep)
    (hspares : Runs.Along (Clients.step FrameTx.part familyId) Clients.SparesLive .fresh history)
    (name : IfaceName) (client : ClientInterfaceImpl)
    (hclient : (Clients.after FrameTx.part familyId history).server.clientInterfaces[name]? =
      some client) :
    ∃ pre call post tx, history = pre ++ .serve call () :: post ∧
      .clientConstructed client.id ∈
        (Clients.after FrameTx.part familyId pre).server.lifecycle call ∧
      (Clients.after FrameTx.part familyId history).fields client.id = some tx ∧
      (tx.told.map Prod.fst).Nodup ∧
      ∀ told, told ∈ tx.told ↔ ∃ before step behind, post = before ++ step :: behind ∧
        TellsCall familyId client.id client.interfaceIndex before step told := by
  obtain ⟨pre, call, ⟨⟩, post, hsplit, hnew, hfields⟩ := Clients.fields_of_live hspares hclient
  refine ⟨pre, call, post, _, hsplit, hnew, hfields, ?_, fun told => ?_⟩
  · rw [foldl_follow_eq]
    exact (tracks_foldl _).told_nodup
  · rw [foldl_follow_eq]
    refine mem_told_iff.trans ?_
    rw [Runs.exists_split_filterMap]
    simp only [toldAt_filterMap_iff]

/-- A frame that is sent on interface 7 is not acknowledged. -/
theorem frame_callbacks_of_live_not_acked :
    let packet := ((NL80211Packet.ofHeader 24 60 0 0).addAttribute
      (NL80211Attr.ofInt .uint32 attrIfindex 7)).addAttribute
      (NL80211Attr.ofInt .uint64 attrCookie 5)
    let history : List FrameStep := [.serve ⟨.oneInterface [119], .createClientInterface [119]⟩ (),
      .invoke 0 ⟨false, -1, some 5⟩, .broadcast 0 (fun _ => .oneInterface [119]) () packet]
    ∃ tx, (Clients.after FrameTx.part 24 history).fields 0 = some tx ∧
      (0, .onFailure .noAck) ∈ tx.told := by
  intro packet history
  have hspares : Runs.Along (Clients.step FrameTx.part 24) Clients.SparesLive .fresh history := by
    refine ⟨?_, by simp [Clients.SparesLive], by simp [Clients.SparesLive], trivial⟩
    intro call memory hcall
    obtain ⟨rfl, rfl⟩ := ClientsStep.serve.inj hcall
    intro reported _
    exact ⟨by constructor <;> simp [Clients.fresh, Server.fresh], by
      simp [Clients.fresh, Server.fresh]⟩
  have hstatus : Concerns 24 7 packet (.frameTxStatus (UInt64.ofInt 5) false) :=
    ⟨by decide +kernel, by decide +kernel, cmdFrameTxStatus, .frameTxStatusEvent,
      by decide +kernel, by decide, by decide, .frameTxStatus (by decide +kernel)
        (by decide +kernel)⟩
  obtain ⟨pre, call, post, tx, hsplit, -, hfields, -, htold⟩ :=
    frame_callbacks_of_live 24 history hspares [119]
      ⟨0, 0, [119], 7, #v[2, 0, 0, 0, 0, 1], none⟩ (by decide +kernel)
  have hpost : post = history.drop 1 := by
    rcases pre with _ | ⟨first, _ | ⟨second, _ | ⟨third, pre⟩⟩⟩
    · exact (List.cons.inj hsplit).2.symm
    all_goals simp [history] at hsplit
  have hwaits : WaitsFor 24 0 7 (post.take 1) 0 (UInt64.ofInt 5) := by
    rw [hpost]
    exact ⟨[], _, [], rfl, rfl, rfl, by simp, by simp⟩
  let last : FrameStep := .broadcast 0 (fun _ => .oneInterface [119]) () packet
  have hlast : post = post.take 1 ++ [last] := by
    rw [hpost]
    rfl
  exact ⟨tx, hfields, (htold _).mpr ⟨post.take 1, last, [], hlast, .status hstatus hwaits⟩⟩

end Wificond
