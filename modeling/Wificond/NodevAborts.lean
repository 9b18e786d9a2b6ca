import Wificond.ClientMemory
import Wificond.Runs

/-!
# Aborts of the process

A driver that has lost its device answers every scan with `ENODEV`. The scanner counts these
answers, for one-shot and scheduled scans alike and until one of either kind succeeds, and
aborts the process at the fourth.
-/
namespace Wificond

open ScanUtils

/-- A scan type at which the process is aborted. No settings of a parcel have it. -/
def ClientCall.HasInvalidType : ClientCall → Prop
  | .scanRequest _ _ settings => settings.isValidScanType = false
  | _ => False

/-- How many of the answers behind the last success are `ENODEV`. -/
def nodevsSinceSuccess (answers : List (Option ℤ)) : ℕ :=
  (answers.reverse.takeWhile fun answer => answer ≠ some 0).count (some (enodev : ℤ))

/-- The count behind one more answer. -/
def countNodev (count : ℕ) (answer : Option ℤ) : ℕ :=
  if answer = some 0 then 0 else if answer = some (enodev : ℤ) then count + 1 else count

theorem nodevsSinceSuccess_concat (answers : List (Option ℤ)) (answer : Option ℤ) :
    nodevsSinceSuccess (answers ++ [answer]) = countNodev (nodevsSinceSuccess answers) answer := by
  rw [nodevsSinceSuccess, List.reverse_append, List.reverse_singleton, List.singleton_append,
    List.takeWhile_cons, countNodev]
  by_cases hzero : answer = some 0
  · simp [hzero]
  · rw [if_pos (by simpa using hzero), if_neg hzero, List.count_cons, nodevsSinceSuccess]
    by_cases hnodev : answer = some (enodev : ℤ)
    · simp [hnodev]
    · simp [hnodev]

namespace ScanClient
variable {client client' : ScanClient} {call : ClientCall} {n : ℕ}

/-- The kernel's answer to the scan that a call requests. -/
def answer? (client : ScanClient) : ClientCall → Option (Option ℤ)
  | .scanRequest header ack settings =>
    (client.scanner.requestPacket header client.association.isAssociated settings).map ack
  | .startPnoScan header ack settings => some (ack (client.pnoPacket header settings))
  | _ => none

/-- The answers in a run, in order. -/
def answers : Option ScanClient → List ClientCall → List (Option ℤ)
  | _, [] => []
  | client?, call :: calls =>
    (client?.bind fun client => client.answer? call).toList ++ answers (step client? call) calls

theorem answers_concat (client? : Option ScanClient) (calls : List ClientCall)
    (call : ClientCall) : answers client? (calls ++ [call]) = answers client? calls ++
      ((calls.foldl step client?).bind fun client => client.answer? call).toList := by
  induction calls generalizing client? with
  | nil => simp [answers]
  | cons first calls ih => simp [answers, ih]

/-- A scanner that has counted so many of these answers. -/
structure Counts (client : ScanClient) (n : ℕ) : Prop where
  valid : client.scanner.valid = true
  counter : client.scanner.nodevCounter.toNat = n
  le_three : n ≤ 3

theorem toNat_counter_succ {counter : UInt32} (h : counter.toNat = n) (hn : n ≤ 3) :
    (counter + 1).toNat = n + 1 := by
  have hadd : (counter + 1).toNat = (counter.toNat + 1) % 2 ^ 32 := UInt32.toNat_add _ _
  omega

theorem counter_le_three_iff {counter : UInt32} : counter ≤ 3 ↔ counter.toNat ≤ 3 :=
  UInt32.le_iff_toNat_le

/-- What both kinds of scans see of the answer. -/
theorem scanResult_cases (answer : Option ℤ) :
    answer = some 0 ∧ (scanResult answer).1 = true ∨
      answer = some (enodev : ℤ) ∧ (scanResult answer).1 = false ∧
        (scanResult answer).2 = enodev ∨
      answer ≠ some 0 ∧ answer ≠ some (enodev : ℤ) ∧ (scanResult answer).1 = false ∧
        (scanResult answer).2 ≠ enodev := by
  cases answer with
  | none => simp [scanResult, enodev]
  | some code =>
    by_cases hzero : code = 0
    · simp [scanResult, hzero]
    · by_cases hnodev : code = enodev
      · simp [scanResult, hnodev, enodev]
      · simp [scanResult, hzero, hnodev]

theorem countNodev_le {answer : Option ℤ} (hn : n ≤ 3)
    (h : ¬ (answer = some (enodev : ℤ) ∧ n = 3)) : countNodev n answer ≤ 3 := by
  rw [countNodev]
  split_ifs with hzero hnodev
  · omega
  · have hfour : n ≠ 3 := fun hfour => h ⟨hnodev, hfour⟩
    omega
  · exact hn

theorem requestPacket_eq_none_iff {scanner : SingleScanner} {header : RequestHeader}
    {associated : Bool} {settings : SingleScanSettings} :
    scanner.requestPacket header associated settings = none ↔
      settings.isValidScanType = false := by
  cases htype : settings.isValidScanType with
  | true =>
    obtain ⟨arguments, flags, harguments, -, -, -, hflags, -⟩ :=
      SingleScanner.exists_scanArguments associated scanner htype
    obtain ⟨packet, hpacket, -⟩ :=
      scanRequest_requests header scanner.interfaceIndex arguments hflags
    rw [SingleScanner.requestPacket, harguments]
    simp [hpacket]
  | false =>
    have hother : settings.scanType.toInt ≠ scanTypeLowSpan ∧
        settings.scanType.toInt ≠ scanTypeLowPower ∧
        settings.scanType.toInt ≠ scanTypeHighAccuracy := by
      simpa [SingleScanSettings.isValidScanType] using htype
    have hnone : scanner.scanArguments associated settings = none := by
      rw [SingleScanner.scanArguments, isScanTypeSupported, if_neg hother.1, if_neg hother.2.1,
        if_neg hother.2.2]
      rfl
    rw [SingleScanner.requestPacket, hnone]
    simp

/-- A call aborts the process. -/
def Aborts (client : ScanClient) (n : ℕ) (call : ClientCall) : Prop :=
  call.HasInvalidType ∨ client.answer? call = some (some (enodev : ℤ)) ∧ n = 3

theorem finishScan_cases (h : client.Counts n) (answer : Option ℤ) :
    (answer = some (enodev : ℤ) ∧ n = 3) ∧
      client.scanner.finishScan (scanResult answer) = none ∨
    ¬ (answer = some (enodev : ℤ) ∧ n = 3) ∧ ∃ status scanner,
      client.scanner.finishScan (scanResult answer) = some (status, scanner) ∧
      scanner.valid = true ∧ scanner.nodevCounter.toNat = countNodev n answer := by
  rw [SingleScanner.finishScan]
  rcases scanResult_cases answer with ⟨rfl, hsuccess⟩ | ⟨rfl, hfailure, hcode⟩ |
    ⟨hzero, hnodev, hfailure, hcode⟩
  · refine .inr ⟨by simp [enodev], .success, _, if_pos hsuccess, h.valid, ?_⟩
    simp [countNodev]
  · have hsucc := toNat_counter_succ h.counter h.le_three
    have hle := h.le_three
    rw [if_neg (by simp [hfailure])]
    simp only [hcode, if_true, ne_eq, not_true, false_or]
    by_cases hthree : n = 3
    · refine .inl ⟨⟨trivial, hthree⟩, if_neg ?_⟩
      rw [counter_le_three_iff]
      omega
    · refine .inr ⟨fun hboth => hthree hboth.2, _, _, if_pos ?_, h.valid, ?_⟩
      · rw [counter_le_three_iff]
        omega
      · rw [hsucc]
        simp [countNodev, enodev]
  · rw [if_neg (by simp [hfailure])]
    simp only [if_neg hcode]
    refine .inr ⟨fun hboth => hnodev hboth.1, _, _, if_pos (.inl hcode), h.valid, ?_⟩
    rw [countNodev, if_neg hzero, if_neg hnodev]
    exact h.counter

theorem finishPnoScan_cases (h : client.Counts n) (packet : NL80211Packet) (answer : Option ℤ) :
    (answer = some (enodev : ℤ) ∧ n = 3) ∧
      (client.finishPnoScan packet (scanResult answer)).2 = none ∨
    ¬ (answer = some (enodev : ℤ) ∧ n = 3) ∧ ∃ client',
      (client.finishPnoScan packet (scanResult answer)).2 = some client' ∧
      client'.scanner.valid = true ∧ client'.scanner.nodevCounter.toNat = countNodev n answer := by
  rw [finishPnoScan]
  rcases scanResult_cases answer with ⟨rfl, hsuccess⟩ | ⟨rfl, hfailure, hcode⟩ |
    ⟨hzero, hnodev, hfailure, hcode⟩
  · rw [if_pos hsuccess]
    refine .inr ⟨by simp [enodev], _, rfl, h.valid, ?_⟩
    simp [countNodev]
  · have hsucc := toNat_counter_succ h.counter h.le_three
    have hle := h.le_three
    rw [if_neg (by simp [hfailure])]
    simp only [hcode, if_true, ne_eq, not_true, false_or]
    by_cases hthree : n = 3
    · rw [if_neg]
      · exact .inl ⟨⟨trivial, hthree⟩, rfl⟩
      · rw [counter_le_three_iff]
        omega
    · rw [if_pos]
      · refine .inr ⟨fun hboth => hthree hboth.2, _, rfl, h.valid, ?_⟩
        show (client.scanner.nodevCounter + 1).toNat = _
        rw [hsucc]
        simp [countNodev, enodev]
      · rw [counter_le_three_iff]
        omega
  · rw [if_neg (by simp [hfailure])]
    simp only [if_neg hcode]
    rw [if_pos (.inl hcode)]
    refine .inr ⟨fun hboth => hnodev hboth.1, _, rfl, h.valid, ?_⟩
    rw [countNodev, if_neg hzero, if_neg hnodev]
    exact h.counter

/-- A call aborts the process or counts the answer that it gets. -/
theorem react_cases (h : client.Counts n) (call : ClientCall) :
    client.Aborts n call ∧ (client.react call).2 = none ∨
      ¬ client.Aborts n call ∧ ∃ client', (client.react call).2 = some client' ∧
        client'.Counts ((client.answer? call).elim n (countNodev n)) := by
  cases call with
  | scanRequest header ack settings =>
    have hreact : (client.react (.scanRequest header ack settings)).2 =
        ((client.scanner.requestPacket header client.association.isAssociated settings).bind
          fun packet => client.scanner.finishScan (scanResult (ack packet))).map
            fun r => { client with scanner := r.2 } := by
      rw [← SingleScanner.scanRequest_eq ack h.valid]
      rfl
    rw [hreact, Aborts, ClientCall.HasInvalidType, answer?]
    cases hpacket : client.scanner.requestPacket header client.association.isAssociated
      settings with
    | none => exact .inl ⟨.inl (requestPacket_eq_none_iff.mp hpacket), rfl⟩
    | some packet =>
      have hvalid : ¬ settings.isValidScanType = false := fun htype => by
        simp [requestPacket_eq_none_iff.mpr htype] at hpacket
      rw [Option.bind_some, Option.map_some, Option.some.injEq, or_iff_right hvalid]
      rcases finishScan_cases h (ack packet) with ⟨haborts, hnone⟩ | ⟨hgoes, hsome⟩
      · exact .inl ⟨haborts, by rw [hnone, Option.map_none]⟩
      · obtain ⟨status, scanner, hfinish, hkept, hcounter⟩ := hsome
        refine .inr ⟨hgoes, { client with scanner := scanner }, by rw [hfinish]; rfl, ?_⟩
        exact ⟨hkept, hcounter, countNodev_le h.le_three hgoes⟩
  | startPnoScan header ack settings =>
    have hreact : (client.react (.startPnoScan header ack settings)).2 =
        (client.finishPnoScan (client.pnoPacket header settings)
          (scanResult (ack (client.pnoPacket header settings)))).2 := by
      show (client.startPnoScan header ack settings).2 = _
      rw [startPnoScan, if_neg (by simp [h.valid])]
    have haborts : client.Aborts n (.startPnoScan header ack settings) ↔
        ack (client.pnoPacket header settings) = some (enodev : ℤ) ∧ n = 3 := by
      simp [Aborts, ClientCall.HasInvalidType, answer?]
    rw [hreact, haborts]
    rcases finishPnoScan_cases h (client.pnoPacket header settings)
      (ack (client.pnoPacket header settings)) with hnone | ⟨hgoes, hsome⟩
    · exact .inl hnone
    · obtain ⟨client', hfinish, hkept, hcounter⟩ := hsome
      exact .inr ⟨hgoes, client', hfinish, hkept, hcounter, countNodev_le h.le_three hgoes⟩
  | channelSwitch frequency =>
    refine .inr ⟨by simp [Aborts, ClientCall.HasInvalidType, answer?],
      (client.onChannelSwitchEvent frequency).2, rfl, ?_⟩
    rw [onChannelSwitchEvent]
    split_ifs
    · exact h
    · exact ⟨h.valid, h.counter, h.le_three⟩
  | getMaxSsidsPerScan | signalPoll header station =>
    exact .inr ⟨by simp [Aborts, ClientCall.HasInvalidType, answer?], client, rfl, h⟩
  | mlmeEvent header event scanResults =>
    exact .inr ⟨by simp [Aborts, ClientCall.HasInvalidType, answer?], _, rfl,
      h.valid, h.counter, h.le_three⟩

theorem counts_of_start {c : Construction} {memory : Memory} (h : start c memory = some client) :
    client.Counts 0 := by
  rw [start, construct] at h
  cases hinfo : NetlinkUtils.getWiphyInfo c.header c.respond c.supportsSplitWiphyDump c.wiphyIndex
    memory.outs with
  | error fault => simp [hinfo, bind, Except.bind, Except.toOption] at h
  | ok result =>
    obtain rfl : _ = client := by
      simpa [hinfo, bind, Except.bind, pure, Except.pure, Except.toOption] using h
    exact ⟨rfl, rfl, by omega⟩

/-- As long as the process runs, the counter is that of the answers so far. -/
theorem counts_of_run {c : Construction} {memory : Memory} {calls : List ClientCall}
    (h : calls.foldl step (start c memory) = some client) :
    client.Counts (nodevsSinceSuccess (answers (start c memory) calls)) := by
  induction calls using List.reverseRecOn generalizing client with
  | nil => exact counts_of_start h
  | append_singleton calls call ih =>
    rw [List.foldl_append, List.foldl_cons, List.foldl_nil] at h
    obtain ⟨before, hbefore, hreact⟩ := Option.bind_eq_some_iff.mp h
    rw [answers_concat, hbefore, Option.bind_some]
    rcases react_cases (ih hbefore) call with ⟨-, hnone⟩ | ⟨-, client', hsome, hcounts⟩
    · simp [hnone] at hreact
    · obtain rfl : client' = client := Option.some.inj (hsome.symm.trans hreact)
      cases hanswer : before.answer? call with
      | none => simpa [hanswer] using hcounts
      | some answer =>
        rw [Option.toList_some, nodevsSinceSuccess_concat]
        simpa [hanswer] using hcounts

/-- The process is aborted by the first call with an invalid scan type, or to whose scan the
kernel answers with the fourth `ENODEV` since a scan of either kind was accepted, and by no
other call. -/
theorem aborted_iff (c : Construction) (memory : Memory) (calls : List ClientCall) :
    calls.foldl step (start c memory) = none ↔ start c memory = none ∨
      ∃ pre call post client, calls = pre ++ call :: post ∧
        pre.foldl step (start c memory) = some client ∧
        (call.HasInvalidType ∨ client.answer? call = some (some (enodev : ℤ)) ∧
          nodevsSinceSuccess (answers (start c memory) pre) = 3) := by
  induction calls using List.reverseRecOn with
  | nil => simp
  | append_singleton calls call ih =>
    rw [List.foldl_append, List.foldl_cons, List.foldl_nil]
    cases hclient : calls.foldl step (start c memory) with
    | none =>
      refine ⟨fun _ => ?_, fun _ => rfl⟩
      obtain hstart | ⟨pre, bad, post, client, rfl, hrest⟩ := ih.mp hclient
      · exact .inl hstart
      · exact .inr ⟨pre, bad, post ++ [call], client, by simp, hrest⟩
    | some client =>
      have hruns : start c memory ≠ none ∧ ¬ ∃ pre bad post client,
          calls = pre ++ bad :: post ∧ pre.foldl step (start c memory) = some client ∧
          client.Aborts (nodevsSinceSuccess (answers (start c memory) pre)) bad := by
        rw [← not_or]
        exact fun hnone => by simp [ih.mpr hnone] at hclient
      have hstep : step (some client) call = none ↔
          client.Aborts (nodevsSinceSuccess (answers (start c memory) calls)) call := by
        show (client.react call).2 = none ↔ _
        rcases react_cases (counts_of_run hclient) call with ⟨haborts, hnone⟩ |
          ⟨hgoes, client', hsome, -⟩
        · simp [haborts, hnone]
        · simp [hgoes, hsome]
      rw [hstep]
      constructor
      · intro haborts
        exact .inr ⟨calls, call, [], client, rfl, hclient, haborts⟩
      · rintro (hnone | ⟨pre, bad, post, client', hsplit, hpre, haborts⟩)
        · exact absurd hnone hruns.1
        · rcases Runs.append_singleton_split hsplit with ⟨rfl, rfl, -⟩ | ⟨rest, -, hcalls⟩
          · obtain rfl : client' = client := Option.some.inj (hpre.symm.trans hclient)
            exact haborts
          · exact absurd ⟨pre, bad, rest, client', hcalls, hpre, haborts⟩ hruns.2

end ScanClient

end Wificond
