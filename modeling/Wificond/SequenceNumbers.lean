import Wificond.ReceiveLoop
import Wificond.Runs

/-!
# Sequence numbers

Requests and their replies find each other by a 32-bit number. The counter leaves out the
number of broadcasts where it wraps, so it goes round through the other `2 ^ 32 - 1` numbers.
Handlers are told apart as long as no request outlives a whole round.
-/
namespace Wificond

/-- `GetSequenceNumber`. It returns what `sequence_number_` holds afterwards. -/
def NetlinkManager.getSequenceNumber (sequenceNumber : UInt32) : UInt32 :=
  let sequenceNumber := sequenceNumber + 1
  if sequenceNumber.toNat = broadcastSequenceNumber then sequenceNumber + 1 else sequenceNumber

namespace SequenceNumbers

open NetlinkManager

/-- What call `n` returns, counted from zero, where the counter holds `start` at first. -/
def callNumber (start : UInt32) (n : ℕ) : UInt32 := getSequenceNumber^[n + 1] start

/-- The two calls are a whole round of the counter apart. -/
def Apart (i j : ℕ) : Prop := i + (2 ^ 32 - 1) ≤ j ∨ j + (2 ^ 32 - 1) ≤ i

section Counter
variable (start : UInt32)

theorem toNat_getSequenceNumber (sequenceNumber : UInt32) :
    (getSequenceNumber sequenceNumber).toNat = sequenceNumber.toNat % (2 ^ 32 - 1) + 1 := by
  have hlt := sequenceNumber.toNat_lt
  have hnext : (sequenceNumber + 1).toNat = (sequenceNumber.toNat + 1) % 2 ^ 32 :=
    UInt32.toNat_add _ _
  unfold getSequenceNumber broadcastSequenceNumber
  dsimp only
  split_ifs with hwrap
  · have hskip : (sequenceNumber + 1 + 1).toNat = ((sequenceNumber + 1).toNat + 1) % 2 ^ 32 :=
      UInt32.toNat_add _ _
    omega
  · omega

theorem toNat_callNumber (n : ℕ) :
    (callNumber start n).toNat = (start.toNat + n) % (2 ^ 32 - 1) + 1 := by
  induction n with
  | zero => exact toNat_getSequenceNumber start
  | succ n ih =>
    have hnext : callNumber start (n + 1) = getSequenceNumber (callNumber start n) :=
      Function.iterate_succ_apply' _ _ _
    rw [hnext, toNat_getSequenceNumber, ih]
    omega

/-- The same number is returned by calls that are a round apart. -/
theorem eq_or_apart {i j : ℕ} (h : callNumber start i = callNumber start j) :
    i = j ∨ Apart i j := by
  have hnat := congrArg UInt32.toNat h
  rw [toNat_callNumber, toNat_callNumber] at hnat
  unfold Apart
  omega

end Counter

/-- The part of `NetlinkManager` that numbers are for. A request is named by the call that
gave it its number, and a handler by the request that it was stored for. -/
structure State where
  sequenceNumber : UInt32
  messageHandlers : Std.ExtTreeMap ℕ ℕ
  /-- The numbers that were returned. Like what follows, no code reads them. -/
  numbers : List UInt32
  /-- The requests whose handler was overwritten, with those that overwrote it. -/
  overwritten : List (ℕ × ℕ)
  /-- The requests whose handler was found for a message. -/
  matched : List (ℕ × NL80211Packet)

inductive Step
  /-- A request is built, with a number of its own. -/
  | build
  /-- The handler of a request is stored when it is sent, which may happen again. -/
  | store (request : ℕ)
  /-- `ReceivePacketAndRunHandler` looks for the handler of a message. -/
  | arrive (packet : NL80211Packet)
  /-- A handler is erased, after its last message or when the time is used up. -/
  | erase (sequence : ℕ)

def fresh (start : UInt32) : State := ⟨start, ∅, [], [], []⟩

def State.step (s : State) : Step → State
  | .build =>
    let sequenceNumber := getSequenceNumber s.sequenceNumber
    { s with sequenceNumber, numbers := s.numbers ++ [sequenceNumber] }
  | .store request =>
    match s.numbers[request]? with
    | none => s
    | some sequence =>
      { s with
        messageHandlers := s.messageHandlers.insert sequence.toNat request
        overwritten := s.overwritten ++
          (s.messageHandlers[sequence.toNat]?.map fun owner => (owner, request)).toList }
  | .arrive packet =>
    if packet.getMessageSequence = broadcastSequenceNumber then s
    else
      { s with
        matched := s.matched ++
          (s.messageHandlers[packet.getMessageSequence]?.map fun owner => (owner, packet)).toList }
  | .erase sequence => { s with messageHandlers := s.messageHandlers.erase sequence }

/-- The request was given this number. -/
def Numbered (numbers : List UInt32) (request sequence : ℕ) : Prop :=
  ∃ number, numbers[request]? = some number ∧ number.toNat = sequence

/-- Numbers come from the counter, and handlers stand under the number of their request. -/
structure Sound (start : UInt32) (s : State) : Prop where
  counter : s.sequenceNumber = getSequenceNumber^[s.numbers.length] start
  numbers : ∀ n number, s.numbers[n]? = some number → number = callNumber start n
  handlers : ∀ (sequence owner : ℕ), s.messageHandlers[sequence]? = some owner →
    Numbered s.numbers owner sequence
  overwritten : ∀ entry ∈ s.overwritten, ∃ sequence,
    Numbered s.numbers entry.1 sequence ∧ Numbered s.numbers entry.2 sequence
  matched : ∀ entry ∈ s.matched, Numbered s.numbers entry.1 entry.2.getMessageSequence

variable {start : UInt32} {s : State}

theorem sound_fresh (start : UInt32) : Sound start (fresh start) where
  counter := rfl
  numbers n number h := by simp [fresh] at h
  handlers sequence owner h := by simp [fresh] at h
  overwritten := by simp [fresh]
  matched := by simp [fresh]

theorem Numbered.append {numbers : List UInt32} {request sequence : ℕ}
    (h : Numbered numbers request sequence) (number : UInt32) :
    Numbered (numbers ++ [number]) request sequence := by
  obtain ⟨own, hget, hnat⟩ := h
  have hlt : request < numbers.length := (List.getElem?_eq_some_iff.mp hget).1
  exact ⟨own, (List.getElem?_append_left hlt).trans hget, hnat⟩

theorem Sound.build (h : Sound start s) : Sound start (s.step .build) where
  counter := by
    show getSequenceNumber s.sequenceNumber = getSequenceNumber^[(s.numbers ++ [_]).length] start
    rw [List.length_append, List.length_singleton, Function.iterate_succ_apply', ← h.counter]
  numbers n number hget := by
    rcases Nat.lt_trichotomy n s.numbers.length with hlt | rfl | hgt
    · exact h.numbers n number ((List.getElem?_append_left hlt).symm.trans hget)
    · have hlast : (s.step .build).numbers[s.numbers.length]? =
          some (getSequenceNumber s.sequenceNumber) := List.getElem?_concat_length
      obtain rfl := Option.some.inj (hlast.symm.trans hget)
      rw [h.counter, callNumber, Function.iterate_succ_apply']
    · have hlen : (s.step .build).numbers.length = s.numbers.length + 1 := by simp [State.step]
      have hbound := (List.getElem?_eq_some_iff.mp hget).1
      omega
  handlers sequence owner hget := (h.handlers sequence owner hget).append _
  overwritten entry hentry := by
    obtain ⟨sequence, howner, hrequest⟩ := h.overwritten entry hentry
    exact ⟨sequence, howner.append _, hrequest.append _⟩
  matched entry hentry := (h.matched entry hentry).append _

theorem Sound.store (h : Sound start s) (request : ℕ) : Sound start (s.step (.store request)) := by
  simp only [State.step]
  cases hget : s.numbers[request]? with
  | none => exact h
  | some number =>
    have hown : Numbered s.numbers request number.toNat := ⟨number, hget, rfl⟩
    refine ⟨h.counter, h.numbers, fun sequence owner hhandler => ?_, fun entry hentry => ?_,
      h.matched⟩
    · by_cases hsame : number.toNat = sequence
      · obtain rfl : request = owner := by simpa [hsame] using hhandler
        rwa [← hsame]
      · exact h.handlers sequence owner (by
          simpa [Std.ExtTreeMap.getElem?_insert, hsame] using hhandler)
    · rcases List.mem_append.mp hentry with hold | hnew
      · exact h.overwritten entry hold
      · obtain ⟨owner, howner, rfl⟩ := Option.map_eq_some_iff.mp (Option.mem_toList.mp hnew)
        exact ⟨number.toNat, h.handlers _ owner howner, hown⟩

theorem Sound.arrive (h : Sound start s) (packet : NL80211Packet) :
    Sound start (s.step (.arrive packet)) := by
  simp only [State.step]
  split_ifs
  · exact h
  · refine ⟨h.counter, h.numbers, h.handlers, h.overwritten, fun entry hentry => ?_⟩
    rcases List.mem_append.mp hentry with hold | hnew
    · exact h.matched entry hold
    · obtain ⟨owner, howner, rfl⟩ := Option.map_eq_some_iff.mp (Option.mem_toList.mp hnew)
      exact h.handlers _ owner howner

theorem Sound.erase (h : Sound start s) (erased : ℕ) : Sound start (s.step (.erase erased)) where
  counter := h.counter
  numbers := h.numbers
  handlers sequence owner hget := by
    apply h.handlers sequence owner
    by_cases hsame : erased = sequence
    · simp [State.step, hsame] at hget
    · simpa [State.step, Std.ExtTreeMap.getElem?_erase, hsame] using hget
  overwritten := h.overwritten
  matched := h.matched

theorem Sound.step (h : Sound start s) (step : Step) : Sound start (s.step step) := by
  cases step with
  | build => exact h.build
  | store request => exact h.store request
  | arrive packet => exact h.arrive packet
  | erase sequence => exact h.erase sequence

theorem Sound.run (h : Sound start s) (steps : List Step) :
    Sound start (steps.foldl State.step s) := by
  induction steps generalizing s with
  | nil => exact h
  | cons step steps ih => exact ih (h.step step)

/-- Two requests with one number are a round apart. -/
theorem Sound.eq_or_apart (h : Sound start s) {i j sequence : ℕ}
    (hi : Numbered s.numbers i sequence) (hj : Numbered s.numbers j sequence) :
    i = j ∨ Apart i j := by
  obtain ⟨number, hgeti, hnat⟩ := hi
  obtain ⟨number', hgetj, rfl⟩ := hj
  obtain rfl := UInt32.toNat_inj.mp hnat
  exact SequenceNumbers.eq_or_apart start
    ((h.numbers i number hgeti).symm.trans (h.numbers j number hgetj))

/-- From any counter on, no call returns the number of broadcasts, calls with less than a
round between them return different numbers, and in every run of requests a handler is
overwritten for another request, or found for a message with the number of another request,
only where the two requests are a round apart. -/
theorem sequenceNumbers_distinct (start : UInt32) :
    (∀ n, (callNumber start n).toNat ≠ broadcastSequenceNumber) ∧
    (∀ m n, m < n → n < m + (2 ^ 32 - 1) → callNumber start m ≠ callNumber start n) ∧
    ∀ steps : List Step, let s := steps.foldl State.step (fresh start)
      (∀ entry ∈ s.overwritten, entry.1 = entry.2 ∨ Apart entry.1 entry.2) ∧
      ∀ entry ∈ s.matched, ∀ request, Numbered s.numbers request entry.2.getMessageSequence →
        entry.1 = request ∨ Apart entry.1 request := by
  refine ⟨fun n hzero => ?_, fun m n hlt hround hsame => ?_, fun steps => ?_⟩
  · rw [toNat_callNumber] at hzero
    exact absurd hzero (Nat.succ_ne_zero _)
  · have happart := eq_or_apart start hsame
    unfold Apart at happart
    omega
  · intro s
    have hsound : Sound start s := (sound_fresh start).run steps
    refine ⟨fun entry hentry => ?_, fun entry hentry request hrequest => ?_⟩
    · obtain ⟨sequence, howner, hrequest⟩ := hsound.overwritten entry hentry
      exact hsound.eq_or_apart howner hrequest
    · exact hsound.eq_or_apart (hsound.matched entry hentry) hrequest

end SequenceNumbers

end Wificond
