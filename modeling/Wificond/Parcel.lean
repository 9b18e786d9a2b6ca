import Mathlib.Tactic

/-!
# Parcels

A parcel takes values of a few types and gives them back in order. The primitives are a
parameter: what their callers rely on is that the values not yet read form a queue. A
writer then appends its entries to the queue, and a reader takes its own off.
-/
namespace Wificond

/-- `status_t`, other than `OK` -/
abbrev Status := Int32

/-- `BAD_VALUE` -/
abbrev badValue : Status := -22

inductive ParcelType
  | int32 | uint32 | int64 | uint64 | bool | byteVector | int32Vector
  deriving DecidableEq

namespace ParcelType

abbrev Value : ParcelType → Type
  | int32 => Int32
  | uint32 => UInt32
  | int64 => Int64
  | uint64 => UInt64
  | bool => Bool
  | byteVector => List UInt8
  | int32Vector => List Int32

/-- A vector is stored behind its length, an `int32_t`. -/
def Fits : (t : ParcelType) → t.Value → Prop
  | byteVector, v => List.length v < 2 ^ 31
  | int32Vector, v => List.length v < 2 ^ 31
  | int32, _ | uint32, _ | int64, _ | uint64, _ | bool, _ => True

end ParcelType

structure ParcelEntry where
  type : ParcelType
  value : type.Value

/-- A function that acts on a parcel and may fail. -/
abbrev ParcelM (P : Type) := StateT P (Except Status)

/-- The typed primitives of `android::Parcel`. -/
structure ParcelPrimitives (P : Type) where
  write : (t : ParcelType) → t.Value → ParcelM P Unit
  read : (t : ParcelType) → ParcelM P t.Value

/-- The variant of a primitive that returns the value: at a failure it returns this value, and
the position stays. -/
def ParcelPrimitives.readOr {P : Type} (primitives : ParcelPrimitives P) (t : ParcelType)
    (value : t.Value) : ParcelM P t.Value := fun p =>
  match (primitives.read t).run p with
  | .ok result => .ok result
  | .error _ => .ok (value, p)

section Queue
variable {P : Type} {α β : Type}

/-- The writer appends these entries to what is unread. -/
def Writes (unread : P → List ParcelEntry) (writer : ParcelM P Unit)
    (entries : List ParcelEntry) : Prop :=
  ∀ p, ∃ p', writer.run p = .ok ((), p') ∧ unread p' = unread p ++ entries

/-- The reader takes these entries off, and returns the value, whatever is behind them. -/
def Reads (unread : P → List ParcelEntry) (reader : ParcelM P α) (entries : List ParcelEntry)
    (value : α) : Prop :=
  ∀ p rest, unread p = entries ++ rest → ∃ p', reader.run p = .ok (value, p') ∧ unread p' = rest

/-- Each read returns what the matching write wrote, in the order of the writes. -/
structure IsQueue (primitives : ParcelPrimitives P) (unread : P → List ParcelEntry) : Prop where
  write : ∀ t v, t.Fits v → Writes unread (primitives.write t v) [⟨t, v⟩]
  read : ∀ t v, Reads unread (primitives.read t) [⟨t, v⟩] v

/-- What is written is read back, and nothing else is consumed. -/
def RoundTrips (unread : P → List ParcelEntry) (writer : ParcelM P Unit) (reader : ParcelM P α)
    (value : α) : Prop :=
  ∃ entries, Writes unread writer entries ∧ Reads unread reader entries value

variable {unread : P → List ParcelEntry} {entries entries' : List ParcelEntry}

theorem Writes.pure : Writes unread (pure () : ParcelM P Unit) [] := by
  intro p
  exact ⟨p, rfl, (List.append_nil _).symm⟩

theorem Writes.bind {first second : ParcelM P Unit} (h : Writes unread first entries)
    (h' : Writes unread second entries') :
    Writes unread (first >>= fun _ => second) (entries ++ entries') := by
  intro p
  obtain ⟨p', hfirst, hp'⟩ := h p
  obtain ⟨p'', hsecond, hp''⟩ := h' p'
  refine ⟨p'', ?_, ?_⟩
  · rw [StateT.run_bind, hfirst]
    exact hsecond
  · rw [hp'', hp', List.append_assoc]

theorem Reads.pure (value : α) : Reads unread (pure value : ParcelM P α) [] value := by
  intro p rest hp
  exact ⟨p, rfl, hp⟩

theorem Reads.bind {reader : ParcelM P α} {next : α → ParcelM P β} {a : α} {b : β}
    (h : Reads unread reader entries a) (h' : Reads unread (next a) entries' b) :
    Reads unread (reader >>= next) (entries ++ entries') b := by
  intro p rest hp
  rw [List.append_assoc] at hp
  obtain ⟨p', hreader, hp'⟩ := h p _ hp
  obtain ⟨p'', hnext, hp''⟩ := h' p' rest hp'
  refine ⟨p'', ?_, hp''⟩
  rw [StateT.run_bind, hreader]
  exact hnext

/-- The last read of a reader. -/
theorem Reads.bind_pure {reader : ParcelM P α} {a : α} (h : Reads unread reader entries a)
    (f : α → β) : Reads unread (reader >>= fun a => Pure.pure (f a)) entries (f a) := by
  have hbind : Reads unread (reader >>= fun a => Pure.pure (f a)) (entries ++ []) (f a) :=
    h.bind (Reads.pure (f a))
  rwa [List.append_nil] at hbind

theorem Reads.readOr {primitives : ParcelPrimitives P} (hqueue : IsQueue primitives unread)
    {t : ParcelType} (v value : t.Value) :
    Reads unread (primitives.readOr t value) [⟨t, v⟩] v := by
  intro p rest hp
  obtain ⟨p', hread, hp'⟩ := hqueue.read t v p rest hp
  refine ⟨p', ?_, hp'⟩
  show primitives.readOr t value p = .ok (v, p')
  rw [ParcelPrimitives.readOr, hread]

end Queue

section TypedList
variable {P : Type} {α : Type} (primitives : ParcelPrimitives P)

/-- The loop that writes a list as Java's `readTypedList` expects it: a leading one stands for
an object that is not null. -/
def writeTypedList (element : α → ParcelM P Unit) (list : List α) : ParcelM P Unit := do
  primitives.write .int32 (Int32.ofNat list.length)
  list.forM fun a => do
    primitives.write .int32 1
    element a

/-- The passes of the loop that reads a list, which push to a vector. -/
def readElements (element : ParcelM P α) : ℕ → List α → ParcelM P (List α)
  | 0, vector => return vector
  | n + 1, vector => do
    let leadingNumber ← primitives.read .int32
    if leadingNumber ≠ 1 then throw badValue
    let a ← element
    readElements element n (vector ++ [a])

/-- A negative length stands for a null list, and is read as an empty one. -/
def readTypedList (element : ParcelM P α) (vector : List α) : ParcelM P (List α) := do
  let num ← primitives.read .int32
  readElements primitives element num.toInt.toNat vector

/-- What stands for a list in a parcel. -/
def typedListEntries (element : α → List ParcelEntry) (list : List α) : List ParcelEntry :=
  ⟨.int32, Int32.ofNat list.length⟩ :: list.flatMap fun a => ⟨.int32, (1 : Int32)⟩ :: element a

variable {primitives} {unread : P → List ParcelEntry} {entries : α → List ParcelEntry}

theorem Writes.forM {element : α → ParcelM P Unit} {list : List α}
    (h : ∀ a ∈ list, Writes unread (element a) (entries a)) :
    Writes unread (list.forM element) (list.flatMap entries) := by
  induction list with
  | nil => exact Writes.pure
  | cons a list ih =>
    rw [List.flatMap_cons]
    exact (h a (by simp)).bind (ih fun b hb => h b (by simp [hb]))

theorem Writes.typedList (hqueue : IsQueue primitives unread) {element : α → ParcelM P Unit}
    {list : List α} (h : ∀ a ∈ list, Writes unread (element a) (entries a)) :
    Writes unread (writeTypedList primitives element list) (typedListEntries entries list) := by
  have helement (a : α) (ha : a ∈ list) :
      Writes unread (do primitives.write .int32 1; element a)
        (⟨.int32, (1 : Int32)⟩ :: entries a) :=
    (hqueue.write .int32 1 trivial).bind (h a ha)
  exact (hqueue.write .int32 (Int32.ofNat list.length) trivial).bind (Writes.forM helement)

theorem Reads.elements (hqueue : IsQueue primitives unread) {element : ParcelM P α}
    {list : List α} (h : ∀ a ∈ list, Reads unread element (entries a) a) (vector : List α) :
    Reads unread (readElements primitives element list.length vector)
      (list.flatMap fun a => ⟨.int32, (1 : Int32)⟩ :: entries a) (vector ++ list) := by
  induction list generalizing vector with
  | nil =>
    rw [List.append_nil]
    exact Reads.pure vector
  | cons a list ih =>
    have hrest := ih (fun b hb => h b (by simp [hb])) (vector ++ [a])
    rw [List.append_assoc, List.singleton_append] at hrest
    exact (hqueue.read .int32 1).bind ((h a (by simp)).bind hrest)

/-- The length comes back from thirty-two bits. -/
theorem toNat_toInt_ofNat {n : ℕ} (h : n < 2 ^ 31) : (Int32.ofNat n).toInt.toNat = n := by
  rw [Int32.toInt_ofNat_of_lt h, Int.toNat_natCast]

theorem Reads.typedList (hqueue : IsQueue primitives unread) {element : ParcelM P α}
    {list : List α} (hlen : list.length < 2 ^ 31)
    (h : ∀ a ∈ list, Reads unread element (entries a) a) :
    Reads unread (readTypedList primitives element []) (typedListEntries entries list) list := by
  have helements := Reads.elements hqueue h []
  rw [← toNat_toInt_ofNat hlen, List.nil_append] at helements
  exact (hqueue.read .int32 (Int32.ofNat list.length)).bind helements

end TypedList

end Wificond
