import Mathlib.Tactic

/-!
# Runs of a machine

A machine takes one call at a time, `step s a`. `Always` speaks about the states
of a run and `Along` about its calls, each in the state it is made in. Where a
call keeps a state good exactly under a condition on that state and the call, the
run stays good exactly when every call of it meets the condition. Runs whose calls
may fail are compared by `EndsAlike`.
-/
namespace Wificond.Runs

variable {σ α : Type*} {step : σ → α → σ} {s : σ} {calls : List α}
variable {Good : σ → Prop} {P : σ → α → Prop}

/-- Every state of the run is good, the first and the last included. -/
def Always (step : σ → α → σ) (Good : σ → Prop) : σ → List α → Prop
  | s, [] => Good s
  | s, a :: calls => Good s ∧ Always step Good (step s a) calls

/-- Every call of the run meets `P` in the state it is made in. -/
def Along (step : σ → α → σ) (P : σ → α → Prop) : σ → List α → Prop
  | _, [] => True
  | s, a :: calls => P s a ∧ Along step P (step s a) calls

theorem always_head (h : Always step Good s calls) : Good s := by
  cases calls with
  | nil => exact h
  | cons a calls => exact h.1

/-- The states of a run are those its prefixes end in. -/
theorem always_iff_foldl :
    Always step Good s calls ↔ ∀ pre, pre <+: calls → Good (pre.foldl step s) := by
  induction calls generalizing s with
  | nil => simp [Always]
  | cons a calls ih =>
    rw [Always, ih]
    constructor
    · intro hboth pre hpre
      obtain ⟨hs, hrest⟩ := hboth
      cases pre with
      | nil => exact hs
      | cons b pre =>
        obtain ⟨rfl, htail⟩ := List.cons_prefix_cons.mp hpre
        exact hrest pre htail
    · intro h
      refine ⟨h [] (List.nil_prefix), fun pre hpre => ?_⟩
      exact h (a :: pre) (List.cons_prefix_cons.mpr ⟨rfl, hpre⟩)

theorem always_mono {Good' : σ → Prop} (hsub : ∀ s, Good s → Good' s)
    (h : Always step Good s calls) : Always step Good' s calls :=
  always_iff_foldl.mpr fun pre hpre => hsub _ (always_iff_foldl.mp h pre hpre)

/-- What every admitted call keeps holds throughout the run. -/
theorem always_of_along (hstep : ∀ s a, Good s → P s a → Good (step s a)) (hs : Good s)
    (h : Along step P s calls) : Always step Good s calls := by
  induction calls generalizing s with
  | nil => exact hs
  | cons a calls ih => exact ⟨hs, ih (hstep s a hs h.1) h.2⟩

/-- What every call keeps holds throughout the run. -/
theorem always_of_step (hstep : ∀ s a, Good s → Good (step s a)) (hs : Good s) :
    Always step Good s calls := by
  induction calls generalizing s with
  | nil => exact hs
  | cons a calls ih => exact ⟨hs, ih (hstep s a hs)⟩

theorem along_of_forall (h : ∀ a ∈ calls, ∀ s, P s a) : Along step P s calls := by
  induction calls generalizing s with
  | nil => trivial
  | cons a calls ih => exact ⟨h a (by simp) s, ih fun b hb => h b (by simp [hb])⟩

theorem along_of_append {more : List α} (h : Along step P s (calls ++ more)) :
    Along step P s calls := by
  induction calls generalizing s with
  | nil => trivial
  | cons a calls ih => exact ⟨h.1, ih h.2⟩

/-- A condition on calls may be replaced by one that it implies in the states it leads to. -/
theorem along_of_along (Inv : σ → Prop) {P' : σ → α → Prop}
    (hinv : ∀ s a, Inv s → P s a → Inv (step s a))
    (himp : ∀ s a, Inv s → P s a → P' s a) (hI : Inv s) (h : Along step P s calls) :
    Along step P' s calls := by
  induction calls generalizing s with
  | nil => trivial
  | cons a calls ih => exact ⟨himp s a hI h.1, ih (hinv s a hI h.1) h.2⟩

/-- Where `P` decides whether a call keeps a state good, it decides so for runs. -/
theorem always_iff_along (Inv : σ → Prop) (Q : α → Prop)
    (hinv : ∀ s a, Inv s → Q a → Inv (step s a))
    (hgood : ∀ s a, Inv s → Q a → Good s → (Good (step s a) ↔ P s a))
    (hI : Inv s) (hs : Good s) (hQ : ∀ a ∈ calls, Q a) :
    Always step Good s calls ↔ Along step P s calls := by
  induction calls generalizing s with
  | nil => simp [Always, Along, hs]
  | cons a calls ih =>
    have ha : Q a := hQ a (by simp)
    have hrest : ∀ b ∈ calls, Q b := fun b hb => hQ b (by simp [hb])
    have hnext := hgood s a hI ha hs
    simp only [Always, Along, hs, true_and]
    constructor
    · intro h
      have hg : Good (step s a) := always_head h
      exact ⟨hnext.mp hg, (ih (hinv s a hI ha) hg hrest).mp h⟩
    · intro hboth
      obtain ⟨hp, h⟩ := hboth
      exact (ih (hinv s a hI ha) (hnext.mpr hp) hrest).mpr h

/-- A preorder that relates every state to the next one relates the ends of a run. -/
theorem foldl_related {R : σ → σ → Prop} (hrefl : ∀ s, R s s)
    (htrans : ∀ s t u, R s t → R t u → R s u) (hstep : ∀ s a, R s (step s a)) :
    R s (calls.foldl step s) := by
  induction calls generalizing s with
  | nil => exact hrefl s
  | cons a calls ih => exact htrans _ _ _ (hstep s a) ih

/-- A loop that establishes `Q` for the element it is at, and loses it for no element, has
established it for all elements at its end. -/
theorem foldl_collects (Good : σ → Prop) (Q : α → σ → Prop)
    (hstep : ∀ s, ∀ a ∈ calls, Good s → Good (step s a) ∧ Q a (step s a))
    (hkeep : ∀ s a b, Q b s → Q b (step s a)) (hs : Good s) :
    Good (calls.foldl step s) ∧ ∀ a ∈ calls, Q a (calls.foldl step s) := by
  induction calls generalizing s with
  | nil => exact ⟨hs, by simp⟩
  | cons a calls ih =>
    obtain ⟨hgood, ha⟩ := hstep s a (by simp) hs
    obtain ⟨hend, hrest⟩ := ih (fun s b hb => hstep s b (List.mem_cons_of_mem a hb)) hgood
    refine ⟨hend, fun b hb => ?_⟩
    rcases List.mem_cons.mp hb with rfl | hb
    · have hkept := @foldl_related _ _ step (step s b) calls
        (R := fun s t => Q b s → Q b t) (fun _ => id) (fun _ _ _ h h' => h' ∘ h)
        fun s a => hkeep s a b
      exact hkept ha
    · exact hrest b hb

/-- What no call changes is at the end what it was at the start. -/
theorem foldl_frame {β : Type*} (f : σ → β) (hstep : ∀ s a, f (step s a) = f s) :
    f (calls.foldl step s) = f s :=
  foldl_related (R := fun s t => f t = f s) (fun _ => rfl) (fun _ _ _ h h' => h'.trans h) hstep

/-- What holds at every split of a history holds at its first entry and at those behind it. -/
theorem forall_split_cons_iff {Q : List α → α → List α → Prop} {a : α} :
    (∀ pre b post, a :: calls = pre ++ b :: post → Q pre b post) ↔
      Q [] a calls ∧ ∀ pre b post, calls = pre ++ b :: post → Q (a :: pre) b post := by
  constructor
  · intro h
    refine ⟨h [] a calls rfl, fun pre b post hcalls => ?_⟩
    exact h (a :: pre) b post (by rw [hcalls, List.cons_append])
  · intro h pre b post hsplit
    cases pre with
    | nil =>
      obtain ⟨rfl, rfl⟩ := List.cons.inj hsplit
      exact h.1
    | cons c pre =>
      obtain ⟨rfl, hcalls⟩ := List.cons.inj hsplit
      exact h.2 pre b post hcalls

/-- Where a history goes on by one entry, a split of it is at the new entry or earlier. -/
theorem append_singleton_split {pre post : List α} {a b : α}
    (h : calls ++ [a] = pre ++ b :: post) :
    (calls = pre ∧ a = b ∧ post = []) ∨
      ∃ rest, post = rest ++ [a] ∧ calls = pre ++ b :: rest := by
  rcases List.eq_nil_or_concat post with rfl | ⟨rest, last, rfl⟩
  · left
    obtain ⟨hcalls, hlast⟩ := List.append_inj' h rfl
    exact ⟨hcalls, by simpa using hlast, rfl⟩
  · right
    rw [List.concat_eq_append, ← List.cons_append, ← List.append_assoc] at h
    obtain ⟨hcalls, hlast⟩ := List.append_inj' h rfl
    obtain rfl : a = last := by simpa using hlast
    exact ⟨rest, by simp, hcalls⟩

/-- What is met somewhere in a history that goes on by one entry is met before, or there. -/
theorem exists_split_append_singleton {Q : List α → α → Prop} {b : α} :
    (∃ pre a post, calls ++ [b] = pre ++ a :: post ∧ Q pre a) ↔
      (∃ pre a post, calls = pre ++ a :: post ∧ Q pre a) ∨ Q calls b := by
  constructor
  · intro h
    obtain ⟨pre, a, post, heq, hQ⟩ := h
    rcases append_singleton_split heq with ⟨rfl, rfl, -⟩ | ⟨rest, -, hcalls⟩
    · exact .inr hQ
    · exact .inl ⟨pre, a, rest, hcalls, hQ⟩
  · intro h
    rcases h with ⟨pre, a, post, rfl, hQ⟩ | hQ
    · exact ⟨pre, a, post ++ [b], by simp, hQ⟩
    · exact ⟨calls, b, [], rfl, hQ⟩

/-- The splits of what a history means are those of the history at entries that mean something. -/
theorem exists_split_filterMap {β : Type*} {f : α → Option β} {Q : List β → β → List β → Prop} :
    (∃ pre b post, calls.filterMap f = pre ++ b :: post ∧ Q pre b post) ↔
      ∃ pre a post, calls = pre ++ a :: post ∧ ∃ b, f a = some b ∧
        Q (pre.filterMap f) b (post.filterMap f) := by
  constructor
  · intro h
    obtain ⟨pre, b, post, hsplit, hQ⟩ := h
    obtain ⟨before, rest, rfl, rfl, hrest⟩ := List.filterMap_eq_append_iff.mp hsplit
    obtain ⟨skipped, a, behind, rfl, hskipped, ha, rfl⟩ := List.filterMap_eq_cons_iff.mp hrest
    refine ⟨before ++ skipped, a, behind, by simp, b, ha, ?_⟩
    rwa [List.filterMap_append, List.filterMap_eq_nil_iff.mpr hskipped, List.append_nil]
  · intro h
    obtain ⟨pre, a, post, rfl, b, ha, hQ⟩ := h
    exact ⟨pre.filterMap f, b, post.filterMap f, by simp [ha], hQ⟩

/-- Where each call either writes a value or leaves it alone, a value that is not the one at
the start was written last by some call, and by none behind it. -/
theorem foldl_eq_iff_written {β : Type*} {f : σ → β} (write : α → Option β)
    (hstep : ∀ s a, f (step s a) = (write a).getD (f s)) {b : β} (hb : f s ≠ b) :
    f (calls.foldl step s) = b ↔ ∃ pre a post, calls = pre ++ a :: post ∧ write a = some b ∧
      ∀ c ∈ post, write c = none := by
  induction calls using List.reverseRecOn with
  | nil => simpa using hb
  | append_singleton calls c ih =>
    rw [List.foldl_append, List.foldl_cons, List.foldl_nil, hstep]
    cases hwrite : write c with
    | none =>
      rw [Option.getD_none, ih]
      constructor
      · intro h
        obtain ⟨pre, a, post, rfl, ha, hpost⟩ := h
        refine ⟨pre, a, post ++ [c], by simp, ha, fun d hd => ?_⟩
        rcases List.mem_append.mp hd with hd | hd
        · exact hpost d hd
        · rw [List.mem_singleton.mp hd, hwrite]
      · intro h
        obtain ⟨pre, a, post, hsplit, ha, hpost⟩ := h
        rcases append_singleton_split hsplit with ⟨rfl, rfl, -⟩ | ⟨rest, rfl, rfl⟩
        · simp [hwrite] at ha
        · exact ⟨pre, a, rest, rfl, ha, fun d hd => hpost d (List.mem_append_left _ hd)⟩
    | some written =>
      rw [Option.getD_some]
      constructor
      · rintro rfl
        exact ⟨calls, c, [], rfl, hwrite, by simp⟩
      · intro h
        obtain ⟨pre, a, post, hsplit, ha, hpost⟩ := h
        rcases append_singleton_split hsplit with ⟨rfl, rfl, -⟩ | ⟨rest, rfl, -⟩
        · exact Option.some.inj (hwrite.symm.trans ha)
        · have hnone := hpost c (by simp)
          simp [hwrite] at hnone

/-- The last call of a run that says something says `b`. -/
def Latest {β : Type*} (R : α → β → Prop) (calls : List α) (b : β) : Prop :=
  ∃ pre a post, calls = pre ++ a :: post ∧ R a b ∧ ∀ c ∈ post, ∀ other, ¬ R c other

theorem foldl_eq_of_silent {β γ : Type*} {R : α → β → Prop} {f : σ → γ}
    (hkeep : ∀ s a, (∀ b, ¬ R a b) → f (step s a) = f s) (h : ∀ a ∈ calls, ∀ b, ¬ R a b) :
    f (calls.foldl step s) = f s := by
  induction calls generalizing s with
  | nil => rfl
  | cons a calls ih =>
    rw [List.foldl_cons, ih fun c hc => h c (List.mem_cons_of_mem _ hc), hkeep s a (h a (by simp))]

/-- What calls set where they say something, and keep elsewhere, is set by the latest one. -/
theorem foldl_eq_of_latest {β γ : Type*} {R : α → β → Prop} {f : σ → γ} {g : β → γ} {b : β}
    (hset : ∀ s a b, R a b → f (step s a) = g b)
    (hkeep : ∀ s a, (∀ b, ¬ R a b) → f (step s a) = f s) (h : Latest R calls b) :
    f (calls.foldl step s) = g b := by
  obtain ⟨pre, a, post, rfl, ha, hpost⟩ := h
  rw [List.foldl_append, List.foldl_cons, foldl_eq_of_silent hkeep hpost, hset _ a b ha]

theorem latest_or_silent {β : Type*} (R : α → β → Prop) (calls : List α) :
    (∃ b, Latest R calls b) ∨ ∀ a ∈ calls, ∀ b, ¬ R a b := by
  induction calls using List.reverseRecOn with
  | nil => simp
  | append_singleton calls a ih =>
    by_cases ha : ∃ b, R a b
    · obtain ⟨b, hb⟩ := ha
      exact .inl ⟨b, calls, a, [], rfl, hb, by simp⟩
    · rw [not_exists] at ha
      rcases ih with ⟨b, pre, c, post, rfl, hc, hpost⟩ | hsilent
      · refine .inl ⟨b, pre, c, post ++ [a], by simp, hc, fun d hd => ?_⟩
        rcases List.mem_append.mp hd with hd | hd
        · exact hpost d hd
        · rw [List.mem_singleton.mp hd]
          exact ha
      · right
        intro d hd
        rcases List.mem_append.mp hd with hd | hd
        · exact hsilent d hd
        · rw [List.mem_singleton.mp hd]
          exact ha

/-- Of the calls that are made behind a history with `P`, the last one that says something
says `b`. -/
def LatestBehind {β : Type*} (P : List α → Prop) (R : α → β → Prop) (calls : List α) (b : β) :
    Prop :=
  ∃ pre a post, calls = pre ++ a :: post ∧ P pre ∧ R a b ∧
    ∀ mid c rest, post = mid ++ c :: rest → P (pre ++ a :: mid) → ∀ other, ¬ R c other

section Latest
variable {β : Type*} {P : List α → Prop} {R : α → β → Prop} {a : α} {b c : β}

theorem latestBehind_append_singleton : LatestBehind P R (calls ++ [a]) b ↔
    P calls ∧ R a b ∨ LatestBehind P R calls b ∧ (P calls → ∀ other, ¬ R a other) := by
  constructor
  · intro h
    obtain ⟨pre, c, post, heq, hpre, hc, hpost⟩ := h
    rcases append_singleton_split heq with ⟨rfl, rfl, -⟩ | ⟨rest, rfl, rfl⟩
    · exact .inl ⟨hpre, hc⟩
    · refine .inr ⟨⟨pre, c, rest, rfl, hpre, hc, fun mid d behind hrest => ?_⟩, ?_⟩
      · exact hpost mid d (behind ++ [a]) (by simp [hrest])
      · exact hpost rest a [] rfl
  · intro h
    rcases h with ⟨hcalls, ha⟩ | ⟨⟨pre, c, post, rfl, hpre, hc, hpost⟩, hlast⟩
    · exact ⟨calls, a, [], rfl, hcalls, ha, by simp⟩
    · refine ⟨pre, c, post ++ [a], by simp, hpre, hc, fun mid d rest hsplit => ?_⟩
      rcases append_singleton_split hsplit with ⟨rfl, rfl, -⟩ | ⟨behind, -, hpost'⟩
      · exact hlast
      · exact hpost mid d behind hpost'

theorem latestBehind_unique (hR : ∀ a b c, R a b → R a c → b = c)
    (hb : LatestBehind P R calls b) (hc : LatestBehind P R calls c) : b = c := by
  induction calls using List.reverseRecOn with
  | nil =>
    obtain ⟨pre, a, post, heq, -⟩ := hb
    simp at heq
  | append_singleton calls a ih =>
    rcases latestBehind_append_singleton.mp hb with ⟨hP, hb⟩ | ⟨hb, hsilent⟩
    · rcases latestBehind_append_singleton.mp hc with ⟨-, hc⟩ | ⟨-, hsilent⟩
      · exact hR a b c hb hc
      · exact absurd hb (hsilent hP b)
    · rcases latestBehind_append_singleton.mp hc with ⟨hP, hc⟩ | ⟨hc, -⟩
      · exact absurd hc (hsilent hP c)
      · exact ih hb hc

/-- The latest call is the latest one behind any history. -/
theorem latest_iff_latestBehind : Latest R calls b ↔ LatestBehind (fun _ => True) R calls b := by
  constructor
  · intro h
    obtain ⟨pre, a, post, heq, ha, hpost⟩ := h
    exact ⟨pre, a, post, heq, trivial, ha, fun mid c rest hsplit _ => hpost c (by simp [hsplit])⟩
  · intro h
    obtain ⟨pre, a, post, heq, -, ha, hpost⟩ := h
    refine ⟨pre, a, post, heq, ha, fun c hc => ?_⟩
    obtain ⟨mid, rest, hsplit⟩ := List.append_of_mem hc
    exact hpost mid c rest hsplit trivial

theorem latest_append_singleton :
    Latest R (calls ++ [a]) b ↔ R a b ∨ Latest R calls b ∧ ∀ other, ¬ R a other := by
  rw [latest_iff_latestBehind, latestBehind_append_singleton, latest_iff_latestBehind]
  simp

theorem latest_unique (hR : ∀ a b c, R a b → R a c → b = c) (hb : Latest R calls b)
    (hc : Latest R calls c) : b = c :=
  latestBehind_unique hR (latest_iff_latestBehind.mp hb) (latest_iff_latestBehind.mp hc)

end Latest

variable {ε : Type*} {attempt : σ → α → Except ε σ} {t : σ}

theorem bind_eq_ok {β γ : Type*} {x : Except ε β} {f : β → Except ε γ} {c : γ} :
    x.bind f = .ok c ↔ ∃ b, x = .ok b ∧ f b = .ok c := by
  cases x with
  | error e => simp [Except.bind]
  | ok b => simp [Except.bind]

theorem exists_of_map_eq_ok {β γ : Type*} {x : Except ε β} {f : β → γ} {c : γ}
    (h : x.map f = .ok c) : ∃ b, x = .ok b ∧ f b = c := by
  cases x with
  | error e => simp [Except.map] at h
  | ok b => exact ⟨b, rfl, by simpa [Except.map] using h⟩

/-- A computation that goes on with nothing but a value, and comes to a value in the end. -/
theorem exists_of_bind_some {β γ : Type*} {x : Except ε (Option β)}
    {f : Option β → Except ε (Option γ)} {c : γ} (h : x.bind f = .ok (some c))
    (hnone : f none = .ok none) : ∃ b, x = .ok (some b) ∧ f (some b) = .ok (some c) := by
  obtain ⟨b?, hx, hf⟩ := bind_eq_ok.mp h
  cases b? with
  | none =>
    rw [hnone] at hf
    simp at hf
  | some b => exact ⟨b, hx, hf⟩

/-- The same for a computation that is known to find something only where `o` has a value. -/
theorem bind_eq_ok_of_map {β γ δ : Type*} {x : Except ε (Option β)} {o : Option δ} {e : δ → β}
    {f : Option β → Except ε (Option γ)} {g : δ → Option γ} (hx : x = .ok (o.map e))
    (hnone : f none = .ok none) (hsome : ∀ d, f (some (e d)) = .ok (g d)) :
    x.bind f = .ok (o.bind g) := by
  subst hx
  cases o with
  | none => exact hnone
  | some d => exact hsome d

theorem foldlM_append_singleton_eq_ok {a : α} : (calls ++ [a]).foldlM attempt s = .ok t ↔
    ∃ u, calls.foldlM attempt s = .ok u ∧ attempt u a = .ok t := by
  rw [List.foldlM_append]
  refine bind_eq_ok.trans ?_
  simp only [List.foldlM_cons, List.foldlM_nil]
  refine exists_congr fun u => and_congr_right fun _ => ?_
  exact bind_eq_ok.trans (by simp [pure, Except.pure])

theorem foldlM_cons_eq_ok {a : α} : (a :: calls).foldlM attempt s = .ok t ↔
    ∃ u, attempt s a = .ok u ∧ calls.foldlM attempt u = .ok t := by
  rw [List.foldlM_cons]
  exact bind_eq_ok

/-- What every step that succeeds keeps holds at the end of a run that succeeds. -/
theorem foldlM_keeps (Good : σ → Prop)
    (hstep : ∀ s, ∀ a ∈ calls, ∀ u, Good s → attempt s a = .ok u → Good u) (hs : Good s)
    (h : calls.foldlM attempt s = .ok t) : Good t := by
  induction calls generalizing s with
  | nil =>
    obtain rfl := Except.ok.inj h
    exact hs
  | cons a calls ih =>
    obtain ⟨u, hu, hrest⟩ := foldlM_cons_eq_ok.mp h
    exact ih (fun s b hb => hstep s b (List.mem_cons_of_mem a hb)) (hstep s a (by simp) u hs hu)
      hrest

/-- A run succeeds where every step does. -/
theorem exists_foldlM {Good : σ → Prop}
    (hstep : ∀ a ∈ calls, ∀ s, Good s → ∃ t, attempt s a = .ok t ∧ Good t) (hs : Good s) :
    ∃ t, calls.foldlM attempt s = .ok t ∧ Good t := by
  induction calls generalizing s with
  | nil => exact ⟨s, rfl, hs⟩
  | cons a calls ih =>
    obtain ⟨u, hu, hgood⟩ := hstep a (by simp) s hs
    obtain ⟨t, ht, hdone⟩ := ih (fun b hb => hstep b (List.mem_cons_of_mem a hb)) hgood
    exact ⟨t, foldlM_cons_eq_ok.mpr ⟨u, hu, ht⟩, hdone⟩

/-- Two computations end alike: in related results or in the same fault. Where a fault is
excused, one of them may end in it whatever the other does. -/
inductive EndsAlike {β γ : Type*} (excused : ε → Prop) (R : β → γ → Prop) :
    Except ε β → Except ε γ → Prop
  | ok {b : β} {c : γ} (h : R b c) : EndsAlike excused R (.ok b) (.ok c)
  | error (e : ε) : EndsAlike excused R (.error e) (.error e)
  | left {e : ε} (he : excused e) (y : Except ε γ) : EndsAlike excused R (.error e) y
  | right {e : ε} (he : excused e) (x : Except ε β) : EndsAlike excused R x (.error e)

namespace EndsAlike
variable {β γ β' γ' : Type*} {excused : ε → Prop} {R : β → γ → Prop} {R' : β' → γ' → Prop}
  {x : Except ε β} {y : Except ε γ}

theorem bind {f : β → Except ε β'} {g : γ → Except ε γ'} (h : EndsAlike excused R x y)
    (hf : ∀ b c, R b c → EndsAlike excused R' (f b) (g c)) :
    EndsAlike excused R' (x.bind f) (y.bind g) := by
  cases h with
  | ok hbc => exact hf _ _ hbc
  | error e => exact .error e
  | left he y => exact .left he _
  | right he x => exact .right he _

theorem foldlM {f : β → α → Except ε β} {g : γ → α → Except ε γ} {b : β} {c : γ}
    (hstep : ∀ a ∈ calls, ∀ b c, R b c → EndsAlike excused R (f b a) (g c a)) (h : R b c) :
    EndsAlike excused R (calls.foldlM f b) (calls.foldlM g c) := by
  induction calls generalizing b c with
  | nil => exact .ok h
  | cons a calls ih =>
    rw [List.foldlM_cons, List.foldlM_cons]
    exact (hstep a (by simp) b c h).bind fun _ _ hbc =>
      ih (fun d hd => hstep d (List.mem_cons_of_mem a hd)) hbc

/-- Where no excuse is taken, what is made of the results is the same. -/
theorem map_eq {δ : Type*} {f : β → δ} {g : γ → δ} (h : EndsAlike excused R x y)
    (hx : ∀ e, excused e → x ≠ .error e) (hy : ∀ e, excused e → y ≠ .error e)
    (hR : ∀ b c, R b c → f b = g c) : x.map f = y.map g := by
  cases h with
  | ok hbc => exact congrArg Except.ok (hR _ _ hbc)
  | error e => rfl
  | left he y => exact absurd rfl (hx _ he)
  | right he x => exact absurd rfl (hy _ he)

end EndsAlike

end Wificond.Runs
