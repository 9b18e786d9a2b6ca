import Wificond.EventRouting
import Wificond.RetainedObjects
import Wificond.ServerOwners

/-!
# Deliveries of broadcasts

A broadcast calls one handler of an interface at most, whatever its command is, or the handlers
of regulatory changes, which construct and destroy nothing. While no call of the server disables
a live interface, the handler that is called is that of the live interface with the index.
-/
namespace Wificond

namespace NetlinkManager

variable {packet : NL80211Packet} {command : ℕ}

theorem calls_onRegChangeEvent (regType : UInt8) (s : EventState) :
    ((onRegChangeEvent regType packet).after s).calls = s.calls := by
  unfold onRegChangeEvent
  cases hread : regDomainChange regType packet with
  | error fault => rfl
  | ok countryCode =>
    cases countryCode with
    | none => rfl
    | some countryCode => rfl

theorem after_of_ok {α : Type} {x : Exec α} {f : α → EventM Unit} {a : α} (hx : x = .ok a)
    (s : EventState) : EventM.after (do f (← x)) s = (f a).after s := by
  rw [hx]
  rfl

/-- A command of no table calls no handler of an interface. -/
theorem calls_broadcastHandler_of_other (familyId : UInt16) (regType : UInt8) (s : EventState)
    (hcommand : packet.getCommand = .ok command) (hother : eventTable command = none) :
    ((broadcastHandler familyId regType packet).after s).calls = s.calls := by
  unfold broadcastHandler
  split_ifs with hfamily
  · rfl
  · rw [after_of_ok hcommand]
    split_ifs with hscan hsched hmlme hreg hstation hswitch htx
    · rcases hscan with rfl | rfl <;> exact absurd hother (by decide)
    · rcases hsched with rfl | rfl <;> exact absurd hother (by decide)
    · rcases hmlme with rfl | rfl | rfl | rfl | rfl <;> exact absurd hother (by decide)
    · exact calls_onRegChangeEvent regType s
    · rcases hstation with rfl | rfl <;> exact absurd hother (by decide)
    · subst hswitch
      exact absurd hother (by decide)
    · subst htx
      exact absurd hother (by decide)
    · rfl

/-- The calls of any broadcast: the one that it is routed to, if there is one. -/
theorem calls_broadcastHandler (familyId : UInt16) (regType : UInt8) (packet : NL80211Packet)
    (netlink : NetlinkManager) : ∃ call : Option HandlerCall,
      ((broadcastHandler familyId regType packet).after
        ⟨netlink, [], []⟩).calls = call.toList ∧
      ∀ c, call = some c ↔ packet.getMessageType = familyId.toNat ∧
        ∃ command, packet.getCommand = .ok command ∧ Routed netlink packet command c := by
  cases hcommand : packet.getCommand with
  | error fault =>
    refine ⟨none, ?_, fun c => by simp⟩
    unfold broadcastHandler
    split_ifs
    · rfl
    · rw [hcommand]
      rfl
  | ok command =>
    by_cases hscoped : eventTable command = none
    · refine ⟨none, calls_broadcastHandler_of_other familyId regType _ hcommand hscoped, ?_⟩
      intro c
      refine iff_of_false (by simp) ?_
      rintro ⟨-, command', hread, hrouted⟩
      obtain rfl := Except.ok.inj hread
      have htable := hrouted.table
      rw [hscoped] at htable
      simp at htable
    · obtain ⟨call, hafter, hcall⟩ :=
        broadcastHandler_calls familyId regType packet ⟨netlink, [], []⟩ hcommand hscoped
      refine ⟨call, by rw [hafter]; rfl, fun c => ?_⟩
      rw [hcall c]
      constructor
      · rintro ⟨hfamily, hrouted⟩
        exact ⟨hfamily, command, rfl, hrouted⟩
      · rintro ⟨hfamily, command', hread, hrouted⟩
        obtain rfl := Except.ok.inj hread
        exact ⟨hfamily, hrouted⟩

end NetlinkManager

namespace Server

variable {s t : Server}

theorem sameObjects_foldl_serve {calls : List Call} (hidle : ∀ call ∈ calls, call.request.Idle)
    (s : Server) : SameObjects s (calls.foldl serve s) := by
  induction calls generalizing s with
  | nil => exact .refl s
  | cons call calls ih =>
    have hfirst : SameObjects s (s.serve call) := sameObjects_serve (hidle call (by simp))
    exact hfirst.trans (ih (fun c hc => hidle c (List.mem_cons_of_mem _ hc)) _)

/-- A server goes on with the same objects, or from a call that disables no live interface. -/
inductive Spares (s : Server) : Server → Prop
  | same {t : Server} (h : SameObjects s t) : Spares s t
  | serve {call : Call} (h : s.SparesLive call) : Spares s (s.serve call)

/-- Objects are stored in order, and their handlers, and no others, are registered. -/
structure Intact (s : Server) : Prop where
  wellNamed : s.WellNamed
  owned : s.HandlersOwned
  registered : s.HandlersRegistered

theorem Spares.intact (h : s.Spares t) (hs : s.Intact) : t.Intact := by
  cases h with
  | same h =>
    exact ⟨wellNamed_congr h hs.wellNamed, handlersOwned_congr h hs.owned,
      handlersRegistered_congr h hs.registered⟩
  | serve h =>
    exact ⟨wellNamed_serve hs.wellNamed, handlersOwned_serve hs.owned,
      (handlersRegistered_serve hs.wellNamed hs.registered).mpr h⟩

/-- The handlers of live interfaces stay registered while every step spares them. -/
theorem intact_of_along {σ α : Type*} {step : σ → α → σ} {P : σ → α → Prop} {c : σ}
    {history : List α} (server : σ → Server) (hfresh : server c = fresh)
    (hstep : ∀ c a, P c a → (server c).Spares (server (step c a)))
    (h : Runs.Along step P c history) : (server (history.foldl step c)).Intact := by
  have hstart : (server c).Intact := by
    rw [hfresh]
    exact ⟨wellNamed_fresh, handlersOwned_fresh, handlersRegistered_fresh⟩
  have halways : Runs.Always step (fun c => (server c).Intact) c history :=
    Runs.always_of_along (fun c a hc ha => (hstep c a ha).intact hc) hstart h
  exact Runs.always_iff_foldl.mp halways history (List.prefix_refl history)

end Server

theorem World.server_foldl_serve (calls : List Call) (w : World) :
    (calls.foldl (fun w call => w.serve call) w).server =
      calls.foldl (fun s call => s.serve call) w.server := by
  induction calls generalizing w with
  | nil => rfl
  | cons call calls ih => rw [List.foldl_cons, List.foldl_cons, ih, server_serve]

end Wificond
