import Mathlib.Data.Nat.Basic
import Mathlib.Data.List.Basic
import Mathlib.Tactic.Common

/-!
# Bounded broadcast channels

For a receiver a broadcast channel is the queue of the values that were sent since its
subscription. It gets them in order as long as no more than the capacity are unread; otherwise it
is told how many were overwritten and goes on with the oldest one left. These are the laws of a
channel, and what is read over one follows from them. A ring of slots has them: the value that is
sent next goes to the slot of its position modulo the capacity, and a receiver is the position of
the value that it reads next.
-/

namespace MeshPresence.BroadcastChannels

/-- What a receiver gets. -/
inductive Received (α ρ : Type*) where
  /-- Nothing is unread. -/
  | empty
  /-- The next value, and the receiver behind it. -/
  | value (value : α) (next : ρ)
  /-- The number of values that were overwritten, and the receiver at the oldest one left. -/
  | lagged (missed : ℕ) (next : ρ)
  deriving DecidableEq

/-- A broadcast channel and its laws. -/
structure Broadcast (γ ρ α : Type*) (capacity : ℕ) where
  /-- A channel without values. -/
  new : γ
  /-- Send a value. -/
  send : γ → α → γ
  /-- A receiver of the values that are sent from now on. -/
  subscribe : γ → ρ
  /-- Receive, and the receiver that goes on. -/
  recv : γ → ρ → Received α ρ
  /-- The values that a receiver has not received yet. -/
  Backlog : γ → ρ → List α → Prop
  /-- Nothing is unread at a new subscription. -/
  backlog_subscribe : ∀ c, Backlog c (subscribe c) []
  /-- A value that is sent becomes the last unread one. -/
  backlog_send : ∀ {c next unread}, Backlog c next unread → ∀ value,
    Backlog (send c value) next (unread ++ [value])
  /-- A receiver without unread values waits. -/
  recv_empty : ∀ {c next}, Backlog c next [] → recv c next=.empty
  /-- A receiver with at most as many unread values as the capacity gets the first one. -/
  recv_value : ∀ {c next value rest}, Backlog c next (value :: rest) → rest.length<capacity →
    ∃ after, recv c next=.value value after ∧ Backlog c after rest
  /-- A receiver with more unread values than the capacity is told how many it missed. -/
  recv_lagged : ∀ {c next unread}, Backlog c next unread → capacity<unread.length →
    ∃ oldest, recv c next=.lagged (unread.length-capacity) oldest ∧
      Backlog c oldest (unread.drop (unread.length-capacity))

/-- What a receiver gets from the queue of its unread values, and what is unread afterwards. -/
theorem Broadcast.recv_cases {γ ρ α : Type*} {capacity : ℕ} (broadcast : Broadcast γ ρ α capacity)
    {c : γ} {next : ρ} {unread : List α} (h : broadcast.Backlog c next unread) :
    (unread=[] ∧ broadcast.recv c next=.empty) ∨
    (∃ value rest after, unread=value :: rest ∧ broadcast.recv c next=.value value after ∧
      broadcast.Backlog c after rest) ∨
    (capacity<unread.length ∧ ∃ oldest,
      broadcast.recv c next=.lagged (unread.length-capacity) oldest ∧
      broadcast.Backlog c oldest (unread.drop (unread.length-capacity))) := by
  rcases Nat.lt_or_ge capacity unread.length with hlost|hkept
  · exact Or.inr (Or.inr ⟨hlost,broadcast.recv_lagged h hlost⟩)
  · cases unread with
    | nil => exact Or.inl ⟨rfl,broadcast.recv_empty h⟩
    | cons value rest =>
      obtain ⟨after,hvalue,hrest⟩ := broadcast.recv_value h hkept
      exact Or.inr (Or.inl ⟨value,rest,after,rfl,hvalue,hrest⟩)

section Ring

variable {α : Type*} {capacity : ℕ}

/-- A channel with its slots. -/
structure Channel (α : Type*) (capacity : ℕ) where
  /-- Number of values sent so far: the position of the next one. -/
  sent : ℕ
  /-- The last value of each slot. -/
  slots : Vector (Option α) capacity
  deriving DecidableEq

/-- A channel without values. -/
def Channel.new (α : Type*) (capacity : ℕ) : Channel α capacity where
  sent := 0
  slots := Vector.replicate capacity none

/-- Send a value; the slot forgets the value before. -/
def Channel.send (c : Channel α capacity) (value : α) : Channel α capacity where
  sent := c.sent+1
  slots := c.slots.setIfInBounds (c.sent%capacity) (some value)

/-- Receive at a position. -/
def Channel.recv (c : Channel α capacity) (next : ℕ) : Received α ℕ :=
  if c.sent ≤ next then .empty
  else if capacity<c.sent-next then .lagged (c.sent-next-capacity) (c.sent-capacity)
  else
    match c.slots[next%capacity]? with
    | some (some value) => .value value (next+1)
    | _ => .empty

/-- The values sent since a position: as many as there are positions, and those that were not
overwritten are in their slots. -/
structure Backlog (c : Channel α capacity) (next : ℕ) (unread : List α) : Prop where
  /-- Every position from there on is that of an unread value. -/
  sent : c.sent=next+unread.length
  /-- The last values, as many as there are slots, are in their slots. -/
  slots : ∀ (i : ℕ) (value : α), unread[i]?=some value → unread.length ≤ i+capacity →
    c.slots[(next+i)%capacity]?=some (some value)

/-- Positions that are closer than the capacity have slots of their own. -/
theorem slot_ne {i j : ℕ} (hlt : i<j) (hclose : j < i+capacity) : i%capacity ≠ j%capacity := by
  intro h
  have hmod : (j-i)%capacity=0 := Nat.sub_mod_eq_zero_of_mod_eq h.symm
  rw [Nat.mod_eq_of_lt (by omega)] at hmod
  omega

/-- Nothing is unread at a new subscription. -/
theorem Backlog.subscribe (c : Channel α capacity) : Backlog c c.sent [] where
  sent := rfl
  slots := fun i value h => by cases h

/-- A value that is sent becomes the last unread one. -/
theorem Backlog.send (hpos : 0<capacity) {c : Channel α capacity} {next : ℕ} {unread : List α}
    (h : Backlog c next unread) (value : α) : Backlog (c.send value) next (unread ++ [value]) := by
  have hsent : (c.send value).sent=c.sent+1 := rfl
  have hslots : (c.send value).slots=c.slots.setIfInBounds (c.sent%capacity) (some value) := rfl
  refine ⟨?_,fun i other hi hkept => ?_⟩
  · rw [hsent,h.sent,List.length_append,List.length_singleton,Nat.add_assoc]
  · rw [List.length_append,List.length_singleton] at hkept
    rw [hslots]
    rcases Nat.lt_trichotomy i unread.length with hlt|rfl|hgt
    · rw [List.getElem?_append_left hlt] at hi
      have hne : c.sent%capacity ≠ (next+i)%capacity := by
        rw [h.sent]
        exact (slot_ne (by omega) (by omega)).symm
      rw [Vector.getElem?_setIfInBounds_ne hne]
      exact h.slots i other hi (by omega)
    · rw [List.getElem?_concat_length] at hi
      cases hi
      rw [←h.sent,Vector.getElem?_setIfInBounds_self_of_lt (Nat.mod_lt _ hpos)]
    · have hnone : (unread ++ [value])[i]?=none := by
        rw [List.getElem?_eq_none_iff,List.length_append,List.length_singleton]
        omega
      cases hi.symm.trans hnone

/-- The unread values behind the first ones are those since a later position. -/
theorem Backlog.drop {c : Channel α capacity} {next : ℕ} {unread : List α}
    (h : Backlog c next unread) {n : ℕ} (hn : n ≤ unread.length) :
    Backlog c (next+n) (unread.drop n) := by
  refine ⟨?_,fun i value hi hkept => ?_⟩
  · rw [h.sent,List.length_drop]
    omega
  · rw [List.getElem?_drop] at hi
    rw [List.length_drop] at hkept
    rw [Nat.add_assoc]
    exact h.slots (n+i) value hi (by omega)

/-- A receiver without unread values waits. -/
theorem Backlog.recv_empty {c : Channel α capacity} {next : ℕ} (h : Backlog c next []) :
    c.recv next=.empty := if_pos (Nat.le_of_eq h.sent)

/-- A receiver with at most as many unread values as there are slots gets the first one. -/
theorem Backlog.recv_value {c : Channel α capacity} {next : ℕ} {value : α} {rest : List α}
    (h : Backlog c next (value :: rest)) (hkept : rest.length<capacity) :
    c.recv next=.value value (next+1) := by
  have hsent := h.sent
  rw [List.length_cons] at hsent
  have hslot := h.slots 0 value rfl (by rw [List.length_cons]; omega)
  rw [Nat.add_zero] at hslot
  rw [Channel.recv,if_neg (by omega),if_neg (by omega),hslot]

/-- A receiver with more unread values than there are slots is told how many it missed. -/
theorem Backlog.recv_lagged {c : Channel α capacity} {next : ℕ} {unread : List α}
    (h : Backlog c next unread) (hlost : capacity<unread.length) :
    c.recv next=.lagged (unread.length-capacity) (next+(unread.length-capacity)) := by
  have hsent := h.sent
  rw [Channel.recv,if_neg (by omega),if_pos (by omega),
    show c.sent-next-capacity=unread.length-capacity by omega,
    show c.sent-capacity=next+(unread.length-capacity) by omega]

/-- The ring of slots is a broadcast channel. -/
def ring (α : Type*) {capacity : ℕ} (hpos : 0<capacity) :
    Broadcast (Channel α capacity) ℕ α capacity where
  new := Channel.new α capacity
  send := Channel.send
  subscribe := Channel.sent
  recv := Channel.recv
  Backlog := Backlog
  backlog_subscribe := Backlog.subscribe
  backlog_send := fun h value => h.send hpos value
  recv_empty := Backlog.recv_empty
  recv_value := fun h hkept => ⟨_,h.recv_value hkept,h.drop (n:=1) (Nat.le_add_left _ _)⟩
  recv_lagged := fun h hlost => ⟨_,h.recv_lagged hlost,h.drop (Nat.sub_le _ _)⟩

/-- Two slots: the third value overwrites the first one before it is read. -/
example : let c := [5,6,7].foldl Channel.send (Channel.new ℕ 2)
    [c.recv 0,c.recv 1,c.recv 2,c.recv 3]=[.lagged 1 1,.value 6 2,.value 7 3,.empty] := by
  decide +kernel

end Ring

end MeshPresence.BroadcastChannels
