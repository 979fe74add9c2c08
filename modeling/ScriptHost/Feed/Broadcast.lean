import ScriptHost.Feed.Hub

/-!
A channel as its receivers share it. The channel counts the events that are sent and keeps the last
ones; every receiver has a place of its own among them. A receiver that is too slow finds its place
overwritten and is told how many events it has missed.
-/
namespace ScriptHost

structure Broadcast where
  sent : Nat
  kept : List LogEvent
  listeners : Nat
  closed : Bool
  deriving DecidableEq

structure Reader where
  channel : Nat
  next : Nat
  deriving DecidableEq

inductive Signal where
  | delivered (d : Delivery)
  | pending
  | closed
  deriving DecidableEq

def Signal.delivery? : Signal → Option Delivery
  | .delivered d => some d
  | _ => none

namespace Broadcast

def empty : Broadcast := ⟨0, [], 0, false⟩

def oldest (b : Broadcast) : Nat := b.sent - b.kept.length

/-- Sends an event to a channel that keeps `size` events. Without a receiver it is not sent. -/
def send (size : Nat) (e : LogEvent) (b : Broadcast) : Broadcast :=
  if b.listeners = 0 then b
  else { b with sent := b.sent + 1, kept := (b.kept ++ [e]).drop (b.kept.length + 1 - size) }

def read (b : Broadcast) (r : Reader) : Signal × Reader :=
  if r.next < b.oldest then
    (.delivered (.lagged (b.oldest - r.next)), { r with next := b.oldest })
  else match b.kept[r.next - b.oldest]? with
    | some e => (.delivered (.event e), { r with next := r.next + 1 })
    | none => (if b.closed then .closed else .pending, r)

/-- The receiver with its own buffer: what it has missed, and what it has not read yet. -/
def buffer (b : Broadcast) (i : Nat) (r : Reader) : Receiver :=
  ⟨i, b.oldest - r.next, b.kept.drop (r.next - b.oldest)⟩

/-- The channel keeps no more than was sent, and no more than it has room for. -/
structure Sound (size : Nat) (b : Broadcast) : Prop where
  sent : b.kept.length ≤ b.sent
  room : b.kept.length ≤ size

variable {b : Broadcast} {size : Nat}

theorem sound_empty (size : Nat) : empty.Sound size := ⟨Nat.zero_le _, Nat.zero_le _⟩

theorem send_silent (silent : b.listeners = 0) (size : Nat) (e : LogEvent) :
    b.send size e = b := if_pos silent

theorem send_space (heard : b.listeners ≠ 0) (space : b.kept.length < size) (e : LogEvent) :
    b.send size e = { b with sent := b.sent + 1, kept := b.kept ++ [e] } := by
  have none : b.kept.length + 1 - size = 0 := by omega
  rw [send, if_neg heard, none, List.drop_zero]

theorem send_full (heard : b.listeners ≠ 0) (room : 0 < size) (full : b.kept.length = size)
    (e : LogEvent) :
    b.send size e = { b with sent := b.sent + 1, kept := b.kept.drop 1 ++ [e] } := by
  have one : b.kept.length + 1 - size = 1 := by omega
  rw [send, if_neg heard, one, List.drop_append_of_le_length (by omega)]

theorem sound_send (h : b.Sound size) (e : LogEvent) : (b.send size e).Sound size := by
  obtain ⟨sent, room⟩ := h
  unfold send
  split
  · exact ⟨sent, room⟩
  · constructor <;> simp only [List.length_drop, List.length_append, List.length_singleton] <;>
      omega

theorem le_sent_send (b : Broadcast) (size : Nat) (e : LogEvent) :
    b.sent ≤ (b.send size e).sent := by
  unfold send
  split
  · exact Nat.le_refl _
  · exact Nat.le_succ _

@[simp] theorem listeners_send (b : Broadcast) (size : Nat) (e : LogEvent) :
    (b.send size e).listeners = b.listeners := by
  unfold send
  split <;> rfl

@[simp] theorem closed_send (b : Broadcast) (size : Nat) (e : LogEvent) :
    (b.send size e).closed = b.closed := by
  unfold send
  split <;> rfl

@[simp] theorem channel_read (b : Broadcast) (r : Reader) :
    (b.read r).2.channel = r.channel := by
  unfold read
  split
  · rfl
  · split <;> rfl

theorem read_le_sent (sent : b.kept.length ≤ b.sent) {r : Reader} (behind : r.next ≤ b.sent) :
    (b.read r).2.next ≤ b.sent := by
  unfold read
  split
  · exact Nat.sub_le _ _
  · split
    · rename_i there
      obtain ⟨inside, _⟩ := List.getElem?_eq_some_iff.mp there
      unfold oldest at *
      dsimp only
      omega
    · exact behind

theorem buffer_sent (h : b.Sound size) (i k : Nat) : b.buffer i ⟨k, b.sent⟩ = ⟨i, 0, []⟩ := by
  have sent := h.sent
  have none : b.oldest - b.sent = 0 := by
    unfold oldest
    omega
  have all : b.kept.drop (b.sent - b.oldest) = [] := by
    refine List.drop_eq_nil_of_le ?_
    unfold oldest
    omega
  rw [buffer, none, all]

/-- Sending to a channel is pushing into every buffer. -/
theorem buffer_send (h : b.Sound size) (room : 0 < size) (heard : b.listeners ≠ 0) (e : LogEvent)
    (i : Nat) {r : Reader} (behind : r.next ≤ b.sent) :
    (b.send size e).buffer i r = (b.buffer i r).push size e := by
  have sent := h.sent
  have length : (b.buffer i r).unread.length = b.kept.length - (r.next - b.oldest) := by
    simp [buffer]
  by_cases space : b.kept.length < size
  · have fits : (b.buffer i r).unread.length < size := by omega
    rw [send_space heard space, Receiver.push, if_pos fits]
    simp only [buffer, oldest, List.length_append, List.length_singleton, Receiver.mk.injEq,
      true_and]
    have same : b.sent + 1 - (b.kept.length + 1) = b.sent - b.kept.length := by omega
    rw [same, List.drop_append_of_le_length (by omega)]
    exact ⟨rfl, rfl⟩
  · have full : b.kept.length = size := Nat.le_antisymm h.room (Nat.not_lt.mp space)
    rw [send_full heard room full, Receiver.push]
    have oldest' : b.sent + 1 - (b.kept.length - 1 + 1) = b.oldest + 1 := by
      unfold oldest
      omega
    -- A receiver that has not read the oldest event loses it.
    by_cases ahead : b.oldest < r.next
    · have fits : (b.buffer i r).unread.length < size := by omega
      have kept : r.next - (b.oldest + 1) ≤ (b.kept.drop 1).length := by
        rw [List.length_drop]
        unfold oldest at ahead ⊢
        omega
      have place : 1 + (r.next - (b.oldest + 1)) = r.next - b.oldest := by omega
      rw [if_pos fits]
      simp only [buffer, Receiver.mk.injEq, true_and]
      rw [oldest, List.length_append, List.length_drop, List.length_singleton, oldest',
        List.drop_append_of_le_length kept, List.drop_drop, place]
      exact ⟨by omega, rfl⟩
    · have lost : ¬ (b.buffer i r).unread.length < size := by omega
      have first : r.next - b.oldest = 0 := by omega
      have first' : r.next - (b.oldest + 1) = 0 := by omega
      rw [if_neg lost]
      simp only [buffer, Receiver.mk.injEq, true_and]
      rw [oldest, List.length_append, List.length_drop, List.length_singleton, oldest', first,
        first', List.drop_zero, List.drop_zero]
      exact ⟨by omega, rfl⟩

theorem pop_buffer (b : Broadcast) (i : Nat) (r : Reader) :
    (b.buffer i r).pop = ((b.read r).1.delivery?, b.buffer i (b.read r).2) := by
  by_cases late : r.next < b.oldest
  · have lost : b.oldest - r.next ≠ 0 := by omega
    have first : r.next - b.oldest = 0 := by omega
    simp [Receiver.pop, buffer, read, late, lost, first, Signal.delivery?]
  · have none : b.oldest - r.next = 0 := by omega
    have none' : b.oldest - (r.next + 1) = 0 := by omega
    have next : r.next + 1 - b.oldest = r.next - b.oldest + 1 := by omega
    cases there : b.kept[r.next - b.oldest]? with
    | some e =>
      obtain ⟨inside, at_⟩ := List.getElem?_eq_some_iff.mp there
      have rest := List.drop_eq_getElem_cons inside
      rw [at_] at rest
      simp [Receiver.pop, buffer, read, late, none, none', next, there, rest, Signal.delivery?]
    | none =>
      have rest := List.drop_eq_nil_of_le (List.getElem?_eq_none_iff.mp there)
      cases closed : b.closed <;>
        simp [Receiver.pop, buffer, read, late, none, there, rest, closed, Signal.delivery?]

end Broadcast

end ScriptHost
