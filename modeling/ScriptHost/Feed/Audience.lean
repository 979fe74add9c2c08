import Mathlib.Logic.Function.Basic
import ScriptHost.Feed.Broadcast

/-!
The hub and all who listen to it, in small steps that may alternate in any order. To drop a
subscription takes two steps: its receiver goes first, and only then does the hub look whether
anybody else listens to the channel. A receiver that was taken out of its subscription is dropped
on its own.
-/
namespace ScriptHost

open Function (update)

/-- How far a subscription is. -/
inductive Tenure where
  | held
  | leaving
  | ended
  deriving DecidableEq

structure Seat where
  subscription : Subscription
  tenure : Tenure
  deriving DecidableEq

/-- The hub with its channels, and the subscriptions in the order in which they were made. The
receiver of a subscription has the number of the subscription. -/
structure Audience where
  capacity : Nat
  index : List (String × Nat)
  channels : Nat → Broadcast
  fresh : Nat
  seats : Nat → Option Seat
  readers : Nat → Option Reader
  joined : Nat

inductive Move where
  | subscribe (name : String)
  | publish (e : LogEvent)
  | receive (i : Nat)
  | take (i : Nat)
  | dropReceiver (i : Nat)
  | leave (i : Nat)
  /-- Ends the drop of a subscription: the hub looks at its channel. -/
  | release (i : Nat)
  deriving DecidableEq

namespace Audience

def ofCapacity (capacity : Nat) : Audience :=
  ⟨capacity, [], fun _ => .empty, 0, fun _ => none, fun _ => none, 0⟩

def setChannel (k : Nat) (b : Broadcast) (m : Audience) : Audience :=
  { m with channels := update m.channels k b }

def setReader (i : Nat) (r : Option Reader) (m : Audience) : Audience :=
  { m with readers := update m.readers i r }

def setSeat (i : Nat) (s : Subscription) (t : Tenure) (m : Audience) : Audience :=
  { m with seats := update m.seats i (some ⟨s, t⟩) }

@[simp] theorem channels_setChannel_self (k : Nat) (b : Broadcast) (m : Audience) :
    (m.setChannel k b).channels k = b := Function.update_self _ _ _

@[simp] theorem channels_setChannel_of_ne {j k : Nat} (other : j ≠ k) (b : Broadcast)
    (m : Audience) : (m.setChannel k b).channels j = m.channels j :=
  Function.update_of_ne other _ _

@[simp] theorem readers_setReader_self (i : Nat) (r : Option Reader) (m : Audience) :
    (m.setReader i r).readers i = r := Function.update_self _ _ _

@[simp] theorem readers_setReader_of_ne {i j : Nat} (other : j ≠ i) (r : Option Reader)
    (m : Audience) : (m.setReader i r).readers j = m.readers j := Function.update_of_ne other _ _

@[simp] theorem seats_setSeat_self (i : Nat) (s : Subscription) (t : Tenure) (m : Audience) :
    (m.setSeat i s t).seats i = some ⟨s, t⟩ := Function.update_self _ _ _

@[simp] theorem seats_setSeat_of_ne {i j : Nat} (other : j ≠ i) (s : Subscription) (t : Tenure)
    (m : Audience) : (m.setSeat i s t).seats j = m.seats j := Function.update_of_ne other _ _

def provide (name : String) (m : Audience) : Nat × Audience :=
  match Named.find? name m.index with
  | some k => (k, m)
  | none =>
    (m.fresh, { m with index := Named.insert name m.fresh m.index, fresh := m.fresh + 1 }.setChannel
      m.fresh .empty)

def enroll (name : String) (k : Nat) (m : Audience) : Audience :=
  let i := m.joined
  let b := m.channels k
  { m with joined := i + 1 }.setSeat i ⟨name, some i⟩ .held
    |>.setReader i (some ⟨k, b.sent⟩)
    |>.setChannel k { b with listeners := b.listeners + 1 }

def subscribe (name : String) (m : Audience) : Audience :=
  let (k, m) := m.provide name
  m.enroll name k

def publish (e : LogEvent) (m : Audience) : Audience :=
  match Named.find? e.script m.index with
  | some k => m.setChannel k ((m.channels k).send (bufferSize m.capacity) e)
  | none => m

def signal (i : Nat) (m : Audience) : Signal :=
  match m.readers i with
  | some r => ((m.channels r.channel).read r).1
  | none => .pending

def receive (i : Nat) (m : Audience) : Audience :=
  match m.readers i with
  | some r => m.setReader i (some ((m.channels r.channel).read r).2)
  | none => m

def drop (i : Nat) (m : Audience) : Audience :=
  match m.readers i with
  | some r =>
    let b := m.channels r.channel
    m.setReader i none |>.setChannel r.channel { b with listeners := b.listeners - 1 }
  | none => m

/-- The hub lets a channel go that nobody listens to, and its sender with it. -/
def release (name : String) (m : Audience) : Audience :=
  match Named.find? name m.index with
  | some k =>
    let b := m.channels k
    if b.listeners = 0 then
      { m with index := Named.erase name m.index }.setChannel k { b with closed := true }
    else m
  | none => m

theorem joined_provide (name : String) (m : Audience) : (m.provide name).2.joined = m.joined := by
  unfold provide
  split <;> rfl

theorem capacity_provide (name : String) (m : Audience) :
    (m.provide name).2.capacity = m.capacity := by
  unfold provide
  split <;> rfl

theorem provide_of_all (name : String) (m : Audience) :
    (m.provide name).2.seats = m.seats ∧ (m.provide name).2.readers = m.readers := by
  unfold provide
  split <;> exact ⟨rfl, rfl⟩

theorem find?_provide_of_ne {name other : String} (ne : other ≠ name) (m : Audience) :
    Named.find? other (m.provide name).2.index = Named.find? other m.index := by
  unfold provide
  split
  · rfl
  · exact Named.find?_insert_of_ne ne _ _

theorem seats_subscribe_self (name : String) (m : Audience) :
    (m.subscribe name).seats m.joined = some ⟨⟨name, some m.joined⟩, .held⟩ := by
  rw [← joined_provide name m]
  exact seats_setSeat_self _ _ _ _

theorem subscribe_of_ne {m : Audience} {j : Nat} (other : j ≠ m.joined) (name : String) :
    (m.subscribe name).seats j = m.seats j ∧ (m.subscribe name).readers j = m.readers j := by
  obtain ⟨sits, reads⟩ := provide_of_all name m
  rw [← joined_provide name m] at other
  rw [← sits, ← reads]
  exact ⟨seats_setSeat_of_ne other _ _ _, readers_setReader_of_ne other _ _⟩

theorem frame_drop (i : Nat) (m : Audience) :
    (m.drop i).capacity = m.capacity ∧ (m.drop i).joined = m.joined := by
  unfold drop
  split <;> exact ⟨rfl, rfl⟩

theorem frame_release (name : String) (m : Audience) :
    (m.release name).capacity = m.capacity ∧ (m.release name).joined = m.joined := by
  unfold release
  split
  · dsimp only
    split <;> exact ⟨rfl, rfl⟩
  · exact ⟨rfl, rfl⟩

theorem readers_release (name : String) (m : Audience) : (m.release name).readers = m.readers := by
  unfold release
  split
  · dsimp only
    split <;> rfl
  · rfl

theorem readers_drop_self (m : Audience) (i : Nat) : (m.drop i).readers i = none := by
  unfold drop
  split
  · exact readers_setReader_self _ _ _
  · assumption

theorem readers_drop_of_ne {i j : Nat} (other : j ≠ i) (m : Audience) :
    (m.drop i).readers j = m.readers j := by
  unfold drop
  split
  · exact readers_setReader_of_ne other _ _
  · rfl

theorem seats_drop (i : Nat) (m : Audience) : (m.drop i).seats = m.seats := by
  unfold drop
  split <;> rfl

theorem seats_release (name : String) (m : Audience) : (m.release name).seats = m.seats := by
  unfold release
  split
  · dsimp only
    split <;> rfl
  · rfl

/-- One step. A move that cannot be made changes nothing. -/
def step (m : Audience) : Move → Audience
  | .subscribe name => m.subscribe name
  | .publish e => m.publish e
  | .receive i => m.receive i
  | .take i =>
    match m.seats i with
    | some ⟨s, .held⟩ => m.setSeat i { s with receiver := none } .held
    | _ => m
  | .dropReceiver i =>
    match m.seats i with
    | some ⟨⟨_, none⟩, _⟩ => m.drop i
    | _ => m
  | .leave i =>
    match m.seats i with
    | some ⟨⟨name, some _⟩, .held⟩ => (m.drop i).setSeat i ⟨name, none⟩ .leaving
    | some ⟨⟨name, none⟩, .held⟩ => m.setSeat i ⟨name, none⟩ .leaving
    | _ => m
  | .release i =>
    match m.seats i with
    | some ⟨s, .leaving⟩ => (m.release s.script).setSeat i s .ended
    | _ => m

def run (m : Audience) (moves : List Move) : Audience := moves.foldl step m

def handed? (m : Audience) : Move → Option (Nat × Delivery)
  | .receive i => (m.signal i).delivery?.map (i, ·)
  | _ => none

def handed : Audience → List Move → List (Nat × Delivery)
  | _, [] => []
  | m, move :: rest => (m.handed? move).toList ++ handed (m.step move) rest

def received (m : Audience) (moves : List Move) (i : Nat) : List Delivery :=
  (m.handed moves).filterMap fun p => if p.1 = i then some p.2 else none

def subscribers (name : String) (m : Audience) : Nat :=
  match Named.find? name m.index with
  | some k => (m.channels k).listeners
  | none => 0

def ear? (m : Audience) (k i : Nat) : Option Receiver :=
  (m.readers i).bind fun r =>
    if r.channel = k then some ((m.channels k).buffer i r) else none

def line (m : Audience) (k : Nat) : List Receiver := (List.range m.joined).filterMap (m.ear? k)

def view (m : Audience) : Hub :=
  ⟨m.capacity, m.index.map fun p => (p.1, ⟨m.line p.2⟩), m.joined⟩

/-- What a move does with a hub in which every receiver has its own buffer, and what it hands
out. -/
def onHub (m : Audience) (h : Hub) : Move → Option (Nat × Delivery) × Hub
  | .subscribe name => (none, (h.subscribe name).2)
  | .publish e => (none, h.publish e)
  | .receive i =>
    match m.seats i with
    | some ⟨s, _⟩ =>
      let (d, h) := h.receive s.script i
      (d.map (i, ·), h)
    | none => (none, h)
  | .take _ => (none, h)
  | .dropReceiver i =>
    match m.seats i with
    | some ⟨⟨name, none⟩, _⟩ => (none, h.dropReceiver name i)
    | _ => (none, h)
  | .leave i =>
    match m.seats i with
    | some ⟨⟨name, some id⟩, .held⟩ => (none, h.dropReceiver name id)
    | _ => (none, h)
  | .release i =>
    match m.seats i with
    | some ⟨s, .leaving⟩ => (none, h.release s.script)
    | _ => (none, h)

/-- A run as such a hub takes it: what is handed out, and the hub afterwards. -/
def alongside : Audience → List Move → Hub → List (Nat × Delivery) × Hub
  | _, [], h => ([], h)
  | m, move :: rest, h =>
    let (d, h) := m.onHub h move
    let (ds, h) := alongside (m.step move) rest h
    (d.toList ++ ds, h)

end Audience

namespace Move

def since : Nat → List Move → List Move
  | _, [] => []
  | 0, .subscribe _ :: rest => rest
  | i + 1, .subscribe _ :: rest => since i rest
  | i, _ :: rest => since i rest

def published (name : String) (moves : List Move) : List LogEvent :=
  moves.filterMap fun
    | .publish e => if e.script = name then some e else none
    | _ => none

end Move

end ScriptHost
