import ScriptHost.Time.Rfc3339
import ScriptHost.Json.Value
import ScriptHost.Script.Document
import ScriptHost.Named

/-!
The feed of log events, each one line of output of one run of a script: one channel for each script
that somebody listens to. A channel is made by the first subscription and goes with the last one.
Every receiver has a buffer of its own; when it is full the oldest event is lost, and the receiver
learns how many it has lost.
-/
namespace ScriptHost

open Time (Instant)

inductive Level where
  | info
  | error
  deriving DecidableEq, Repr

def Level.tag : Level → String
  | .info => "info"
  | .error => "error"

structure LogEvent where
  script : String
  version : Int
  level : Level
  message : String
  timestamp : Instant
  deriving DecidableEq, Repr

def LogEvent.json (e : LogEvent) : Json :=
  Json.object [("script", .str e.script), ("version", .int e.version), ("level", .str e.level.tag),
    ("message", .str e.message), ("timestamp", e.timestamp.json)]

/-- One end of a channel: what it has not read yet, and how many events were lost before that. -/
structure Receiver where
  id : Nat
  lost : Nat
  unread : List LogEvent
  deriving DecidableEq, Repr

structure Channel where
  receivers : List Receiver
  deriving DecidableEq, Repr

structure Hub where
  capacity : Nat
  channels : List (String × Channel)
  nextId : Nat
  deriving Repr

inductive Delivery where
  | event (e : LogEvent)
  | lagged (count : Nat)
  deriving DecidableEq, Repr

/-- A subscription to the events of one script. Its receiver may have been taken out of it. -/
structure Subscription where
  script : String
  receiver : Option Nat
  deriving DecidableEq, Repr

/-- Buffers are as large as the least power of two that is not below the size asked for. -/
def bufferSize (n : Nat) : Nat := go n 1
where
  go : Nat → Nat → Nat
    | 0, p => p
    | k + 1, p => if n ≤ p then p else go k (2 * p)

theorem bufferSize_go_pos (n k : Nat) {p : Nat} (pos : 0 < p) : 0 < bufferSize.go n k p := by
  induction k generalizing p with
  | zero => exact pos
  | succ k ih =>
    rw [bufferSize.go]
    split
    · exact pos
    · exact ih (by omega)

theorem bufferSize_pos (n : Nat) : 0 < bufferSize n := bufferSize_go_pos n n Nat.one_pos

namespace Receiver

def push (size : Nat) (e : LogEvent) (r : Receiver) : Receiver :=
  if r.unread.length < size then { r with unread := r.unread ++ [e] }
  else { r with lost := r.lost + 1, unread := r.unread.drop 1 ++ [e] }

def pop (r : Receiver) : Option Delivery × Receiver :=
  if r.lost ≠ 0 then (some (.lagged r.lost), { r with lost := 0 })
  else match r.unread with
    | e :: rest => (some (.event e), { r with unread := rest })
    | [] => (none, r)

end Receiver

namespace Hub

def ofCapacity (capacity : Nat) : Hub := ⟨capacity, [], 0⟩

def defaultCapacity : Nat := 256

def channel? (name : String) (h : Hub) : Option Channel := Named.find? name h.channels

def subscribers (name : String) (h : Hub) : Nat :=
  match h.channel? name with
  | some c => c.receivers.length
  | none => 0

def canSubscribe (name : String) (h : Hub) : Bool :=
  h.capacity ≠ 0 || (h.channel? name).isSome

def subscribe (name : String) (h : Hub) : Subscription × Hub :=
  let receivers := match h.channel? name with
    | some c => c.receivers
    | none => []
  (⟨name, some h.nextId⟩,
    { h with
      nextId := h.nextId + 1
      channels := Named.insert name ⟨receivers ++ [⟨h.nextId, 0, []⟩]⟩ h.channels })

def publish (e : LogEvent) (h : Hub) : Hub :=
  match h.channel? e.script with
  | some c =>
    let size := bufferSize h.capacity
    { h with
      channels := Named.insert e.script ⟨c.receivers.map (Receiver.push size e)⟩ h.channels }
  | none => h

/-- What the receiver with this number gets next. -/
def receive (name : String) (id : Nat) (h : Hub) : Option Delivery × Hub :=
  match h.channel? name with
  | none => (none, h)
  | some c =>
    match c.receivers.find? (·.id = id) with
    | none => (none, h)
    | some r =>
      let (d, r) := r.pop
      (d, { h with
        channels := Named.insert name
          ⟨c.receivers.map fun x => if x.id = id then r else x⟩ h.channels })

def drain (name : String) (id : Nat) : Nat → Hub → List Delivery × Hub
  | 0, h => ([], h)
  | n + 1, h =>
    match h.receive name id with
    | (some d, h) =>
      let (ds, h) := drain name id n h
      (d :: ds, h)
    | (none, h) => ([], h)

def ready (name : String) (id : Nat) (h : Hub) : Nat :=
  match h.channel? name with
  | none => 0
  | some c =>
    match c.receivers.find? (·.id = id) with
    | none => 0
    | some r => r.unread.length + 1

def receiveAll (name : String) (id : Nat) (h : Hub) : List Delivery × Hub :=
  h.drain name id (h.ready name id)

def dropReceiver (name : String) (id : Nat) (h : Hub) : Hub :=
  match h.channel? name with
  | none => h
  | some c =>
    { h with channels := Named.insert name ⟨c.receivers.filter (·.id ≠ id)⟩ h.channels }

def release (name : String) (h : Hub) : Hub :=
  match h.channel? name with
  | some c => if c.receivers.isEmpty then { h with channels := Named.erase name h.channels } else h
  | none => h

def unsubscribe (s : Subscription) (h : Hub) : Hub :=
  let h := match s.receiver with
    | some id => h.dropReceiver s.script id
    | none => h
  h.release s.script

end Hub

end ScriptHost
