import ScriptHost.Proofs.OwnBuffers

/-!
What a receiver got, and what is ready for it, account for the events that were published for its
script since it subscribed: each event is told once and in its order, or is counted among those
that were lost. So it is in every order of steps, and whoever else listens, lags or leaves.
-/
namespace ScriptHost

/-- Tells deliveries against events; what is left are the events that were not told yet. -/
def Delivery.account : List Delivery → List LogEvent → Option (List LogEvent)
  | [], events => some events
  | .event _ :: _, [] => none
  | .event e :: rest, first :: events => if e = first then account rest events else none
  | .lagged count :: rest, events =>
    if count ≤ events.length then account rest (events.drop count) else none

namespace Delivery

theorem account_append (front back : List Delivery) (events : List LogEvent) :
    account (front ++ back) events = (account front events).bind (account back) := by
  induction front generalizing events with
  | nil => rfl
  | cons d rest ih =>
    cases d with
    | event e =>
      cases events with
      | nil => rfl
      | cons first events =>
        simp only [List.cons_append, account]
        split
        · exact ih events
        · rfl
    | lagged count =>
      simp only [List.cons_append, account]
      split
      · exact ih _
      · rfl

theorem account_later {told : List Delivery} {events rest : List LogEvent}
    (accounted : account told events = some rest) (later : List LogEvent) :
    account told (events ++ later) = some (rest ++ later) := by
  induction told generalizing events with
  | nil =>
    cases accounted
    rfl
  | cons d told ih =>
    cases d with
    | event e =>
      cases events with
      | nil => cases accounted
      | cons first events =>
        rw [account] at accounted
        rw [List.cons_append, account]
        split at accounted
        · rename_i same
          rw [if_pos same]
          exact ih accounted
        · cases accounted
    | lagged count =>
      rw [account] at accounted
      rw [account]
      split at accounted
      · rename_i enough
        have enough' : count ≤ (events ++ later).length := by
          rw [List.length_append]
          omega
        rw [if_pos enough', List.drop_append_of_le_length enough]
        exact ih accounted
      · cases accounted

theorem account_events (told events : List LogEvent) :
    account (told.map .event) events = some [] ↔ events = told := by
  induction told generalizing events with
  | nil => simp [account]
  | cons e told ih =>
    cases events with
    | nil => simp [account]
    | cons first events =>
      rw [List.map_cons, account]
      split
      · rename_i same
        rw [ih, List.cons.injEq, same]
        simp
      · rename_i other
        rw [List.cons.injEq]
        simp [Ne.symm other]

theorem eq_of_account {told : List Delivery} {events : List LogEvent}
    (kept : ∀ count, .lagged count ∉ told) (accounted : account told events = some []) :
    told = events.map .event := by
  induction told generalizing events with
  | nil =>
    cases accounted
    rfl
  | cons d told ih =>
    cases d with
    | event e =>
      cases events with
      | nil => cases accounted
      | cons first events =>
        rw [account] at accounted
        split at accounted
        · rename_i same
          rw [same, List.map_cons,
            ih (fun count member => kept count (List.mem_cons_of_mem _ member)) accounted]
        · cases accounted
    | lagged count => exact absurd List.mem_cons_self (kept count)

end Delivery

namespace Receiver

open Delivery (account account_append account_events)

variable {x : Receiver} {size : Nat} {pending : List LogEvent}

def upcoming (x : Receiver) : List Delivery :=
  (if x.lost = 0 then [] else [.lagged x.lost]) ++ x.unread.map .event

theorem pop_upcoming (x : Receiver) :
    x.pop.1 = x.upcoming.head? ∧ x.pop.2.upcoming = x.upcoming.tail := by
  unfold pop upcoming
  by_cases lost : x.lost = 0
  · cases unread : x.unread with
    | nil => simp [lost, unread]
    | cons e rest => simp [lost]
  · simp [lost]

/-- What is ready for a receiver accounts for the events it was not told of, if it has lost the
first of them and holds the others. -/
theorem account_upcoming : account x.upcoming pending = some [] ↔
    x.lost ≤ pending.length ∧ pending.drop x.lost = x.unread := by
  have skip : account x.upcoming pending =
      if x.lost ≤ pending.length then account (x.unread.map .event) (pending.drop x.lost)
      else none := by
    unfold upcoming
    by_cases lost : x.lost = 0
    · simp [lost]
    · simp [lost, account]
  rw [skip]
  split
  · rename_i enough
    rw [account_events]
    exact (and_iff_right enough).symm
  · rename_i few
    simp [few]

theorem account_push (room : 0 < size) (accounted : account x.upcoming pending = some [])
    (e : LogEvent) : account (x.push size e).upcoming (pending ++ [e]) = some [] := by
  obtain ⟨enough, holds⟩ := account_upcoming.mp accounted
  have length := congrArg List.length holds
  rw [List.length_drop] at length
  rw [account_upcoming, push, List.length_append, List.length_singleton]
  split
  · refine ⟨Nat.le_succ_of_le enough, ?_⟩
    rw [List.drop_append_of_le_length enough, holds]
  · have more : x.lost + 1 ≤ pending.length := by omega
    refine ⟨Nat.le_succ_of_le more, ?_⟩
    rw [List.drop_append_of_le_length more, ← List.drop_drop, holds]

@[simp] theorem id_push (size : Nat) (e : LogEvent) (x : Receiver) : (x.push size e).id = x.id := by
  unfold push
  split <;> rfl

@[simp] theorem id_pop (x : Receiver) : x.pop.2.id = x.id := by
  unfold pop
  split
  · rfl
  · split <;> rfl

def takes (size : Nat) (name : String) (x : Receiver) : Move → Option Delivery × Receiver
  | .publish e => (none, if e.script = name then x.push size e else x)
  | .receive i => if i = x.id then x.pop else (none, x)
  | _ => (none, x)

theorem id_takes (size : Nat) (name : String) (x : Receiver) (move : Move) :
    (x.takes size name move).2.id = x.id := by
  unfold takes
  split
  · dsimp only
    split
    · exact id_push _ _ _
    · rfl
  · split
    · exact id_pop x
    · rfl
  · rfl

/-- No move of anybody makes a receiver miss an event, or get one twice. -/
theorem account_takes (room : 0 < size) (accounted : account x.upcoming pending = some [])
    (name : String) (move : Move) :
    account ((x.takes size name move).1.toList ++ (x.takes size name move).2.upcoming)
      (pending ++ Move.published name [move]) = some [] := by
  cases move with
  | publish e =>
    by_cases mine : e.script = name
    · simpa [takes, mine, Move.published] using account_push room accounted e
    · simpa [takes, mine, Move.published] using accounted
  | receive i =>
    by_cases mine : i = x.id
    · obtain ⟨first, rest⟩ := x.pop_upcoming
      have whole : x.pop.1.toList ++ x.pop.2.upcoming = x.upcoming := by
        rw [first, rest]
        cases x.upcoming <;> rfl
      simpa [takes, mine, Move.published, whole] using accounted
    · simpa [takes, mine, Move.published] using accounted
  | subscribe _ => simpa [takes, Move.published] using accounted
  | take _ => simpa [takes, Move.published] using accounted
  | dropReceiver _ => simpa [takes, Move.published] using accounted
  | leave _ => simpa [takes, Move.published] using accounted
  | release _ => simpa [takes, Move.published] using accounted

end Receiver

namespace Hub

variable {h h' : Hub} {name other : String} {c : Channel} {x y : Receiver}

def Hears (name : String) (x : Receiver) (h : Hub) : Prop :=
  ∃ c, h.channel? name = some c ∧ x ∈ c.receivers

theorem hears_insert (channels : h'.channels = Named.insert name c h.channels)
    (hears : h'.Hears other x) :
    (other = name ∧ x ∈ c.receivers) ∨ (other ≠ name ∧ h.Hears other x) := by
  obtain ⟨c', found, member⟩ := hears
  rw [channel?, channels] at found
  by_cases mine : other = name
  · subst mine
    rw [Named.find?_insert_self] at found
    cases found
    exact Or.inl ⟨rfl, member⟩
  · rw [Named.find?_insert_of_ne mine] at found
    exact Or.inr ⟨mine, c', found, member⟩

theorem hears_subscribe (hears : (h.subscribe name).2.Hears other x) :
    h.Hears other x ∨ (other = name ∧ x = ⟨h.nextId, 0, []⟩) := by
  rcases hears_insert rfl hears with ⟨rfl, member⟩ | ⟨_, there⟩
  · rcases List.mem_append.mp member with old | new
    · cases found : h.channel? other with
      | none => simp [found] at old
      | some c => exact Or.inl ⟨c, found, by simpa [found] using old⟩
    · exact Or.inr ⟨rfl, List.mem_singleton.mp new⟩
  · exact Or.inl there

theorem hears_publish {e : LogEvent} (hears : (h.publish e).Hears name y) :
    ∃ x, h.Hears name x ∧ y = if e.script = name then x.push (bufferSize h.capacity) e else x := by
  unfold publish at hears
  split at hears
  · rename_i c found
    rcases hears_insert rfl hears with ⟨rfl, member⟩ | ⟨other, there⟩
    · obtain ⟨x, old, pushed⟩ := List.mem_map.mp member
      exact ⟨x, ⟨c, found, old⟩, by rw [if_pos rfl, pushed]⟩
    · exact ⟨y, there, by rw [if_neg (Ne.symm other)]⟩
  · rename_i missing
    obtain ⟨c, found, member⟩ := hears
    have other : e.script ≠ name := by
      rintro rfl
      rw [missing] at found
      cases found
    exact ⟨y, ⟨c, found, member⟩, by rw [if_neg other]⟩

theorem hears_dropReceiver {id : Nat} (hears : (h.dropReceiver name id).Hears other x) :
    h.Hears other x := by
  unfold dropReceiver at hears
  split at hears
  · exact hears
  · rename_i c found
    rcases hears_insert rfl hears with ⟨rfl, member⟩ | ⟨_, there⟩
    · exact ⟨c, found, (List.mem_filter.mp member).1⟩
    · exact there

theorem hears_release (sorted : Named.Sorted h.channels) (hears : (h.release name).Hears other x) :
    h.Hears other x := by
  unfold release at hears
  split at hears
  · split at hears
    · obtain ⟨c, found, member⟩ := hears
      rw [channel?] at found
      by_cases mine : other = name
      · subst mine
        rw [Named.find?_erase_self sorted] at found
        cases found
      · rw [Named.find?_erase_of_ne mine] at found
        exact ⟨c, found, member⟩
    · exact hears
  · exact hears

end Hub

namespace Move

def subscribes : Move → Bool
  | .subscribe _ => true
  | _ => false

theorem since_append {i : Nat} {moves : List Move} (joined : i < moves.countP subscribes)
    (later : List Move) : since i (moves ++ later) = since i moves ++ later := by
  induction moves generalizing i with
  | nil => cases joined
  | cons move rest ih =>
    cases move with
    | subscribe name =>
      cases i with
      | zero => rfl
      | succ i =>
        refine ih ?_
        simpa [List.countP_cons, subscribes] using joined
    | _ =>
      cases i with
      | zero => exact ih (by simpa [List.countP_cons, subscribes] using joined)
      | succ i => exact ih (by simpa [List.countP_cons, subscribes] using joined)

theorem since_subscribe (moves : List Move) (name : String) :
    since (moves.countP subscribes) (moves ++ [.subscribe name]) = [] := by
  induction moves with
  | nil => rfl
  | cons move rest ih =>
    cases move with
    | subscribe other => simpa [List.countP_cons, subscribes, since] using ih
    | _ =>
      simp only [List.countP_cons, subscribes, List.cons_append]
      cases count : rest.countP subscribes with
      | zero => rw [count] at ih; exact ih
      | succ n => rw [count] at ih; exact ih

theorem published_append (name : String) (moves later : List Move) :
    published name (moves ++ later) = published name moves ++ published name later :=
  List.filterMap_append

end Move

namespace Audience

variable {m : Audience} {name : String} {i k : Nat} {r : Reader} {x y : Receiver}

theorem run_append (m : Audience) (moves later : List Move) :
    m.run (moves ++ later) = (m.run moves).run later := List.foldl_append

theorem handed_append (m : Audience) (moves later : List Move) :
    m.handed (moves ++ later) = m.handed moves ++ (m.run moves).handed later := by
  induction moves generalizing m with
  | nil => rfl
  | cons move rest ih =>
    rw [List.cons_append, handed, ih, handed, List.append_assoc]
    rfl

theorem received_append (m : Audience) (moves later : List Move) (i : Nat) :
    m.received (moves ++ later) i = m.received moves i ++ (m.run moves).received later i := by
  rw [received, handed_append, List.filterMap_append]
  rfl

theorem received_receive (m : Audience) (i : Nat) :
    m.received [.receive i] i = (m.signal i).delivery?.toList := by
  cases got : (m.signal i).delivery? with
  | none => simp [received, handed, handed?, got]
  | some d => simp [received, handed, handed?, got]

theorem received_of_ne {move : Move} (other : move ≠ .receive i) : m.received [move] i = [] := by
  cases move with
  | receive j =>
    have ne : j ≠ i := fun same => other (by rw [same])
    cases got : (m.signal j).delivery? with
    | none => simp [received, handed, handed?, got]
    | some d => simp [received, handed, handed?, got, ne]
  | _ => rfl

theorem frame_step (m : Audience) (move : Move) : (m.step move).capacity = m.capacity ∧
    (m.step move).joined = m.joined + if move.subscribes then 1 else 0 := by
  cases move with
  | subscribe name => exact ⟨capacity_provide name m, congrArg (· + 1) (joined_provide name m)⟩
  | publish e =>
    change (m.publish e).capacity = _ ∧ (m.publish e).joined = _
    unfold publish
    split <;> exact ⟨rfl, rfl⟩
  | receive i =>
    change (m.receive i).capacity = _ ∧ (m.receive i).joined = _
    unfold receive
    split <;> exact ⟨rfl, rfl⟩
  | take i =>
    rw [step]
    split <;> exact ⟨rfl, rfl⟩
  | dropReceiver i =>
    rw [step]
    split
    · exact frame_drop i m
    · exact ⟨rfl, rfl⟩
  | leave i =>
    rw [step]
    split
    · exact frame_drop i m
    · exact ⟨rfl, rfl⟩
    · exact ⟨rfl, rfl⟩
  | release i =>
    rw [step]
    split
    · exact frame_release _ m
    · exact ⟨rfl, rfl⟩

theorem hears_view (h : m.Sound) : m.view.Hears name x ↔ ∃ r seat,
    m.readers x.id = some r ∧ m.seats x.id = some seat ∧ seat.subscription.script = name ∧
      x = (m.channels r.channel).buffer x.id r := by
  constructor
  · rintro ⟨c, found, member⟩
    rw [find?_view] at found
    obtain ⟨k, belongs, rfl⟩ := Option.map_eq_some_iff.mp found
    obtain ⟨i, _, own⟩ := List.mem_filterMap.mp member
    have number := id_ear? own
    subst number
    obtain ⟨r, reads, here⟩ := Option.bind_eq_some_iff.mp own
    split at here
    · rename_i channel
      subst channel
      obtain ⟨seat, sits, belongs', _⟩ := h.attached x.id r reads
      exact ⟨r, seat, reads, sits, h.apart _ _ _ belongs' belongs, (Option.some.inj here).symm⟩
    · cases here
  · rintro ⟨r, seat, reads, sits, rfl, own⟩
    obtain ⟨seat', sits', belongs, _⟩ := h.attached x.id r reads
    rw [sits] at sits'
    cases sits'
    refine ⟨⟨m.line r.channel⟩, by rw [find?_view, belongs, Option.map_some], ?_⟩
    have ear := ear?_self reads
    rw [← own] at ear
    exact List.mem_filterMap.mpr ⟨x.id, List.mem_range.mpr (h.lt_joined reads), ear⟩

/-- Whoever listens after a step has just joined, or has taken from the step what was for it. -/
theorem hears_step (h : m.Sound) {move : Move} (hears : (m.step move).view.Hears name y) :
    (move = .subscribe name ∧ y = ⟨m.joined, 0, []⟩) ∨ ∃ x got, m.view.Hears name x ∧
      x.takes (bufferSize m.capacity) name move = (got, y) ∧
        m.received [move] y.id = got.toList := by
  -- Unless the move is to receive, the hub says who listens; nobody gets anything from it.
  have seen := hears
  rw [show (m.step move).view = (m.onHub m.view move).2 by rw [onHub_view h]] at seen
  cases move with
  | subscribe other =>
    rcases Hub.hears_subscribe seen with there | ⟨rfl, new⟩
    · exact Or.inr ⟨y, none, there, rfl, rfl⟩
    · exact Or.inl ⟨rfl, new⟩
  | publish e =>
    obtain ⟨x, there, rfl⟩ := Hub.hears_publish seen
    exact Or.inr ⟨x, none, there, rfl, rfl⟩
  | receive i =>
    obtain ⟨r', seat, reads', sits, script, own⟩ := (hears_view (h.step _)).mp hears
    rw [show m.step (.receive i) = m.receive i from rfl] at hears reads' sits own
    unfold receive at hears reads' sits own
    cases reads : m.readers i with
    | none =>
      rw [reads] at hears reads'
      have other : i ≠ y.id := by
        rintro rfl
        rw [reads] at reads'
        cases reads'
      exact Or.inr ⟨y, none, hears, if_neg other, received_of_ne (by simp [other])⟩
    | some r =>
      rw [reads] at reads' sits own
      by_cases mine : i = y.id
      · subst mine
        rw [readers_setReader_self] at reads'
        cases reads'
        rw [Broadcast.channel_read] at own
        have there := (hears_view (x := (m.channels r.channel).buffer y.id r) h).mpr
          ⟨r, seat, reads, sits, script, rfl⟩
        refine Or.inr ⟨_, _, there, (if_pos rfl).trans ?_, received_receive m y.id⟩
        rw [Broadcast.pop_buffer, signal, reads]
        exact congrArg (Prod.mk _) own.symm
      · rw [readers_setReader_of_ne (Ne.symm mine)] at reads'
        have there := (hears_view h).mpr ⟨r', seat, reads', sits, script, own⟩
        exact Or.inr ⟨y, none, there, if_neg mine, received_of_ne (by simp [mine])⟩
  | take i => exact Or.inr ⟨y, none, seen, rfl, rfl⟩
  | dropReceiver i =>
    refine Or.inr ⟨y, none, ?_, rfl, rfl⟩
    rw [onHub] at seen
    split at seen
    · exact Hub.hears_dropReceiver seen
    · exact seen
  | leave i =>
    refine Or.inr ⟨y, none, ?_, rfl, rfl⟩
    rw [onHub] at seen
    split at seen
    · exact Hub.hears_dropReceiver seen
    · exact seen
  | release i =>
    refine Or.inr ⟨y, none, ?_, rfl, rfl⟩
    rw [onHub] at seen
    split at seen
    · exact Hub.hears_release h.sorted_view seen
    · exact seen

theorem frame_run (capacity : Nat) (moves : List Move) :
    ((ofCapacity capacity).run moves).capacity = capacity ∧
      ((ofCapacity capacity).run moves).joined = moves.countP Move.subscribes := by
  induction moves using List.reverseRecOn with
  | nil => exact ⟨rfl, rfl⟩
  | append_singleton moves move ih =>
    obtain ⟨size, joined⟩ := frame_step ((ofCapacity capacity).run moves) move
    rw [run_append, List.countP_append, List.countP_singleton, ← ih.2]
    exact ⟨size.trans ih.1, joined⟩

theorem received_of_joined_le (h : m.Sound) (moves : List Move) {i : Nat}
    (later : (m.run moves).joined ≤ i) : m.received moves i = [] := by
  induction moves using List.reverseRecOn with
  | nil => rfl
  | append_singleton moves move ih =>
    rw [run_append] at later
    change (step _ move).joined ≤ i at later
    rw [(frame_step _ _).2] at later
    have before : (m.run moves).joined ≤ i := by omega
    rw [received_append, ih before, List.nil_append]
    by_cases asks : move = .receive i
    · subst asks
      rw [received_receive, signal, ((h.run moves).empty i before).2]
      rfl
    · exact received_of_ne asks

open Delivery (account account_append account_later)

/-- The account of those who listen is right after every run. -/
theorem account_run (capacity : Nat) (moves : List Move)
    (hears : ((ofCapacity capacity).run moves).view.Hears name x) :
    account ((ofCapacity capacity).received moves x.id ++ x.upcoming)
      (Move.published name (Move.since x.id moves)) = some [] := by
  induction moves using List.reverseRecOn generalizing x with
  | nil =>
    obtain ⟨c, found, _⟩ := hears
    cases found
  | append_singleton moves move ih =>
    rw [run_append] at hears
    rw [received_append]
    have sound := (Sound.ofCapacity capacity).run moves
    have joined := (frame_run capacity moves).2
    have early := received_of_joined_le (Sound.ofCapacity capacity) moves (Nat.le_refl _)
    generalize (ofCapacity capacity).run moves = m at *
    rcases hears_step sound hears with ⟨rfl, rfl⟩ | ⟨before, got, there, takes, gets⟩
    · dsimp only
      rw [early, received_of_ne (by simp), joined, Move.since_subscribe]
      rfl
    · have same : x.id = before.id := by
        have id := Receiver.id_takes (bufferSize m.capacity) name before move
        rwa [takes] at id
      have member : x.id < moves.countP Move.subscribes := by
        obtain ⟨r, _, reads, _⟩ := (hears_view sound).mp there
        rw [← joined, same]
        exact sound.lt_joined reads
      have told := ih there
      rw [← same, account_append] at told
      obtain ⟨pending, accounted, rest⟩ := Option.bind_eq_some_iff.mp told
      have next := Receiver.account_takes (bufferSize_pos m.capacity) rest name move
      rw [takes] at next
      rw [gets, Move.since_append member, Move.published_append, List.append_assoc, account_append,
        account_later accounted, Option.bind_some]
      exact next

def attending (m : Audience) (name : String) : Finset Nat :=
  (Finset.range m.joined).filter fun i =>
    (m.readers i).isSome ∧ (m.seats i).any fun seat => seat.subscription.script = name

theorem attending_eq (h : m.Placed) (found : Named.find? name m.index = some k) :
    m.attending name = m.listening k := by
  refine Finset.filter_congr fun i _ => ?_
  cases reads : m.readers i with
  | none => simp
  | some r =>
    obtain ⟨seat, sits, belongs, _⟩ := h.attached i r reads
    simp only [Option.isSome_some, sits, Option.any_some, decide_eq_true_eq, Option.map_some,
      Option.some.injEq, true_and]
    constructor
    · intro mine
      rw [mine, found] at belongs
      exact (Option.some.inj belongs).symm
    · intro mine
      rw [mine] at belongs
      exact h.apart _ _ _ belongs found

theorem attending_eq_empty (h : m.Placed) (missing : Named.find? name m.index = none) :
    m.attending name = ∅ := by
  refine Finset.filter_eq_empty_iff.mpr fun i _ attends => ?_
  obtain ⟨reads, sits⟩ := attends
  obtain ⟨r, reads⟩ := Option.isSome_iff_exists.mp reads
  obtain ⟨seat, sits', belongs, _⟩ := h.attached i r reads
  rw [sits', Option.any_some, decide_eq_true_eq] at sits
  rw [sits, missing] at belongs
  cases belongs

theorem subscribers_eq (h : m.Sound) (name : String) :
    m.subscribers name = (m.attending name).card ∧
      m.view.subscribers name = m.subscribers name := by
  unfold subscribers Hub.subscribers
  rw [find?_view]
  cases found : Named.find? name m.index with
  | none => exact ⟨by rw [attending_eq_empty h.toPlaced found]; rfl, rfl⟩
  | some k =>
    have counted := h.counted name k found
    exact ⟨by rw [attending_eq h.toPlaced found]; exact counted,
      (length_line m k).trans counted.symm⟩

theorem signal_ne_closed (h : m.Placed) (reads : m.readers i = some r) :
    m.signal i ≠ .closed := by
  obtain ⟨seat, sits, belongs, _⟩ := h.attached i r reads
  rw [signal, reads]
  dsimp only
  unfold Broadcast.read
  split
  · simp
  · split
    · simp
    · rw [h.opened _ _ belongs]
      simp

/-- Log delivery is complete, and nobody's delivery depends on who else listens. The hub can always
be subscribed to. A receiver that was not dropped is a receiver of the channel that the hub holds
for its script, and does not find it closed. What it got and what is ready for it account for all
events of its script since it subscribed. The channel counts just the receivers that were not
dropped. All this is what the hub does in which every receiver has a buffer of its own. -/
theorem log_delivery (capacity : Nat) (room : 1 ≤ capacity) (moves : List Move) :
    let start := ofCapacity capacity
    let last := start.run moves
    (∀ name, last.view.canSubscribe name = true) ∧
    (∀ i r, last.readers i = some r → ∃ seat, last.seats i = some seat ∧
      Named.find? seat.subscription.script last.index = some r.channel ∧
      last.signal i ≠ .closed ∧
      account (start.received moves i ++ ((last.channels r.channel).buffer i r).upcoming)
        (Move.published seat.subscription.script (Move.since i moves)) = some []) ∧
    (∀ name, last.subscribers name = (last.attending name).card ∧
      last.view.subscribers name = last.subscribers name) ∧
    start.alongside moves (Hub.ofCapacity capacity) = (start.handed moves, last.view) := by
  intro start last
  have sound : last.Sound := (Sound.ofCapacity capacity).run moves
  refine ⟨fun name => ?_, fun i r reads => ?_, subscribers_eq sound,
    alongside_view (Sound.ofCapacity capacity) moves⟩
  · have size : last.view.capacity ≠ 0 := by
      rw [show last.view.capacity = capacity from (frame_run capacity moves).1]
      omega
    simp [Hub.canSubscribe, size]
  · obtain ⟨seat, sits, belongs, _⟩ := sound.attached i r reads
    have hears : last.view.Hears seat.subscription.script ((last.channels r.channel).buffer i r) :=
      (hears_view sound).mpr ⟨r, seat, reads, sits, rfl, rfl⟩
    exact ⟨seat, sits, belongs, signal_ne_closed sound.toPlaced reads,
      account_run capacity moves hears⟩

def noted (script : String) (n : Int) : LogEvent := ⟨script, n, .info, "a line", ⟨0, 0⟩⟩

def crossing : List Move :=
  [.subscribe "a", .subscribe "a", .publish (noted "a" 1), .receive 1, .subscribe "b",
    .publish (noted "a" 2), .publish (noted "b" 3), .publish (noted "a" 4), .receive 0, .take 1,
    .leave 0, .leave 1, .release 1, .publish (noted "a" 5), .release 0, .subscribe "a", .receive 1,
    .publish (noted "a" 6)]

theorem log_delivery_crossing : 1 ≤ 2 ∧
    (ofCapacity 2).received crossing 0 = [.lagged 1] ∧
    (ofCapacity 2).received crossing 1 = [.event (noted "a" 1), .lagged 1] ∧
    ((ofCapacity 2).run crossing).attending "a" = {1, 3} ∧
    ∃ seat r, ((ofCapacity 2).run crossing).seats 1 = some seat ∧ seat.tenure = .ended ∧
      ((ofCapacity 2).run crossing).readers 1 = some r ∧
      Named.find? seat.subscription.script ((ofCapacity 2).run crossing).index = some r.channel ∧
      ((ofCapacity 2).run crossing).signal 1 ≠ .closed ∧
      account ((ofCapacity 2).received crossing 1 ++
          ((((ofCapacity 2).run crossing).channels r.channel).buffer 1 r).upcoming)
        (Move.published seat.subscription.script (Move.since 1 crossing)) = some [] := by
  have served := (log_delivery 2 (by decide) crossing).2.1
  have reads : ((ofCapacity 2).run crossing).readers 1 = some ⟨0, 2⟩ := by decide
  obtain ⟨seat, sits, belongs, opened, accounted⟩ := served 1 ⟨0, 2⟩ reads
  have ended : seat.tenure = .ended := by
    have sits' : ((ofCapacity 2).run crossing).seats 1 = some ⟨⟨"a", none⟩, .ended⟩ := by decide
    rw [sits'] at sits
    cases sits
    rfl
  exact ⟨by decide, by decide, by decide, by decide, seat, ⟨0, 2⟩, sits, ended, reads, belongs,
    opened, accounted⟩

end Audience

end ScriptHost
