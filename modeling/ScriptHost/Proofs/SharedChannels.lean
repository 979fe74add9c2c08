import Mathlib.Data.Finset.Range
import Mathlib.Data.Finset.Card
import ScriptHost.Feed.Audience
import ScriptHost.Proofs.SortedNames

/-!
No step of those who listen, in whatever order the steps are made, takes a channel away from a
receiver: the hub lets a channel go in the same step in which it finds that nobody listens to it,
and nobody can join in between. So every receiver that was not dropped is a receiver of the channel
that the hub holds for its script.
-/
namespace ScriptHost.Audience

open Function (update update_self update_of_ne)

variable {m : Audience} {name : String} {i k : Nat} {r : Reader} {seat : Seat} {b : Broadcast}

def listening (m : Audience) (k : Nat) : Finset Nat :=
  (Finset.range m.joined).filter fun i => (m.readers i).map Reader.channel = some k

theorem mem_listening : i ∈ m.listening k ↔ i < m.joined ∧ ∃ r, m.readers i = some r ∧
    r.channel = k := by
  simp [listening]

theorem length_line (m : Audience) (k : Nat) : (m.line k).length = (m.listening k).card := by
  have heard : ∀ i, (m.ear? k i).isSome = decide ((m.readers i).map Reader.channel = some k) := by
    intro i
    unfold ear?
    cases m.readers i with
    | none => rfl
    | some r => by_cases mine : r.channel = k <;> simp [mine]
  rw [line, List.length_filterMap_eq_countP, List.countP_eq_length_filter]
  simp only [heard]
  rfl

/-- Everything stands where it belongs. -/
structure Placed (m : Audience) : Prop where
  sorted : Named.Sorted m.index
  made : ∀ name k, Named.find? name m.index = some k → k < m.fresh
  apart : ∀ name other k, Named.find? name m.index = some k →
    Named.find? other m.index = some k → name = other
  opened : ∀ name k, Named.find? name m.index = some k → (m.channels k).closed = false
  sized : ∀ k, (m.channels k).Sound (bufferSize m.capacity)
  empty : ∀ i, m.joined ≤ i → m.seats i = none ∧ m.readers i = none
  numbered : ∀ i seat id, m.seats i = some seat → seat.subscription.receiver = some id → id = i
  /-- No receiver is left behind on a channel that the hub does not hold. -/
  attached : ∀ i r, m.readers i = some r → ∃ seat, m.seats i = some seat ∧
    Named.find? seat.subscription.script m.index = some r.channel ∧
      r.next ≤ (m.channels r.channel).sent

structure Sound (m : Audience) : Prop extends Placed m where
  counted : ∀ name k, Named.find? name m.index = some k →
    (m.channels k).listeners = (m.listening k).card

namespace Placed

variable (h : m.Placed)
include h

theorem lt_joined (reads : m.readers i = some r) : i < m.joined := by
  by_contra beyond
  rw [(h.empty i (Nat.not_lt.mp beyond)).2] at reads
  cases reads

theorem mem_listening_channel (reads : m.readers i = some r) : i ∈ m.listening r.channel :=
  mem_listening.mpr ⟨h.lt_joined reads, r, reads, rfl⟩

theorem ne_fresh (found : Named.find? name m.index = some k) : k ≠ m.fresh :=
  Nat.ne_of_lt (h.made name k found)

theorem listening_fresh : m.listening m.fresh = ∅ := by
  refine Finset.filter_eq_empty_iff.mpr fun i _ reads => ?_
  obtain ⟨r, reads, channel⟩ := Option.map_eq_some_iff.mp reads
  obtain ⟨_, _, found, _⟩ := h.attached i r reads
  exact h.ne_fresh found channel

theorem setChannel (sized : b.Sound (bufferSize m.capacity)) (grows : (m.channels k).sent ≤ b.sent)
    (opened : ∀ name, Named.find? name m.index = some k → b.closed = false) :
    (m.setChannel k b).Placed := by
  refine { h with
    opened := fun name j found => ?_
    sized := fun j => ?_
    attached := fun i r reads => ?_ }
  · by_cases mine : j = k
    · subst mine
      rw [channels_setChannel_self]
      exact opened name found
    · rw [channels_setChannel_of_ne mine]
      exact h.opened name j found
  · by_cases mine : j = k
    · subst mine
      rw [channels_setChannel_self]
      exact sized
    · rw [channels_setChannel_of_ne mine]
      exact h.sized j
  · obtain ⟨seat, sits, belongs, behind⟩ := h.attached i r reads
    refine ⟨seat, sits, belongs, ?_⟩
    by_cases mine : r.channel = k
    · subst mine
      rw [channels_setChannel_self]
      exact Nat.le_trans behind grows
    · rw [channels_setChannel_of_ne mine]
      exact behind

theorem setReader {r : Option Reader} (joined : i < m.joined)
    (attached : ∀ r', r = some r' → ∃ seat, m.seats i = some seat ∧
      Named.find? seat.subscription.script m.index = some r'.channel ∧
        r'.next ≤ (m.channels r'.channel).sent) : (m.setReader i r).Placed := by
  refine { h with
    empty := fun j beyond => ?_
    attached := fun j r' reads => ?_ }
  · have other : j ≠ i := Nat.ne_of_gt (Nat.lt_of_lt_of_le joined beyond)
    rw [readers_setReader_of_ne other]
    exact h.empty j beyond
  · by_cases mine : j = i
    · subst mine
      rw [readers_setReader_self] at reads
      exact attached r' reads
    · rw [readers_setReader_of_ne mine] at reads
      exact h.attached j r' reads

theorem setSeat {s : Subscription} (t : Tenure) (sits : m.seats i = some seat)
    (script : s.script = seat.subscription.script)
    (own : ∀ id, s.receiver = some id → id = i) : (m.setSeat i s t).Placed := by
  refine { h with
    empty := fun j beyond => ?_
    numbered := fun j seat' id sits' holds => ?_
    attached := fun j r reads => ?_ }
  · have other : j ≠ i := by
      rintro rfl
      rw [(h.empty j beyond).1] at sits
      cases sits
    rw [seats_setSeat_of_ne other]
    exact h.empty j beyond
  · by_cases mine : j = i
    · subst mine
      rw [seats_setSeat_self] at sits'
      cases sits'
      exact own id holds
    · rw [seats_setSeat_of_ne mine] at sits'
      exact h.numbered j seat' id sits' holds
  · obtain ⟨seat', sits', belongs, behind⟩ := h.attached j r reads
    by_cases mine : j = i
    · subst mine
      rw [sits] at sits'
      cases sits'
      exact ⟨⟨s, t⟩, seats_setSeat_self _ _ _ _, by rw [script]; exact belongs, behind⟩
    · exact ⟨seat', (seats_setSeat_of_ne mine _ _ _).trans sits', belongs, behind⟩

theorem welcome (name : String) :
    ({ m with joined := m.joined + 1 }.setSeat m.joined ⟨name, some m.joined⟩ .held).Placed := by
  refine { h with
    empty := fun j beyond => ?_
    numbered := fun j seat id sits holds => ?_
    attached := fun j r reads => ?_ }
  · rw [seats_setSeat_of_ne (Nat.ne_of_gt beyond)]
    exact h.empty j (Nat.le_of_succ_le beyond)
  · by_cases new : j = m.joined
    · subst new
      rw [seats_setSeat_self] at sits
      cases sits
      exact (Option.some.inj holds).symm
    · rw [seats_setSeat_of_ne new] at sits
      exact h.numbered j seat id sits holds
  · obtain ⟨seat, sits, belongs⟩ := h.attached j r reads
    exact ⟨seat, (seats_setSeat_of_ne (Nat.ne_of_lt (h.lt_joined reads)) _ _ _).trans sits, belongs⟩

theorem erase (found : Named.find? name m.index = some k) (nobody : m.listening k = ∅) :
    ({ m with index := Named.erase name m.index } : Audience).Placed ∧
      ∀ other, Named.find? other (Named.erase name m.index) ≠ some k := by
  have finds : ∀ {other j}, Named.find? other (Named.erase name m.index) = some j →
      other ≠ name ∧ Named.find? other m.index = some j := by
    intro other j found'
    by_cases gone : other = name
    · subst gone
      rw [Named.find?_erase_self h.sorted] at found'
      cases found'
    · exact ⟨gone, (Named.find?_erase_of_ne gone _).symm.trans found'⟩
  refine ⟨{ h with
    sorted := Named.sorted_erase h.sorted name
    made := fun other j found' => h.made other j (finds found').2
    apart := fun one two j one' two' => h.apart one two j (finds one').2 (finds two').2
    opened := fun other j found' => h.opened other j (finds found').2
    attached := fun i r reads => ?_ }, fun other found' => ?_⟩
  · obtain ⟨seat, sits, belongs, behind⟩ := h.attached i r reads
    refine ⟨seat, sits, (Named.find?_erase_of_ne ?_ _).trans belongs, behind⟩
    rintro rfl
    rw [found] at belongs
    cases belongs
    have member := h.mem_listening_channel reads
    rw [nobody] at member
    cases member
  · exact (finds found').1 (h.apart other name k (finds found').2 found)

theorem insert (missing : Named.find? name m.index = none) :
    ({ m with index := Named.insert name m.fresh m.index, fresh := m.fresh + 1 }.setChannel m.fresh
      .empty).Placed := by
  -- Every name but the new one finds what it found before.
  have finds : ∀ {other k}, Named.find? other (Named.insert name m.fresh m.index) = some k →
      (other = name ∧ k = m.fresh) ∨ (Named.find? other m.index = some k ∧ k ≠ m.fresh) := by
    intro other k found
    by_cases new : other = name
    · subst new
      rw [Named.find?_insert_self] at found
      exact Or.inl ⟨rfl, (Option.some.inj found).symm⟩
    · rw [Named.find?_insert_of_ne new] at found
      exact Or.inr ⟨found, h.ne_fresh found⟩
  refine { h with
    sorted := Named.sorted_insert h.sorted _ _
    made := fun other k found => ?_
    apart := fun one two k found found' => ?_
    opened := fun other k found => ?_
    sized := fun k => ?_
    attached := fun j r reads => ?_ }
  · rcases finds found with ⟨_, rfl⟩ | ⟨old, _⟩
    · exact Nat.lt_succ_self _
    · exact Nat.lt_succ_of_lt (h.made _ _ old)
  · rcases finds found with ⟨rfl, rfl⟩ | ⟨old, other⟩ <;>
      rcases finds found' with ⟨rfl, same⟩ | ⟨old', other'⟩
    · rfl
    · exact absurd rfl other'
    · exact absurd same other
    · exact h.apart _ _ _ old old'
  · rcases finds found with ⟨_, rfl⟩ | ⟨old, other⟩
    · rw [channels_setChannel_self]
      rfl
    · rw [channels_setChannel_of_ne other]
      exact h.opened _ _ old
  · by_cases new : k = m.fresh
    · subst new
      rw [channels_setChannel_self]
      exact Broadcast.sound_empty _
    · rw [channels_setChannel_of_ne new]
      exact h.sized k
  · obtain ⟨seat, sits, belongs, behind⟩ := h.attached j r reads
    have other : seat.subscription.script ≠ name := by
      rintro rfl
      rw [missing] at belongs
      cases belongs
    rw [channels_setChannel_of_ne (h.ne_fresh belongs)]
    exact ⟨seat, sits, (Named.find?_insert_of_ne other _ _).trans belongs, behind⟩

end Placed

namespace Sound

theorem ofCapacity (capacity : Nat) : (ofCapacity capacity).Sound where
  sorted := List.Pairwise.nil
  made _ _ found := by cases found
  apart _ _ _ found _ := by cases found
  opened _ _ found := by cases found
  sized _ := Broadcast.sound_empty _
  empty _ _ := ⟨rfl, rfl⟩
  numbered _ _ _ sits := by cases sits
  attached _ _ reads := by cases reads
  counted _ _ found := by cases found

theorem provide (h : m.Sound) (name : String) :
    (m.provide name).2.Sound ∧
      Named.find? name (m.provide name).2.index = some (m.provide name).1 := by
  unfold Audience.provide
  split
  · rename_i k found
    exact ⟨h, found⟩
  · rename_i missing
    refine ⟨⟨h.toPlaced.insert missing, fun other k found => ?_⟩, Named.find?_insert_self _ _ _⟩
    by_cases new : other = name
    · subst new
      cases (Named.find?_insert_self _ _ _).symm.trans found
      rw [channels_setChannel_self]
      exact (Finset.card_eq_zero.mpr h.listening_fresh).symm
    · have old := (Named.find?_insert_of_ne new _ _).symm.trans found
      rw [channels_setChannel_of_ne (h.ne_fresh old)]
      exact h.counted other k old

theorem listening_enroll (name : String) (k j : Nat) :
    (m.enroll name k).listening j =
      if k = j then Insert.insert m.joined (m.listening j) else m.listening j := by
  have here : (m.enroll name k).readers m.joined = some ⟨k, (m.channels k).sent⟩ :=
    readers_setReader_self _ _ _
  have there : (Finset.range m.joined).filter
      (fun i => ((m.enroll name k).readers i).map Reader.channel = some j) = m.listening j :=
    Finset.filter_congr fun i member => by
      have other := Nat.ne_of_lt (Finset.mem_range.mp member)
      rw [show (m.enroll name k).readers i = m.readers i from readers_setReader_of_ne other _ _]
  rw [listening, show (m.enroll name k).joined = m.joined + 1 from rfl, Finset.range_add_one,
    Finset.filter_insert, there, here]
  simp

theorem enroll (h : m.Sound) (found : Named.find? name m.index = some k) :
    (m.enroll name k).Sound := by
  have sound := h.sized k
  have placed : (m.enroll name k).Placed := by
    refine ((h.welcome name).setReader (Nat.lt_succ_self _) fun r' new => ?_).setChannel
      ⟨sound.sent, sound.room⟩ (Nat.le_refl _) (fun other belongs => h.opened other k belongs)
    cases new
    exact ⟨_, seats_setSeat_self _ _ _ _, found, Nat.le_refl _⟩
  refine ⟨placed, fun other j belongs => ?_⟩
  have counted := h.counted other j belongs
  have joins : m.joined ∉ m.listening j := fun member =>
    Nat.lt_irrefl _ (mem_listening.mp member).1
  rw [listening_enroll, Audience.enroll]
  by_cases mine : j = k
  · subst mine
    rw [if_pos rfl, channels_setChannel_self, Finset.card_insert_of_notMem joins, ← counted]
  · rw [if_neg (Ne.symm mine), channels_setChannel_of_ne mine]
    exact counted

theorem subscribe (h : m.Sound) (name : String) : (m.subscribe name).Sound :=
  let ⟨sound, found⟩ := h.provide name
  sound.enroll found

theorem publish (h : m.Sound) (e : LogEvent) : (m.publish e).Sound := by
  unfold Audience.publish
  split
  · rename_i k found
    refine ⟨h.setChannel (Broadcast.sound_send (h.sized k) e) (Broadcast.le_sent_send _ _ _)
      fun other belongs => ?_, fun other j belongs => ?_⟩
    · rw [Broadcast.closed_send]
      exact h.opened other k belongs
    · have counted := h.counted other j belongs
      by_cases mine : j = k
      · subst mine
        rw [channels_setChannel_self, Broadcast.listeners_send]
        exact counted
      · rw [channels_setChannel_of_ne mine]
        exact counted
  · exact h

theorem receive (h : m.Sound) (i : Nat) : (m.receive i).Sound := by
  unfold Audience.receive
  split
  · rename_i r reads
    have same : ∀ k, (m.setReader i (some ((m.channels r.channel).read r).2)).listening k =
        m.listening k := by
      intro k
      refine Finset.filter_congr fun j _ => ?_
      by_cases mine : j = i
      · subst mine
        rw [readers_setReader_self, reads, Option.map_some, Broadcast.channel_read]
        rfl
      · rw [readers_setReader_of_ne mine]
    obtain ⟨seat, sits, belongs, behind⟩ := h.attached i r reads
    refine ⟨h.setReader (h.lt_joined reads) fun r' new => ?_, fun other k found => ?_⟩
    · cases new
      rw [Broadcast.channel_read]
      exact ⟨seat, sits, belongs, Broadcast.read_le_sent (h.sized r.channel).sent behind⟩
    · rw [same]
      exact h.counted other k found
  · exact h

theorem listening_drop (i k : Nat) (m : Audience) :
    (m.drop i).listening k = (m.listening k).erase i := by
  ext j
  rw [Finset.mem_erase, mem_listening, mem_listening, (frame_drop i m).2]
  by_cases mine : j = i
  · subst mine
    simp [readers_drop_self m j]
  · simp [readers_drop_of_ne mine m, mine]

theorem drop (h : m.Sound) (i : Nat) : (m.drop i).Sound := by
  cases reads : m.readers i with
  | none =>
    rw [Audience.drop, reads]
    exact h
  | some r =>
    have fewer := fun k => listening_drop i k m
    unfold Audience.drop at fewer ⊢
    rw [reads] at fewer
    simp only [reads]
    have sound := h.sized r.channel
    refine ⟨(h.setReader (h.lt_joined reads) fun r' new => by cases new).setChannel
      ⟨sound.sent, sound.room⟩ (Nat.le_refl _) (fun other found => h.opened other _ found),
      fun other k found => ?_⟩
    have counted := h.counted other k found
    rw [fewer]
    by_cases mine : k = r.channel
    · subst mine
      rw [channels_setChannel_self, Finset.card_erase_of_mem (h.mem_listening_channel reads),
        ← counted]
    · have absent : i ∉ m.listening k := fun member => by
        obtain ⟨_, r', reads', channel⟩ := mem_listening.mp member
        rw [reads] at reads'
        cases reads'
        exact mine channel.symm
      rw [channels_setChannel_of_ne mine, Finset.erase_eq_of_notMem absent]
      exact counted

/-- The hub lets a channel go only if no receiver is left behind on it. -/
theorem release (h : m.Sound) (name : String) : (m.release name).Sound := by
  unfold Audience.release
  split
  · rename_i k found
    dsimp only
    split
    · rename_i silent
      have nobody : m.listening k = ∅ :=
        Finset.card_eq_zero.mp ((h.counted name k found).symm.trans silent)
      have sound := h.sized k
      obtain ⟨placed, gone⟩ := h.erase found nobody
      refine ⟨placed.setChannel ⟨sound.sent, sound.room⟩ (Nat.le_refl _)
        fun other found' => absurd found' (gone other), fun other j found' => ?_⟩
      have elsewhere : j ≠ k := by
        rintro rfl
        exact gone other found'
      have belongs : Named.find? other m.index = some j := by
        refine (Named.find?_erase_of_ne ?_ _).symm.trans found'
        rintro rfl
        exact absurd ((Named.find?_erase_self h.sorted _).symm.trans found') (by simp)
      rw [channels_setChannel_of_ne elsewhere]
      exact h.counted other j belongs
    · exact h
  · exact h

theorem setSeat (h : m.Sound) {s : Subscription} (t : Tenure) (sits : m.seats i = some seat)
    (script : s.script = seat.subscription.script)
    (own : ∀ id, s.receiver = some id → id = i) : (m.setSeat i s t).Sound :=
  ⟨h.toPlaced.setSeat t sits script own, h.counted⟩

theorem step (h : m.Sound) (move : Move) : (m.step move).Sound := by
  cases move with
  | subscribe name => exact h.subscribe name
  | publish e => exact h.publish e
  | receive i => exact h.receive i
  | take i =>
    rw [Audience.step]
    split
    · rename_i s sits
      exact h.setSeat .held sits rfl fun id none => by cases none
    · exact h
  | dropReceiver i =>
    rw [Audience.step]
    split
    · exact h.drop i
    · exact h
  | leave i =>
    rw [Audience.step]
    split
    · rename_i name id sits
      exact (h.drop i).setSeat .leaving ((congrFun (seats_drop i m) i).trans sits) rfl
        fun id none => by cases none
    · rename_i name sits
      exact h.setSeat .leaving sits rfl fun id none => by cases none
    · exact h
  | release i =>
    rw [Audience.step]
    split
    · rename_i s sits
      exact (h.release s.script).setSeat .ended ((congrFun (seats_release _ m) i).trans sits) rfl
        fun id holds => h.numbered i _ id sits holds
    · exact h

theorem run (h : m.Sound) (moves : List Move) : (m.run moves).Sound := by
  induction moves generalizing m with
  | nil => exact h
  | cons move rest ih => exact ih (h.step move)

end Sound

end ScriptHost.Audience
