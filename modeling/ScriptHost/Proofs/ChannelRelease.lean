import ScriptHost.Proofs.LogDelivery

/-!
The hub keeps no channel that nobody needs. As long as a receiver goes before the hub looks at the
channel of the subscription it came from, the hub holds a channel only for a script to which some
subscription has not ended: of those who leave at the same time the last one to look finds that
nobody listens, and a receiver it still finds belongs to a subscription that has not ended.
-/
namespace ScriptHost.Audience

variable {m : Audience} {name : String} {i k : Nat} {seat : Seat}

/-- The hub looks at the channel of a subscription that goes only when the receiver that came with
it was dropped. -/
def Allows (m : Audience) : Move → Prop
  | .release i => (m.seats i).map Seat.tenure = some .leaving → m.readers i = none
  | _ => True

def Orderly : Audience → List Move → Prop
  | _, [] => True
  | m, move :: rest => m.Allows move ∧ Orderly (m.step move) rest

instance decidableAllows (m : Audience) : (move : Move) → Decidable (m.Allows move)
  | .release i => inferInstanceAs (Decidable
      ((m.seats i).map Seat.tenure = some .leaving → m.readers i = none))
  | .subscribe _ | .publish _ | .receive _ | .take _ | .dropReceiver _ | .leave _ => .isTrue trivial

instance decidableOrderly : (m : Audience) → (moves : List Move) → Decidable (m.Orderly moves)
  | _, [] => .isTrue trivial
  | m, move :: rest =>
    @instDecidableAnd _ _ (decidableAllows m move) (decidableOrderly (m.step move) rest)

theorem orderly_append {moves later : List Move} : m.Orderly (moves ++ later) ↔
    m.Orderly moves ∧ (m.run moves).Orderly later := by
  induction moves generalizing m with
  | nil => exact (and_iff_right trivial).symm
  | cons move rest ih =>
    rw [List.cons_append, Orderly, ih, Orderly, and_assoc]
    rfl

/-- Whoever listens has a subscription that has not ended, and so has every channel. -/
structure Tended (m : Audience) : Prop where
  reading : ∀ i r, m.readers i = some r → ∃ seat, m.seats i = some seat ∧ seat.tenure ≠ .ended
  holding : ∀ name k, Named.find? name m.index = some k → ∃ i seat, m.seats i = some seat ∧
    seat.subscription.script = name ∧ seat.tenure ≠ .ended

theorem find?_release (h : m.Sound) {other : String}
    (found : Named.find? other (m.release name).index = some k) :
    Named.find? other m.index = some k ∧ (other = name → (m.listening k).Nonempty) := by
  unfold release at found
  split at found
  · rename_i k' found'
    dsimp only at found
    split at found
    · change Named.find? other (Named.erase name m.index) = some k at found
      by_cases gone : other = name
      · subst gone
        rw [Named.find?_erase_self h.sorted] at found
        cases found
      · rw [Named.find?_erase_of_ne gone] at found
        exact ⟨found, fun same => absurd same gone⟩
    · rename_i heard
      refine ⟨found, fun same => ?_⟩
      subst same
      cases found.symm.trans found'
      rw [h.counted other k found] at heard
      exact Finset.card_ne_zero.mp heard
  · rename_i missing
    refine ⟨found, fun same => ?_⟩
    rw [same, missing] at found
    cases found

namespace Tended

theorem ofCapacity (capacity : Nat) : (ofCapacity capacity).Tended where
  reading _ _ reads := by cases reads
  holding _ _ found := by cases found

theorem subscribe (h : m.Tended) (sound : m.Sound) (name : String) : (m.subscribe name).Tended := by
  have new := seats_subscribe_self name m
  refine ⟨fun j r listens => ?_, fun other k found => ?_⟩
  · by_cases mine : j = m.joined
    · subst mine
      exact ⟨_, new, by simp⟩
    · obtain ⟨sits, reads⟩ := subscribe_of_ne mine name
      obtain ⟨seat, there, lasts⟩ := h.reading j r (reads.symm.trans listens)
      exact ⟨seat, sits.trans there, lasts⟩
  · by_cases mine : other = name
    · subst mine
      exact ⟨m.joined, _, new, rfl, by simp⟩
    · have found' := (find?_provide_of_ne mine m).symm.trans found
      obtain ⟨j, seat, there, script, lasts⟩ := h.holding other k found'
      have before : j ≠ m.joined := by
        rintro rfl
        rw [(sound.empty _ (Nat.le_refl _)).1] at there
        cases there
      exact ⟨j, seat, (subscribe_of_ne before name).1.trans there, script, lasts⟩

theorem receive (h : m.Tended) (i : Nat) : (m.receive i).Tended := by
  unfold Audience.receive
  split
  · rename_i r reads
    refine { h with reading := fun j r' reads' => ?_ }
    by_cases mine : j = i
    · subst mine
      exact h.reading j r reads
    · rw [readers_setReader_of_ne mine] at reads'
      exact h.reading j r' reads'
  · exact h

theorem drop (h : m.Tended) (i : Nat) : (m.drop i).Tended := by
  unfold Audience.drop
  split
  · rename_i r reads
    refine { h with reading := fun j r' reads' => ?_ }
    by_cases mine : j = i
    · subst mine
      cases (readers_setReader_self j none m).symm.trans reads'
    · exact h.reading j r' ((readers_setReader_of_ne mine none m).symm.trans reads')
  · exact h

theorem setSeat (h : m.Tended) {s : Subscription} {t : Tenure} (sits : m.seats i = some seat)
    (script : s.script = seat.subscription.script) (lasts : t ≠ .ended) :
    (m.setSeat i s t).Tended := by
  refine ⟨fun j r reads => ?_, fun name k found => ?_⟩
  · by_cases mine : j = i
    · subst mine
      exact ⟨_, seats_setSeat_self _ _ _ _, lasts⟩
    · rw [seats_setSeat_of_ne mine]
      exact h.reading j r reads
  · obtain ⟨j, seat', sits', belongs, lasts'⟩ := h.holding name k found
    by_cases mine : j = i
    · subst mine
      rw [sits] at sits'
      cases sits'
      exact ⟨j, _, seats_setSeat_self _ _ _ _, script.trans belongs, lasts⟩
    · exact ⟨j, seat', (seats_setSeat_of_ne mine _ _ _).trans sits', belongs, lasts'⟩

theorem release (h : m.Tended) (sound : m.Sound) {s : Subscription}
    (sits : m.seats i = some ⟨s, .leaving⟩) (dropped : m.readers i = none) :
    ((m.release s.script).setSeat i s .ended).Tended := by
  have seats := seats_release s.script m
  have readers := readers_release s.script m
  have there : ∀ {j seat'}, j ≠ i → m.seats j = some seat' →
      ((m.release s.script).setSeat i s .ended).seats j = some seat' := fun other sits' =>
    (seats_setSeat_of_ne other _ _ _).trans ((congrFun seats _).trans sits')
  refine ⟨fun j r reads => ?_, fun name k found => ?_⟩
  · have before : m.readers j = some r := (congrFun readers j).symm.trans reads
    have other : j ≠ i := by
      rintro rfl
      rw [dropped] at before
      cases before
    obtain ⟨seat, sits', lasts⟩ := h.reading j r before
    exact ⟨seat, there other sits', lasts⟩
  · change Named.find? name (m.release s.script).index = some k at found
    obtain ⟨found', heard⟩ := find?_release sound found
    by_cases mine : name = s.script
    · -- Whoever is still heard came with another subscription, which has not ended.
      obtain ⟨j, listens⟩ := heard mine
      obtain ⟨_, r, reads, channel⟩ := mem_listening.mp listens
      obtain ⟨seat, sits', belongs, _⟩ := sound.attached j r reads
      obtain ⟨seat', sits'', lasts⟩ := h.reading j r reads
      cases sits'.symm.trans sits''
      have other : j ≠ i := by
        rintro rfl
        rw [dropped] at reads
        cases reads
      rw [channel] at belongs
      exact ⟨j, seat, there other sits', sound.apart _ _ _ belongs found', lasts⟩
    · obtain ⟨j, seat, sits', script, lasts⟩ := h.holding name k found'
      have other : j ≠ i := by
        rintro rfl
        cases sits.symm.trans sits'
        exact mine script.symm
      exact ⟨j, seat, there other sits', script, lasts⟩

theorem step (h : m.Tended) (sound : m.Sound) {move : Move} (orderly : m.Allows move) :
    (m.step move).Tended := by
  cases move with
  | subscribe name => exact h.subscribe sound name
  | publish e =>
    change (m.publish e).Tended
    unfold Audience.publish
    split
    · exact ⟨h.reading, h.holding⟩
    · exact h
  | receive i => exact h.receive i
  | take i =>
    rw [Audience.step]
    split
    · rename_i s sits
      exact h.setSeat sits rfl (by simp)
    · exact h
  | dropReceiver i =>
    rw [Audience.step]
    split
    · exact h.drop i
    · exact h
  | leave i =>
    rw [Audience.step]
    split
    · rename_i name id sits
      exact (h.drop i).setSeat ((congrFun (seats_drop i m) i).trans sits) rfl (by simp)
    · rename_i name sits
      exact h.setSeat sits rfl (by simp)
    · exact h
  | release i =>
    rw [Audience.step]
    split
    · rename_i s sits
      exact h.release sound sits (orderly (by rw [sits]; rfl))
    · exact h

theorem run (h : m.Tended) (sound : m.Sound) {moves : List Move} (orderly : m.Orderly moves) :
    (m.run moves).Tended := by
  induction moves generalizing m with
  | nil => exact h
  | cons move rest ih =>
    exact ih (h.step sound orderly.1) (sound.step move) orderly.2

end Tended

/-- The hub does not leak channels: at every point it holds one only for a script to which a
subscription has not ended, and none when all have. -/
theorem channels_released (capacity : Nat) {moves : List Move}
    (orderly : (ofCapacity capacity).Orderly moves) {past : List Move} (point : past <+: moves) :
    let m := (ofCapacity capacity).run past
    let hub := ((ofCapacity capacity).alongside past (Hub.ofCapacity capacity)).2
    (∀ name, (hub.channel? name).isSome → ∃ i seat, m.seats i = some seat ∧
      seat.subscription.script = name ∧ seat.tenure ≠ .ended) ∧
    ((∀ i seat, m.seats i = some seat → seat.tenure = .ended) → hub.channels.length = 0) := by
  intro m hub
  obtain ⟨future, rfl⟩ := point
  have tended : m.Tended :=
    (Tended.ofCapacity capacity).run (Sound.ofCapacity capacity) (orderly_append.mp orderly).1
  have view : hub = m.view :=
    congrArg Prod.snd (alongside_view (Sound.ofCapacity capacity) past)
  have holds : ∀ name, (hub.channel? name).isSome → ∃ i seat, m.seats i = some seat ∧
      seat.subscription.script = name ∧ seat.tenure ≠ .ended := fun name held => by
    rw [view, find?_view, Option.isSome_map] at held
    obtain ⟨k, found⟩ := Option.isSome_iff_exists.mp held
    exact tended.holding name k found
  refine ⟨holds, fun ended => ?_⟩
  cases channels : hub.channels with
  | nil => rfl
  | cons p rest =>
    have held : (hub.channel? p.1).isSome := by
      rw [Hub.channel?, channels, Named.find?, if_pos rfl]
      rfl
    obtain ⟨i, seat, sits, _, lasts⟩ := holds p.1 held
    exact absurd (ended i seat sits) lasts

def leaving : List Move :=
  [.subscribe "a", .subscribe "a", .take 1, .leave 0, .dropReceiver 1, .leave 1, .subscribe "a",
    .release 1, .leave 2, .release 0, .release 2]

theorem channels_released_leaving : (ofCapacity 1).Orderly leaving ∧
    (((ofCapacity 1).alongside leaving (Hub.ofCapacity 1)).2).channels.length = 0 ∧
    ∃ i seat, ((ofCapacity 1).run (leaving.take 9)).seats i = some seat ∧
      seat.subscription.script = "a" ∧ seat.tenure ≠ .ended := by
  have orderly : (ofCapacity 1).Orderly leaving := by decide
  have ended : ∀ i seat, ((ofCapacity 1).run leaving).seats i = some seat →
      seat.tenure = .ended := fun i seat sits => by
    have first : ∀ i < 3, (((ofCapacity 1).run leaving).seats i).map Seat.tenure = some .ended := by
      decide
    by_cases few : i < 3
    · have goes := first i few
      rw [sits] at goes
      exact Option.some.inj goes
    · have none := (((Sound.ofCapacity 1).run leaving).empty i (Nat.not_lt.mp few)).1
      rw [sits] at none
      cases none
  exact ⟨orderly, (channels_released 1 orderly (List.prefix_refl _)).2 ended,
    (channels_released 1 orderly (List.take_prefix 9 leaving)).1 "a" (by decide)⟩

end ScriptHost.Audience
