import ScriptHost.Proofs.SharedChannels

/-!
A hub in which every receiver has a buffer of its own does the same, step by step, as the hub whose
receivers share the channels: it hands out the same, and it holds the same channels with the same
receivers.
-/
namespace ScriptHost.Audience

variable {m m' : Audience} {name : String} {i j k : Nat} {r : Reader} {b : Broadcast} {x : Receiver}

theorem find?_view (m : Audience) (name : String) :
    m.view.channel? name = (Named.find? name m.index).map fun k => ⟨m.line k⟩ :=
  Named.find?_mapValues (fun _ k => (⟨m.line k⟩ : Channel)) name m.index

theorem Placed.sorted_view (h : m.Placed) : Named.Sorted m.view.channels :=
  Named.sorted_mapValues (fun _ k => (⟨m.line k⟩ : Channel)) h.sorted

theorem view_eq (h : m.Placed) {hub : Hub} (capacity : m.capacity = hub.capacity)
    (joined : m.joined = hub.nextId) (sorted : Named.Sorted hub.channels)
    (found : ∀ name, m.view.channel? name = hub.channel? name) : m.view = hub := by
  have channels : m.view.channels = hub.channels :=
    Named.eq_of_find? h.sorted_view sorted found
  obtain ⟨capacity', channels', nextId'⟩ := hub
  subst capacity joined channels
  rfl

theorem view_insert (h : m.Placed) (h' : m'.Placed) (capacity : m'.capacity = m.capacity)
    (found : Named.find? name m'.index = some k)
    (others : ∀ other, other ≠ name → m'.view.channel? other = m.view.channel? other) :
    m'.view = { m.view with
      nextId := m'.joined
      channels := Named.insert name ⟨m'.line k⟩ m.view.channels } := by
  refine view_eq h' capacity rfl (Named.sorted_insert h.sorted_view _ _) fun other => ?_
  by_cases mine : other = name
  · subst mine
    rw [find?_view, found]
    exact (Named.find?_insert_self _ _ _).symm
  · rw [others other mine]
    exact (Named.find?_insert_of_ne mine _ _).symm

theorem id_ear? (own : m.ear? k i = some x) : x.id = i := by
  obtain ⟨r, _, mine⟩ := Option.bind_eq_some_iff.mp own
  split at mine
  · cases mine
    rfl
  · cases mine

theorem ear?_self (reads : m.readers i = some r) :
    m.ear? r.channel i = some ((m.channels r.channel).buffer i r) := by
  rw [ear?, reads, Option.bind_some, if_pos rfl]

theorem ear?_none (dropped : m.readers i = none) (k : Nat) : m.ear? k i = none := by
  rw [ear?, dropped, Option.bind_none]

theorem ear?_of_ne (reads : m.readers i = some r) (elsewhere : r.channel ≠ k) :
    m.ear? k i = none := by
  rw [ear?, reads, Option.bind_some, if_neg elsewhere]

theorem ear?_setChannel_of_ne (other : j ≠ k) (b : Broadcast) (i : Nat) :
    (m.setChannel k b).ear? j i = m.ear? j i := by
  simp [ear?, other, setChannel]

theorem ear?_setReader_of_ne (other : j ≠ i) (r : Option Reader) (k : Nat) :
    (m.setReader i r).ear? k j = m.ear? k j := by
  simp [ear?, other, setReader]

theorem line_setChannel_of_ne (other : j ≠ k) (b : Broadcast) :
    (m.setChannel k b).line j = m.line j :=
  List.filterMap_congr fun i _ => ear?_setChannel_of_ne other b i

theorem line_setChannel (sent : b.sent = (m.channels k).sent)
    (kept : b.kept = (m.channels k).kept) (j : Nat) : (m.setChannel k b).line j = m.line j := by
  by_cases mine : j = k
  · subst mine
    refine List.filterMap_congr fun i _ => ?_
    have same : ∀ r, b.buffer i r = (m.channels j).buffer i r := fun r => by
      simp only [Broadcast.buffer, Broadcast.oldest, sent, kept]
    simp [ear?, setChannel, same]
  · exact line_setChannel_of_ne mine b

theorem find?_line (h : m.Placed) (k i : Nat) :
    (m.line k).find? (fun x => x.id = i) = m.ear? k i := by
  cases own : m.ear? k i with
  | none =>
    refine List.find?_eq_none.mpr fun x member same => ?_
    obtain ⟨a, _, here⟩ := List.mem_filterMap.mp member
    have number := id_ear? here
    simp only [decide_eq_true_eq] at same
    rw [number] at same
    rw [same, own] at here
    cases here
  | some x =>
    have joined : i < m.joined := by
      obtain ⟨r, reads, _⟩ := Option.bind_eq_some_iff.mp own
      exact h.lt_joined reads
    have first : (List.range m.joined).find?
        (fun a => (m.ear? k a).any fun x => decide (x.id = i)) = some i := by
      refine List.find?_range_eq_some.mpr ⟨?_, List.mem_range.mpr joined, fun a below => ?_⟩
      · simp [own, id_ear? own]
      · cases here : m.ear? k a with
        | none => rfl
        | some y => simp [id_ear? here, Nat.ne_of_lt below]
    rw [line, List.find?_filterMap, first, Option.bind_some, own]

theorem line_eq_nil : m.line k = [] ↔ m.listening k = ∅ := by
  rw [← List.length_eq_zero_iff, length_line, Finset.card_eq_zero]

theorem line_send (h : m.Sound) (found : Named.find? name m.index = some k) (e : LogEvent) :
    (m.setChannel k ((m.channels k).send (bufferSize m.capacity) e)).line k =
      (m.line k).map (Receiver.push (bufferSize m.capacity) e) := by
  by_cases silent : (m.channels k).listeners = 0
  · have nobody : m.line k = [] :=
      line_eq_nil.mpr (Finset.card_eq_zero.mp ((h.counted name k found).symm.trans silent))
    rw [Broadcast.send_silent silent, line_setChannel rfl rfl, nobody]
    rfl
  · rw [line, line, List.map_filterMap]
    refine List.filterMap_congr fun i _ => ?_
    cases reads : m.readers i with
    | none => rw [ear?_none reads, ear?_none (by exact reads)]; rfl
    | some r =>
      by_cases mine : r.channel = k
      · obtain ⟨_, _, _, behind⟩ := h.attached i r reads
        subst mine
        have sent := Broadcast.buffer_send (h.sized r.channel) (bufferSize_pos _) silent e i behind
        rw [ear?_self reads, ear?_self (by exact reads), channels_setChannel_self, sent]
        rfl
      · rw [ear?_of_ne reads mine, ear?_of_ne (by exact reads) mine]
        rfl

theorem find?_view_setChannel (h : m.Placed) (found : Named.find? name m.index = some k)
    (b : Broadcast) (other : String) (ne : other ≠ name) :
    (m.setChannel k b).view.channel? other = m.view.channel? other := by
  rw [find?_view, find?_view]
  change (Named.find? other m.index).map _ = _
  refine Option.map_congr fun j found' => ?_
  have elsewhere : j ≠ k := by
    rintro rfl
    exact ne (h.apart other name j found' found)
  rw [line_setChannel_of_ne elsewhere]

theorem view_publish (h : m.Sound) (e : LogEvent) : (m.publish e).view = m.view.publish e := by
  have sound := h.publish e
  unfold Audience.publish at sound ⊢
  unfold Hub.publish
  rw [find?_view]
  cases found : Named.find? e.script m.index with
  | none => rfl
  | some k =>
    rw [found] at sound
    rw [view_insert h.toPlaced sound.toPlaced rfl found
      (find?_view_setChannel h.toPlaced found _), line_send h found]
    rfl

theorem line_provide (h : m.Placed) (name : String) :
    (m.provide name).2.line (m.provide name).1 =
      match m.view.channel? name with
      | some c => c.receivers
      | none => [] := by
  rw [find?_view, provide]
  cases found : Named.find? name m.index with
  | some k => rfl
  | none =>
    exact line_eq_nil.mpr h.listening_fresh

theorem find?_view_provide (h : m.Placed) (other : String) (ne : other ≠ name) :
    (m.provide name).2.view.channel? other = m.view.channel? other := by
  rw [find?_view, find?_view, provide]
  cases found : Named.find? name m.index with
  | some k => rfl
  | none =>
    change (Named.find? other (Named.insert name m.fresh m.index)).map _ = _
    rw [Named.find?_insert_of_ne ne]
    refine Option.map_congr fun j found' => ?_
    exact congrArg Channel.mk (line_setChannel_of_ne (h.ne_fresh found') _)

theorem line_enroll (h : m.Placed) (name : String) (k j : Nat) :
    (m.enroll name k).line j =
      m.line j ++ (if k = j then some ⟨m.joined, 0, []⟩ else none).toList := by
  refine (line_setChannel ?_ ?_ j).trans ?_
  · rfl
  · rfl
  · rw [line]
    change List.filterMap _ (List.range (m.joined + 1)) = _
    rw [List.range_succ, List.filterMap_append]
    congr 1
    · exact List.filterMap_congr fun i member =>
        ear?_setReader_of_ne (Nat.ne_of_lt (List.mem_range.mp member)) _ _
    · rw [List.filterMap_cons, List.filterMap_nil, ear?, readers_setReader_self, Option.bind_some]
      by_cases mine : k = j
      · subst mine
        rw [if_pos rfl, if_pos rfl]
        change [(m.channels k).buffer m.joined ⟨k, (m.channels k).sent⟩] = _
        rw [Broadcast.buffer_sent (h.sized k)]
        rfl
      · rw [if_neg mine, if_neg mine]
        rfl

theorem view_subscribe (h : m.Sound) (name : String) :
    (m.subscribe name).view = (m.view.subscribe name).2 := by
  obtain ⟨sound, found⟩ := h.provide name
  have line := fun j => line_enroll sound.toPlaced name (m.provide name).1 j
  have others : ∀ other, other ≠ name →
      (m.subscribe name).view.channel? other = m.view.channel? other := fun other ne => by
    rw [← find?_view_provide h.toPlaced other ne, find?_view, find?_view]
    refine Option.map_congr fun j found' => ?_
    have elsewhere : (m.provide name).1 ≠ j := by
      rintro rfl
      exact ne (sound.apart other name _ found' found)
    refine congrArg Channel.mk ((line j).trans ?_)
    rw [if_neg elsewhere]
    exact List.append_nil _
  have joined : (m.provide name).2.joined = m.joined := joined_provide name m
  refine (view_insert h.toPlaced (sound.enroll found).toPlaced (capacity_provide name m) found
    others).trans ?_
  rw [line, if_pos rfl, line_provide h.toPlaced name, joined]
  change ({ m.view with nextId := (m.provide name).2.joined + 1, channels := _ } : Hub) = _
  rw [joined]
  rfl

theorem line_setReader (reads : m.readers i = some r) (r' : Reader) (same : r'.channel = r.channel)
    (k : Nat) : (m.setReader i (some r')).line k = (m.line k).map fun x =>
      if x.id = i then (m.channels r.channel).buffer i r' else x := by
  rw [line, line, List.map_filterMap]
  refine List.filterMap_congr fun j _ => ?_
  by_cases mine : j = i
  · subst mine
    by_cases here : r.channel = k
    · subst here
      have reads' := readers_setReader_self j (some r') m
      have own := ear?_self reads'
      rw [same] at own
      rw [ear?_self reads, own, Option.map_some, if_pos (by rfl)]
      rfl
    · rw [ear?_of_ne reads here, ear?_of_ne (readers_setReader_self _ _ _) (by rwa [same])]
      rfl
  · rw [ear?_setReader_of_ne mine]
    cases own : m.ear? k j with
    | none => rfl
    | some x =>
      rw [Option.map_some, if_neg]
      rwa [id_ear? own]

theorem line_setReader_of_ne (reads : m.readers i = some r) {new : Option Reader}
    (same : ∀ r', new = some r' → r'.channel = r.channel) (elsewhere : r.channel ≠ k) :
    (m.setReader i new).line k = m.line k := by
  refine List.filterMap_congr fun j _ => ?_
  by_cases mine : j = i
  · subst mine
    rw [ear?_of_ne reads elsewhere]
    cases new with
    | none => exact ear?_none (readers_setReader_self _ _ _) k
    | some r' =>
      exact ear?_of_ne (readers_setReader_self _ _ _) (by rwa [same r' rfl])
  · exact ear?_setReader_of_ne mine _ _

theorem receive_view (h : m.Sound) {seat : Seat} (sits : m.seats i = some seat) :
    m.view.receive seat.subscription.script i = ((m.signal i).delivery?, (m.receive i).view) := by
  have placed := h.toPlaced
  have sound := h.receive i
  unfold Hub.receive
  unfold Audience.receive signal at *
  rw [find?_view]
  cases reads : m.readers i with
  | none =>
    cases found : Named.find? seat.subscription.script m.index with
    | none => rfl
    | some k =>
      dsimp only [Option.map_some]
      rw [find?_line placed, ear?_none reads]
      rfl
  | some r =>
    obtain ⟨seat', sits', found, behind⟩ := h.attached i r reads
    rw [sits] at sits'
    cases sits'
    rw [reads] at sound
    rw [found]
    dsimp only [Option.map_some] at sound ⊢
    rw [find?_line placed, ear?_self reads]
    dsimp only
    rw [Broadcast.pop_buffer]
    have channel := Broadcast.channel_read (m.channels r.channel) r
    have line := line_setReader reads ((m.channels r.channel).read r).2 channel
    have view := view_insert placed sound.toPlaced rfl found fun other ne => by
      rw [find?_view, find?_view]
      refine Option.map_congr fun j found' => congrArg Channel.mk ?_
      refine line_setReader_of_ne reads (fun r' new => ?_) ?_
      · cases new
        exact channel
      · rintro rfl
        exact ne (placed.apart other _ _ found' found)
    rw [view, line]
    rfl

theorem line_drop (reads : m.readers i = some r) (k : Nat) :
    (m.drop i).line k = (m.line k).filter fun x => x.id ≠ i := by
  rw [Audience.drop, reads]
  refine (line_setChannel ?_ ?_ k).trans ?_
  · rfl
  · rfl
  · rw [line, line, List.filter_filterMap]
    refine List.filterMap_congr fun j _ => ?_
    by_cases mine : j = i
    · subst mine
      rw [ear?_none (readers_setReader_self _ _ _)]
      cases own : m.ear? k j with
      | none => rfl
      | some x => simp [Option.filter, id_ear? own]
    · rw [ear?_setReader_of_ne mine]
      cases own : m.ear? k j with
      | none => rfl
      | some x => simp [Option.filter, id_ear? own, mine]

theorem dropReceiver_view (h : m.Sound) {seat : Seat} (sits : m.seats i = some seat) :
    m.view.dropReceiver seat.subscription.script i = (m.drop i).view := by
  have placed := h.toPlaced
  have sound := h.drop i
  unfold Hub.dropReceiver
  rw [find?_view]
  cases reads : m.readers i with
  | none =>
    rw [show m.drop i = m by rw [Audience.drop, reads]]
    cases found : Named.find? seat.subscription.script m.index with
    | none => rfl
    | some k =>
      have absent := List.find?_eq_none.mp ((find?_line placed k i).trans (ear?_none reads k))
      have all : (m.line k).filter (fun x => x.id ≠ i) = m.line k :=
        List.filter_eq_self.mpr fun x member => by simpa using absent x member
      dsimp only [Option.map_some]
      rw [all]
      exact (view_insert placed placed rfl found fun _ _ => rfl).symm
  | some r =>
    obtain ⟨seat', sits', found, behind⟩ := h.attached i r reads
    rw [sits] at sits'
    cases sits'
    have line := line_drop reads r.channel
    unfold Audience.drop at sound line ⊢
    rw [reads] at sound line ⊢
    rw [found]
    dsimp only [Option.map_some] at sound line ⊢
    rw [← line]
    refine (view_insert placed sound.toPlaced rfl found fun other ne => ?_).symm
    rw [find?_view, find?_view]
    refine Option.map_congr fun j found' => congrArg Channel.mk ?_
    refine (line_setChannel ?_ ?_ j).trans (line_setReader_of_ne reads (fun r' new => ?_) ?_)
    · rfl
    · rfl
    · cases new
    · rintro rfl
      exact ne (placed.apart other _ _ found' found)

theorem release_view (h : m.Sound) (name : String) :
    m.view.release name = (m.release name).view := by
  have placed := h.toPlaced
  have sound := h.release name
  unfold Hub.release
  unfold Audience.release at sound ⊢
  rw [find?_view]
  cases found : Named.find? name m.index with
  | none => rfl
  | some k =>
    rw [found] at sound
    dsimp only [Option.map_some] at sound ⊢
    have empty : (m.line k).isEmpty ↔ (m.channels k).listeners = 0 := by
      rw [List.isEmpty_iff, line_eq_nil, h.counted name k found, Finset.card_eq_zero]
    by_cases silent : (m.channels k).listeners = 0
    · rw [if_pos silent] at sound ⊢
      rw [if_pos (empty.mpr silent)]
      refine (view_eq sound.toPlaced rfl rfl (Named.sorted_erase placed.sorted_view _)
        fun other => ?_).symm
      rw [find?_view, Hub.channel?]
      change (Named.find? other (Named.erase name m.index)).map _ = _
      by_cases gone : other = name
      · subst gone
        rw [Named.find?_erase_self placed.sorted, Named.find?_erase_self placed.sorted_view]
        rfl
      · rw [Named.find?_erase_of_ne gone, Named.find?_erase_of_ne gone]
        refine Eq.trans ?_ (find?_view m other).symm
        refine Option.map_congr fun j _ => congrArg Channel.mk ((line_setChannel ?_ ?_ j).trans ?_)
        · rfl
        · rfl
        · rfl
    · rw [if_neg silent, if_neg fun nobody => silent (empty.mp nobody)]

/-- What a move hands out and what it makes of the hub is the same with buffers of one's own. -/
theorem onHub_view (h : m.Sound) (move : Move) :
    m.onHub m.view move = (m.handed? move, (m.step move).view) := by
  cases move with
  | subscribe name => exact congrArg (Prod.mk none) (view_subscribe h name).symm
  | publish e => exact congrArg (Prod.mk none) (view_publish h e).symm
  | receive i =>
    rw [onHub, handed?, step]
    cases sits : m.seats i with
    | none =>
      have dropped : m.readers i = none := by
        by_contra reads
        obtain ⟨r, reads⟩ := Option.ne_none_iff_exists'.mp reads
        obtain ⟨_, sits', _⟩ := h.attached i r reads
        rw [sits] at sits'
        cases sits'
      rw [signal, Audience.receive, dropped]
      rfl
    | some seat =>
      obtain ⟨s, t⟩ := seat
      dsimp only
      rw [receive_view h sits]
  | take i =>
    change (none, m.view) = (none, (m.step (.take i)).view)
    rw [step]
    split <;> rfl
  | dropReceiver i =>
    change m.onHub m.view (.dropReceiver i) = (none, (m.step (.dropReceiver i)).view)
    rw [onHub, step]
    split
    · rename_i name t sits
      rw [← dropReceiver_view h sits]
    · rfl
  | leave i =>
    change m.onHub m.view (.leave i) = (none, (m.step (.leave i)).view)
    rcases sits : m.seats i with _ | ⟨⟨name, _ | id⟩, _ | _ | _⟩ <;> simp only [onHub, step, sits]
    -- A receiver is dropped only where the subscription is held and still has it.
    · rfl
    · have own := h.numbered i _ id sits rfl
      subst own
      exact congrArg (Prod.mk none) (dropReceiver_view h sits)
  | release i =>
    change m.onHub m.view (.release i) = (none, (m.step (.release i)).view)
    rw [onHub, step]
    split
    · exact congrArg (Prod.mk none) (release_view h _)
    · rfl

/-- In every order of steps the two hubs stay together. -/
theorem alongside_view (h : m.Sound) (moves : List Move) :
    m.alongside moves m.view = (m.handed moves, (m.run moves).view) := by
  induction moves generalizing m with
  | nil => rfl
  | cons move rest ih =>
    rw [alongside, onHub_view h move]
    dsimp only
    rw [ih (h.step move)]
    rfl

end ScriptHost.Audience
