import ScriptHost.Catalog.Browsing
import ScriptHost.Proofs.Changes
import ScriptHost.Proofs.ListingOrder
import ScriptHost.Proofs.Reopening

/-!
A listing beside calls that change what it lists. Every edition that it shows was live, and passed
the filters, in the step in which its name was looked up; the page that was read before decides
which names are looked up, so that none is shown twice. With no call beside it, such a listing shows
what a listing at once does.
-/
namespace ScriptHost

namespace Browsing

variable {calls : Nat → Call} {q : Listing} {fault : Option ArchiveError} {b : Browsing}

theorem run_append (before after : List Actor) :
    b.run calls q fault (before ++ after) =
      (b.run calls q fault before).run calls q fault after :=
  List.foldl_append ..

theorem traffic_run (schedule : List Actor) :
    (b.run calls q fault schedule).traffic =
      b.traffic.run calls (schedule.filterMap Actor.call?) := by
  induction schedule generalizing b with
  | nil => rfl
  | cons actor rest ih =>
    cases actor with
    | call i => exact ih
    | listing => exact ih

def look? (b : Browsing) : Actor → Option (Script × Traffic)
  | .listing =>
    match b.browse with
    | .looking (s :: _) _ => some (s, b.traffic)
    | _ => none
  | .call _ => none

theorem look?_eq_some {actor : Actor} {look : Script × Traffic} :
    b.look? actor = some look ↔ actor = .listing ∧ b.traffic = look.2 ∧
      ∃ pending found, b.browse = .looking (look.1 :: pending) found := by
  constructor
  · intro looks
    cases actor with
    | call i => cases looks
    | listing =>
      simp only [look?] at looks
      split at looks
      · rename_i s pending found stage
        cases looks
        exact ⟨rfl, rfl, pending, found, stage⟩
      · cases looks
  · rintro ⟨rfl, met, pending, found, stage⟩
    simp only [look?, stage, met]

def looks (calls : Nat → Call) (q : Listing) (fault : Option ArchiveError) :
    Browsing → List Actor → List (Script × Traffic)
  | _, [] => []
  | b, actor :: rest =>
    (b.look? actor).toList ++ looks calls q fault (b.step calls q fault actor) rest

def sight (q : Listing) (look : Script × Traffic) : Option Edition := look.2.glance q look.1.name

theorem sight_eq_some {look : Script × Traffic} {e : Edition} :
    sight q look = some e ↔
      look.2.slot look.1.name = .live e ∧ q.accepts e.script = true := by
  rw [sight, Traffic.glance, Option.filter_eq_some_iff, Slot.live?_eq_some]

end Browsing

def Browse.After (q : Listing) (page : List Script) (seen : List (Script × Traffic)) :
    Browse → Prop
  | .looking pending found =>
    page = seen.map Prod.fst ++ pending ∧ found = seen.filterMap (Browsing.sight q)
  | .done r => page = seen.map Prod.fst ∧ r = .ok (seen.filterMap (Browsing.sight q))
  | .idle | .begun => False

namespace Browse

def left (q : Listing) : Browse → Nat
  | .idle => q.pageSize.toNat + 3
  | .begun => q.pageSize.toNat + 2
  | .looking pending _ => pending.length + 1
  | .done _ => 0

theorem left_eq_zero {q : Listing} {browse : Browse} (none : browse.left q = 0) :
    ∃ r, browse = .done r := by
  cases browse with
  | done r => exact ⟨r, rfl⟩
  | idle | begun | looking _ _ => cases none

theorem left_next (q : Listing) (fault : Option ArchiveError) (m : Traffic) (browse : Browse) :
    (browse.next q fault m).left q ≤ browse.left q - 1 := by
  cases browse with
  | idle => exact Nat.le_refl _
  | begun =>
    cases fault with
    | none => exact Nat.succ_le_succ (q.length_page_le m.archive.live)
    | some e => exact Nat.zero_le _
  | looking pending found =>
    cases pending with
    | nil => exact Nat.zero_le _
    | cons s pending => exact Nat.le_refl _
  | done r => exact Nat.le_refl _

end Browse

namespace Browsing

variable {calls : Nat → Call} {q : Listing} {fault : Option ArchiveError} {b : Browsing}
  {page : List Script} {seen : List (Script × Traffic)} {schedule : List Actor}

theorem after_step (after : b.browse.After q page seen) (actor : Actor) :
    (b.step calls q fault actor).browse.After q page (seen ++ (b.look? actor).toList) := by
  cases actor with
  | call i =>
    rw [look?, Option.toList_none, List.append_nil]
    exact after
  | listing =>
    cases stage : b.browse with
    | idle | begun =>
      rw [stage] at after
      exact after.elim
    | looking pending found =>
      rw [stage] at after
      obtain ⟨whole, shown⟩ := after
      cases pending with
      | nil =>
        rw [List.append_nil] at whole
        simp only [step, look?, stage, Browse.next, Option.toList_none, List.append_nil]
        exact ⟨whole, congrArg Except.ok shown⟩
      | cons s pending =>
        -- The only step that moves a script from what is pending to what has been seen.
        have sighted : [(s, b.traffic)].filterMap (sight q) =
            (b.traffic.glance q s.name).toList := by
          rw [List.filterMap_cons, sight]
          cases b.traffic.glance q s.name <;> rfl
        simp only [step, look?, stage, Browse.next, Option.toList_some]
        constructor
        · rw [whole, List.map_append, List.append_assoc]
          rfl
        · rw [shown, List.filterMap_append, sighted]
    | done r =>
      rw [stage] at after
      simp only [step, look?, stage, Browse.next, Option.toList_none, List.append_nil]
      exact after

theorem after_run (after : b.browse.After q page seen) (schedule : List Actor) :
    (b.run calls q fault schedule).browse.After q page
      (seen ++ looks calls q fault b schedule) := by
  induction schedule generalizing b seen with
  | nil =>
    rw [looks, List.append_nil]
    exact after
  | cons actor rest ih =>
    rw [looks, ← List.append_assoc]
    exact ih (after_step after actor)

theorem done_run {r : Except Failure (List Edition)} (done : b.browse = .done r)
    (schedule : List Actor) : (b.run calls q fault schedule).browse = .done r := by
  induction schedule generalizing b with
  | nil => exact done
  | cons actor rest ih =>
    refine ih ?_
    cases actor with
    | call i => exact done
    | listing => simp only [step, done, Browse.next]

theorem left_run (schedule : List Actor) :
    (b.run calls q fault schedule).browse.left q ≤ b.browse.left q - schedule.count .listing := by
  induction schedule generalizing b with
  | nil => exact Nat.le_refl _
  | cons actor rest ih =>
    cases actor with
    | call i =>
      have other : (Actor.call i :: rest).count .listing = rest.count .listing :=
        List.count_cons_of_ne (by nofun)
      rw [other]
      exact ih
    | listing =>
      have first := Browse.left_next q fault b.traffic b.browse
      have last := ih (b := b.step calls q fault .listing)
      rw [List.count_cons_self]
      simp only [step] at last
      simp only [run, List.foldl_cons, step] at last ⊢
      omega

theorem returns_run (enough : b.browse.left q ≤ schedule.count .listing) :
    ∃ r, (b.run calls q fault schedule).browse = .done r := by
  have left : (b.run calls q fault schedule).browse.left q ≤
      b.browse.left q - schedule.count .listing := left_run schedule
  rw [Nat.sub_eq_zero_of_le enough] at left
  exact Browse.left_eq_zero (Nat.le_zero.mp left)

/-- A state of a run in which a listing is about to make a step and has read its page. -/
def Looking (calls : Nat → Call) (q : Listing) (fault : Option ArchiveError) (b : Browsing)
    (schedule : List Actor) (now : Browsing) : Prop :=
  ∃ before after, schedule = before ++ .listing :: after ∧ now = b.run calls q fault before ∧
    ∃ pending found, now.browse = .looking pending found

theorem looking_of_mem {look : Script × Traffic}
    (member : look ∈ looks calls q fault b schedule) :
    ∃ now, Looking calls q fault b schedule now ∧ now.traffic = look.2 := by
  induction schedule generalizing b with
  | nil => cases member
  | cons actor rest ih =>
    rcases List.mem_append.mp member with here | later
    · obtain ⟨rfl, met, pending, found, stage⟩ := look?_eq_some.mp (Option.mem_toList.mp here)
      exact ⟨b, ⟨[], rest, rfl, rfl, _, _, stage⟩, met⟩
    · obtain ⟨now, ⟨before, after, split, reached, stage⟩, met⟩ := ih later
      exact ⟨now, ⟨actor :: before, after, by rw [split]; rfl, reached, stage⟩, met⟩

structure Reads (calls : Nat → Call) (q : Listing) (fault : Option ArchiveError) (b : Browsing)
    (schedule before after : List Actor) : Prop where
  split : schedule = before ++ .listing :: after
  begun : (b.run calls q fault before).browse = .begun

theorem exists_reads (early : b.browse = .idle ∨ b.browse = .begun) (schedule : List Actor) :
    ((b.run calls q fault schedule).browse = .idle ∨
        (b.run calls q fault schedule).browse = .begun) ∨
      ∃ before after, Reads calls q fault b schedule before after := by
  induction schedule generalizing b with
  | nil => exact Or.inl early
  | cons actor rest ih =>
    -- Unless this step is the one, the listing is still early after it.
    have later : (b.step calls q fault actor).browse = .idle ∨
          (b.step calls q fault actor).browse = .begun →
        ((b.run calls q fault (actor :: rest)).browse = .idle ∨
            (b.run calls q fault (actor :: rest)).browse = .begun) ∨
          ∃ before after, Reads calls q fault b (actor :: rest) before after := by
      intro still
      refine (ih still).imp_right ?_
      rintro ⟨before, after, reads⟩
      exact ⟨actor :: before, after, by rw [reads.split]; rfl, reads.begun⟩
    cases actor with
    | call i => exact later early
    | listing =>
      rcases early with idle | begun
      · refine later (Or.inr ?_)
        simp only [step, idle, Browse.next]
      · exact Or.inr ⟨[], rest, rfl, begun⟩

theorem reads_of_done {r : Except Failure (List Edition)} (idle : b.browse = .idle)
    (done : (b.run calls q fault schedule).browse = .done r) :
    ∃ before after, Reads calls q fault b schedule before after := by
  refine (exists_reads (Or.inl idle) schedule).resolve_left ?_
  rintro (still | begun)
  · cases still.symm.trans done
  · cases begun.symm.trans done

namespace Reads

variable {before after : List Actor} (h : Reads calls q fault b schedule before after)
include h

theorem last : b.run calls q fault schedule =
    ((b.run calls q fault before).step calls q fault .listing).run calls q fault after := by
  rw [h.split, run_append]
  rfl

theorem failed {e : ArchiveError} (fails : fault = some e) :
    (b.run calls q fault schedule).browse = .done (.error (.archive e)) := by
  rw [h.last]
  refine done_run ?_ after
  subst fails
  simp only [step, h.begun]
  rfl

/-- A listing goes through the page of the archive as it was when it was read. -/
theorem looked (works : fault = none) :
    (b.run calls q fault schedule).browse.After q
      (q.page (b.run calls q fault before).traffic.archive.live)
      (looks calls q fault ((b.run calls q fault before).step calls q fault .listing) after) := by
  subst works
  have read : ((b.run calls q none before).step calls q none .listing).browse.After q
      (q.page (b.run calls q none before).traffic.archive.live) [] := by
    simp only [step, h.begun]
    exact ⟨rfl, rfl⟩
  rw [h.last]
  exact after_run read after

end Reads

/-- What a listing shows that has read its page after the steps `before`, while calls go on. -/
structure Listed (calls : Nat → Call) (q : Listing) (fault : Option ArchiveError) (b : Browsing)
    (schedule before after : List Actor) (es : List Edition) : Prop where
  reads : Reads calls q fault b schedule before after
  /-- Every edition was live in a step of the listing. -/
  live : ∀ e ∈ es, ∃ now, Looking calls q fault b schedule now ∧
    now.traffic.slot e.script.name = .live e
  accepted : ∀ e ∈ es, q.accepts e.script = true
  once : (es.map (·.script.name)).Nodup
  short : (es.length : Int) ≤ q.pageSize
  /-- The names are those of the page, in its order. -/
  page : (es.map (·.script.name)).Sublist
    ((q.page (b.run calls q fault before).traffic.archive.live).map Script.name)
  /-- A name of the page that shows a matching edition all the time is not left out. -/
  kept : ∀ s ∈ q.page (b.run calls q fault before).traffic.archive.live,
    (∀ now, Looking calls q fault b schedule now →
      ∃ e, now.traffic.slot s.name = .live e ∧ q.accepts e.script = true) →
    ∃ e ∈ es, e.script.name = s.name

variable {before after : List Actor} {es : List Edition}

theorem Reads.looking (h : Reads calls q fault b schedule before after) {now : Browsing}
    (looking : Looking calls q fault ((b.run calls q fault before).step calls q fault .listing)
      after now) : Looking calls q fault b schedule now := by
  obtain ⟨first, rest, split, reached, stage⟩ := looking
  refine ⟨before ++ .listing :: first, rest, ?_, ?_, stage⟩
  · rw [h.split, split, List.append_assoc]
    rfl
  · rw [reached, run_append]
    rfl

theorem Reads.found (h : Reads calls q fault b schedule before after)
    (done : (b.run calls q fault schedule).browse = .done (.ok es)) :
    ∃ seen : List (Script × Traffic),
      q.page (b.run calls q fault before).traffic.archive.live = seen.map Prod.fst ∧
      es = seen.filterMap (sight q) ∧
      ∀ look ∈ seen, ∃ now, Looking calls q fault b schedule now ∧ now.traffic = look.2 := by
  cases fault with
  | some e =>
    rw [h.failed rfl] at done
    cases done
  | none =>
    have looked := h.looked rfl
    rw [done] at looked
    obtain ⟨whole, shown⟩ := looked
    refine ⟨_, whole, Except.ok.inj shown, fun look member => ?_⟩
    obtain ⟨now, looking, met⟩ := looking_of_mem member
    exact ⟨now, h.looking looking, met⟩

theorem Reads.listed (h : Reads calls q fault b schedule before after)
    (titled : ∀ schedule name e, ((b.traffic.run calls schedule).slot name).live? = some e →
      e.script.name = name)
    (ordered : ∀ schedule, (b.traffic.run calls schedule).archive.Ordered)
    (done : (b.run calls q fault schedule).browse = .done (.ok es)) :
    Listed calls q fault b schedule before after es := by
  obtain ⟨seen, whole, rfl, moment⟩ := h.found done
  have title : ∀ look ∈ seen, ∀ e, sight q look = some e → e.script.name = look.1.name := by
    intro look member e sighted
    obtain ⟨now, ⟨first, _, _, reached, _⟩, met⟩ := moment look member
    refine titled (first.filterMap Actor.call?) look.1.name e ?_
    have reached' : look.2 = b.traffic.run calls (first.filterMap Actor.call?) := by
      rw [← met, reached, traffic_run]
    rw [← reached']
    exact Slot.live?_eq_some.mpr (sight_eq_some.mp sighted).1
  have names : ((seen.filterMap (sight q)).map (·.script.name)).Sublist
      ((q.page (b.run calls q fault before).traffic.archive.live).map Script.name) := by
    rw [whole, List.map_map]
    exact Listing.map_filterMap_sublist seen title
  exact {
    reads := h
    live := by
      intro e member
      obtain ⟨look, here, sighted⟩ := List.mem_filterMap.mp member
      obtain ⟨now, looking, met⟩ := moment look here
      refine ⟨now, looking, ?_⟩
      rw [met, title look here e sighted]
      exact (sight_eq_some.mp sighted).1
    accepted := by
      intro e member
      obtain ⟨look, _, sighted⟩ := List.mem_filterMap.mp member
      exact (sight_eq_some.mp sighted).2
    once := by
      refine List.Nodup.sublist names (Listing.nodup_names_page ?_)
      rw [traffic_run]
      exact MemoryArchive.nodup_names_live (ordered _)
    short := by
      have le := names.length_le
      have page := q.length_page_le (b.run calls q fault before).traffic.archive.live
      rw [List.length_map, List.length_map] at le
      have pos := q.pageSize_pos
      omega
    page := names
    kept := by
      intro s member always
      rw [whole] at member
      obtain ⟨look, here, rfl⟩ := List.mem_map.mp member
      obtain ⟨now, looking, met⟩ := moment look here
      obtain ⟨e, live, accepted⟩ := always now looking
      rw [met] at live
      have sighted := sight_eq_some.mpr ⟨live, accepted⟩
      exact ⟨e, List.mem_filterMap.mpr ⟨look, here, sighted⟩, title look here e sighted⟩ }

theorem run_calls (turns : List Nat) : b.run calls q fault (turns.map .call) =
    { b with traffic := b.traffic.run calls turns } := by
  induction turns generalizing b with
  | nil => rfl
  | cons i rest ih => exact ih

theorem traffic_alone (alone : ∀ actor ∈ schedule, actor = .listing) :
    (b.run calls q fault schedule).traffic = b.traffic := by
  have none : schedule.filterMap Actor.call? = [] :=
    List.filterMap_eq_nil_iff.mpr fun actor member => by rw [alone actor member]; rfl
  rw [traffic_run, none]
  rfl

theorem list_alone {c : Catalog} (idle : b.browse = .idle)
    (shows : ∀ name, c.slot name = b.traffic.slot name)
    (alone : ∀ actor ∈ schedule, actor = .listing)
    (enough : q.pageSize.toNat + 3 ≤ schedule.count .listing) :
    (b.run calls q fault schedule).browse =
      .done (Catalog.list q c (⟨fault, b.traffic.archive⟩ : FragileArchive)).1 := by
  obtain ⟨r, done⟩ : ∃ r, (b.run calls q fault schedule).browse = .done r :=
    returns_run (by rw [idle]; exact enough)
  -- Nothing happens to the calls before any of the steps.
  have still : ∀ {before rest}, schedule = before ++ rest →
      (b.run calls q fault before).traffic = b.traffic := by
    intro before rest split
    exact traffic_alone fun actor member =>
      alone actor (by rw [split]; exact List.mem_append_left rest member)
  obtain ⟨before, after, reads⟩ := reads_of_done idle done
  cases fault with
  | some e => exact reads.failed rfl
  | none =>
    have looked := reads.looked rfl
    rw [done] at looked
    obtain ⟨_, rfl⟩ := looked
    obtain ⟨seen, whole, same, moment⟩ := reads.found done
    rw [still reads.split] at whole
    have sights : ∀ look ∈ seen, sight q look =
        (c.get? look.1.name).filter fun e => q.accepts e.script := by
      intro look member
      obtain ⟨now, ⟨first, rest, split, reached, _⟩, met⟩ := moment look member
      rw [sight, ← met, reached, still split, Traffic.glance, ← shows]
      rfl
    have listed : (Catalog.list q c (⟨none, b.traffic.archive⟩ : FragileArchive)).1 =
        .ok (((q.page b.traffic.archive.live).filterMap fun s => c.get? s.name).filter
          fun e => q.accepts e.script) := rfl
    rw [done, listed, same, whole, List.filterMap_map, List.filter_filterMap,
      List.filterMap_congr sights]
    rfl

/-- However the steps of a listing alternate with those of calls that change the catalog, it shows
only what was live and matched while it went through its page, no name twice, and no more than a
page. It comes to an end, and fails only with the archive. After some calls, and with none beside it,
it is the listing that is made at once. -/
theorem listed_opened (calls : Nat → Call) (engines : EngineSet) (policy : Policy)
    (records : List Record) (hub : Hub) (q : Listing) (fault : Option ArchiveError)
    (schedule : List Actor) :
    let b := opened engines policy records hub
    let last := b.run calls q fault schedule
    last.traffic = b.traffic.run calls (schedule.filterMap Actor.call?) ∧
    (∀ es, last.browse = .done (.ok es) →
      ∃ before after, Listed calls q fault b schedule before after es) ∧
    (∀ f, last.browse = .done (.error f) → ∃ e, fault = some e ∧ f = .archive e) ∧
    (q.pageSize.toNat + 3 ≤ schedule.count .listing → ∃ r, last.browse = .done r) ∧
    (∀ (earlier : List Nat) n, schedule = earlier.map .call ++ List.replicate n .listing →
      q.pageSize.toNat + 3 ≤ n → ∀ c : Catalog, (∀ name, c.slot name = last.traffic.slot name) →
        last.browse =
          .done (Catalog.list q c (⟨fault, last.traffic.archive⟩ : FragileArchive)).1) := by
  intro b last
  refine ⟨traffic_run schedule, fun es done => ?_, fun f done => ?_,
    fun enough => returns_run (b := b) enough, ?_⟩
  · obtain ⟨before, after, reads⟩ := reads_of_done rfl done
    refine ⟨before, after, reads.listed (fun turns name e live => ?_) (fun turns => ?_) done⟩
    · exact (Traffic.fits_opened calls engines policy records hub turns live).1
    · exact (Traffic.sound_opened calls engines policy records hub turns).ordered
  · obtain ⟨before, after, reads⟩ := reads_of_done rfl done
    cases failing : fault with
    | none =>
      have looked := reads.looked failing
      rw [done] at looked
      cases looked.2
    | some e =>
      have failed := reads.failed failing
      rw [done] at failed
      cases failed
      exact ⟨e, rfl, rfl⟩
  · rintro earlier n rfl enough c shows
    have alone : ∀ actor ∈ List.replicate n Actor.listing, actor = .listing :=
      fun actor member => List.eq_of_mem_replicate member
    have split : last = ({ b with traffic := b.traffic.run calls earlier } : Browsing).run calls q
        fault (List.replicate n .listing) := by
      have first : b.run calls q fault (earlier.map .call) = _ := run_calls earlier
      rw [← first, ← run_append]
    rw [split, traffic_alone alone] at shows ⊢
    refine list_alone rfl shows alone ?_
    rwa [List.count_replicate_self]

theorem listed_opened_changes :
    let engines : EngineSet :=
      ⟨[⟨.lua, fun _ => .done (), fun source _ => .done ⟨.null, [source]⟩⟩]⟩
    let calls : Nat → Call := fun i =>
      ⟨if i = 0 then .update "a" (some (.obj [("code", .str "return 2")]))
        else if i = 1 then .activate "b" false else .forceDelete "c",
        ⟨.epoch, fun _ _ => .done (), none⟩⟩
    let script (name : String) : Script :=
      ⟨name, "return 1", .lua, none, true, 0, .epoch, .epoch⟩
    let q : Listing := { active := some true }
    let records : List Record := ["a", "b", "c"].map fun name => ⟨script name, false⟩
    let b := opened engines ⟨true, 5000⟩ records ⟨256, [], 0⟩
    let turns (i : Nat) := List.replicate 14 (Actor.call i)
    let schedule := [.listing, .listing] ++
      (turns 0 ++ turns 1 ++ turns 2 ++ List.replicate 4 .listing)
    let shown : Browse → Option (List (String × Int)) := fun
      | .done (.ok es) => some (es.map fun e => (e.script.name, e.script.version))
      | _ => none
    shown (b.run calls q none schedule).browse = some [("a", 1)] ∧
      (∃ es before after, Listed calls q none b schedule before after es ∧
        (b.run calls q none schedule).browse = .done (.ok es)) ∧
      (b.run calls q none (List.replicate 103 .listing)).browse = .done (Catalog.list q
        (Catalog.ofRecords engines ⟨true, 5000⟩ (MemoryArchive.ofRecords records).all)
        (⟨none, MemoryArchive.ofRecords records⟩ : FragileArchive)).1 := by
  intro engines calls script q records b turns schedule shown
  have page : q.page b.traffic.archive.live = ["a", "b", "c"].map script := by
    have ranked : q.whole b.traffic.archive.live = b.traffic.archive.live.filter q.accepts :=
      List.mergeSort_of_pairwise (by decide +kernel)
    rw [Listing.page_eq, ranked]
    decide +kernel
  have read : b.run calls q none [.listing, .listing] =
      ⟨b.traffic, .looking (["a", "b", "c"].map script) []⟩ := by
    rw [← page]
    rfl
  have listed : shown (b.run calls q none schedule).browse = some [("a", 1)] := by
    rw [run_append, read]
    decide +kernel
  have alone := (listed_opened calls engines ⟨true, 5000⟩ records ⟨256, [], 0⟩ q none
    (List.replicate 103 .listing)).2.2.2.2 [] 103 rfl (by decide)
    (Catalog.ofRecords engines ⟨true, 5000⟩ (MemoryArchive.ofRecords records).all)
  have unchanged : (b.run calls q none (List.replicate 103 .listing)).traffic = b.traffic :=
    traffic_alone fun actor member => List.eq_of_mem_replicate member
  rw [unchanged] at alone
  refine ⟨listed, ?_, alone fun name =>
    ((Traffic.matches_opened engines ⟨true, 5000⟩ records ⟨256, [], 0⟩).slots name).symm⟩
  cases stage : (b.run calls q none schedule).browse with
  | done r =>
    cases r with
    | error f =>
      rw [stage] at listed
      cases listed
    | ok es =>
      obtain ⟨before, after, account⟩ := (listed_opened calls engines ⟨true, 5000⟩ records
        ⟨256, [], 0⟩ q none schedule).2.1 es stage
      exact ⟨es, before, after, account, rfl⟩
  | idle | begun | looking _ _ =>
    rw [stage] at listed
    cases listed

end Browsing

end ScriptHost
