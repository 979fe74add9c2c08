import ScriptHost.Proofs.AlikeRuns
import ScriptHost.Proofs.SystemFailures

/-!
System failures stay hidden. Whatever an archive says when it fails, and an engine of its input and
output, the clients get the same; and a request that has met such a failure has one answer.
-/
namespace ScriptHost

variable {σ τ α : Type}

namespace Watched

theorem alike_count (n : Nat) (x : Except ArchiveError α × σ) :
    Agree (fun _ _ => True) (count n x).1 x.1 ∧ (count n x).2.archive = x.2 := by
  rw [result_count, archive_count]
  exact ⟨agree_same (fun _ => trivial) x.1, rfl⟩

end Watched

namespace Http

theorem backing_watched [Backing σ] :
    Backing.Alike fun (w : Watched σ) (a : σ) => w.archive = a where
  label := rfl
  reach := by
    rintro w _ rfl
    exact ⟨rfl, rfl⟩
  perform := by
    rintro use w _ rfl
    cases use with
    | put s => exact Watched.alike_count w.failures (Archive.put s w.archive)
    | get name => exact Watched.alike_count w.failures (Archive.get name w.archive)
    | page q => exact Watched.alike_count w.failures (Archive.page q w.archive)
    | softDelete name => exact Watched.alike_count w.failures (Archive.softDelete name w.archive)
    | hardDelete name => exact Watched.alike_count w.failures (Archive.hardDelete name w.archive)
    | loadAll => exact Watched.alike_count w.failures (Archive.loadAll w.archive)

def internalJson : Json :=
  Json.object [("error", .str "An internal error occurred"), ("code", .str "INTERNAL_ERROR")]

def Request.spoken (r : Request) (b : Body) : Body := if r.method = .head then .empty else b

/-- An endpoint tells a system failure in the one way, and nothing else in that way. -/
structure Hides (P : Prop) (x : Except Rejection Response) : Prop where
  hidden : P → answered x = .ofJson 500 internalJson
  shown : ¬ P → (answered x).status ≠ 500

theorem hides_of_not {P : Prop} {x : Except Rejection Response} (quiet : ¬ P)
    (plain : (answered x).status ≠ 500) : Hides P x :=
  ⟨fun failed => absurd failed quiet, fun _ => plain⟩

def Rejection.Plain (e : Rejection) : Prop := e.response.status ≠ 500

def Mild (x : Except Rejection α) : Prop := ∀ e, x = .error e → e.Plain

theorem mild_ok (a : α) : Mild (.ok a) := nofun

theorem mild_error {e : Rejection} (plain : e.Plain) : Mild (.error e : Except Rejection α) := by
  rintro _ ⟨⟩
  exact plain

theorem mild_bind {β : Type} {x : Except Rejection α} {f : α → Except Rejection β} (mild : Mild x)
    (next : ∀ a, Mild (f a)) : Mild (x >>= f) := by
  cases x with
  | ok a => exact next a
  | error e => exact mild_error (mild e rfl)

theorem Request.bounded_mild (r : Request) : Mild r.bounded := by
  unfold bounded
  split
  · exact mild_error nofun
  · exact mild_ok _

theorem Request.json?_mild (r : Request) : Mild r.json? := by
  unfold json?
  refine mild_bind r.bounded_mild fun body => ?_
  split
  · exact mild_ok none
  · split
    · exact mild_ok _
    · exact mild_error nofun

theorem Request.run?_mild (r : Request) : Mild r.run? := by
  unfold run?
  refine mild_bind r.bounded_mild fun body => ?_
  split
  · exact mild_ok ({} : RunRequest)
  · split
    · exact mild_ok _
    · exact mild_error nofun

theorem nameOf_mild (segment : String) : Mild (nameOf segment) := by
  unfold nameOf
  split
  · exact mild_ok _
  · exact mild_error fun internal => by cases internal

theorem ListingParams.listing_plain {p : ListingParams} {e : RequestError}
    (rejected : p.listing = .error e) : (Rejection.failed e).Plain := by
  unfold listing at rejected
  cases language : p.language with
  | error _ =>
    rw [language] at rejected
    cases rejected
    unfold ListingParams.language at language
    split at language
    · cases language
    · split at language <;> cases language
      exact nofun
  | ok l =>
    rw [language] at rejected
    cases key : p.sortKey with
    | error _ =>
      rw [key] at rejected
      cases rejected
      unfold sortKey at key
      split at key <;> cases key
      exact nofun
    | ok k =>
      rw [key] at rejected
      cases rejected

namespace Host

theorem rejection_internal (h : Host σ) {f : Failure} (internal : f.isInternal = true) :
    (h.rejection f).response = .ofJson 500 internalJson := by
  cases f <;> cases internal <;> rfl

theorem rejection_plain (h : Host σ) {f : Failure} (plain : ¬ f.isInternal = true) :
    (h.rejection f).Plain := by
  cases f with
  | archive | internal => exact absurd rfl plain
  | unchecked ms =>
    unfold rejection Rejection.Plain
    dsimp only
    split <;> exact nofun
  | _ => exact nofun

theorem hides_rejection (h : Host σ) {f : Failure} {P : Prop} (failed : f.isInternal = true ↔ P) :
    Hides P (.error (h.rejection f)) :=
  ⟨fun holds => h.rejection_internal (failed.mpr holds),
    fun fails => h.rejection_plain fun internal => fails (failed.mp internal)⟩

theorem changed_hides {h : Host (Watched σ)} {P : Prop} {write : α → Except Rejection Response}
    (plain : ∀ a, (answered (write a)).status ≠ 500)
    {x : Except Failure α × Catalog × Watched σ}
    (blames : Catalog.Blames (h.archive.FailedOr P) x) :
    Hides (h.archive.FailedOr P (h.changed write x).2.archive) (h.changed write x).1 := by
  obtain ⟨r, c, a⟩ := x
  cases r with
  | ok v => exact hides_of_not blames.mpr (plain v)
  | error f => exact hides_rejection h blames

abbrev HidesFailures (h : Host (Watched σ)) (asked : Option Question) (x : Answer (Watched σ)) :
    Prop :=
  Hides (h.archive.FailedOr (h.catalog.engines.Fails asked) x.2.archive) x.1

variable [Backing σ] (h : Host (Watched σ))

omit [Backing σ] in
theorem hides_untouched {x : Answer (Watched σ)} (same : x.2.archive.failures = h.archive.failures)
    (plain : (answered x.1).status ≠ 500) : HidesFailures h none x := by
  refine hides_of_not ?_ plain
  rintro (grown | fails)
  · exact grown same
  · exact h.catalog.engines.not_fails_none fails

theorem health_hides : HidesFailures h none h.health := hides_untouched h rfl nofun

theorem create_hides (m : Moment) (r : Request) :
    HidesFailures h (do let body ← r.json?.toOption; h.catalog.createQuestion? body)
      (h.create m r) := by
  unfold create
  cases read : r.json? with
  | error e => exact hides_untouched h rfl (r.json?_mild e read)
  | ok body => exact changed_hides nofun (Catalog.create_blames body m.now h.catalog h.archive)

theorem list_hides (r : Request) : HidesFailures h none (h.list r) := by
  unfold list
  cases QueryText.listing r.target.query with
  | error e => exact hides_untouched h rfl nofun
  | ok params =>
    dsimp only
    cases told : params.listing with
    | error e => exact hides_untouched h rfl (ListingParams.listing_plain told)
    | ok q =>
      have failed := Catalog.list_failed q h.catalog h.archive
      dsimp only
      generalize Catalog.list q h.catalog h.archive = answer at failed ⊢
      obtain ⟨f | editions, a⟩ := answer
      · refine hides_rejection h (failed.trans ?_)
        exact (or_iff_left h.catalog.engines.not_fails_none).symm
      · exact hides_untouched h (not_ne_iff.mp failed.mpr) nofun

omit [Backing σ] in
theorem read_hides (name : String) : HidesFailures h none (h.read name) := by
  unfold read
  split <;> exact hides_untouched h rfl nofun

theorem update_hides (m : Moment) (name : String) (r : Request) :
    HidesFailures h (do let patch ← r.json?.toOption; h.catalog.updateQuestion? name patch)
      (h.update m name r) := by
  unfold update
  cases read : r.json? with
  | error e => exact hides_untouched h rfl (r.json?_mild e read)
  | ok patch =>
    exact changed_hides nofun (Catalog.update_blames name patch m.now h.catalog h.archive)

theorem activate_hides (m : Moment) (name : String) (active : Bool) :
    HidesFailures h none (h.activate m name active) := by
  refine changed_hides (fun told => ?_)
    ((Catalog.activate_blames name active m.now h.catalog h.archive).of_not
      h.catalog.engines.not_fails_none)
  cases told <;> exact nofun

theorem delete_hides (name : String) (r : Request) : HidesFailures h none (h.delete name r) := by
  unfold delete
  cases QueryText.force r.target.query with
  | error e => exact hides_untouched h rfl nofun
  | ok force =>
    refine changed_hides (fun deleted => ?_) (Catalog.Blames.of_not ?_
      h.catalog.engines.not_fails_none)
    · cases deleted <;> exact nofun
    · split
      · exact Catalog.forceDelete_blames name h.catalog h.archive
      · exact Catalog.delete_blames name h.catalog h.archive

omit [Backing σ] in
theorem run_hides (m : Moment) (name : String) (r : Request) :
    HidesFailures h (do
      let request ← r.run?.toOption
      h.catalog.runQuestion? name request.input (h.runs.runTimeout request.timeoutMs))
      (h.run m name r) := by
  unfold run
  cases read : r.run? with
  | error e => exact hides_untouched h rfl (r.run?_mild e read)
  | ok request =>
    have failed := Evaluation.runNamed_failed h.catalog name request.input
      (h.runs.runTimeout request.timeoutMs) m.now h.hub
    dsimp only
    generalize Evaluation.runNamed h.catalog name request.input
      (h.runs.runTimeout request.timeoutMs) m.now h.hub = answer at failed ⊢
    obtain ⟨f | e, hub⟩ := answer
    · exact hides_rejection h (failed.trans Watched.failedOr_self.symm)
    · exact hides_of_not (fun fails => failed.mpr (Watched.failedOr_self.mp fails)) nofun

omit [Backing σ] in
theorem logs_hides (name : String) : HidesFailures h none (h.logs name) := by
  unfold logs
  split <;> exact hides_untouched h rfl nofun

omit [Backing σ] in
theorem withName_hides (segment : String) {asked : String → Option Question}
    {f : String → Host (Watched σ) → Answer (Watched σ)}
    (hides : ∀ name, HidesFailures h (asked name) (f name h)) :
    HidesFailures h (do let name ← (nameOf segment).toOption; asked name)
      (h.withName segment f) := by
  unfold withName
  cases named : nameOf segment with
  | ok name => exact hides name
  | error e => exact hides_untouched h rfl (nameOf_mild segment e named)

omit [Backing σ] in
theorem withName_hides_none (segment : String) {f : String → Host (Watched σ) → Answer (Watched σ)}
    (hides : ∀ name, HidesFailures h none (f name h)) :
    HidesFailures h none (h.withName segment f) := by
  have named := withName_hides h segment hides
  rwa [Option.bind_eq_bind, Option.bind_fun_none] at named

theorem dispatch_hides (m : Moment) (e : Endpoint) (r : Request) :
    HidesFailures h (h.question? e r) (h.dispatch m e r) := by
  cases e with
  | health => exact health_hides h
  | scripts =>
    unfold question? dispatch
    dsimp only
    split
    · exact create_hides h m r
    · exact list_hides h r
  | script segment =>
    unfold question? dispatch
    dsimp only
    split
    · rename_i put
      rw [put]
      exact withName_hides h segment fun name => update_hides h m name r
    · rename_i other
      refine withName_hides_none h segment fun name => ?_
      split
      · rename_i put
        exact absurd put other
      · exact delete_hides h name r
      · exact read_hides h name
  | activate segment =>
    exact withName_hides_none h segment fun name => activate_hides h m name true
  | deactivate segment =>
    exact withName_hides_none h segment fun name => activate_hides h m name false
  | run segment => exact withName_hides h segment fun name => run_hides h m name r
  | logs segment => exact withName_hides_none h segment fun name => logs_hides h name

theorem discard_archive (h : Host τ) (b : Body) : (h.discard b).archive = h.archive := by
  cases b <;> rfl

/-- The response to a request tells a system failure in the one way, and nothing else in that
way. -/
structure Settled (P : Prop) (r : Request) (x : Response) : Prop where
  hidden : P → x.status = 500 ∧ x.body = r.spoken (.json internalJson)
  shown : ¬ P → x.status ≠ 500

theorem Settled.of_not {P : Prop} {r : Request} {x : Response} (quiet : ¬ P)
    (plain : x.status ≠ 500) : Settled P r x :=
  ⟨fun failed => absurd failed quiet, fun _ => plain⟩

abbrev SettlesFailures (h : Host (Watched σ)) (r : Request) (x : Response × Host (Watched σ)) :
    Prop :=
  Settled (h.archive.FailedOr (h.catalog.engines.Fails (h.asked? r)) x.2.archive) r x.1

omit [Backing σ] in
theorem settled_untouched {r : Request} {x : Response} (unasked : h.asked? r = none)
    (plain : x.status ≠ 500) : SettlesFailures h r (x, h) := by
  refine .of_not ?_ plain
  rw [Watched.failedOr_self, unasked]
  exact h.catalog.engines.not_fails_none

theorem answer_settled (m : Moment) (r : Request) : SettlesFailures h r (h.answer m r) := by
  cases found : Endpoint.ofPath r.target.path with
  | none =>
    rw [answer, found]
    exact settled_untouched h (by rw [asked?, found]) fun internal => by cases internal
  | some e =>
    by_cases allowed : r.method ∈ e.methods
    · have asked : h.asked? r = h.question? e r := by rw [asked?, found]; exact if_pos allowed
      obtain ⟨hidden, shown⟩ := dispatch_hides h m e r
      rw [SettlesFailures, answer_of_allowed h m found allowed, asked]
      dsimp only
      -- Where only the head is asked for, the body is discarded; the archive does not notice.
      split
      · rename_i head
        rw [discard_archive]
        refine ⟨fun failed => ⟨?_, ?_⟩, shown⟩
        · rw [hidden failed]
          rfl
        · exact (if_pos head).symm
      · rename_i whole
        refine ⟨fun failed => ⟨?_, ?_⟩, shown⟩
        · rw [hidden failed]
          rfl
        · rw [hidden failed]
          exact (if_neg whole).symm
    · rw [answer, found]
      dsimp only
      rw [if_neg allowed]
      refine settled_untouched h ?_ fun internal => by cases internal
      rw [asked?, found]
      exact if_neg allowed

theorem asked?_options {h : Host τ} {r : Request} (options : r.method = .options) :
    h.asked? r = none := by
  unfold asked?
  cases Endpoint.ofPath r.target.path with
  | none => rfl
  | some e =>
    dsimp only
    rw [options]
    cases e <;> rfl

theorem handle_settled (m : Moment) (r : Request) : SettlesFailures h r (h.handle m r) := by
  unfold handle
  dsimp only
  split
  · rename_i options
    exact settled_untouched h (asked?_options options) nofun
  · obtain ⟨hidden, shown⟩ := answer_settled h m r
    exact ⟨hidden, shown⟩

end Host

def healthJson (reached : Bool) (label : String) (languages : List Language) : Json :=
  Json.object [
    ("status", .str (if reached then "ok" else "degraded")),
    ("version", .str hostVersion),
    ("store", .str label),
    ("db_healthy", .bool reached),
    ("languages", .arr (languages.map fun l => .str l.tag))]

namespace Host

variable [Backing σ]

theorem visit_watched (h : Host σ) (v : Visit) (apart : ∀ name, v.endpoint? ≠ some (.logs name)) :
    (h.watched.visit v).1 = (h.visit v).1 := by
  have hosts : h.watched.Alike (fun (w : Watched σ) (a : σ) => w.archive = a) h :=
    ⟨rfl, rfl, ⟨rfl, rfl⟩, rfl⟩
  exact (visit_alike hosts backing_watched ⟨rfl, rfl, v.engines.alike_refl⟩ apart).response

omit [Backing σ] in
theorem asked?_watched (h : Host σ) (r : Request) : h.watched.asked? r = h.asked? r := by
  unfold asked?
  cases Endpoint.ofPath r.target.path with
  | none => rfl
  | some e => cases e <;> rfl

theorem visit_settled (h : Host σ) (v : Visit) (apart : ∀ name, v.endpoint? ≠ some (.logs name)) :
    Settled ((h.watched.visit v).2.archive.failures ≠ 0 ∨
      v.engines.Fails ((h.facing v.engines).asked? v.request)) v.request (h.visit v).1 := by
  have answered := handle_settled (h.watched.facing v.engines) v.moment v.request
  rw [← h.visit_watched v apart, ← asked?_watched (h.facing v.engines)]
  exact answered

/-- A visit that meets a system failure has one answer. -/
theorem visit_meets {h : Host σ} {v : Visit} (apart : ∀ name, v.endpoint? ≠ some (.logs name))
    (meets : h.Meets v) :
    (h.visit v).1.status = 500 ∧ (h.visit v).1.body = v.request.spoken (.json internalJson) := by
  refine (h.visit_settled v apart).hidden ?_
  rcases meets with failed | ⟨q, asked, breaks⟩
  · exact Or.inl failed
  · exact Or.inr ⟨q, asked, Or.inl breaks⟩

theorem meets_of_internal {h : Host σ} {v : Visit}
    (apart : ∀ name, v.endpoint? ≠ some (.logs name)) (internal : (h.visit v).1.status = 500) :
    h.Meets v ∨ ∃ q, (h.facing v.engines).asked? v.request = some q ∧ v.engines.Lacks q := by
  by_contra neither
  refine (h.visit_settled v apart).shown ?_ internal
  rintro (failed | ⟨q, asked, breaks | lacks⟩)
  · exact neither (Or.inl (Or.inl failed))
  · exact neither (Or.inl (Or.inr ⟨q, asked, breaks⟩))
  · exact neither (Or.inr ⟨q, asked, lacks⟩)

theorem visit_health (h : Host σ) {v : Visit} (found : v.endpoint? = some .health)
    (allowed : v.request.method ∈ Endpoint.health.methods) :
    (h.visit v).1.status = 200 ∧ (h.visit v).1.body = v.request.spoken
      (.json (healthJson (Backing.reach h.archive).1 (Backing.label σ) v.engines.languages)) := by
  have asks : v.request.method ≠ .options := by
    intro options
    rw [options] at allowed
    revert allowed
    decide
  unfold visit handle
  dsimp only
  rw [if_neg asks, answer_of_allowed _ _ found allowed]
  dsimp only
  unfold Request.spoken
  split <;> exact ⟨rfl, rfl⟩

theorem serve_split (h : Host σ) (past : List Visit) (v : Visit) (future : List Visit) :
    (h.serve (past ++ v :: future)).1[past.length]? = some ((h.serve past).2.visit v).1 := by
  induction past generalizing h with
  | nil => rfl
  | cons u past ih => exact ih (h.visit u).2

/-- However the archive and the engines word their failures, every request gets the same response.
One that meets such a failure gets the one response for it, and no other gets it, but for a run for
which there is no engine. The health of the host shows only whether the archive can be reached. -/
theorem failures_hidden {R : σ → τ → Prop} [Backing τ] (backings : Backing.Alike R) {h : Host σ}
    {h' : Host τ} (hosts : h.Alike R h') {visits visits' : List Visit}
    (same : List.Forall₂ Visit.Alike visits visits')
    (apart : ∀ v ∈ visits, ∀ name, v.endpoint? ≠ some (.logs name)) :
    (h.serve visits).1 = (h'.serve visits').1 ∧
      ∀ past v future, visits = past ++ v :: future →
        let before := (h.serve past).2
        ∃ response, (h.serve visits).1[past.length]? = some response ∧
          (before.Meets v → response.status = 500 ∧
            response.body = v.request.spoken (.json internalJson)) ∧
          (response.status = 500 → before.Meets v ∨
            ∃ q, (before.facing v.engines).asked? v.request = some q ∧ v.engines.Lacks q) ∧
          (v.endpoint? = some .health → v.request.method ∈ Endpoint.health.methods →
            response.status = 200 ∧ response.body = v.request.spoken (.json (healthJson
              (Backing.reach before.archive).1 (Backing.label σ) v.engines.languages))) := by
  refine ⟨(serve_alike hosts backings same apart).1, ?_⟩
  rintro past v future rfl
  have member : v ∈ past ++ v :: future := List.mem_append_right past List.mem_cons_self
  exact ⟨_, serve_split h past v future, visit_meets (apart v member),
    meets_of_internal (apart v member), visit_health _⟩

def Reworded (a a' : FaultyArchive) : Prop := a.mode = .changes ∧ a' = { a with mode := .damaged }

theorem backing_reworded : Backing.Alike Reworded where
  label := rfl
  reach _ _ worded := ⟨rfl, worded⟩
  perform := by
    rintro use ⟨mode, attempts, memory⟩ _ ⟨rfl, rfl⟩
    cases use with
    | put | softDelete | hardDelete => exact ⟨.error trivial, rfl, rfl⟩
    | get | page | loadAll => exact ⟨.ok _, rfl, rfl⟩

def speechless (text : String) : EngineSet :=
  ⟨[⟨.lua, fun _ => .done (), fun _ _ => .failed (.io text)⟩]⟩

theorem speechless_alike (text text' : String) :
    (speechless text).Alike (speechless text') := by
  intro language
  cases language with
  | lua => exact .some ⟨fun _ => Or.inl rfl, fun _ _ => Or.inr ⟨text, text', rfl, rfl⟩⟩
  | shell | python | javascript => exact .none

def runsIn (l : Language) : Question → Bool
  | .check _ _ => false
  | .run language _ _ => language = l

def guarded (mode : FaultMode) : Host FaultyArchive :=
  let kept : List Record := [⟨⟨"a", "return 1", .lua, none, true, 7, .epoch, .epoch⟩, false⟩]
  ⟨⟨[], 30⟩, ⟨true, 5000, 25000, 10000, Language.all, {}⟩,
    .ofRecords (speechless "") ⟨true, 10000⟩ kept, ⟨mode, 0, .ofRecords kept⟩, .ofCapacity 4⟩

def toward (method : Method) (path text : String) : Visit :=
  ⟨⟨.epoch, 3, "1"⟩, ⟨method, ⟨path, none⟩, [], []⟩, speechless text⟩

def troubled (text : String) : List Visit :=
  [toward .delete "/api/v1/admin/plugins/a" text, toward .post "/api/v1/admin/plugins/a/run" text,
    toward .get "/health" text]

theorem troubled_alike (text text' : String) :
    List.Forall₂ Visit.Alike (troubled text) (troubled text') := by
  have engines := speechless_alike text text'
  exact .cons ⟨rfl, rfl, engines⟩ (.cons ⟨rfl, rfl, engines⟩ (.cons ⟨rfl, rfl, engines⟩ .nil))

theorem failures_hidden_troubled :
    let responses := ((guarded .changes).serve (troubled "no such file")).1
    (∀ v ∈ troubled "no such file", ∀ name, v.endpoint? ≠ some (.logs name)) ∧
      responses = ((guarded .damaged).serve (troubled "broken pipe")).1 ∧
      ∃ deleted run health, responses[0]? = some deleted ∧ responses[1]? = some run ∧
        responses[2]? = some health ∧
        deleted.status = 500 ∧ deleted.body = .json internalJson ∧
        run.status = 500 ∧ run.body = .json internalJson ∧
        health.status = 200 ∧ health.body = .json (healthJson true "memory" [.lua]) := by
  intro responses
  have apart : ∀ v ∈ troubled "no such file", ∀ name, v.endpoint? ≠ some (.logs name) := by
    have paths : (troubled "no such file").map Visit.endpoint? =
      [some (.script "a"), some (.run "a"), some .health] := by decide +kernel
    intro v member name logs
    have path := List.mem_map_of_mem (f := Visit.endpoint?) member
    rw [paths, logs] at path
    simp at path
  have hosts : (guarded .changes).Alike Reworded (guarded .damaged) :=
    ⟨rfl, rfl, ⟨rfl, rfl⟩, rfl, rfl⟩
  obtain ⟨same, each⟩ := failures_hidden backing_reworded hosts
    (troubled_alike "no such file" "broken pipe") apart
  obtain ⟨deleted, first, refused, _⟩ := each [] _ _ rfl
  obtain ⟨run, second, broken, _⟩ := each [_] _ _ rfl
  obtain ⟨health, third, _, _, reported⟩ := each [_, _] _ _ rfl
  have refused := refused (Or.inl (by decide +kernel))
  have asks : ((((guarded .changes).serve [toward .delete "/api/v1/admin/plugins/a"
      "no such file"]).2.facing (speechless "no such file")).asked?
      (toward .post "/api/v1/admin/plugins/a/run" "no such file").request).any
        (runsIn .lua) = true := by decide +kernel
  have broken := broken <| Or.inr <| by
    obtain ⟨q, asked, runs⟩ := (Option.any_eq_true _ _).mp asks
    cases q with
    | check _ _ => cases runs
    | run language _ _ =>
      cases of_decide_eq_true runs
      exact ⟨_, asked, _, _, rfl, rfl⟩
  have reported := reported (by decide +kernel) (by decide)
  exact ⟨apart, same, deleted, run, health, first, second, third, refused.1, refused.2, broken.1,
    broken.2, reported.1, reported.2⟩

end Host

end Http

end ScriptHost
