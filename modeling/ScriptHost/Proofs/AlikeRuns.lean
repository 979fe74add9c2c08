import Mathlib.Data.List.Forall2
import ScriptHost.Http.Visits
import ScriptHost.Archive.Use

/-!
Two runs of a host that differ in the texts of system failures only: what a failing archive says,
and what an engine says of its input and output. They answer every request alike.
-/
namespace ScriptHost

open Time (Instant)

inductive Agree {ε ε' α : Type} (R : ε → ε' → Prop) : Except ε α → Except ε' α → Prop
  | ok (a : α) : Agree R (.ok a) (.ok a)
  | error {e : ε} {e' : ε'} (related : R e e') : Agree R (.error e) (.error e')

def Outcome.Alike {α : Type} (o o' : Outcome α) : Prop :=
  o = o' ∨ ∃ text text', o = .failed (.io text) ∧ o' = .failed (.io text')

structure Engine.Alike (e e' : Engine) : Prop where
  check : ∀ source, (e.check source).Alike (e'.check source)
  run : ∀ source context, (e.run source context).Alike (e'.run source context)

/-- Engines for the same languages that differ in the texts of their failures of input and output
only. -/
def EngineSet.Alike (E E' : EngineSet) : Prop :=
  ∀ language, Option.Rel Engine.Alike (E.get? language) (E'.get? language)

def Failure.Alike (f f' : Failure) : Prop := f = f' ∨ (f.isInternal = true ∧ f'.isInternal = true)

def Yield.Alike : Yield → Yield → Prop
  | .done r, .done r' => Agree (fun _ _ => True) r r'
  | .script r, .script r' => Agree (fun _ _ => True) r r'
  | .scripts r, .scripts r' => Agree (fun _ _ => True) r r'
  | .found r, .found r' => Agree (fun _ _ => True) r r'
  | .records r, .records r' => Agree (fun _ _ => True) r r'
  | _, _ => False

/-- Related archives yield the same, but for what they say when they fail, and stay related. -/
structure Archive.Alike {σ τ : Type} [Archive σ] [Archive τ] (R : σ → τ → Prop) : Prop where
  perform : ∀ (use : Use) a a', R a a' →
    (use.perform a).1.Alike (use.perform a').1 ∧ R (use.perform a).2 (use.perform a').2

theorem EngineSet.Alike.supports {E E' : EngineSet} (alike : E.Alike E') :
    E.supports = E'.supports := by
  funext language
  have found := alike language
  unfold EngineSet.supports
  generalize E.get? language = e, E'.get? language = e' at found
  cases found <;> rfl

theorem EngineSet.Alike.languages {E E' : EngineSet} (alike : E.Alike E') :
    E.languages = E'.languages := by
  unfold EngineSet.languages
  rw [alike.supports]

theorem EngineSet.alike_refl (E : EngineSet) : E.Alike E := by
  intro language
  cases E.get? language with
  | none => exact .none
  | some e => exact .some ⟨fun _ => Or.inl rfl, fun _ _ => Or.inl rfl⟩

theorem agree_same {ε α : Type} {R : ε → ε → Prop} (alike : ∀ e, R e e) (r : Except ε α) :
    Agree R r r := by
  cases r with
  | ok a => exact .ok a
  | error e => exact .error (alike e)

theorem agree_refl {α : Type} (r : Except Failure α) : Agree Failure.Alike r r :=
  agree_same (R := Failure.Alike) (fun _ => Or.inl rfl) r

theorem agree_internal {α : Type} {f f' : Failure} (left : f.isInternal = true)
    (right : f'.isInternal = true) :
    Agree Failure.Alike (.error f : Except Failure α) (.error f') :=
  .error (Or.inr ⟨left, right⟩)

namespace Catalog

structure Same (c c' : Catalog) : Prop where
  policy : c.policy = c'.policy
  slots : c.slots = c'.slots

variable {σ τ α : Type} {R : σ → τ → Prop} {c c' : Catalog} {a : σ} {a' : τ}

structure Alike (R : σ → τ → Prop) (x : Except Failure α × Catalog × σ)
    (y : Except Failure α × Catalog × τ) : Prop where
  result : Agree Failure.Alike x.1 y.1
  same : x.2.1.Same y.2.1
  archives : R x.2.2 y.2.2

theorem Alike.andThen {β : Type} {x : Except Failure Unit × Catalog × σ}
    {y : Except Failure Unit × Catalog × τ} : Alike R x y → ∀ b : β, Alike R
      (match x with
        | (.ok (), c, a) => (.ok b, c, a)
        | (.error f, c, a) => (.error f, c, a))
      (match y with
        | (.ok (), c, a) => (.ok b, c, a)
        | (.error f, c, a) => (.error f, c, a)) := by
  rintro ⟨agree, same, related⟩ b
  obtain ⟨r, c, a⟩ := x
  obtain ⟨r', c', a'⟩ := y
  cases agree with
  | ok _ => exact ⟨.ok b, same, related⟩
  | error alike => exact ⟨.error alike, same, related⟩

theorem Same.get? (same : c.Same c') (name : String) : c.get? name = c'.get? name := by
  unfold Catalog.get? slot
  rw [same.slots]

theorem Same.isTaken (same : c.Same c') (name : String) : c.isTaken name = c'.isTaken name := by
  unfold Catalog.isTaken slot
  rw [same.slots]

theorem Same.publish (same : c.Same c') (name : String) (s : Slot) :
    (c.publish name s).Same (c'.publish name s) := by
  refine ⟨same.policy, ?_⟩
  unfold Catalog.publish
  rw [same.slots]

theorem compile_alike (same : c.Same c') (engines : c.engines.Alike c'.engines) (d : Admitted) :
    Agree Failure.Alike (c.compile d) (c'.compile d) := by
  have found := engines d.language
  unfold compile
  rw [same.policy]
  generalize c.engines.get? d.language = e, c'.engines.get? d.language = e' at found
  cases found with
  | none => exact agree_refl _
  | some alike =>
    rcases alike.check d.source with eq | ⟨text, text', left, right⟩
    · dsimp only
      rw [eq]
      exact agree_refl _
    · dsimp only
      rw [left, right]
      exact agree_internal rfl rfl

variable [Archive σ] [Archive τ] (archives : Archive.Alike R)
include archives

theorem put_alike (related : R a a') (s : Script) :
    Agree (fun _ _ => True) (Archive.put s a).1 (Archive.put s a').1 ∧
      R (Archive.put s a).2 (Archive.put s a').2 := archives.perform (.put s) a a' related

theorem page_alike (related : R a a') (q : Listing) :
    Agree (fun _ _ => True) (Archive.page q a).1 (Archive.page q a').1 ∧
      R (Archive.page q a).2 (Archive.page q a').2 := archives.perform (.page q) a a' related

theorem softDelete_alike (related : R a a') (name : String) :
    Agree (fun _ _ => True) (Archive.softDelete name a).1 (Archive.softDelete name a').1 ∧
      R (Archive.softDelete name a).2 (Archive.softDelete name a').2 :=
  archives.perform (.softDelete name) a a' related

theorem hardDelete_alike (related : R a a') (name : String) :
    Agree (fun _ _ => True) (Archive.hardDelete name a).1 (Archive.hardDelete name a').1 ∧
      R (Archive.hardDelete name a).2 (Archive.hardDelete name a').2 :=
  archives.perform (.hardDelete name) a a' related

theorem keep_alike (same : c.Same c') (related : R a a') (e : Edition) :
    Alike R (keep e c a) (keep e c' a') := by
  obtain ⟨agree, related'⟩ := put_alike archives related e.script
  unfold keep
  rcases left : Archive.put e.script a with ⟨r, b⟩
  rcases right : Archive.put e.script a' with ⟨r', b'⟩
  rw [left, right] at agree related'
  cases agree with
  | ok _ => exact ⟨.ok _, same.publish _ _, related'⟩
  | error _ => exact ⟨agree_internal rfl rfl, same, related'⟩

theorem create_alike (same : c.Same c') (engines : c.engines.Alike c'.engines) (related : R a a')
    (body : Option Json) (now : Instant) :
    Alike R (create body now c a) (create body now c' a') := by
  unfold create
  rw [engines.supports]
  cases Admission.review c'.engines.supports body with
  | error r => exact ⟨agree_refl _, same, related⟩
  | ok d =>
    dsimp only
    rw [same.isTaken]
    split
    · exact ⟨agree_refl _, same, related⟩
    · have compiled := compile_alike same engines d
      generalize c.compile d = r, c'.compile d = r' at compiled
      cases compiled with
      | error alike => exact ⟨.error alike, same, related⟩
      | ok _ =>
        dsimp only
        rw [same.policy]
        exact (keep_alike archives same related _).andThen _

theorem update_alike (same : c.Same c') (engines : c.engines.Alike c'.engines) (related : R a a')
    (name : String) (patch : Option Json) (now : Instant) :
    Alike R (update name patch now c a) (update name patch now c' a') := by
  unfold update
  rw [same.get?]
  cases c'.get? name with
  | none => exact ⟨agree_refl _, same, related⟩
  | some current =>
    dsimp only
    rw [engines.supports]
    cases checkVersion name current.script patch with
    | error f => exact ⟨agree_refl _, same, related⟩
    | ok _ =>
      cases merge c'.engines.supports current.script patch with
      | error f => exact ⟨agree_refl _, same, related⟩
      | ok d =>
        have compiled := compile_alike same engines d
        simp only [bind, Except.bind, pure, Except.pure]
        generalize c.compile d = r, c'.compile d = r' at compiled
        cases compiled with
        | error alike => exact ⟨.error alike, same, related⟩
        | ok _ => exact (keep_alike archives same related _).andThen _

theorem activate_alike (same : c.Same c') (related : R a a') (name : String) (active : Bool)
    (now : Instant) : Alike R (activate name active now c a) (activate name active now c' a') := by
  unfold activate
  rw [same.get?]
  cases c'.get? name with
  | none => exact ⟨agree_refl _, same, related⟩
  | some current =>
    dsimp only
    split
    · exact ⟨agree_refl _, same, related⟩
    · exact (keep_alike archives same related _).andThen _

theorem delete_alike (same : c.Same c') (related : R a a') (name : String) :
    Alike R (delete name c a) (delete name c' a') := by
  unfold delete
  rw [same.get?]
  cases c'.get? name with
  | none => exact ⟨agree_refl _, same, related⟩
  | some current =>
    obtain ⟨agree, related'⟩ := softDelete_alike archives related name
    dsimp only
    rcases left : Archive.softDelete name a with ⟨r, b⟩
    rcases right : Archive.softDelete name a' with ⟨r', b'⟩
    rw [left, right] at agree related'
    cases agree with
    | ok _ => exact ⟨agree_refl _, same.publish _ _, related'⟩
    | error _ => exact ⟨agree_internal rfl rfl, same, related'⟩

theorem forceDelete_alike (same : c.Same c') (related : R a a') (name : String) :
    Alike R (forceDelete name c a) (forceDelete name c' a') := by
  obtain ⟨agree, related'⟩ := hardDelete_alike archives related name
  unfold forceDelete
  rcases left : Archive.hardDelete name a with ⟨r, b⟩
  rcases right : Archive.hardDelete name a' with ⟨r', b'⟩
  rw [left, right] at agree related'
  rw [same.isTaken]
  cases agree with
  | ok _ => exact ⟨agree_refl _, same.publish _ _, related'⟩
  | error _ => exact ⟨agree_internal rfl rfl, same, related'⟩

theorem list_alike (same : c.Same c') (related : R a a') (q : Listing) :
    Agree Failure.Alike (list q c a).1 (list q c' a').1 ∧ R (list q c a).2 (list q c' a').2 := by
  obtain ⟨agree, related'⟩ := page_alike archives related q
  have shown : c.get? = c'.get? := funext same.get?
  unfold list
  rcases left : Archive.page q a with ⟨r, b⟩
  rcases right : Archive.page q a' with ⟨r', b'⟩
  rw [left, right] at agree related'
  rw [shown]
  cases agree with
  | ok _ => exact ⟨agree_refl _, related'⟩
  | error _ => exact ⟨agree_internal rfl rfl, related'⟩

end Catalog

theorem Evaluation.run_alike {E E' : EngineSet} (engines : E.Alike E') (e : Edition) (input : Json)
    (timeoutMs : Nat) :
    Agree Failure.Alike (run E e input timeoutMs).1 (run E' e input timeoutMs).1 := by
  have found := engines e.script.language
  unfold run
  dsimp only
  split
  · exact agree_refl _
  · generalize E.get? e.script.language = engine, E'.get? e.script.language = engine' at found
    cases found with
    | none => exact agree_refl _
    | some alike =>
      rcases alike.run e.source ⟨e.script.name, e.script.version, input, timeoutMs⟩ with
        eq | ⟨text, text', left, right⟩
      · dsimp only
        rw [eq]
        exact agree_refl _
      · dsimp only
        rw [left, right]
        exact agree_internal rfl rfl

theorem Evaluation.runNamed_alike {c c' : Catalog} (same : c.Same c')
    (engines : c.engines.Alike c'.engines) (name : String) (input : Json) (timeoutMs : Nat)
    (now : Instant) (h h' : Hub) :
    Agree Failure.Alike (runNamed c name input timeoutMs now h).1
      (runNamed c' name input timeoutMs now h').1 := by
  unfold runNamed
  rw [same.get?]
  cases c'.get? name with
  | none => exact agree_refl _
  | some e => exact run_alike engines e input timeoutMs

namespace Http

variable {σ τ : Type} {R : σ → τ → Prop}

structure Backing.Alike [Backing σ] [Backing τ] (R : σ → τ → Prop) : Prop
    extends Archive.Alike R where
  label : Backing.label σ = Backing.label τ
  reach : ∀ a a', R a a' → (Backing.reach a).1 = (Backing.reach a').1 ∧
    R (Backing.reach a).2 (Backing.reach a').2

structure Visit.Alike (v v' : Visit) : Prop where
  moment : v.moment = v'.moment
  request : v.request = v'.request
  engines : v.engines.Alike v'.engines

def answered : Except Rejection Response → Response
  | .ok response => response
  | .error rejection => rejection.response

namespace Host

theorem answer_of_allowed [Backing σ] (h : Host σ) (m : Moment) {r : Request} {e : Endpoint}
    (found : Endpoint.ofPath r.target.path = some e) (allowed : r.method ∈ e.methods) :
    h.answer m r =
      let x := h.dispatch m e r
      if r.method = .head then
        ({ answered x.1 with body := .empty }, x.2.discard (answered x.1).body)
      else (answered x.1, x.2) := by
  unfold answer
  rw [found]
  dsimp only
  rw [if_pos allowed]
  rcases h.dispatch m e r with ⟨result, after⟩
  rfl

structure Alike (R : σ → τ → Prop) (h : Host σ) (h' : Host τ) : Prop where
  front : h.front = h'.front
  runs : h.runs = h'.runs
  catalog : h.catalog.Same h'.catalog
  archive : R h.archive h'.archive

structure Answer.Alike (R : σ → τ → Prop) (x : Answer σ) (y : Answer τ) : Prop where
  response : answered x.1 = answered y.1
  hosts : x.2.Alike R y.2

variable {h : Host σ} {h' : Host τ} (hosts : h.Alike R h')
include hosts

theorem rejection_alike {f f' : Failure} (alike : f.Alike f') :
    (h.rejection f).response = (h'.rejection f').response := by
  have limit : h.requestLimitMs = h'.requestLimitMs := by
    unfold requestLimitMs
    rw [hosts.front]
  rcases alike with rfl | ⟨left, right⟩
  · unfold rejection
    rw [limit]
  · cases f <;> cases left <;> cases f' <;> cases right <;> rfl

theorem missing_alike (name : String) : answered (.error (h.rejection (.notFound name))) =
    answered (.error (h'.rejection (.notFound name))) :=
  rejection_alike hosts (Or.inl (Eq.refl (Failure.notFound name)))

theorem changed_alike {α : Type} {write write' : α → Except Rejection Response}
    (told : ∀ a, answered (write a) = answered (write' a))
    {x : Except Failure α × Catalog × σ} {y : Except Failure α × Catalog × τ}
    (alike : Catalog.Alike R x y) : Answer.Alike R (h.changed write x) (h'.changed write' y) := by
  obtain ⟨r, c, a⟩ := x
  obtain ⟨r', c', a'⟩ := y
  obtain ⟨agree, same, related⟩ := alike
  cases agree with
  | ok v => exact ⟨told v, hosts.front, hosts.runs, same, related⟩
  | error alike => exact ⟨rejection_alike hosts alike, hosts.front, hosts.runs, same, related⟩

variable [Backing σ] [Backing τ] (backings : Backing.Alike R)
include backings

theorem health_alike (engines : h.catalog.engines.Alike h'.catalog.engines) :
    Answer.Alike R h.health h'.health := by
  obtain ⟨reached, related⟩ := backings.reach h.archive h'.archive hosts.archive
  unfold health
  rcases left : Backing.reach h.archive with ⟨flag, a⟩
  rcases right : Backing.reach h'.archive with ⟨flag', a'⟩
  rw [left, right] at reached related
  cases reached
  refine ⟨?_, hosts.front, hosts.runs, hosts.catalog, related⟩
  dsimp only
  rw [backings.label, engines.languages]

theorem create_alike (engines : h.catalog.engines.Alike h'.catalog.engines) (m : Moment)
    (r : Request) : Answer.Alike R (h.create m r) (h'.create m r) := by
  unfold create
  cases r.json? with
  | error e => exact ⟨rfl, hosts⟩
  | ok body =>
    exact changed_alike hosts (fun _ => rfl) (Catalog.create_alike backings.toAlike hosts.catalog
      engines hosts.archive body m.now)

theorem list_alike (r : Request) : Answer.Alike R (h.list r) (h'.list r) := by
  unfold list
  cases QueryText.listing r.target.query with
  | error e => exact ⟨rfl, hosts⟩
  | ok params =>
    dsimp only
    cases params.listing with
    | error e => exact ⟨rfl, hosts⟩
    | ok q =>
      obtain ⟨agree, related⟩ :=
        Catalog.list_alike backings.toAlike hosts.catalog hosts.archive q
      dsimp only
      rcases left : Catalog.list q h.catalog h.archive with ⟨result, a⟩
      rcases right : Catalog.list q h'.catalog h'.archive with ⟨result', a'⟩
      rw [left, right] at agree related
      cases agree with
      | ok _ => exact ⟨rfl, hosts.front, hosts.runs, hosts.catalog, related⟩
      | error alike =>
        exact ⟨rejection_alike hosts alike, hosts.front, hosts.runs, hosts.catalog, related⟩

omit [Backing σ] [Backing τ] backings in
theorem read_alike (name : String) : Answer.Alike R (h.read name) (h'.read name) := by
  unfold read
  rw [hosts.catalog.get?]
  cases h'.catalog.get? name with
  | some e => exact ⟨rfl, hosts⟩
  | none => exact ⟨missing_alike hosts name, hosts⟩

theorem update_alike (engines : h.catalog.engines.Alike h'.catalog.engines) (m : Moment)
    (name : String) (r : Request) : Answer.Alike R (h.update m name r) (h'.update m name r) := by
  unfold update
  cases r.json? with
  | error e => exact ⟨rfl, hosts⟩
  | ok patch =>
    exact changed_alike hosts (fun _ => rfl) (Catalog.update_alike backings.toAlike hosts.catalog
      engines hosts.archive name patch m.now)

theorem activate_alike (m : Moment) (name : String) (active : Bool) :
    Answer.Alike R (h.activate m name active) (h'.activate m name active) := by
  refine changed_alike hosts (fun told => ?_)
    (Catalog.activate_alike backings.toAlike hosts.catalog hosts.archive name active m.now)
  cases told with
  | changed | unchanged => rfl
  | notFound => exact missing_alike hosts name

theorem delete_alike (name : String) (r : Request) :
    Answer.Alike R (h.delete name r) (h'.delete name r) := by
  unfold delete
  cases QueryText.force r.target.query with
  | error e => exact ⟨rfl, hosts⟩
  | ok force =>
    refine changed_alike hosts (fun deleted => ?_) ?_
    · cases deleted with
      | true => rfl
      | false => exact missing_alike hosts name
    · cases force with
      | true => exact Catalog.forceDelete_alike backings.toAlike hosts.catalog hosts.archive name
      | false => exact Catalog.delete_alike backings.toAlike hosts.catalog hosts.archive name

omit [Backing σ] [Backing τ] backings in
theorem run_alike (engines : h.catalog.engines.Alike h'.catalog.engines) (m : Moment)
    (name : String) (r : Request) : Answer.Alike R (h.run m name r) (h'.run m name r) := by
  unfold run
  cases r.run? with
  | error e => exact ⟨rfl, hosts⟩
  | ok request =>
    have time : h.runs.runTimeout request.timeoutMs = h'.runs.runTimeout request.timeoutMs := by
      rw [hosts.runs]
    dsimp only
    rw [time]
    have agree := Evaluation.runNamed_alike hosts.catalog engines name request.input
      (h'.runs.runTimeout request.timeoutMs) m.now h.hub h'.hub
    rcases left : Evaluation.runNamed h.catalog name request.input
      (h'.runs.runTimeout request.timeoutMs) m.now h.hub with ⟨result, hub⟩
    rcases right : Evaluation.runNamed h'.catalog name request.input
      (h'.runs.runTimeout request.timeoutMs) m.now h'.hub with ⟨result', hub'⟩
    rw [left, right] at agree
    cases agree with
    | ok _ => exact ⟨rfl, hosts.front, hosts.runs, hosts.catalog, hosts.archive⟩
    | error alike =>
      exact ⟨rejection_alike hosts alike, hosts.front, hosts.runs, hosts.catalog, hosts.archive⟩

omit [Backing σ] [Backing τ] backings in
theorem withName_alike (segment : String) {f : String → Host σ → Answer σ}
    {f' : String → Host τ → Answer τ} (alike : ∀ name, Answer.Alike R (f name h) (f' name h')) :
    Answer.Alike R (h.withName segment f) (h'.withName segment f') := by
  unfold withName
  cases nameOf segment with
  | ok name => exact alike name
  | error e => exact ⟨rfl, hosts⟩

theorem dispatch_alike (engines : h.catalog.engines.Alike h'.catalog.engines) (m : Moment)
    {e : Endpoint} (apart : ∀ name, e ≠ .logs name) (r : Request) :
    Answer.Alike R (h.dispatch m e r) (h'.dispatch m e r) := by
  cases e with
  | health => exact health_alike hosts backings engines
  | scripts =>
    unfold dispatch
    dsimp only
    split
    · exact create_alike hosts backings engines m r
    · exact list_alike hosts backings r
  | script segment =>
    unfold dispatch
    refine withName_alike hosts segment fun name => ?_
    split
    · exact update_alike hosts backings engines m name r
    · exact delete_alike hosts backings name r
    · exact read_alike hosts name
  | activate segment =>
    exact withName_alike hosts segment fun name => activate_alike hosts backings m name true
  | deactivate segment =>
    exact withName_alike hosts segment fun name => activate_alike hosts backings m name false
  | run segment => exact withName_alike hosts segment fun name => run_alike hosts engines m name r
  | logs segment => exact absurd rfl (apart segment)

omit [Backing σ] [Backing τ] backings in
theorem discard_alike (b : Body) : (h.discard b).Alike R (h'.discard b) := by
  cases b <;> exact ⟨hosts.front, hosts.runs, hosts.catalog, hosts.archive⟩

structure Handled (R : σ → τ → Prop) (x : Response × Host σ) (y : Response × Host τ) : Prop where
  response : x.1 = y.1
  hosts : x.2.Alike R y.2

theorem answer_alike (engines : h.catalog.engines.Alike h'.catalog.engines) (m : Moment)
    (r : Request) (apart : ∀ name, Endpoint.ofPath r.target.path ≠ some (.logs name)) :
    Handled R (h.answer m r) (h'.answer m r) := by
  cases found : Endpoint.ofPath r.target.path with
  | none =>
    rw [answer, found, answer, found]
    exact ⟨rfl, hosts⟩
  | some e =>
    by_cases allowed : r.method ∈ e.methods
    · obtain ⟨response, after⟩ := dispatch_alike (e := e) hosts backings engines m
        (fun name same => apart name (by rw [found, same])) r
      rw [answer_of_allowed h m found allowed, answer_of_allowed h' m found allowed]
      dsimp only
      rw [response]
      split
      · exact ⟨rfl, discard_alike after _⟩
      · exact ⟨rfl, after⟩
    · rw [answer, found, answer, found]
      dsimp only
      rw [if_neg allowed, if_neg allowed]
      exact ⟨rfl, hosts⟩

theorem handle_alike (engines : h.catalog.engines.Alike h'.catalog.engines) (m : Moment)
    (r : Request) (apart : ∀ name, Endpoint.ofPath r.target.path ≠ some (.logs name)) :
    Handled R (h.handle m r) (h'.handle m r) := by
  unfold handle
  dsimp only
  rw [hosts.front]
  split
  · exact ⟨rfl, hosts⟩
  · obtain ⟨response, after⟩ := answer_alike hosts backings engines m r apart
    exact ⟨by rw [response], after⟩

theorem visit_alike {v v' : Visit} (same : v.Alike v')
    (apart : ∀ name, v.endpoint? ≠ some (.logs name)) :
    Handled R (h.visit v) (h'.visit v') := by
  unfold visit
  rw [← same.moment, ← same.request]
  have facing : (h.facing v.engines).Alike R (h'.facing v'.engines) :=
    ⟨hosts.front, hosts.runs, ⟨hosts.catalog.policy, hosts.catalog.slots⟩, hosts.archive⟩
  exact handle_alike facing backings same.engines v.moment v.request apart

/-- Runs that differ in the texts of system failures only are answered alike. -/
theorem serve_alike {visits visits' : List Visit} (same : List.Forall₂ Visit.Alike visits visits')
    (apart : ∀ v ∈ visits, ∀ name, v.endpoint? ≠ some (.logs name)) :
    (h.serve visits).1 = (h'.serve visits').1 ∧
      (h.serve visits).2.Alike R (h'.serve visits').2 := by
  induction same generalizing h h' with
  | nil => exact ⟨rfl, hosts⟩
  | @cons v v' rest rest' alike same ih =>
    obtain ⟨response, after⟩ := visit_alike hosts backings alike (apart v List.mem_cons_self)
    obtain ⟨responses, last⟩ := ih after fun w member => apart w (List.mem_cons_of_mem v member)
    refine ⟨?_, last⟩
    change (h.visit v).1 :: _ = (h'.visit v').1 :: _
    exact congrArg₂ List.cons response responses

end Host

end Http

end ScriptHost
