import Mathlib.Logic.Function.Basic
import QueryTemplate.Engine.Session
import QueryTemplate.Proofs.Retention

/-! A cache changes no answer. A session answers as one that has no engine and reads each source
anew, whatever its cache keeps, as long as no two sources that it looked up have one digest. -/

set_option autoImplicit false

namespace QueryTemplate

/-! ## Sessions without an engine -/

/-- A session that reads each source anew. Its memory is a function of the identifiers. -/
structure PlainSession (Context : Type) where
  registry : Registry Context
  templates : Text → Option Template := fun _ => none
  statements : Text → Option Statement := fun _ => none

namespace PlainSession

variable {Context : Type}

def prepare (session : PlainSession Context) (id name source : Text) :
    Except StatementError Statement × PlainSession Context :=
  match Template.parse source with
  | .error cause => (.error (.malformed name cause), session)
  | .ok template =>
    (.ok ⟨name, template⟩,
      { session with
        statements := Function.update session.statements id (some ⟨name, template⟩) })

def render (session : PlainSession Context) (template : Template) (context : Context) :
    Except StatementError Text × PlainSession Context :=
  let (text, registry) := template.render session.registry context
  (text.mapError .evaluation, { session with registry := registry })

/-- The answer to a request, and the session after it. Of a cache it knows nothing. -/
def step (session : PlainSession Context) :
    Request Context → Answer × PlainSession Context
  | .getTemplate id source =>
    match Template.parse source with
    | .error cause => (.template (.error cause), session)
    | .ok template =>
      (.template (.ok template),
        { session with templates := Function.update session.templates id (some template) })
  | .prepare id name source | .parse id name source =>
    let (statement, session) := session.prepare id name source
    (.statement statement, session)
  | .wrap id name template =>
    match session.templates template with
    | none => (.noSuchTemplate, session)
    | some template =>
      (.statement (.ok ⟨name, template⟩),
        { session with
          statements := Function.update session.statements id (some ⟨name, template⟩) })
  | .apply id context =>
    match session.statements id with
    | none => (.noSuchStatement, session)
    | some statement =>
      let (text, session) := session.render statement.template context
      (.rendered (text.map fun text => ⟨statement.name, text⟩), session)
  | .renderText source context =>
    match Template.parse source with
    | .error cause => (.text (.error (.malformed Engine.inlineName cause)), session)
    | .ok template =>
      let (text, session) := session.render template context
      (.text text, session)
  | .contains _ => (.cached none, session)
  | .clear => (.cleared, session)

def run (session : PlainSession Context) :
    List (Request Context) → List Answer × PlainSession Context
  | [] => ([], session)
  | request :: requests =>
    let (answer, session) := session.step request
    let (answers, session) := session.run requests
    (answer :: answers, session)

theorem step_renderText (session : PlainSession Context) (id name source : Text)
    (context : Context) :
    (∃ cause, Template.parse source = .error cause ∧
        (session.step (.renderText source context)).1 =
          .text (.error (.malformed Engine.inlineName cause))) ∨
      ∃ text : Except EvaluationError Text,
        (session.step (.renderText source context)).1 = .text (text.mapError .evaluation) ∧
          ((session.step (.prepare id name source)).2.step (.apply id context)).1 =
            .rendered ((text.mapError .evaluation).map fun text => ⟨name, text⟩) := by
  cases parsed : Template.parse source with
  | error cause => exact .inl ⟨cause, rfl, by simp only [step, parsed]⟩
  | ok template =>
    refine .inr ⟨(template.render session.registry context).1, ?_, ?_⟩ <;>
      simp [step, prepare, render, parsed]

end PlainSession

/-! ## Engines -/

namespace Engine

variable {Key : Type} [Digest Key]

/-- A cache of an engine, if there is one, was asked about no other than some sources. -/
def KeepsAmong (engine : Engine Key) (sources : List Text) : Prop :=
  ∀ cache ∈ engine.cache, ∃ capacity history,
    history.filterMap Cache.Request.source? ⊆ sources ∧ cache.Keeps capacity history

theorem keepsAmong_ofSettings (settings : CacheSettings) (sources : List Text) :
    (ofSettings settings : Engine Key).KeepsAmong sources := by
  intro cache made
  unfold ofSettings at made
  split at made
  · cases made
    exact ⟨settings.capacity.toNat, [], List.nil_subset sources, Cache.keeps_new _⟩
  · cases made

theorem KeepsAmong.clear {engine : Engine Key} {sources : List Text}
    (among : engine.KeepsAmong sources) : engine.clear.KeepsAmong sources := by
  intro cache cleared
  obtain ⟨filled, present, rfl⟩ := Option.map_eq_some_iff.mp cleared
  obtain ⟨capacity, history, inside, keeps⟩ := among filled present
  refine ⟨capacity, history ++ [.clear], ?_, keeps.clear⟩
  rw [List.filterMap_append]
  exact List.append_subset.mpr ⟨inside, List.nil_subset sources⟩

variable [DecidableEq Key]

theorem KeepsAmong.getTemplate {engine : Engine Key} {sources : List Text}
    (among : engine.KeepsAmong sources) (distinct : Digest.Distinguishes Key sources)
    {source : Text} (member : source ∈ sources) :
    ∃ next : Engine Key, engine.getTemplate source = (Template.parse source, next) ∧
      next.KeepsAmong sources := by
  obtain ⟨cache?⟩ := engine
  cases cache? with
  | none => exact ⟨⟨none⟩, rfl, among⟩
  | some cache =>
    obtain ⟨capacity, history, inside, keeps⟩ := among cache rfl
    have held := List.Subset.trans (Cache.retained_subset capacity history) inside
    have concerned := distinct.mono (List.cons_subset.mpr ⟨member, held⟩)
    refine ⟨⟨some (cache.get source).2⟩, Prod.ext (keeps.holds.get_eq_parse concerned) rfl, ?_⟩
    intro _ kept
    cases kept
    refine ⟨capacity, history ++ [.get source], ?_, keeps.get concerned⟩
    rw [List.filterMap_append]
    exact List.append_subset.mpr ⟨inside, List.cons_subset.mpr ⟨member, List.nil_subset _⟩⟩

end Engine

/-! ## Runs -/

deriving instance DecidableEq for Answer

/-- The source that an engine looks up for a request. -/
def Request.lookedUp? {Context : Type} : Request Context → Option Text
  | .getTemplate _ source | .prepare _ _ source | .renderText source _ => some source
  | .parse .. | .wrap .. | .apply .. | .contains _ | .clear => none

def Answer.apartFromCache : Answer → Answer
  | .cached _ => .cached none
  | answer => answer

theorem Answer.eq_of_apartFromCache_eq {answer other : Answer}
    (same : answer.apartFromCache = other) (silent : other ≠ .cached none) : answer = other := by
  cases answer with
  | cached cached => exact absurd same.symm silent
  | _ => exact same

namespace Session

variable {Context Key : Type} [Digest Key]

/-- A session remembers what a plain one remembers, and its cache is one of some sources. -/
structure Mirrors (session : Session Context Key) (plain : PlainSession Context)
    (sources : List Text) : Prop where
  registry : session.registry = plain.registry
  templates : ∀ id, session.templates.lookup id = plain.templates id
  statements : ∀ id, session.statements.lookup id = plain.statements id
  engine : session.engine.KeepsAmong sources

variable {session : Session Context Key} {plain : PlainSession Context} {sources : List Text}

private theorem lookup_cons_eq_update {Entry : Type} {entries : List (Text × Entry)}
    {known : Text → Option Entry} (same : ∀ id, entries.lookup id = known id) (id : Text)
    (entry : Entry) (asked : Text) :
    ((id, entry) :: entries).lookup asked = Function.update known id (some entry) asked := by
  by_cases equal : asked = id
  · subst equal
    simp
  · rw [List.lookup_cons, beq_eq_false_iff_ne.mpr equal, Function.update_of_ne equal]
    exact same asked

theorem Mirrors.withEngine (mirrors : session.Mirrors plain sources) {engine : Engine Key}
    (among : engine.KeepsAmong sources) :
    { session with engine := engine }.Mirrors plain sources :=
  ⟨mirrors.registry, mirrors.templates, mirrors.statements, among⟩

theorem Mirrors.withRegistry (mirrors : session.Mirrors plain sources)
    (registry : Registry Context) :
    { session with registry := registry }.Mirrors { plain with registry := registry } sources :=
  ⟨rfl, mirrors.templates, mirrors.statements, mirrors.engine⟩

theorem Mirrors.rememberTemplate (mirrors : session.Mirrors plain sources) (id : Text)
    (template : Template) :
    (session.rememberTemplate id (.ok template)).Mirrors
      { plain with templates := Function.update plain.templates id (some template) } sources :=
  ⟨mirrors.registry, lookup_cons_eq_update mirrors.templates id template, mirrors.statements,
    mirrors.engine⟩

theorem Mirrors.rememberStatement (mirrors : session.Mirrors plain sources) (id : Text)
    (statement : Statement) :
    (session.rememberStatement id (.ok statement)).Mirrors
      { plain with statements := Function.update plain.statements id (some statement) } sources :=
  ⟨mirrors.registry, mirrors.templates,
    lookup_cons_eq_update mirrors.statements id statement, mirrors.engine⟩

theorem Mirrors.prepare (mirrors : session.Mirrors plain sources) (id name source : Text) :
    Statement.parse name source = (plain.prepare id name source).1 ∧
      (session.rememberStatement id (Statement.parse name source)).Mirrors
        (plain.prepare id name source).2 sources := by
  unfold Statement.parse PlainSession.prepare
  cases Template.parse source with
  | error cause => exact ⟨rfl, mirrors⟩
  | ok template => exact ⟨rfl, mirrors.rememberStatement id ⟨name, template⟩⟩

theorem apply_eq_render (statement : Statement) (plain : PlainSession Context)
    (context : Context) :
    statement.apply plain.registry context =
      ((plain.render statement.template context).1.map fun text => ⟨statement.name, text⟩,
        (plain.render statement.template context).2.registry) := by
  unfold Statement.apply PlainSession.render
  rcases statement.template.render plain.registry context with ⟨_ | _, registry⟩ <;> rfl

variable [DecidableEq Key]

theorem Mirrors.step (mirrors : session.Mirrors plain sources)
    (distinct : Digest.Distinguishes Key sources) (request : Request Context)
    (concerned : request.lookedUp?.toList ⊆ sources) :
    (session.step request).1.apartFromCache = (plain.step request).1 ∧
      (session.step request).2.Mirrors (plain.step request).2 sources := by
  cases request with
  | getTemplate id source =>
    obtain ⟨engine, asked, among⟩ :=
      mirrors.engine.getTemplate distinct (concerned (List.mem_singleton_self source))
    simp only [Session.step, PlainSession.step, asked]
    cases Template.parse source with
    | error cause => exact ⟨rfl, mirrors.withEngine among⟩
    | ok template => exact ⟨rfl, (mirrors.withEngine among).rememberTemplate id template⟩
  | prepare id name source =>
    obtain ⟨engine, asked, among⟩ :=
      mirrors.engine.getTemplate distinct (concerned (List.mem_singleton_self source))
    obtain ⟨same, next⟩ := (mirrors.withEngine among).prepare id name source
    simp only [Session.step, PlainSession.step, Engine.prepare, asked]
    exact ⟨congrArg Answer.statement same, next⟩
  | parse id name source =>
    obtain ⟨same, next⟩ := mirrors.prepare id name source
    exact ⟨congrArg Answer.statement same, next⟩
  | wrap id name template =>
    simp only [Session.step, PlainSession.step, mirrors.templates]
    cases plain.templates template with
    | none => exact ⟨rfl, mirrors⟩
    | some known => exact ⟨rfl, mirrors.rememberStatement id ⟨name, known⟩⟩
  | apply id context =>
    simp only [Session.step, PlainSession.step, mirrors.statements, mirrors.registry]
    cases plain.statements id with
    | none => exact ⟨rfl, mirrors⟩
    | some statement =>
      simp only [apply_eq_render]
      exact ⟨rfl, mirrors.withRegistry _⟩
  | renderText source context =>
    obtain ⟨engine, asked, among⟩ :=
      mirrors.engine.getTemplate distinct (concerned (List.mem_singleton_self source))
    simp only [Session.step, PlainSession.step, Engine.renderText, asked, mirrors.registry]
    cases Template.parse source with
    | error cause => exact ⟨rfl, mirrors.registry ▸ mirrors.withEngine among⟩
    | ok template => exact ⟨rfl, (mirrors.withEngine among).withRegistry _⟩
  | contains source => exact ⟨rfl, mirrors⟩
  | clear => exact ⟨rfl, mirrors.withEngine mirrors.engine.clear⟩

theorem Mirrors.run (mirrors : session.Mirrors plain sources)
    (distinct : Digest.Distinguishes Key sources) (requests : List (Request Context))
    (concerned : requests.filterMap Request.lookedUp? ⊆ sources) :
    (session.run requests).1.map Answer.apartFromCache = (plain.run requests).1 ∧
      (session.run requests).2.Mirrors (plain.run requests).2 sources := by
  induction requests generalizing session plain with
  | nil => exact ⟨rfl, mirrors⟩
  | cons request requests ih =>
    rw [← List.singleton_append, List.filterMap_append, List.append_subset] at concerned
    have own : request.lookedUp?.toList ⊆ sources := by
      cases asked : request.lookedUp? <;> simp_all
    obtain ⟨same, next⟩ := mirrors.step distinct request own
    obtain ⟨further, last⟩ := ih next concerned.2
    exact ⟨congrArg₂ List.cons same further, last⟩

/-- A session answers as a plain one does, apart from what it tells of its cache, and ends with the
same registry, templates and statements. From there on, rendering a source comes to what applying a
statement of the source comes to. -/
theorem run_eq_plain (settings : CacheSettings) (registry : Registry Context)
    (requests : List (Request Context))
    (distinct : Digest.Distinguishes Key (requests.filterMap Request.lookedUp?)) :
    let run := (⟨.ofSettings settings, registry, [], []⟩ : Session Context Key).run requests
    let plain := PlainSession.run { registry := registry } requests
    run.1.map Answer.apartFromCache = plain.1 ∧
      run.2.registry = plain.2.registry ∧
      (∀ id, run.2.templates.lookup id = plain.2.templates id) ∧
      (∀ id, run.2.statements.lookup id = plain.2.statements id) ∧
      ∀ id name source context,
        Digest.Distinguishes Key (source :: requests.filterMap Request.lookedUp?) →
          (∃ cause, Template.parse source = .error cause ∧
              (run.2.step (.renderText source context)).1 =
                .text (.error (.malformed Engine.inlineName cause))) ∨
            ∃ text : Except EvaluationError Text,
              (run.2.step (.renderText source context)).1 = .text (text.mapError .evaluation) ∧
                ((run.2.step (.prepare id name source)).2.step (.apply id context)).1 =
                  .rendered ((text.mapError .evaluation).map fun text => ⟨name, text⟩) := by
  intro run plain
  have start (sources : List Text) :
      (⟨.ofSettings settings, registry, [], []⟩ : Session Context Key).Mirrors
        { registry := registry } sources :=
    ⟨rfl, fun _ => rfl, fun _ => rfl, Engine.keepsAmong_ofSettings settings sources⟩
  obtain ⟨answers, last⟩ := (start _).run distinct requests (List.Subset.refl _)
  refine ⟨answers, last.registry, last.templates, last.statements, ?_⟩
  intro id name source context distinctFrom
  -- The run again, with one more source that its cache has to tell from the others.
  obtain ⟨_, mirrors⟩ :=
    (start _).run distinctFrom requests (List.subset_cons_self source _)
  have own : [source] ⊆ source :: requests.filterMap Request.lookedUp? := by simp
  obtain ⟨text, _⟩ := mirrors.step distinctFrom (.renderText source context) own
  obtain ⟨_, prepared⟩ := mirrors.step distinctFrom (.prepare id name source) own
  obtain ⟨applied, _⟩ := prepared.step distinctFrom (.apply id context) (List.nil_subset _)
  rcases plain.2.step_renderText id name source context with
    ⟨cause, parsed, failed⟩ | ⟨result, rendered, alike⟩
  · exact .inl ⟨cause, parsed, Answer.eq_of_apartFromCache_eq (text.trans failed) nofun⟩
  · exact .inr ⟨result, Answer.eq_of_apartFromCache_eq (text.trans rendered) nofun,
      Answer.eq_of_apartFromCache_eq (applied.trans alike) nofun⟩

/-- Two templates and one source that is none, filed under their 256-bit digests where one entry
is kept, and a bind that counts its questions. -/
theorem run_eq_plain_counting :
    let _ : Digest Nat := ⟨fun text =>
      if text = "{{n}}".toList then
        0xcdb4ea1b9d0d84660c7e12999cccdf7310cbb86a5bf50a91ba10904968fa7888
      else if text = "{{#n}}{{n}}{{/n}}".toList then
        0xc1a621fa8b622bc4b2c0e094a33c291ff74099a981df821003fe87b79928ebbf
      else 0x9d0e8aa2892a9f23fa7f89051a4ae0a05c2c4858c25a86c4e9ebf9060b9a63b2⟩
    let registry : Registry Unit := ({} : Registry Unit).register ['n'] (.counting [])
    let requests : List (Request Unit) :=
      [.getTemplate ['t'] "{{n}}".toList, .prepare ['s'] "find".toList "{{#n}}{{n}}{{/n}}".toList,
        .prepare ['s'] "lost".toList ['{', '{'], .apply ['s'] (), .clear,
        .renderText "{{n}}".toList ()]
    Digest.Distinguishes Nat (requests.filterMap Request.lookedUp?) ∧
      (((⟨.ofSettings { capacity := 1 }, registry, [], []⟩ : Session Unit Nat).run
          requests).1.map Answer.apartFromCache).drop 2 =
        [.statement (.error (.malformed "lost".toList (.unclosedTag false 0))),
          .rendered (.ok ⟨"find".toList, ['2']⟩), .cleared, .text (.ok ['3'])] := by
  intro _ registry requests
  have distinct : Digest.Distinguishes Nat (requests.filterMap Request.lookedUp?) := by
    decide +kernel
  obtain ⟨answers, _⟩ := run_eq_plain { capacity := 1 } registry requests distinct
  refine ⟨distinct, ?_⟩
  rw [answers]
  decide +kernel

end Session

end QueryTemplate
