import QueryTemplate.Engine.Cache
import QueryTemplate.Engine.Statement
import QueryTemplate.Settings.Basic

/-!
# Engines

An engine reads templates, through a cache if it has one, and turns them into statements.

Main statement: to render a source is to prepare a statement of it and to apply that
(`renderText_eq`).
-/

set_option autoImplicit false

namespace QueryTemplate

structure Engine (Key : Type := Text) where
  cache : Option (Cache Key)
  deriving DecidableEq, Repr

namespace Engine

variable {Key : Type}

def ofSettings (settings : CacheSettings) : Engine Key :=
  ⟨if settings.enabled then some ⟨settings.capacity.toNat, []⟩ else none⟩

def default : Engine Key := ofSettings {}

/-- An engine that reads every template afresh. -/
def withoutCache : Engine Key := ⟨none⟩

def clear (engine : Engine Key) : Engine Key := ⟨engine.cache.map Cache.clear⟩

/-- The name that stands for a source that is rendered without a statement. -/
def inlineName : Text := "<inline>".toList

variable [DecidableEq Key] [Digest Key]

/-- The template of a source, and the engine after the question. -/
def getTemplate (engine : Engine Key) (source : Text) :
    Except SyntaxError Template × Engine Key :=
  match engine.cache with
  | none => (Template.parse source, engine)
  | some cache =>
    let (template, cache) := cache.get source
    (template, ⟨some cache⟩)

def prepare (engine : Engine Key) (name source : Text) :
    Except StatementError Statement × Engine Key :=
  let (template, engine) := engine.getTemplate source
  (Statement.ofParsed name template, engine)

def renderText {Context : Type} (engine : Engine Key) (source : Text)
    (registry : Registry Context) (context : Context) :
    Except StatementError Text × Engine Key × Registry Context :=
  match engine.getTemplate source with
  | (.error cause, engine) => (.error (.malformed inlineName cause), engine, registry)
  | (.ok template, engine) =>
    let (text, registry) := template.render registry context
    (text.mapError .evaluation, engine, registry)

theorem renderText_eq {Context : Type} (engine : Engine Key) (source : Text)
    (registry : Registry Context) (context : Context) :
    engine.renderText source registry context =
      match engine.prepare inlineName source with
      | (.error error, engine) => (.error error, engine, registry)
      | (.ok statement, engine) =>
        let (rendered, registry) := statement.apply registry context
        (rendered.map (·.text), engine, registry) := by
  unfold renderText prepare
  rcases engine.getTemplate source with ⟨cause | template, engine⟩
  · rfl
  · simp only [Statement.ofParsed, Statement.apply]
    rcases template.render registry context with ⟨_ | _, registry⟩ <;> rfl

end Engine

end QueryTemplate
