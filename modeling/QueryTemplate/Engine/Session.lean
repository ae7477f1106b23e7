import QueryTemplate.Engine.Basic

/-!
# Sessions

A session is an engine at work with one registry of binds. It remembers templates and statements
under identifiers, those of templates apart from those of statements.
-/

set_option autoImplicit false

namespace QueryTemplate

/-- What a session is asked. -/
inductive Request (Context : Type) where
  /-- The template of a source, to be remembered. -/
  | getTemplate (id source : Text)
  /-- A statement that the engine prepares, to be remembered. -/
  | prepare (id name source : Text)
  /-- A statement that is read without the engine, to be remembered. -/
  | parse (id name source : Text)
  /-- A statement around a remembered template, to be remembered. -/
  | wrap (id name template : Text)
  | apply (id : Text) (context : Context)
  | renderText (source : Text) (context : Context)
  | contains (source : Text)
  | clear

inductive Answer where
  | template (template : Except SyntaxError Template)
  | statement (statement : Except StatementError Statement)
  | rendered (rendered : Except StatementError RenderedStatement)
  | text (text : Except StatementError Text)
  /-- Whether the cache holds a source; nothing, if there is no cache. -/
  | cached (cached : Option Bool)
  | cleared
  | noSuchTemplate
  | noSuchStatement

structure Session (Context : Type) (Key : Type := Text) where
  engine : Engine Key
  registry : Registry Context
  templates : List (Text × Template) := []
  statements : List (Text × Statement) := []

namespace Session

variable {Context Key : Type}

def rememberTemplate (session : Session Context Key) (id : Text) :
    Except SyntaxError Template → Session Context Key
  | .ok template => { session with templates := (id, template) :: session.templates }
  | .error _ => session

/-- Remembers a statement, in place of an earlier one. An attempt that failed leaves that one. -/
def rememberStatement (session : Session Context Key) (id : Text) :
    Except StatementError Statement → Session Context Key
  | .ok statement => { session with statements := (id, statement) :: session.statements }
  | .error _ => session

variable [DecidableEq Key] [Digest Key]

/-- The answer to a request, and the session after it. -/
def step (session : Session Context Key) : Request Context → Answer × Session Context Key
  | .getTemplate id source =>
    let (template, engine) := session.engine.getTemplate source
    (.template template, { session with engine := engine }.rememberTemplate id template)
  | .prepare id name source =>
    let (statement, engine) := session.engine.prepare name source
    (.statement statement, { session with engine := engine }.rememberStatement id statement)
  | .parse id name source =>
    let statement := Statement.parse name source
    (.statement statement, session.rememberStatement id statement)
  | .wrap id name template =>
    match session.templates.lookup template with
    | none => (.noSuchTemplate, session)
    | some template =>
      let statement := .ok ⟨name, template⟩
      (.statement statement, session.rememberStatement id statement)
  | .apply id context =>
    match session.statements.lookup id with
    | none => (.noSuchStatement, session)
    | some statement =>
      let (rendered, registry) := statement.apply session.registry context
      (.rendered rendered, { session with registry := registry })
  | .renderText source context =>
    let (text, engine, registry) := session.engine.renderText source session.registry context
    (.text text, { session with engine := engine, registry := registry })
  | .contains source => (.cached (session.engine.cache.map (·.contains source)), session)
  | .clear => (.cleared, { session with engine := session.engine.clear })

/-- The answers to requests, in order, and the session after all of them. -/
def run (session : Session Context Key) :
    List (Request Context) → List Answer × Session Context Key
  | [] => ([], session)
  | request :: requests =>
    let (answer, session) := session.step request
    let (answers, session) := session.run requests
    (answer :: answers, session)

end Session

end QueryTemplate
