import QueryTemplate.Proofs.RenderingParts

/-! Where a rendering stops. Whatever was written before, a rendering only adds to it. If it fails,
the nodes in front of one node were rendered completely, and that node fails: its own bind does, or
it is a block that is entered and whose body stops in the same way. What was written until then
stays written, and the nodes behind have no influence. -/

set_option autoImplicit false

namespace QueryTemplate

namespace Template

variable {State : Type}

/-- All of a template is rendered from a state on, to a text, and leaves the resolver in a last
state. -/
def Completes (resolve : Resolver State) (t : Template) (state : State) (text : Text)
    (last : State) : Prop :=
  t.renderAfter resolve [] state = ⟨text, last, none⟩

/-- A single node fails with an error. Until then it has written a text: nothing, if its own bind
fails, and for a block that is entered what is written of its body, up to and with the node of the
body that fails. -/
inductive NodeFails (resolve : Resolver State) (error : EvaluationError) :
    Template → State → Text → State → Prop where
  | slot {name : Text} {escaped : Bool} {state last : State} :
      resolve name state = (.error error, last) →
      NodeFails resolve error (slot name escaped nil) state [] last
  | block {name : Text} {inverted : Bool} {body : Template} {state last : State} :
      resolve name state = (.error error, last) →
      NodeFails resolve error (block name inverted body nil) state [] last
  | body {name text inner : Text} {inverted : Bool} {values : Values}
      {before node after : Template} {state entered middle last : State} :
      resolve name state = (.ok values, entered) → (values.isTruthy != inverted) = true →
      before.Completes resolve entered text middle → NodeFails resolve error node middle inner last →
      NodeFails resolve error (block name inverted (before ++ (node ++ after)) nil) state
        (text ++ inner) last

/-- A template stops with an error: some of its nodes are completed, and the node behind them
fails. -/
inductive Stops (resolve : Resolver State) (error : EvaluationError) :
    Template → State → Text → State → Prop where
  | behind {before node after : Template} {text inner : Text} {first middle last : State} :
      before.Completes resolve first text middle → NodeFails resolve error node middle inner last →
      Stops resolve error (before ++ (node ++ after)) first (text ++ inner) last

section Parts

variable {resolve : Resolver State} {error : EvaluationError} {first middle last : State}
  {front rest : Template} {name text written : Text}

/-! ## Completed nodes -/

theorem renderAfter_eq_behind (resolve : Resolver State) (t : Template) (output : Text)
    (state : State) :
    t.renderAfter resolve output state = (t.renderAfter resolve [] state).behind output := by
  rw [← renderAfter_behind, List.append_nil]

theorem Completes.renderAfter_append (completed : front.Completes resolve first text middle)
    (rest : Template) (output : Text) :
    (front ++ rest).renderAfter resolve output first =
      rest.renderAfter resolve (output ++ text) middle := by
  rw [Template.renderAfter_append, renderAfter_eq_behind resolve front output, completed]
  rfl

theorem Completes.append {back : Text} (completed : front.Completes resolve first text middle)
    (further : rest.Completes resolve middle back last) :
    (front ++ rest).Completes resolve first (text ++ back) last := by
  rw [Completes, completed.renderAfter_append, renderAfter_eq_behind, further]
  rfl

theorem completes_literal : (literal text nil).Completes resolve first text first := rfl

theorem completes_slot {escaped : Bool} {values : Values}
    (asked : resolve name first = (.ok values, last)) :
    (slot name escaped nil).Completes resolve first (values.shown escaped) last := by
  simp only [Completes, renderAfter, asked, List.nil_append]

theorem completes_block_of_skipped {inverted : Bool} {body : Template} {values : Values}
    (asked : resolve name first = (.ok values, last))
    (skipped : ¬ (values.isTruthy != inverted) = true) :
    (block name inverted body nil).Completes resolve first [] last := by
  simp only [Completes, renderAfter, asked, if_neg skipped]

theorem completes_block_of_entered {inverted : Bool} {body : Template} {values : Values}
    (asked : resolve name first = (.ok values, middle))
    (entered : (values.isTruthy != inverted) = true)
    (completed : body.Completes resolve middle text last) :
    (block name inverted body nil).Completes resolve first text last := by
  rw [Completes] at completed
  simp only [Completes, renderAfter, asked, if_pos entered, completed]

theorem exists_completes_of_append
    (completed : (front ++ rest).Completes resolve first written last) :
    ∃ text back middle, front.Completes resolve first text middle ∧
      rest.Completes resolve middle back last ∧ written = text ++ back := by
  rw [Completes, renderAfter_append] at completed
  rcases rendered : front.renderAfter resolve [] first with ⟨text, middle, _ | error⟩
  · rw [rendered, Rendering.andThen, renderAfter_eq_behind] at completed
    rcases further : rest.renderAfter resolve [] middle with ⟨back, final, failure?⟩
    rw [further] at completed
    cases completed
    exact ⟨text, back, middle, rendered, further, rfl⟩
  · rw [rendered] at completed
    cases completed

/-! ## Failing nodes -/

/-- Nothing behind a node that fails has an influence. -/
theorem NodeFails.renderAfter {node : Template}
    (fails : NodeFails resolve error node first text last) (after : Template) (output : Text) :
    (node ++ after).renderAfter resolve output first = ⟨output ++ text, last, some error⟩ := by
  induction fails generalizing after output with
  | slot failed => simp only [slot_append, Template.renderAfter, failed, List.append_nil]
  | block failed => simp only [block_append, Template.renderAfter, failed, List.append_nil]
  | body asked entered completed _ ih =>
    simp only [block_append, Template.renderAfter, asked, entered, if_true,
      completed.renderAfter_append, ih, List.append_assoc]

theorem Stops.renderAfter {t : Template} (stops : t.Stops resolve error first written last)
    (output : Text) :
    t.renderAfter resolve output first = ⟨output ++ written, last, some error⟩ := by
  cases stops with
  | behind completed fails =>
    rw [completed.renderAfter_append, fails.renderAfter, List.append_assoc]

theorem Stops.of_nodeFails {node : Template}
    (fails : NodeFails resolve error node first written last) (after : Template) :
    (node ++ after).Stops resolve error first written last := by
  have nothing : nil.Completes resolve first [] first := rfl
  exact .behind nothing fails

theorem NodeFails.of_stops {inverted : Bool} {body : Template} {values : Values}
    (asked : resolve name first = (.ok values, middle))
    (entered : (values.isTruthy != inverted) = true)
    (stops : body.Stops resolve error middle written last) :
    NodeFails resolve error (Template.block name inverted body nil) first written last := by
  cases stops with
  | behind completed fails => exact .body asked entered completed fails

theorem Stops.prepend (completed : front.Completes resolve first text middle)
    (stops : rest.Stops resolve error middle written last) :
    (front ++ rest).Stops resolve error first (text ++ written) last := by
  cases stops with
  | behind completedRest fails =>
    rw [← append_assoc, ← List.append_assoc]
    exact .behind (completed.append completedRest) fails

/-- Where the nodes in front are completed, a failure is one of the nodes behind them. -/
theorem Stops.of_completes (completed : front.Completes resolve first text middle)
    (further : ∀ back, rest.renderAfter resolve [] middle = ⟨back, last, some error⟩ →
      rest.Stops resolve error middle back last)
    (failed : (front ++ rest).renderAfter resolve [] first = ⟨written, last, some error⟩) :
    (front ++ rest).Stops resolve error first written last := by
  rw [completed.renderAfter_append, renderAfter_eq_behind] at failed
  rcases rendered : rest.renderAfter resolve [] middle with ⟨back, final, failure?⟩
  rw [rendered] at failed
  cases failed
  exact .prepend completed (further back rendered)

theorem stops_of_renderAfter {t : Template}
    (failed : t.renderAfter resolve [] first = ⟨written, last, some error⟩) :
    t.Stops resolve error first written last := by
  induction t generalizing first written last with
  | nil => cases failed
  | literal text rest ih =>
    exact Stops.of_completes completes_literal (fun _ => ih) failed
  | slot name escaped rest ih =>
    rcases asked : resolve name first with ⟨raised | values, next⟩
    · rw [renderAfter, asked] at failed
      cases failed
      exact .of_nodeFails (.slot asked) rest
    · exact Stops.of_completes (completes_slot asked) (fun _ => ih) failed
  | block name inverted body rest bodyIH restIH =>
    rcases asked : resolve name first with ⟨raised | values, next⟩
    · rw [renderAfter, asked] at failed
      cases failed
      exact .of_nodeFails (.block asked) rest
    · by_cases entered : (values.isTruthy != inverted) = true
      · rcases ran : body.renderAfter resolve [] next with ⟨inner, reached, _ | raised⟩
        · exact Stops.of_completes (completes_block_of_entered asked entered ran) (fun _ => restIH) failed
        · simp only [renderAfter, asked, if_pos entered, ran] at failed
          cases failed
          exact .of_nodeFails (.of_stops asked entered (bodyIH ran)) rest
      · exact Stops.of_completes (completes_block_of_skipped asked entered) (fun _ => restIH) failed

end Parts

/-- A rendering only adds to what was written before, and neither what it adds nor how it ends
depends on that. It fails exactly if the template stops: behind nodes that are completed stands one
that fails, whatever follows it. If it succeeds, each two parts of the template are completed one
after the other, the second from the state in which the first has left the resolver. -/
theorem renderAfter_only_appends (resolve : Resolver State) (t : Template) (state : State) :
    ∃ written last failure?,
      (∀ output, t.renderAfter resolve output state = ⟨output ++ written, last, failure?⟩) ∧
      (∀ error, failure? = some error ↔ t.Stops resolve error state written last) ∧
      (∀ error before node text inner middle final, before.Completes resolve state text middle →
        NodeFails resolve error node middle inner final → ∀ after output,
        (before ++ (node ++ after)).renderAfter resolve output state =
          ⟨output ++ (text ++ inner), final, some error⟩) ∧
      (failure? = none → ∀ front back, t = front ++ back →
        ∃ text rest middle, front.Completes resolve state text middle ∧
          back.Completes resolve middle rest last ∧ written = text ++ rest) := by
  rcases rendered : t.renderAfter resolve [] state with ⟨written, last, failure?⟩
  refine ⟨written, last, failure?, ?_, ?_, ?_, ?_⟩
  · intro output
    rw [renderAfter_eq_behind, rendered]
    rfl
  · intro error
    constructor
    · rintro rfl
      exact stops_of_renderAfter rendered
    · intro stops
      rw [stops.renderAfter] at rendered
      cases rendered
      rfl
  · intro error before node text inner middle final completed fails after output
    exact (Stops.behind completed fails).renderAfter output
  · rintro rfl front back rfl
    exact exists_completes_of_append rendered

/-- A bind that counts its questions, in a block that is entered before another bind fails, and
in front of a block that is skipped. -/
theorem renderAfter_only_appends_counting :
    let n := "n".toList
    let error := EvaluationError.expression ['x'] []
    let registry := (({} : Registry Unit).register n (.counting n)).register ['x']
      (.failing ['x'] error)
    let resolve := Registry.resolver ()
    let t := literal ['A'] (block n false (slot n true (slot ['x'] true (slot n true nil))) nil)
    let front := slot n true nil
    let back := block n true (slot ['x'] true nil) (slot n false nil)
    (∃ last, t.Stops resolve error registry ['A', '2'] last ∧ ∀ output,
        t.renderAfter resolve output registry = ⟨output ++ ['A', '2'], last, some error⟩) ∧
      (∃ last, ∀ after output, (slot ['x'] true nil ++ after).renderAfter resolve output registry =
        ⟨output, last, some error⟩) ∧
      ∃ text rest middle last, front.Completes resolve registry text middle ∧
        back.Completes resolve middle rest last ∧ ['1', '3'] = text ++ rest := by
  intro n error registry resolve t front back
  refine ⟨?_, ?_, ?_⟩
  · obtain ⟨written, last, failure?, adds, stops, _⟩ :=
      renderAfter_only_appends resolve t registry
    have output : (t.renderAfter resolve [] registry).output = ['A', '2'] := by
      dsimp only [resolve, registry, error, t, n]
      decide +kernel
    have failure : (t.renderAfter resolve [] registry).failure? = some error := by
      dsimp only [resolve, registry, error, t, n]
      decide +kernel
    rw [adds] at output failure
    obtain rfl : written = ['A', '2'] := output
    obtain rfl : failure? = some error := failure
    exact ⟨last, (stops error).mp rfl, adds⟩
  · obtain ⟨_, _, _, _, _, fails, _⟩ := renderAfter_only_appends resolve nil registry
    have failed : NodeFails resolve error (slot ['x'] true nil) registry []
        (registry.resolve () ['x']).2 := .slot rfl
    exact ⟨_, fun after output => by simpa using fails _ nil _ _ _ _ _ rfl failed after output⟩
  · obtain ⟨written, last, failure?, adds, _, _, parts⟩ :=
      renderAfter_only_appends resolve (front ++ back) registry
    have output : ((front ++ back).renderAfter resolve [] registry).output = ['1', '3'] := by
      dsimp only [resolve, registry, error, front, back, n]
      decide +kernel
    have failure : ((front ++ back).renderAfter resolve [] registry).failure? = none := by
      dsimp only [resolve, registry, error, front, back, n]
      decide +kernel
    rw [adds] at output failure
    obtain rfl : written = ['1', '3'] := output
    obtain ⟨text, rest, middle, parts⟩ := parts failure front back rfl
    exact ⟨text, rest, middle, last, parts⟩

end Template

end QueryTemplate
