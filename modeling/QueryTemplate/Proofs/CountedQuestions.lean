import QueryTemplate.Proofs.Questions
import QueryTemplate.Proofs.Resolution

/-! Counted questions. A registry remembers what it is asked, so after a rendering every parameter
was asked in its context once more for each of the tags of its name that were asked for, and the
answer to such a tag is the one that the parameter gives after those before it. The questions of
renderings that follow each other add up. -/

set_option autoImplicit false

namespace QueryTemplate

/-- The number of the tags of a name. -/
def tagCount (name : Text) (tags : List NumberedTag) : Nat :=
  tags.countP fun tag => tag.name == name

/-- A registration after some more questions, in these contexts, the latest first. -/
def Registration.advanced {Context : Type} (contexts : List Context)
    (registration : Registration Context) : Registration Context :=
  { registration with earlier := contexts ++ registration.earlier }

theorem Registration.advanced_comp {Context : Type} (first later : List Context) :
    Registration.advanced later ∘ Registration.advanced first =
      Registration.advanced (later ++ first) := by
  funext found
  simp [Registration.advanced]

namespace Registry

variable {Context : Type}

/-- What a name stands for after some questions for it, the latest first. -/
def answerAfter (registry : Registry Context) (context : Context) (asked : List Context)
    (name : Text) : Except EvaluationError Values :=
  match registry.lookup? name with
  | none => .ok []
  | some found => found.parameter.answer (asked ++ found.earlier) context

theorem lookup?_of_asks {context : Context} {answers : Nat → Except EvaluationError Values}
    {registry last : Registry Context} {tags : List NumberedTag}
    (asked : (resolver context).Asks answers registry tags last) (name : Text) :
    last.lookup? name = (registry.lookup? name).map
      (Registration.advanced (List.replicate (tagCount name tags) context)) := by
  induction asked with
  | nil => exact Option.map_id'.symm
  | @cons registry next last tag tags answered _ ih =>
    obtain rfl : (registry.resolve context tag.name).2 = next := congrArg Prod.snd answered
    rw [ih, lookup?_resolve, Option.map_map]
    cases known : registry.lookup? name with
    | none => rfl
    | some found =>
      have key := key_of_lookup? known
      by_cases same : name = tag.name
      · simp [Registration.asked, Registration.advanced, tagCount, key, same,
          List.replicate_succ']
      · simp [Registration.asked, Registration.advanced, tagCount, key, same, Ne.symm same]

theorem resolve_eq_answerAfter (registry : Registry Context) (context : Context) (name : Text) :
    (registry.resolve context name).1 = registry.answerAfter context [] name := by
  unfold resolve answerAfter
  cases registry.lookup? name <;> rfl

theorem answerAfter_of_lookup? {registry last : Registry Context} {name : Text}
    {asked : List Context}
    (advances : last.lookup? name = (registry.lookup? name).map (Registration.advanced asked))
    (context : Context) (more : List Context) :
    last.answerAfter context more name = registry.answerAfter context (more ++ asked) name := by
  rw [answerAfter, answerAfter, advances]
  cases registry.lookup? name with
  | none => rfl
  | some found => simp only [Option.map_some, Registration.advanced, List.append_assoc]

theorem answer_of_asks {context : Context} {answers : Nat → Except EvaluationError Values}
    {registry last : Registry Context} {before later : List NumberedTag} {tag : NumberedTag}
    (asked : (resolver context).Asks answers registry (before ++ tag :: later) last) :
    answers tag.number = registry.answerAfter context
      (List.replicate (tagCount tag.name before) context) tag.name := by
  obtain ⟨middle, earlier, further⟩ := asked.of_append
  cases further with
  | cons answered _ =>
    have own : answers tag.number = middle.answerAfter context [] tag.name :=
      (congrArg Prod.fst answered).symm.trans (resolve_eq_answerAfter ..)
    exact own.trans (answerAfter_of_lookup? (lookup?_of_asks earlier tag.name) context [])

/-- The registry after some renderings, one after the other. -/
def afterRenders (registry : Registry Context) (renders : List (Template × Context)) :
    Registry Context :=
  renders.foldl (fun registry render => (render.1.render registry render.2).2) registry

/-- The contexts of the questions for a name in some renderings, one after the other, those of the
last one in front. -/
def questions (name : Text) (registry : Registry Context) :
    List (Template × Context) → List Context
  | [] => []
  | (t, context) :: renders =>
    (t.render registry context).2.questions name renders ++
      List.replicate
        ((t.record (resolver context) registry).countP fun asked => asked.1 == name) context

end Registry

namespace Template

variable {Context : Type}

theorem Follows.countP_record {State : Type} {t : Template} {resolve : Resolver State}
    {state : State} {answers : Nat → Except EvaluationError Values}
    (follows : t.Follows resolve state answers) (name : Text) :
    (t.record resolve state).countP (fun asked => asked.1 == name) =
      tagCount name (t.askedTags answers) := by
  rw [follows.record, List.countP_map]
  rfl

end Template

namespace Registry

variable {Context : Type}

theorem lookup?_afterRenders (registry : Registry Context) (renders : List (Template × Context))
    (name : Text) :
    (registry.afterRenders renders).lookup? name =
      (registry.lookup? name).map (Registration.advanced (registry.questions name renders)) := by
  induction renders generalizing registry with
  | nil => exact Option.map_id'.symm
  | cons render renders ih =>
    obtain ⟨t, context⟩ := render
    obtain ⟨answers, follows⟩ := t.exists_follows (resolver context) registry
    have first : (t.render registry context).2.lookup? name = _ :=
      lookup?_of_asks follows.asks name
    rw [afterRenders, List.foldl_cons]
    refine (ih (t.render registry context).2).trans ?_
    rw [first, Option.map_map, questions, follows.countP_record, Registration.advanced_comp]

end Registry

namespace Template

variable {Context : Type}

/-- What the questions and the answers of a registry come to in a rendering behind some others. -/
structure Counts (t : Template) (registry : Registry Context)
    (earlier : List (Template × Context)) (context : Context)
    (answers : Nat → Except EvaluationError Values) : Prop where
  advances : ∀ name, (t.render (registry.afterRenders earlier) context).2.lookup? name =
    (registry.lookup? name).map (Registration.advanced
      (List.replicate (tagCount name (t.askedTags answers)) context ++
        registry.questions name earlier))
  sees : ∀ before tag later, t.askedTags answers = before ++ tag :: later →
    answers tag.number = registry.answerAfter context
      (List.replicate (tagCount tag.name before) context ++
        registry.questions tag.name earlier) tag.name
  counter : ∀ name own start, registry.lookup? name = some ⟨name, .counting own, start⟩ →
    ∀ output, (t.render (registry.afterRenders earlier) context).1 = .ok output →
      (t.render (registry.afterRenders earlier) context).2.lookup? name =
        some ⟨name, .counting own,
          List.replicate (tagCount name (t.executedTags answers)) context ++
            (registry.questions name earlier ++ start)⟩ ∧
      ∀ before tag later, t.executedTags answers = before ++ tag :: later → tag.name = name →
        answers tag.number = .ok [.integer (Int64.ofNat (start.length +
          ((registry.questions name earlier).length + tagCount name before) + 1))]

theorem Follows.counts {t : Template} {registry : Registry Context}
    {earlier : List (Template × Context)} {context : Context}
    {answers : Nat → Except EvaluationError Values}
    (follows : t.Follows (Registry.resolver context) (registry.afterRenders earlier) answers) :
    t.Counts registry earlier context answers := by
  have advances : ∀ name, (t.render (registry.afterRenders earlier) context).2.lookup? name =
      (registry.lookup? name).map (Registration.advanced
        (List.replicate (tagCount name (t.askedTags answers)) context ++
          registry.questions name earlier)) := by
    intro name
    rw [← Registration.advanced_comp, ← Option.map_map, ← registry.lookup?_afterRenders]
    exact Registry.lookup?_of_asks follows.asks name
  have sees : ∀ before tag later, t.askedTags answers = before ++ tag :: later →
      answers tag.number = registry.answerAfter context
        (List.replicate (tagCount tag.name before) context ++
          registry.questions tag.name earlier) tag.name := by
    intro before tag later split
    have asks := follows.asks
    rw [split] at asks
    rw [Registry.answer_of_asks asks,
      Registry.answerAfter_of_lookup? (registry.lookup?_afterRenders earlier tag.name)]
  refine ⟨advances, sees, fun name own start registered output rendered => ⟨?_, ?_⟩⟩
  · rw [advances name, registered, follows.success output rendered]
    simp [Registration.advanced]
  · rintro before tag later split rfl
    rw [sees before tag later (by rw [follows.success output rendered, split]),
      Registry.answerAfter, registered]
    refine (Parameter.answer_counting own _ context).trans ?_
    congr 4
    simp only [List.length_append, List.length_replicate]
    omega

/-- A rendering asks once for each of its executed tags, in their order, up to the first that
fails, and a registry remembers just these questions. -/
theorem render_asks_executed (t : Template) :
    (∀ {State : Type} (resolve : Resolver State) (state : State),
      ∃ answers, t.Follows resolve state answers) ∧
    ∀ {Context : Type} (registry : Registry Context) (earlier : List (Template × Context))
      (context : Context), ∃ answers,
        t.Follows (Registry.resolver context) (registry.afterRenders earlier) answers ∧
        t.Counts registry earlier context answers := by
  refine ⟨t.exists_follows, fun registry earlier context => ?_⟩
  obtain ⟨answers, follows⟩ :=
    t.exists_follows (Registry.resolver context) (registry.afterRenders earlier)
  exact ⟨answers, follows, follows.counts⟩

/-- A second rendering, with a bind that would fail in a body that is skipped. -/
theorem render_asks_executed_counter :
    let n := "n".toList
    let t := block n false (slot n true (block n true (slot ['x'] true nil) nil)) (slot n true nil)
    let registry := (({} : Registry Unit).register n (.counting n)).register ['x']
      (.failing ['x'] (.expression ['x'] []))
    let second := t.render (registry.afterRenders [(t, ())]) ()
    ∃ answers, (t.executedTags answers).map (NumberedTag.answered answers) =
        [(n, .ok [.integer 5]), (n, .ok [.integer 6]), (n, .ok [.integer 7]),
          (n, .ok [.integer 8])] ∧
      second.1 = .ok "68".toList ∧
      second.2.lookup? n = some ⟨n, .counting n, List.replicate 8 ()⟩ := by
  intro n t registry second
  obtain ⟨answers, follows, counts⟩ := (render_asks_executed t).2 registry [(t, ())] ()
  have rendered : second.1 = .ok "68".toList := by
    dsimp only [second, registry, t, n]
    decide +kernel
  have earlier : registry.questions n [(t, ())] = List.replicate 4 () := by
    dsimp only [registry, t, n]
    decide +kernel
  have record : t.record (Registry.resolver ()) (registry.afterRenders [(t, ())]) =
      [(n, .ok [.integer 5]), (n, .ok [.integer 6]), (n, .ok [.integer 7]),
        (n, .ok [.integer 8])] := by
    dsimp only [registry, t, n]
    decide +kernel
  have executed := follows.success _ rendered
  have count := follows.countP_record n
  rw [executed, record] at count
  refine ⟨answers, ?_, rendered, ?_⟩
  · rw [← record, follows.record, executed]
  · rw [(counts.counter n n [] rfl _ rendered).1, earlier, ← count]
    rfl

end Template

end QueryTemplate
