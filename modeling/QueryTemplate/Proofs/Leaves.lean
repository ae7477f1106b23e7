import QueryTemplate.Proofs.Merging

/-! The leaves of merged documents. A leaf is what lies at the end of some keys and is no object. A
document that is laid over another one brings all its leaves, and covers those of the other one that
lie where it has something itself or below what it has instead of an object; no other leaf is lost,
and none appears. Laying it over once more changes nothing but the order of members. -/

set_option autoImplicit false

namespace QueryTemplate

namespace Document

/-- That a document has a leaf at the end of some keys. An array is a leaf as a whole. -/
def HasLeaf (document : Document) (path : List Text) (leaf : Document) : Prop :=
  document.at? (path.map .key) = some leaf ∧ ∀ members, leaf ≠ object members

/-- That what a document is laid over shows at the end of some keys: nothing lies there in the
document, and whatever lies on the way is an object. -/
def LeavesOpen (document : Document) (path : List Text) : Prop :=
  document.at? (path.map .key) = none ∧
    ∀ front, front <+: path → front ≠ path → ∀ node, document.at? (front.map .key) = some node →
      ∃ members, node = object members

theorem hasLeaf_nil_iff {document leaf : Document} :
    document.HasLeaf [] leaf ↔ document = leaf ∧ ∀ members, leaf ≠ object members := by
  simp [HasLeaf]

theorem not_leavesOpen_nil (document : Document) : ¬ document.LeavesOpen [] := by
  simp [LeavesOpen]

theorem hasLeaf_cons_iff {document leaf : Document} {key : Text} {path : List Text} :
    document.HasLeaf (key :: path) leaf ↔
      ∃ (members : Members) (below : Document), document = object members ∧
        members.get? key = some below ∧ below.HasLeaf path leaf := by
  simp only [HasLeaf, List.map_cons, at?_key_cons_eq_some_iff]
  constructor
  · intro found
    obtain ⟨⟨members, below, same, inside, further⟩, simple⟩ := found
    exact ⟨members, below, same, inside, further, simple⟩
  · intro found
    obtain ⟨members, below, same, inside, further, simple⟩ := found
    exact ⟨⟨members, below, same, inside, further⟩, simple⟩

theorem LeavesOpen.exists_object {document : Document} {key : Text} {path : List Text}
    (leavesOpen : document.LeavesOpen (key :: path)) : ∃ members, document = object members :=
  leavesOpen.2 [] List.nil_prefix (by simp) document rfl

theorem leavesOpen_cons_iff {members : Members} {key : Text} {path : List Text} :
    (object members).LeavesOpen (key :: path) ↔
      ∀ below, members.get? key = some below → below.LeavesOpen path := by
  constructor
  · intro leavesOpen below inside
    obtain ⟨missing, objects⟩ := leavesOpen
    have place (further : List Text) :
        (object members).at? ((key :: further).map .key) = below.at? (further.map .key) := by
      simp only [List.map_cons, at?, below?, inside, Option.bind_some]
    constructor
    · exact (place path).symm.trans missing
    · intro front start short node found
      refine objects (key :: front) (List.cons_prefix_cons.mpr ⟨rfl, start⟩) ?_ node ?_
      · exact fun same => short (List.cons.inj same).2
      · exact (place front).trans found
  · intro inner
    constructor
    · cases found : (object members).at? ((key :: path).map .key) with
      | none => rfl
      | some node =>
        obtain ⟨_, below, same, inside, further⟩ := at?_key_cons_eq_some_iff.mp found
        cases same
        cases (inner below inside).1.symm.trans further
    · intro front start short node found
      cases front with
      | nil =>
        cases found
        exact ⟨members, rfl⟩
      | cons first front =>
        obtain ⟨rfl, begins⟩ := List.cons_prefix_cons.mp start
        obtain ⟨_, below, same, inside, further⟩ := at?_key_cons_eq_some_iff.mp found
        cases same
        refine (inner below inside).2 front begins ?_ node further
        exact fun same => short (congrArg _ same)

/-- The leaves of merged documents are those of the upper one, and those of the lower one that it
leaves open. -/
theorem hasLeaf_merge_iff {base overlay : Document} (distinct : base.KeysDistinct)
    (distinct' : overlay.KeysDistinct) {path : List Text} {leaf : Document} :
    (base.merge overlay).HasLeaf path leaf ↔
      overlay.HasLeaf path leaf ∨ base.HasLeaf path leaf ∧ overlay.LeavesOpen path := by
  induction path generalizing base overlay with
  | nil =>
    have covered : ¬ (base.HasLeaf [] leaf ∧ overlay.LeavesOpen []) :=
      fun both => not_leavesOpen_nil overlay both.2
    rw [or_iff_left covered]
    rcases object_or_merge_eq base overlay with ⟨members, overriding, rfl, rfl⟩ | replaced
    · rw [merge_object, hasLeaf_nil_iff, hasLeaf_nil_iff]
      constructor
      all_goals
        intro found
        exact absurd found.1.symm (found.2 _)
    · rw [replaced]
  | cons key path ih =>
    by_cases lower : ∃ members, base = object members
    · by_cases upper : ∃ overriding, overlay = object overriding
      · obtain ⟨members, rfl⟩ := lower
        obtain ⟨overriding, rfl⟩ := upper
        simp only [merge_object, leavesOpen_cons_iff, hasLeaf_cons_iff, object.injEq,
          exists_and_left, exists_eq_left', Members.get?_merge distinct.keys distinct'.keys]
        cases own : Members.get? key members with
        | none => cases Members.get? key overriding <;> simp
        | some below =>
          cases laid : Members.get? key overriding with
          | none => simp
          | some above =>
            have under : (object members).below? (.key key) = some below := own
            have upon : (object overriding).below? (.key key) = some above := laid
            simpa using ih (distinct.below under) (distinct'.below upon)
      · rw [merge_leaf base (not_exists.mp upper)]
        exact (or_iff_left fun both => upper both.2.exists_object).symm
    · rw [merge_of_leaf (not_exists.mp lower)]
      refine (or_iff_left fun both => ?_).symm
      obtain ⟨members, _, same, _⟩ := hasLeaf_cons_iff.mp both.1
      exact lower ⟨members, same⟩

/-! ## Laying a document over once more -/

/-- Whatever objects have if the documents in them do, and all other documents, all have. -/
theorem induction_on_members {motive : Document → Prop}
    (ofMembers : ∀ members : Members,
      (∀ key below, members.get? key = some below → motive below) → motive (object members))
    (others : ∀ document, (∀ members, document ≠ object members) → motive document) :
    ∀ document, motive document
  | .object members =>
    ofMembers members fun _ below _ => induction_on_members ofMembers others below
  | .array items => others (.array items) (by simp)
  | .null => others .null (by simp)
  | .boolean b => others (.boolean b) (by simp)
  | .whole n => others (.whole n) (by simp)
  | .float x => others (.float x) (by simp)
  | .string t => others (.string t) (by simp)
termination_by document => sizeOf document
decreasing_by
  have inside := List.sizeOf_lt_of_mem (Members.mem_of_get? ‹Members.get? _ members = some below›)
  simp only [object.sizeOf_spec, Prod.mk.sizeOf_spec] at *
  omega

/-- That two documents are the same but for the order in which the members of objects stand. -/
inductive Reordered : Document → Document → Prop where
  | same {document : Document} : Reordered document document
  | object {members others : Members} :
      (∀ key, Option.Rel Reordered (members.get? key) (others.get? key)) →
      Reordered (object members) (object others)

theorem reordered_merge_self {document : Document} (distinct : document.KeysDistinct) :
    Reordered (document.merge document) document := by
  induction document using induction_on_members with
  | ofMembers members ih =>
    rw [merge_object]
    refine .object fun key => ?_
    rw [Members.get?_merge distinct.keys distinct.keys]
    cases found : Members.get? key members with
    | none => exact .none
    | some below =>
      have under : (Document.object members).below? (.key key) = some below := found
      exact .some (ih key below found (distinct.below under))
  | others document leaf =>
    rw [merge_of_leaf leaf]
    exact .same

theorem reordered_merge_merge {base overlay : Document} (distinct : base.KeysDistinct)
    (distinct' : overlay.KeysDistinct) :
    Reordered ((base.merge overlay).merge overlay) (base.merge overlay) := by
  induction overlay using induction_on_members generalizing base with
  | ofMembers overriding ih =>
    by_cases lower : ∃ members, base = .object members
    · obtain ⟨members, rfl⟩ := lower
      rw [merge_object, merge_object]
      refine .object fun key => ?_
      rw [Members.get?_merge (Members.nodup_merge distinct.keys) distinct'.keys,
        Members.get?_merge distinct.keys distinct'.keys]
      cases laid : Members.get? key overriding with
      | none =>
        cases Members.get? key members with
        | none => exact .none
        | some below => exact .some .same
      | some above =>
        have upon : (Document.object overriding).below? (.key key) = some above := laid
        cases own : Members.get? key members with
        | none => exact .some (reordered_merge_self (distinct'.below upon))
        | some below =>
          have under : (Document.object members).below? (.key key) = some below := own
          exact .some (ih key above laid (distinct.below under) (distinct'.below upon))
    · rw [merge_of_leaf (not_exists.mp lower)]
      exact reordered_merge_self distinct'
  | others overlay leaf =>
    rw [merge_leaf _ leaf, merge_leaf base leaf]
    exact .same

/-- What one document laid over another has. The leaves are those of the upper one, and those of
the lower one at whose place nothing lies in the upper one, and on the way to which nothing but
objects does. No key stands twice in an object, and laying the upper one over the result once more
changes nothing but the order of members. -/
theorem leaves_merge {base overlay : Document} (distinct : base.KeysDistinct)
    (distinct' : overlay.KeysDistinct) :
    (∀ path leaf, (base.merge overlay).HasLeaf path leaf ↔
        overlay.HasLeaf path leaf ∨ base.HasLeaf path leaf ∧ overlay.LeavesOpen path) ∧
      (base.merge overlay).KeysDistinct ∧
      Reordered ((base.merge overlay).merge overlay) (base.merge overlay) :=
  ⟨fun _ _ => hasLeaf_merge_iff distinct distinct', distinct.merge distinct',
    reordered_merge_merge distinct distinct'⟩

/-- An empty object covers a leaf but no leaf of an object, and a leaf covers an object. -/
theorem leaves_merge_covered :
    let base := object
      [(['a'], .null), (['b'], object [(['c'], .null)]), (['d'], object [(['e'], .null)])]
    let overlay := object [(['d'], .string []), (['b'], object []), (['a'], object [])]
    base.KeysDistinct ∧ overlay.KeysDistinct ∧ ¬ (base.merge overlay).HasLeaf [['a']] .null ∧
      (base.merge overlay).HasLeaf [['b'], ['c']] .null ∧
      ¬ (base.merge overlay).HasLeaf [['d'], ['e']] .null ∧
      Reordered ((base.merge overlay).merge overlay) (base.merge overlay) := by
  intro base overlay
  have leaf : null.KeysDistinct := keysDistinct_of_simple rfl
  have single (key : Text) : (object [(key, null)]).KeysDistinct :=
    keysDistinct_object (List.nodup_singleton key) (by simp [leaf])
  have text : (string []).KeysDistinct := keysDistinct_of_simple rfl
  have empty : (object []).KeysDistinct := keysDistinct_object List.nodup_nil (by simp)
  have lower : base.KeysDistinct :=
    keysDistinct_object (by decide) (by simp [leaf, single])
  have upper : overlay.KeysDistinct :=
    keysDistinct_object (by decide) (by simp [text, empty])
  have leavesOpen : overlay.LeavesOpen [['b'], ['c']] := by
    refine leavesOpen_cons_iff.mpr fun below found => ?_
    cases found
    exact leavesOpen_cons_iff.mpr (by simp)
  obtain ⟨leaves, _, again⟩ := leaves_merge lower upper
  refine ⟨lower, upper, ?_, (leaves _ _).mpr (.inr ⟨⟨rfl, by simp⟩, leavesOpen⟩), ?_, again⟩
  · intro found
    rcases (leaves _ _).mp found with ⟨there, _⟩ | ⟨_, missing, _⟩
    · cases there
    · cases missing
  · intro found
    rcases (leaves _ _).mp found with ⟨there, _⟩ | ⟨_, _, objects⟩
    · cases there
    · obtain ⟨_, same⟩ := objects [['d']] (by simp) (by simp) _ rfl
      cases same

end Document

end QueryTemplate
