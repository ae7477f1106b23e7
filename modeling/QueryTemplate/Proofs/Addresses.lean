import Mathlib.Data.List.Nodup
import QueryTemplate.Document.Basic

/-! Addresses in documents: the members and items that lead from a document to what lies in it. An
address leads to one place where the members of every object have different keys, and then the
order of a document is an order of its addresses, in which no place stands before one that it
lies in. -/

set_option autoImplicit false

namespace QueryTemplate

/-- The way from an element to what lies directly in it. -/
inductive Segment where
  | key (key : Text)
  | index (index : Nat)
  deriving DecidableEq, Repr

abbrev Address := List Segment

namespace Segment

def key? : Segment → Option Text
  | key name => some name
  | index _ => none

end Segment

namespace Address

def keys (address : Address) : List Text := address.filterMap Segment.key?

@[simp] theorem keys_key (key : Text) (address : Address) :
    keys (.key key :: address) = key :: keys address := rfl

@[simp] theorem keys_index (index : Nat) (address : Address) :
    keys (.index index :: address) = keys address := rfl

@[simp] theorem keys_append (front back : Address) :
    keys (front ++ back) = keys front ++ keys back :=
  List.filterMap_append

end Address

namespace Document

def below? : Document → Segment → Option Document
  | object members, .key key => Members.get? key members
  | array items, .index index => items[index]?
  | _, _ => none

def at? : Document → Address → Option Document
  | document, [] => some document
  | document, segment :: address => (document.below? segment).bind fun below => below.at? address

@[simp] theorem at?_nil (document : Document) : document.at? [] = some document := rfl

theorem at?_cons_eq_some_iff {document node : Document} {segment : Segment} {address : Address} :
    document.at? (segment :: address) = some node ↔
      ∃ below, document.below? segment = some below ∧ below.at? address = some node :=
  Option.bind_eq_some_iff

theorem at?_append (document : Document) (front back : Address) :
    document.at? (front ++ back) = (document.at? front).bind fun below => below.at? back := by
  induction front generalizing document with
  | nil => rfl
  | cons segment front ih =>
    rw [List.cons_append, at?, at?, Option.bind_assoc]
    congr 1
    funext below
    exact ih below

theorem at?_append_eq_some {document middle node : Document} {front back : Address}
    (first : document.at? front = some middle) (second : middle.at? back = some node) :
    document.at? (front ++ back) = some node := by
  rw [at?_append, first]
  exact second

theorem below?_key_eq_some_iff {document below : Document} {key : Text} :
    document.below? (.key key) = some below ↔
      ∃ members, document = .object members ∧ Members.get? key members = some below := by
  constructor
  · intro found
    cases document with
    | object members => exact ⟨members, rfl, found⟩
    | _ => cases found
  · intro found
    obtain ⟨members, rfl, found⟩ := found
    exact found

theorem at?_key_cons_eq_some_iff {document node : Document} {key : Text}
    {address : Address} :
    document.at? (.key key :: address) = some node ↔
      ∃ (members : Members) (below : Document), document = .object members ∧ members.get? key = some below ∧
        below.at? address = some node := by
  rw [at?_cons_eq_some_iff]
  constructor
  · intro found
    obtain ⟨below, found, further⟩ := found
    obtain ⟨members, same, found⟩ := below?_key_eq_some_iff.mp found
    exact ⟨members, below, same, found, further⟩
  · intro found
    obtain ⟨members, below, rfl, found, further⟩ := found
    exact ⟨below, found, further⟩

theorem below?_index_eq_some_iff {document below : Document} {index : Nat} :
    document.below? (.index index) = some below ↔
      ∃ items, document = .array items ∧ items[index]? = some below := by
  constructor
  · intro found
    cases document with
    | array items => exact ⟨items, rfl, found⟩
    | _ => cases found
  · intro found
    obtain ⟨items, rfl, found⟩ := found
    exact found

end Document

/-! ## Different keys -/

theorem Members.mem_of_get? {members : Members} {key : Text} {document : Document}
    (found : members.get? key = some document) : (key, document) ∈ members := by
  induction members with
  | nil => cases found
  | cons member members ih =>
    obtain ⟨own, below⟩ := member
    rw [get?_cons] at found
    split at found
    · rename_i same
      cases found
      rw [same]
      exact List.mem_cons_self
    · exact List.mem_cons_of_mem _ (ih found)

theorem Members.get?_eq_some_iff_mem {members : Members} (distinct : (members.map Prod.fst).Nodup)
    {key : Text} {document : Document} :
    members.get? key = some document ↔ (key, document) ∈ members := by
  refine ⟨mem_of_get?, ?_⟩
  intro member
  induction members with
  | nil => cases member
  | cons first members ih =>
    obtain ⟨own, below⟩ := first
    obtain ⟨missing, distinct⟩ := List.nodup_cons.mp distinct
    rw [get?_cons]
    cases member with
    | head => rw [if_pos rfl]
    | tail _ member =>
      have other : own ≠ key := by
        intro same
        subst same
        exact missing (List.mem_map.mpr ⟨_, member, rfl⟩)
      rw [if_neg other]
      exact ih distinct member

namespace Document

/-- That the members of an object have different keys, wherever the object lies. -/
def KeysDistinct (document : Document) : Prop :=
  ∀ address members, document.at? address = some (.object members) →
    (members.map Prod.fst).Nodup

theorem KeysDistinct.at {document node : Document} (distinct : document.KeysDistinct)
    {address : Address} (found : document.at? address = some node) : node.KeysDistinct := by
  intro further members there
  exact distinct (address ++ further) members (at?_append_eq_some found there)

theorem KeysDistinct.below {document node : Document} (distinct : document.KeysDistinct)
    {segment : Segment} (found : document.below? segment = some node) : node.KeysDistinct :=
  distinct.at (at?_cons_eq_some_iff.mpr ⟨node, found, at?_nil node⟩)

theorem KeysDistinct.item {items : List Document} (distinct : (array items).KeysDistinct)
    {item : Document} (member : item ∈ items) : item.KeysDistinct := by
  obtain ⟨index, found⟩ := List.mem_iff_getElem?.mp member
  have below : (array items).below? (.index index) = some item := found
  exact distinct.below below

theorem keysDistinct_of_simple {document : Document} (simple : document.isComplex = false) :
    document.KeysDistinct := by
  intro address members found
  cases address with
  | nil =>
    cases found
    cases simple
  | cons segment address =>
    obtain ⟨below, found, _⟩ := at?_cons_eq_some_iff.mp found
    cases document with
    | array => cases simple
    | object => cases simple
    | _ => cases segment <;> cases found

theorem keysDistinct_array {items : List Document}
    (distinct : ∀ item ∈ items, item.KeysDistinct) : (array items).KeysDistinct := by
  intro address members found
  cases address with
  | nil => cases found
  | cons segment address =>
    obtain ⟨below, found, there⟩ := at?_cons_eq_some_iff.mp found
    cases segment with
    | key => cases found
    | index index => exact distinct below (List.mem_of_getElem? found) address members there

theorem keysDistinct_object {members : Members} (keys : (members.map Prod.fst).Nodup)
    (distinct : ∀ member ∈ members, member.2.KeysDistinct) : (object members).KeysDistinct := by
  intro address inner found
  cases address with
  | nil =>
    cases found
    exact keys
  | cons segment address =>
    obtain ⟨below, found, there⟩ := at?_cons_eq_some_iff.mp found
    cases segment with
    | index => cases found
    | key key => exact distinct (key, below) (Members.mem_of_get? found) address inner there

/-! ## The order of a document -/

/-- The order of what lies directly in an element: as the members and as the items stand. -/
inductive Earlier : Document → Segment → Segment → Prop where
  | member {members : Members} {first second : Text} :
      List.Sublist [first, second] (members.map Prod.fst) →
      Earlier (object members) (.key first) (.key second)
  | item {items : List Document} {first second : Nat} :
      first < second → Earlier (array items) (.index first) (.index second)

/-- The order of a document: two places are in the order of the first segments that differ. -/
inductive Before : Document → Address → Address → Prop where
  | apart {document : Document} {segment other : Segment} {first second : Address} :
      document.Earlier segment other → Before document (segment :: first) (other :: second)
  | within {document node : Document} {segment : Segment} {first second : Address} :
      document.below? segment = some node → Before node first second →
      Before document (segment :: first) (segment :: second)

theorem Earlier.ne {document : Document} (distinct : document.KeysDistinct)
    {segment other : Segment} (earlier : document.Earlier segment other) : segment ≠ other := by
  intro same
  cases earlier with
  | member order =>
    cases same
    exact List.nodup_iff_sublist.mp (distinct [] _ rfl) _ order
  | item order =>
    cases same
    exact Nat.lt_irrefl _ order

theorem Before.append {document : Document} {first second : Address}
    (before : document.Before first second) (left right : Address) :
    document.Before (first ++ left) (second ++ right) := by
  induction before with
  | apart earlier => exact .apart earlier
  | within found _ ih => exact .within found ih

theorem Before.under {document node : Document} {address first second : Address}
    (found : document.at? address = some node) (before : node.Before first second) :
    document.Before (address ++ first) (address ++ second) := by
  induction address generalizing document with
  | nil =>
    cases found
    exact before
  | cons segment address ih =>
    obtain ⟨below, found, there⟩ := at?_cons_eq_some_iff.mp found
    exact .within found (ih there)

/-- Of two places in the order of a document, neither lies in the other. -/
theorem Before.not_prefix {document : Document} (distinct : document.KeysDistinct)
    {first second : Address} (before : document.Before first second) :
    ¬ first <+: second ∧ ¬ second <+: first := by
  induction before with
  | apart earlier =>
    have different := earlier.ne distinct
    constructor
    · exact fun front => different (List.cons_prefix_cons.mp front).1
    · exact fun front => different (List.cons_prefix_cons.mp front).1.symm
  | within found _ ih =>
    have further := ih (distinct.below found)
    constructor
    · exact fun front => further.1 (List.cons_prefix_cons.mp front).2
    · exact fun front => further.2 (List.cons_prefix_cons.mp front).2

end Document

end QueryTemplate
