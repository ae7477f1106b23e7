import QueryTemplate.Proofs.Matching
import QueryTemplate.Proofs.PathGrammar
import QueryTemplate.Proofs.ReadDocuments

/-! What a path selects, told by addresses. Selecting forgets where the elements lie; it is repeated
here with their addresses kept. The addresses are those that match the path, they come in the order
of the document, and positions only leave some of them out. -/

set_option autoImplicit false

namespace QueryTemplate

/-! ## Selecting places -/

abbrev Place := Address × Document

namespace Place

def under (front : Address) (place : Place) : Place := (front ++ place.1, place.2)

def further (find : Document → List Place) (places : List Place) : List Place :=
  places.flatMap fun place => (find place.2).map (under place.1)

theorem nodes_further (find : Document → List Place) (places : List Place) :
    (further find places).map Prod.snd =
      (places.map Prod.snd).flatMap fun document => (find document).map Prod.snd := by
  simp [further, List.map_flatMap, List.flatMap_map, Function.comp_def, under]

theorem mem_further {find : Document → List Place} {places : List Place} {address : Address}
    {node : Document} :
    (address, node) ∈ further find places ↔
      ∃ front middle back, address = front ++ back ∧ (front, middle) ∈ places ∧
        (back, node) ∈ find middle := by
  constructor
  · intro member
    obtain ⟨⟨front, middle⟩, outer, inner⟩ := List.mem_flatMap.mp member
    obtain ⟨⟨back, last⟩, found, same⟩ := List.mem_map.mp inner
    cases same
    exact ⟨front, middle, back, rfl, outer, found⟩
  · intro member
    obtain ⟨front, middle, back, rfl, outer, found⟩ := member
    exact List.mem_flatMap.mpr ⟨(front, middle), outer, List.mem_map.mpr ⟨_, found, rfl⟩⟩

/-- Places in the order of a document, and what is found below each in its order, are in the order
of the document together. -/
theorem pairwise_further {document : Document} {find : Document → List Place}
    {places : List Place}
    (found : ∀ place ∈ places, document.at? place.1 = some place.2)
    (ordered : places.Pairwise fun first second => document.Before first.1 second.1)
    (inner : ∀ place ∈ places,
      (find place.2).Pairwise fun first second => place.2.Before first.1 second.1) :
    (further find places).Pairwise fun first second => document.Before first.1 second.1 := by
  apply List.pairwise_flatMap.mpr
  constructor
  · intro place member
    rw [List.pairwise_map]
    exact (inner place member).imp fun before => before.under (found place member)
  · refine ordered.imp ?_
    intro first second before left leftMember right rightMember
    obtain ⟨leftPlace, _, rfl⟩ := List.mem_map.mp leftMember
    obtain ⟨rightPlace, _, rfl⟩ := List.mem_map.mp rightMember
    exact before.append leftPlace.1 rightPlace.1

theorem further_sublist {find other : Document → List Place} {places all : List Place}
    (outer : places.Sublist all) (inner : ∀ document, (find document).Sublist (other document)) :
    (further find places).Sublist (further other all) := by
  induction outer with
  | slnil => exact .slnil
  | cons place _ ih => exact List.sublist_append_of_sublist_right ih
  | cons_cons place _ ih => exact ((inner place.2).map _).append ih

end Place

namespace Document

def locateItems (items : List Document) : List Place :=
  items.zipIdx.map fun item => ([.index item.2], item.1)

def locateMembers (test : StepTest) (members : Members) : List Place :=
  (members.filter fun member => test.admits member.1).map fun member => ([.key member.1], member.2)

def locateElements : Document → List Place
  | array items => locateItems items
  | document => [([], document)]

mutual

def locateChildren (test : StepTest) : Document → List Place
  | object members => Place.further locateElements (locateMembers test members)
  | array items => locateChildrenOfItems test 0 items
  | _ => []

def locateChildrenOfItems (test : StepTest) (index : Nat) : List Document → List Place
  | [] => []
  | item :: items =>
    (locateChildren test item).map (Place.under [.index index]) ++
      locateChildrenOfItems test (index + 1) items

end

theorem locateChildren_array (test : StepTest) (items : List Document) :
    (array items).locateChildren test =
      Place.further (locateChildren test) (locateItems items) := by
  have all : ∀ index, locateChildrenOfItems test index items =
      Place.further (locateChildren test)
        ((items.zipIdx index).map fun item => ([.index item.2], item.1)) := by
    induction items with
    | nil =>
      intro index
      rfl
    | cons item items ih =>
      intro index
      rw [locateChildrenOfItems, ih (index + 1)]
      rfl
  rw [locateChildren]
  exact all 0

theorem childrenOfItems_eq_flatMap (test : StepTest) (items : List Document) :
    childrenOfItems test items = items.flatMap (children test) := by
  induction items with
  | nil => rfl
  | cons item items ih => rw [childrenOfItems, ih, List.flatMap_cons]

/-- Whatever arrays pass on from their items and all other documents have, all documents have. -/
theorem induction_on_items {motive : Document → Prop}
    (ofItems : ∀ items, (∀ item ∈ items, motive item) → motive (.array items))
    (others : ∀ document, document.isArray = false → motive document) :
    ∀ document, motive document
  | .array items => ofItems items fun item _ => induction_on_items ofItems others item
  | .object members => others (.object members) rfl
  | .null => others .null rfl
  | .boolean b => others (.boolean b) rfl
  | .whole n => others (.whole n) rfl
  | .float x => others (.float x) rfl
  | .string t => others (.string t) rfl

/-! Without their addresses, the places are what is selected. -/

theorem nodes_locateItems (items : List Document) : (locateItems items).map Prod.snd = items := by
  rw [locateItems, List.map_map]
  exact List.zipIdx_map_fst 0 items

theorem nodes_locateElements (document : Document) :
    document.locateElements.map Prod.snd = document.elements := by
  cases document with
  | array items => exact nodes_locateItems items
  | _ => rfl

theorem nodes_locateMembers (test : StepTest) (members : Members) :
    (locateMembers test members).map Prod.snd =
      (members.filter fun member => test.admits member.1).map Prod.snd := by
  rw [locateMembers, List.map_map]
  rfl

theorem nodes_locateChildren (test : StepTest) (document : Document) :
    (document.locateChildren test).map Prod.snd = document.children test := by
  induction document using induction_on_items with
  | ofItems items ih =>
    rw [locateChildren_array, Place.nodes_further, nodes_locateItems, children,
      childrenOfItems_eq_flatMap]
    exact List.flatMap_congr ih
  | others document simple =>
    cases document with
    | array => cases simple
    | object members =>
      rw [locateChildren, Place.nodes_further, nodes_locateMembers, children, List.flatMap_map]
      simp only [nodes_locateElements]
    | _ => rfl

/-! The places are those that one test reaches. -/

theorem mem_locateItems {items : List Document} {address : Address} {node : Document} :
    (address, node) ∈ locateItems items ↔
      ∃ index, address = [.index index] ∧ items[index]? = some node := by
  constructor
  · intro member
    obtain ⟨⟨item, index⟩, entry, same⟩ := List.mem_map.mp member
    cases same
    exact ⟨index, rfl, List.mk_mem_zipIdx_iff_getElem?.mp entry⟩
  · intro entry
    obtain ⟨index, rfl, found⟩ := entry
    exact List.mem_map.mpr ⟨(node, index), List.mk_mem_zipIdx_iff_getElem?.mpr found, rfl⟩

theorem mem_locateMembers {test : StepTest} {members : Members} {address : Address}
    {node : Document} (distinct : (members.map Prod.fst).Nodup) :
    (address, node) ∈ locateMembers test members ↔
      ∃ key, address = [.key key] ∧ members.get? key = some node ∧ test.IsFor key := by
  constructor
  · intro member
    obtain ⟨⟨key, value⟩, kept, same⟩ := List.mem_map.mp member
    cases same
    obtain ⟨entry, admitted⟩ := List.mem_filter.mp kept
    exact ⟨key, rfl, (Members.get?_eq_some_iff_mem distinct).mpr entry,
      StepTest.admits_iff_isFor.mp admitted⟩
  · intro entry
    obtain ⟨key, rfl, found, wanted⟩ := entry
    have kept : (key, node) ∈ members.filter fun member => test.admits member.1 :=
      List.mem_filter.mpr ⟨Members.mem_of_get? found, StepTest.admits_iff_isFor.mpr wanted⟩
    exact List.mem_map.mpr ⟨(key, node), kept, rfl⟩

theorem mem_locateElements {document node : Document} {address : Address} :
    (address, node) ∈ document.locateElements ↔
      (document.isArray = false ∧ address = [] ∧ node = document) ∨
        ∃ items index, document = .array items ∧ address = [.index index] ∧
          items[index]? = some node := by
  cases document with
  | array items => simp [locateElements, mem_locateItems, isArray]
  | _ => simp [locateElements, isArray]

theorem mem_locateChildren {test : StepTest} {document node : Document} {address : Address}
    (distinct : document.KeysDistinct) :
    (address, node) ∈ document.locateChildren test ↔ Reaches [test] document address node := by
  induction document using induction_on_items generalizing address with
  | ofItems items ih =>
    rw [locateChildren_array, Place.mem_further]
    constructor
    · intro member
      obtain ⟨front, item, back, rfl, outer, found⟩ := member
      obtain ⟨index, rfl, entry⟩ := mem_locateItems.mp outer
      have inside := List.mem_of_getElem? entry
      exact .item entry ((ih item inside (distinct.item inside)).mp found)
    · intro reaches
      cases reaches with
      | @item _ _ _ index item _ back entry below =>
        have inside := List.mem_of_getElem? entry
        exact ⟨[.index index], item, back, rfl, mem_locateItems.mpr ⟨index, rfl, entry⟩,
          (ih item inside (distinct.item inside)).mpr below⟩
  | others document simple =>
    cases document with
    | array => cases simple
    | object members =>
      rw [locateChildren, Place.mem_further]
      have different := distinct [] members rfl
      constructor
      · intro member
        obtain ⟨front, value, back, rfl, outer, found⟩ := member
        obtain ⟨key, rfl, entry, wanted⟩ := (mem_locateMembers different).mp outer
        rcases mem_locateElements.mp found with ⟨simple, rfl, rfl⟩ | ⟨items, index, rfl, rfl, item⟩
        · exact .single entry wanted simple .done
        · exact .repeated entry wanted item .done
      · intro reaches
        cases reaches with
        | @single _ _ _ key value _ back entry wanted simple last =>
          cases last
          exact ⟨[.key key], _, [], rfl, (mem_locateMembers different).mpr ⟨key, rfl, entry, wanted⟩,
            mem_locateElements.mpr (.inl ⟨simple, rfl, rfl⟩)⟩
        | @repeated _ _ _ key items index item _ back entry wanted there last =>
          cases last
          exact ⟨[.key key], _, [.index index], rfl,
            (mem_locateMembers different).mpr ⟨key, rfl, entry, wanted⟩,
            mem_locateElements.mpr (.inr ⟨items, index, rfl, rfl, there⟩)⟩
    | _ =>
      constructor
      · intro member
        cases member
      · intro reaches
        cases reaches

/-! The places are in the order of the document. -/

theorem pairwise_locateItems (items : List Document) :
    (locateItems items).Pairwise fun first second =>
      (Document.array items).Before first.1 second.1 := by
  have indices : (items.zipIdx.map Prod.snd).Pairwise (· < ·) := by
    rw [List.zipIdx_map_snd]
    exact List.pairwise_lt_range' 1
  rw [locateItems, List.pairwise_map]
  exact (List.pairwise_map.mp indices).imp fun earlier => .apart (.item earlier)

theorem pairwise_locateMembers (test : StepTest) (members : Members) :
    (locateMembers test members).Pairwise fun first second =>
      (Document.object members).Before first.1 second.1 := by
  rw [locateMembers, List.pairwise_map]
  apply List.pairwise_iff_forall_sublist.mpr
  intro first second order
  have entries := order.trans List.filter_sublist
  exact .apart (.member (entries.map Prod.fst))

theorem pairwise_locateElements (document : Document) :
    document.locateElements.Pairwise fun first second => document.Before first.1 second.1 := by
  cases document with
  | array items => exact pairwise_locateItems items
  | _ => exact List.pairwise_singleton _ _

theorem pairwise_locateChildren (test : StepTest) {document : Document}
    (distinct : document.KeysDistinct) :
    (document.locateChildren test).Pairwise fun first second =>
      document.Before first.1 second.1 := by
  induction document using induction_on_items with
  | ofItems items ih =>
    rw [locateChildren_array]
    apply Place.pairwise_further _ (pairwise_locateItems items)
    · intro place member
      obtain ⟨index, _, entry⟩ := mem_locateItems.mp member
      have inside := List.mem_of_getElem? entry
      exact ih place.2 inside (distinct.item inside)
    · intro place member
      obtain ⟨index, written, entry⟩ := mem_locateItems.mp member
      rw [written]
      exact at?_cons_eq_some_iff.mpr ⟨_, entry, rfl⟩
  | others document simple =>
    cases document with
    | array => cases simple
    | object members =>
      apply Place.pairwise_further _ (pairwise_locateMembers test members)
      · intro place _
        exact pairwise_locateElements place.2
      · intro place member
        obtain ⟨key, written, entry, _⟩ := (mem_locateMembers (distinct [] members rfl)).mp member
        rw [written]
        exact at?_cons_eq_some_iff.mpr ⟨_, entry, rfl⟩
    | _ => exact .nil

end Document

/-! ## Paths -/

def StepTest.locate (test : StepTest) (document : Document) : List Place :=
  match test with
  | self => [([], document)]
  | test => document.locateChildren test

def Step.locate (step : Step) (document : Document) : List Place :=
  match step.position with
  | none => step.test.locate document
  | some position => ((step.test.locate document)[position - 1]?).toList

def Path.locate : Path → Document → List Place
  | [], document => [([], document)]
  | step :: path, document => Place.further (locate path) (step.locate document)

theorem StepTest.nodes_locate (test : StepTest) (document : Document) :
    (test.locate document).map Prod.snd = test.select document := by
  cases test with
  | self => rfl
  | name => exact document.nodes_locateChildren _
  | wildcard => exact document.nodes_locateChildren _

theorem Step.nodes_locate (step : Step) (document : Document) :
    (step.locate document).map Prod.snd = step.select document := by
  unfold locate select
  rw [← step.test.nodes_locate document]
  cases step.position with
  | none => rfl
  | some position =>
    dsimp only
    rw [List.getElem?_map, Option.toList_map]

theorem Path.nodes_locate (path : Path) (document : Document) :
    (path.locate document).map Prod.snd = path.select document := by
  induction path generalizing document with
  | nil => rfl
  | cons step path ih =>
    rw [locate, Place.nodes_further, Step.nodes_locate, select]
    simp only [ih]

theorem StepTest.mem_locate {test : StepTest} (leads : test ≠ .self) {document node : Document}
    {address : Address} (distinct : document.KeysDistinct) :
    (address, node) ∈ test.locate document ↔ Reaches [test] document address node := by
  cases test with
  | self => exact absurd rfl leads
  | name => exact Document.mem_locateChildren distinct
  | wildcard => exact Document.mem_locateChildren distinct

theorem StepTest.at_of_mem_locate {test : StepTest} {document : Document}
    (distinct : document.KeysDistinct) {place : Place} (member : place ∈ test.locate document) :
    document.at? place.1 = some place.2 := by
  by_cases self : test = .self
  · subst self
    cases List.mem_singleton.mp member
    rfl
  · exact ((StepTest.mem_locate self distinct).mp member).at

theorem StepTest.pairwise_locate (test : StepTest) {document : Document}
    (distinct : document.KeysDistinct) :
    (test.locate document).Pairwise fun first second => document.Before first.1 second.1 := by
  cases test with
  | self => exact List.pairwise_singleton _ _
  | name => exact document.pairwise_locateChildren _ distinct
  | wildcard => exact document.pairwise_locateChildren _ distinct

theorem Step.locate_sublist (step : Step) (document : Document) :
    (step.locate document).Sublist (step.test.locate document) := by
  unfold locate
  cases step.position with
  | none => exact List.Sublist.refl _
  | some position =>
    dsimp only
    cases chosen : (step.test.locate document)[position - 1]? with
    | none => exact List.nil_sublist _
    | some place => exact List.singleton_sublist.mpr (List.mem_of_getElem? chosen)

/-- Positions leave places out, and change neither the others nor their order. -/
theorem Path.locate_sublist (path : Path) (document : Document) :
    (path.locate document).Sublist (path.unpositioned.locate document) := by
  induction path generalizing document with
  | nil => exact List.Sublist.refl _
  | cons step path ih => exact Place.further_sublist (step.locate_sublist document) ih

theorem Path.pairwise_locate (path : Path) {document : Document}
    (distinct : document.KeysDistinct) :
    (path.locate document).Pairwise fun first second => document.Before first.1 second.1 := by
  induction path generalizing document with
  | nil => exact List.pairwise_singleton _ _
  | cons step path ih =>
    have found : ∀ place ∈ step.locate document, document.at? place.1 = some place.2 :=
      fun place member =>
        StepTest.at_of_mem_locate distinct ((step.locate_sublist document).subset member)
    apply Place.pairwise_further found
    · exact (step.test.pairwise_locate distinct).sublist (step.locate_sublist document)
    · intro place member
      exact ih (distinct.at (found place member))

theorem Path.mem_locate_unpositioned (path : Path) {document node : Document} {address : Address}
    (distinct : document.KeysDistinct) :
    (address, node) ∈ path.unpositioned.locate document ↔
      Reaches path.tests document address node := by
  induction path generalizing document address with
  | nil =>
    constructor
    · intro member
      cases List.mem_singleton.mp member
      exact .done
    · intro reaches
      cases reaches
      exact List.mem_singleton_self _
  | cons step path ih =>
    have there : unpositioned (step :: path) = ⟨step.test, none⟩ :: unpositioned path := rfl
    rw [there, locate, Place.mem_further, tests_cons]
    have alone : Step.locate ⟨step.test, none⟩ document = step.test.locate document := rfl
    rw [alone]
    by_cases self : step.test = .self
    · rw [if_pos self, self]
      constructor
      · intro member
        obtain ⟨front, middle, back, rfl, outer, inner⟩ := member
        cases List.mem_singleton.mp outer
        exact (ih distinct).mp inner
      · intro reaches
        exact ⟨[], document, address, rfl, List.mem_singleton_self _, (ih distinct).mpr reaches⟩
    · rw [if_neg self]
      constructor
      · intro member
        obtain ⟨front, middle, back, rfl, outer, inner⟩ := member
        have first := (StepTest.mem_locate self distinct).mp outer
        exact first.append ((ih (distinct.at first.at)).mp inner)
      · intro reaches
        obtain ⟨front, middle, back, rfl, first, further⟩ := reaches.split
        exact ⟨front, middle, back, rfl, (StepTest.mem_locate self distinct).mpr first,
          (ih (distinct.at first.at)).mpr further⟩

/-! ## Expressions of one path -/

theorem PathExpression.exists_path {source : Text} {expression : PathExpression}
    (accepted : parse source = .ok expression) (single : '|' ∉ source) :
    ∃ path, expression = ⟨[path]⟩ := by
  have alone : Text.fields '|' source = [source] := by
    apply Text.fields_eq_iff.mpr
    refine ⟨List.cons_ne_nil _ _, ?_, by simp⟩
    intro part member
    cases List.mem_singleton.mp member
    exact single
  unfold parse at accepted
  rw [alone, readEach] at accepted
  cases read : Path.read 0 source with
  | error fault =>
    rw [read] at accepted
    cases accepted
  | ok path =>
    rw [read] at accepted
    cases accepted
    exact ⟨path, rfl⟩

/-- The addresses of what a path selects from a document, positions apart: the addresses that match
the path, in the order of the document, none twice and none inside another. -/
structure Path.Lists (path : Path) (document : Document) (addresses : List Address) : Prop where
  mem_iff : ∀ address, address ∈ addresses ↔
    (∃ node, document.at? address = some node) ∧ path.Matches document address
  ordered : addresses.Pairwise document.Before
  nodup : addresses.Nodup
  apart : addresses.Pairwise fun first second => ¬ first <+: second ∧ ¬ second <+: first

theorem Path.lists_locate (path : Path) {document : Document} (distinct : document.KeysDistinct) :
    path.Lists document ((path.unpositioned.locate document).map Prod.fst) := by
  have ordered := List.pairwise_map.mpr (path.unpositioned.pairwise_locate distinct)
  have separate := ordered.imp fun before => before.not_prefix distinct
  constructor
  · intro address
    constructor
    · intro member
      obtain ⟨⟨_, node⟩, found, rfl⟩ := List.mem_map.mp member
      have reaches := (path.mem_locate_unpositioned distinct).mp found
      obtain ⟨there, matching⟩ := Path.reaches_tests_iff.mp reaches
      exact ⟨⟨node, there⟩, matching⟩
    · intro matching
      obtain ⟨⟨node, found⟩, matching⟩ := matching
      have reaches := Path.reaches_tests_iff.mpr ⟨found, matching⟩
      exact List.mem_map.mpr ⟨_, (path.mem_locate_unpositioned distinct).mpr reaches, rfl⟩
  · exact ordered
  · refine separate.imp ?_
    intro first second apart same
    exact apart.1 (same ▸ List.prefix_rfl)
  · exact separate

theorem Path.at_locate (path : Path) {document : Document} (distinct : document.KeysDistinct) :
    ((path.locate document).map Prod.fst).map document.at? =
      (path.select document).map some := by
  rw [← path.nodes_locate document, List.map_map, List.map_map]
  apply List.map_congr_left
  intro place member
  have kept := (path.locate_sublist document).subset member
  exact ((path.mem_locate_unpositioned distinct).mp kept).at

/-- A single path selects the elements at the addresses that match it: each once, none inside
another, in the order of the document. Positions leave some of them out and do nothing else. -/
theorem PathExpression.select_matching (source : Text) (expression : PathExpression)
    (document : Document) (accepted : parse source = .ok expression) (single : '|' ∉ source)
    (distinct : document.KeysDistinct) :
    ∃ path, expression = ⟨[path]⟩ ∧
      ∃ addresses chosen : List Address, path.Lists document addresses ∧
        addresses.map document.at? =
          (select ⟨[path.unpositioned]⟩ document).map some ∧
        chosen.Sublist addresses ∧
        chosen.map document.at? = (expression.select document).map some ∧
        ((∀ step ∈ path, step.position = none) → chosen = addresses) := by
  obtain ⟨path, rfl⟩ := exists_path accepted single
  have alone : ∀ path : Path, select ⟨[path]⟩ document = path.select document := by
    intro path
    simp [select]
  refine ⟨path, rfl, (path.unpositioned.locate document).map Prod.fst,
    (path.locate document).map Prod.fst, path.lists_locate distinct, ?_, ?_, ?_, ?_⟩
  · rw [alone]
    exact path.unpositioned.at_locate distinct
  · exact (path.locate_sublist document).map Prod.fst
  · rw [alone]
    exact path.at_locate distinct
  · intro free
    rw [Path.unpositioned_of_forall free]

/-- A position counts below one element, so that each of two elements selects its own first `B`;
what stands beside under another key is not selected. -/
theorem PathExpression.select_matching_repeated :
    ∃ document path,
      Json.read? ("\x7b\"A\":\x7b\"B\":[\"x\",\"y\"],\"C\":\"u\"\x7d," ++
          "\"D\":[\x7b\"C\":\"v\"\x7d,\x7b\"B\":\"z\"\x7d]\x7d").toList = some document ∧
        parse "*/B[1]".toList = .ok ⟨[path]⟩ ∧
        ∃ addresses chosen : List Address, path.Lists document addresses ∧
          addresses.map document.at? =
            [some (.string ['x']), some (.string ['y']), some (.string ['z'])] ∧
          chosen.Sublist addresses ∧
          chosen.map document.at? = [some (.string ['x']), some (.string ['z'])] := by
  have accepted : parse "*/B[1]".toList =
      .ok ⟨[[⟨.wildcard, none⟩, ⟨.name ['B'], some 1⟩]]⟩ := by decide +kernel
  have read :
      Json.read? ("\x7b\"A\":\x7b\"B\":[\"x\",\"y\"],\"C\":\"u\"\x7d," ++
          "\"D\":[\x7b\"C\":\"v\"\x7d,\x7b\"B\":\"z\"\x7d]\x7d").toList =
        some (.object [
          (['A'], .object [(['B'], .array [.string ['x'], .string ['y']]),
            (['C'], .string ['u'])]),
          (['D'], .array [.object [(['C'], .string ['v'])],
            .object [(['B'], .string ['z'])]])]) := by cbv
  obtain ⟨path, same, addresses, chosen, lists, all, sublist, nodes, _⟩ :=
    select_matching _ _ _ accepted (by decide) (Json.keysDistinct_of_read? read)
  cases same
  exact ⟨_, _, read, accepted, addresses, chosen, lists, all, sublist, nodes⟩

end QueryTemplate
