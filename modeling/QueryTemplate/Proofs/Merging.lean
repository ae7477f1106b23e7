import Mathlib.Data.List.TakeWhile
import QueryTemplate.Document.Merge
import QueryTemplate.Proofs.Addresses

/-! One document laid over another. Merging takes a member out and stores it again at the end, so
that members change places; as long as the keys of every object are different, no member is lost
or doubled, and what lies at a key depends on nothing but what lies there in the two documents. -/

set_option autoImplicit false

namespace QueryTemplate

namespace Members

theorem get?_eq_none_iff {key : Text} {members : Members} :
    members.get? key = none ↔ key ∉ members.map Prod.fst := by
  rw [get?, List.lookup_eq_none_iff]
  constructor
  · intro other inside
    obtain ⟨member, inside', rfl⟩ := List.mem_map.mp inside
    exact bne_iff_ne.mp (other member inside') rfl
  · intro missing member inside
    exact bne_iff_ne.mpr fun same => missing (List.mem_map.mpr ⟨member, inside, same.symm⟩)

theorem get?_perm {members others : Members} (order : members.Perm others)
    (distinct : (members.map Prod.fst).Nodup) (key : Text) :
    members.get? key = others.get? key := by
  have distinct' := (order.map Prod.fst).nodup_iff.mp distinct
  apply Option.ext
  intro document
  rw [get?_eq_some_iff_mem distinct, get?_eq_some_iff_mem distinct', order.mem_iff]

/-! ## Taking out and storing again -/

theorem perm_cons_swapRemove {key : Text} {members : Members} {document : Document}
    (found : members.get? key = some document) :
    members.Perm ((key, document) :: members.swapRemove key) := by
  obtain ⟨front, back, rfl, other⟩ := List.lookup_eq_some_iff.mp found
  have before : ∀ member ∈ front, (member.1 != key) = true := fun member inside =>
    bne_iff_ne.mpr (Ne.symm (by simpa using other member inside))
  have removed : swapRemove key (front ++ (key, document) :: back) =
      front ++ back.getLast?.toList ++ back.dropLast := by
    rw [swapRemove, List.dropWhile_append_of_pos before, List.takeWhile_append_of_pos before]
    simp
  have moved : (back.getLast?.toList ++ back.dropLast).Perm back := by
    rcases List.eq_nil_or_concat back with rfl | ⟨others, last, rfl⟩
    · rfl
    · have swapped : ([last] ++ others).Perm (others ++ [last]) := List.perm_append_comm
      simpa using swapped
  rw [removed, List.append_assoc]
  exact List.perm_middle.trans ((moved.symm.append_left front).cons _)

/-- Up to the order of the members, nothing is taken out but the member with the key. -/
theorem swapRemove_perm_filter {members : Members} (distinct : (members.map Prod.fst).Nodup)
    (key : Text) :
    (members.swapRemove key).Perm (members.filter fun member => member.1 ≠ key) := by
  cases found : members.get? key with
  | none =>
    have others : ∀ member ∈ members, member.1 ≠ key := fun member inside same =>
      get?_eq_none_iff.mp found (List.mem_map.mpr ⟨member, inside, same⟩)
    have stays : members.swapRemove key = members := by
      have none : members.dropWhile (fun member => member.1 != key) = [] :=
        List.dropWhile_eq_nil_iff.mpr fun member inside => bne_iff_ne.mpr (others member inside)
      rw [swapRemove, none]
    rw [stays, List.filter_eq_self.mpr fun member inside => decide_eq_true (others member inside)]
  | some document =>
    have order := perm_cons_swapRemove found
    have apart := (List.nodup_cons.mp ((order.map Prod.fst).nodup_iff.mp distinct)).1
    have others : ∀ member ∈ members.swapRemove key, member.1 ≠ key := fun member inside same =>
      apart (List.mem_map.mpr ⟨member, inside, same⟩)
    have rest := order.filter fun member => decide (member.1 ≠ key)
    rw [List.filter_cons_of_neg (by simp),
      List.filter_eq_self.mpr fun member inside => decide_eq_true (others member inside)] at rest
    exact rest.symm

theorem nodup_restored {members : Members} (distinct : (members.map Prod.fst).Nodup) (key : Text)
    (document : Document) :
    ((members.swapRemove key ++ [(key, document)]).map Prod.fst).Nodup := by
  have order := ((swapRemove_perm_filter distinct key).append_right [(key, document)]).trans
    List.perm_append_comm
  rw [(order.map Prod.fst).nodup_iff]
  refine List.nodup_cons.mpr ⟨by simp, ?_⟩
  exact distinct.sublist (List.filter_sublist.map Prod.fst)

theorem get?_restored {members : Members} (distinct : (members.map Prod.fst).Nodup)
    (key other : Text) (document : Document) :
    (members.swapRemove key ++ [(key, document)]).get? other =
      if key = other then some document else members.get? other := by
  have order := ((swapRemove_perm_filter distinct key).append_right [(key, document)]).trans
    List.perm_append_comm
  rw [get?_perm order (nodup_restored distinct key document), List.singleton_append, get?_cons]
  split
  · rfl
  · rename_i different
    have kept : ((members.filter fun member => member.1 ≠ key).map Prod.fst).Nodup :=
      distinct.sublist (List.filter_sublist.map Prod.fst)
    apply Option.ext
    intro below
    rw [get?_eq_some_iff_mem kept, get?_eq_some_iff_mem distinct, List.mem_filter]
    simp [Ne.symm different]

/-! ## Merging -/

theorem nodup_merge {members overriding : Members} (distinct : (members.map Prod.fst).Nodup) :
    ((Members.merge members overriding).map Prod.fst).Nodup := by
  induction overriding generalizing members with
  | nil => exact distinct
  | cons member rest ih =>
    rw [Members.merge]
    exact ih (nodup_restored distinct _ _)

/-- What lies at a key in merged members is what lies there in either of the two, merged if it
lies in both. -/
theorem get?_merge {members overriding : Members} (distinct : (members.map Prod.fst).Nodup)
    (distinct' : (overriding.map Prod.fst).Nodup) (key : Text) :
    (Members.merge members overriding).get? key =
      (members.get? key).merge Document.merge (overriding.get? key) := by
  induction overriding generalizing members with
  | nil =>
    rw [Members.merge, get?_nil]
    cases members.get? key <;> rfl
  | cons member rest ih =>
    obtain ⟨own, overlay⟩ := member
    obtain ⟨missing, distinct'⟩ := List.nodup_cons.mp distinct'
    rw [Members.merge, ih (nodup_restored distinct _ _) distinct', get?_restored distinct, get?_cons]
    by_cases same : own = key
    · subst same
      have after : Members.get? own rest = none := get?_eq_none_iff.mpr missing
      rw [if_pos rfl, if_pos rfl, after]
      cases members.get? own <;> rfl
    · rw [if_neg same, if_neg same]

end Members

namespace Document

theorem KeysDistinct.keys {members : Members} (distinct : (object members).KeysDistinct) :
    (members.map Prod.fst).Nodup :=
  distinct [] members rfl

theorem merge_object (members overriding : Members) :
    merge (object members) (object overriding) = object (members.merge overriding) := by
  rw [merge]

theorem merge_of_leaf {base : Document} (leaf : ∀ members, base ≠ object members)
    (overlay : Document) : base.merge overlay = overlay := by
  cases base with
  | object members => exact absurd rfl (leaf members)
  | _ => rw [merge]; simp

theorem merge_leaf (base : Document) {overlay : Document}
    (leaf : ∀ members, overlay ≠ object members) : base.merge overlay = overlay := by
  cases overlay with
  | object members => exact absurd rfl (leaf members)
  | _ => rw [merge]; simp

theorem object_or_merge_eq (base overlay : Document) :
    (∃ members overriding, base = object members ∧ overlay = object overriding) ∨
      base.merge overlay = overlay := by
  cases base with
  | object members =>
    cases overlay with
    | object overriding => exact .inl ⟨members, overriding, rfl, rfl⟩
    | _ => exact .inr (merge_leaf _ (by simp))
  | _ => exact .inr (merge_of_leaf (by simp) _)

theorem below?_merge {members overriding : Members}
    (distinct : (object members).KeysDistinct) (distinct' : (object overriding).KeysDistinct)
    (key : Text) :
    ((object members).merge (object overriding)).below? (.key key) =
      ((object members).below? (.key key)).merge Document.merge
        ((object overriding).below? (.key key)) := by
  rw [merge_object]
  exact Members.get?_merge distinct.keys distinct'.keys key

theorem KeysDistinct.merge {base overlay : Document} (distinct : base.KeysDistinct)
    (distinct' : overlay.KeysDistinct) : (base.merge overlay).KeysDistinct := by
  intro address inner found
  induction address generalizing base overlay with
  | nil =>
    rcases object_or_merge_eq base overlay with ⟨members, overriding, rfl, rfl⟩ | replaced
    · rw [merge_object] at found
      cases found
      exact Members.nodup_merge distinct.keys
    · rw [replaced] at found
      exact distinct' [] inner found
  | cons segment address ih =>
    rcases object_or_merge_eq base overlay with ⟨members, overriding, rfl, rfl⟩ | replaced
    · obtain ⟨below, found, further⟩ := at?_cons_eq_some_iff.mp found
      cases segment with
      | index =>
        rw [merge_object] at found
        cases found
      | key key =>
        rw [below?_merge distinct distinct'] at found
        cases mine : (object members).below? (.key key) with
        | none =>
          rw [mine, Option.merge_none_left] at found
          exact distinct'.below found address inner further
        | some own =>
          cases other : (object overriding).below? (.key key) with
          | none =>
            rw [mine, other] at found
            cases found
            exact distinct.below mine address inner further
          | some above =>
            rw [mine, other] at found
            cases found
            exact ih (distinct.below mine) (distinct'.below other) further
    · rw [replaced] at found
      exact distinct' (segment :: address) inner found

/-- A document whose base has a leaf at the end of some keys has there what is laid over the leaf,
or the leaf if nothing is. -/
theorem at?_merge_of_leaf {base overlay leaf : Document} (distinct : base.KeysDistinct)
    (distinct' : overlay.KeysDistinct) {path : List Text}
    (found : base.at? (path.map .key) = some leaf) (simple : ∀ members, leaf ≠ object members)
    (objects : ∀ front key, front ++ [key] <+: path → ∀ node,
      overlay.at? (front.map .key) = some node → ∃ members, node = object members) :
    (base.merge overlay).at? (path.map .key) =
      some ((overlay.at? (path.map .key)).getD leaf) := by
  induction path generalizing base overlay with
  | nil =>
    cases found
    rw [merge_of_leaf simple]
    rfl
  | cons key path ih =>
    obtain ⟨below, found, further⟩ := at?_cons_eq_some_iff.mp found
    obtain ⟨members, rfl, _⟩ := below?_key_eq_some_iff.mp found
    obtain ⟨overriding, rfl⟩ := objects [] key (List.prefix_append [key] path) overlay rfl
    rw [List.map_cons, at?, below?_merge distinct distinct', found, at?]
    cases laid : (object overriding).below? (.key key) with
    | none => simpa using further
    | some above =>
      refine ih (distinct.below found) (distinct'.below laid) further ?_
      intro front key' inside node there
      refine objects (key :: front) key' (List.cons_prefix_cons.mpr ⟨rfl, inside⟩) node ?_
      exact at?_cons_eq_some_iff.mpr ⟨above, laid, there⟩

end Document

end QueryTemplate
