import Mathlib.Data.Nat.Init
import Mathlib.Data.Option.Basic
import QueryTemplate.Proofs.Addresses
import QueryTemplate.Toml.Reader

/-! The documents that TOML text is read as have objects with different keys. A key is stored anew
only where it is missing, so every line keeps the keys of each table apart; sorting the members of
a table leaves them what they are. -/

set_option autoImplicit false

namespace QueryTemplate

namespace Toml

/-! ## Values -/

/-- That the members of tables have different keys, however deep a table lies. -/
inductive Value.KeysDistinct : Value → Prop where
  | text {t : Text} : KeysDistinct (.text t)
  | moment {t : Text} : KeysDistinct (.moment t)
  | boolean {b : Bool} : KeysDistinct (.boolean b)
  | whole {n : Whole} : KeysDistinct (.whole n)
  | float {x : Binary64} : KeysDistinct (.float x)
  | array {items : List Value} : (∀ item ∈ items, item.KeysDistinct) → KeysDistinct (.array items)
  | table {members : List (Text × Value)} : (members.map Prod.fst).Nodup →
      (∀ member ∈ members, member.2.KeysDistinct) → KeysDistinct (.table members)

namespace Value

theorem of_mem_documents? {items : List Value} {documents : List Document}
    (read : documents? items = some documents) :
    ∀ document ∈ documents, ∃ item ∈ items, item.document? = some document := by
  induction items generalizing documents with
  | nil =>
    cases read
    simp
  | cons item items ih =>
    rw [documents?] at read
    split at read
    · rename_i first others readFirst readOthers
      cases read
      refine List.forall_mem_cons.mpr ⟨⟨item, List.mem_cons_self, readFirst⟩, ?_⟩
      intro document member
      obtain ⟨other, inside, readOther⟩ := ih readOthers document member
      exact ⟨other, List.mem_cons_of_mem _ inside, readOther⟩
    · cases read

theorem map_fst_of_members? {members : List (Text × Value)} {documents : Members}
    (read : members? members = some documents) :
    documents.map Prod.fst = members.map Prod.fst := by
  induction members generalizing documents with
  | nil =>
    cases read
    rfl
  | cons member members ih =>
    rw [members?] at read
    split at read
    · rename_i first others _ readOthers
      cases read
      simp [ih readOthers]
    · cases read

theorem of_mem_members? {members : List (Text × Value)} {documents : Members}
    (read : members? members = some documents) :
    ∀ entry ∈ documents, ∃ member ∈ members, member.2.document? = some entry.2 := by
  induction members generalizing documents with
  | nil =>
    cases read
    simp
  | cons member members ih =>
    rw [members?] at read
    split at read
    · rename_i first others readFirst readOthers
      cases read
      refine List.forall_mem_cons.mpr ⟨⟨member, List.mem_cons_self, readFirst⟩, ?_⟩
      intro entry inside
      obtain ⟨other, further, readOther⟩ := ih readOthers entry inside
      exact ⟨other, List.mem_cons_of_mem _ further, readOther⟩
    · cases read

theorem KeysDistinct.document? {value : Value} (distinct : value.KeysDistinct)
    {document : Document} (read : value.document? = some document) : document.KeysDistinct := by
  induction distinct generalizing document with
  | @float x =>
    cases read
    split <;> exact Document.keysDistinct_of_simple rfl
  | @array items _ ih =>
    obtain ⟨documents, readItems, rfl⟩ := Option.map_eq_some_iff.mp read
    apply Document.keysDistinct_array
    intro node inside
    obtain ⟨item, member, readItem⟩ := of_mem_documents? readItems node inside
    exact ih item member readItem
  | @table members different _ ih =>
    cases members with
    | nil =>
      cases read
      exact Document.keysDistinct_object List.nodup_nil (by simp)
    | cons member members =>
      obtain ⟨key, value⟩ := member
      rw [Value.document?] at read
      split at read
      · obtain ⟨text, _, rfl⟩ := Option.map_eq_some_iff.mp read
        exact Document.keysDistinct_of_simple rfl
      · split at read
        · rename_i first others readFirst readOthers
          cases read
          have sorts : (sorted ((key, first) :: others)).Perm ((key, first) :: others) :=
            List.mergeSort_perm _ _
          have whole : members? ((key, value) :: members) = some ((key, first) :: others) := by
            rw [members?, readFirst, readOthers]
          apply Document.keysDistinct_object
          · rw [(sorts.map Prod.fst).nodup_iff, map_fst_of_members? whole]
            exact different
          · intro entry inside
            obtain ⟨member, further, readMember⟩ :=
              of_mem_members? whole entry (sorts.mem_iff.mp inside)
            exact ih member further readMember
        · cases read
  | _ =>
    cases read
    exact Document.keysDistinct_of_simple rfl

end Value

/-! ## Tables in the making -/

inductive Item.KeysDistinct : Item → Prop where
  | value {value : Value} : value.KeysDistinct → KeysDistinct (.value value)
  | table {origin : Origin} {entries : List (Text × Item)} : (entries.map Prod.fst).Nodup →
      (∀ entry ∈ entries, entry.2.KeysDistinct) → KeysDistinct (.table origin entries)
  | tables {elements : List (List (Text × Item))} :
      (∀ entries ∈ elements, (entries.map Prod.fst).Nodup) →
      (∀ entries ∈ elements, ∀ entry ∈ entries, entry.2.KeysDistinct) →
      KeysDistinct (.tables elements)

namespace Entries

structure KeysDistinct (entries : Entries) : Prop where
  keys : (entries.map Prod.fst).Nodup
  items : ∀ entry ∈ entries, entry.2.KeysDistinct

theorem values_eq_map (entries : Entries) :
    values entries = entries.map fun entry => (entry.1, entry.2.toValue) := by
  induction entries with
  | nil => rfl
  | cons entry entries ih => rw [values, ih, List.map_cons]

theorem tables_eq_map (elements : List Entries) :
    tables elements = elements.map fun entries => .table (values entries) := by
  induction elements with
  | nil => rfl
  | cons entries elements ih => rw [tables, ih, List.map_cons]

theorem keysDistinct_table {entries : Entries} (different : (entries.map Prod.fst).Nodup)
    (values : ∀ entry ∈ entries, entry.2.toValue.KeysDistinct) :
    Value.KeysDistinct (.table (Entries.values entries)) := by
  rw [values_eq_map]
  refine .table (by rwa [List.map_map]) ?_
  intro member inside
  obtain ⟨entry, own, rfl⟩ := List.mem_map.mp inside
  exact values entry own

end Entries

theorem Item.KeysDistinct.toValue {item : Item} (distinct : item.KeysDistinct) :
    item.toValue.KeysDistinct := by
  induction distinct with
  | value distinct => exact distinct
  | table different _ ih => exact Entries.keysDistinct_table different ih
  | tables different _ ih =>
    rw [Item.toValue, Entries.tables_eq_map]
    refine .array ?_
    intro value inside
    obtain ⟨entries, member, rfl⟩ := List.mem_map.mp inside
    exact Entries.keysDistinct_table (different entries member) (ih entries member)

namespace Entries

theorem KeysDistinct.toValue {entries : Entries} (distinct : entries.KeysDistinct) :
    entries.toValue.KeysDistinct :=
  keysDistinct_table distinct.keys fun entry member => (distinct.items entry member).toValue

theorem keysDistinct_nil : KeysDistinct [] := ⟨List.nodup_nil, by simp⟩

theorem map_fst_put (key : Text) (item : Item) (entries : Entries) :
    (entries.put key item).map Prod.fst =
      if key ∈ entries.map Prod.fst then entries.map Prod.fst
      else entries.map Prod.fst ++ [key] := by
  induction entries with
  | nil => rfl
  | cons entry entries ih =>
    obtain ⟨own, below⟩ := entry
    by_cases same : own = key
    · simp [put, same]
    · by_cases inside : key ∈ entries.map Prod.fst
      · rw [if_pos inside] at ih
        simp [put, same, ih, inside]
      · rw [if_neg inside] at ih
        simp [put, same, ih, inside, Ne.symm same]

theorem mem_put {key : Text} {item : Item} {entries : Entries} {entry : Text × Item}
    (stored : entry ∈ entries.put key item) : entry = (key, item) ∨ entry ∈ entries := by
  induction entries with
  | nil => exact .inl (List.mem_singleton.mp stored)
  | cons first entries ih =>
    obtain ⟨own, below⟩ := first
    rw [put] at stored
    split at stored
    · rename_i same
      subst same
      exact (List.mem_cons.mp stored).imp_right (List.mem_cons_of_mem _)
    · rcases List.mem_cons.mp stored with rfl | later
      · exact .inr List.mem_cons_self
      · exact (ih later).imp_right (List.mem_cons_of_mem _)

theorem KeysDistinct.concat {entries : Entries} (distinct : entries.KeysDistinct) {key : Text}
    (missing : key ∉ entries.map Prod.fst) {item : Item} (stored : item.KeysDistinct) :
    KeysDistinct (entries ++ [(key, item)]) := by
  constructor
  · rw [List.map_append, List.nodup_append]
    refine ⟨distinct.keys, List.nodup_singleton key, ?_⟩
    intro first member second last same
    cases List.mem_singleton.mp last
    subst same
    exact missing member
  · intro entry inside
    rcases List.mem_append.mp inside with old | new
    · exact distinct.items entry old
    · cases List.mem_singleton.mp new
      exact stored

theorem KeysDistinct.put {entries : Entries} (distinct : entries.KeysDistinct) (key : Text)
    {item : Item} (stored : item.KeysDistinct) : KeysDistinct (entries.put key item) := by
  constructor
  · rw [map_fst_put]
    split
    · exact distinct.keys
    · rename_i missing
      simpa using (distinct.concat missing stored).keys
  · intro entry inside
    rcases mem_put inside with rfl | old
    · exact stored
    · exact distinct.items entry old

theorem KeysDistinct.lookup {entries : Entries} (distinct : entries.KeysDistinct) {key : Text}
    {item : Item} (found : entries.lookup key = some item) : item.KeysDistinct := by
  obtain ⟨front, back, rfl, _⟩ := List.lookup_eq_some_iff.mp found
  exact distinct.items (key, item) (by simp)

/-! ## Changes of tables -/

/-- That a change of a table keeps the keys in it apart. -/
def Keeps (change : Origin → Entries → Option Entries) : Prop :=
  ∀ origin entries result, entries.KeysDistinct → change origin entries = some result →
    result.KeysDistinct

theorem KeysDistinct.at? {missing : Origin} {change : Origin → Entries → Option Entries}
    (keeps : Keeps change) {path : List Text} {origin : Origin} {entries result : Entries}
    (distinct : entries.KeysDistinct)
    (changed : Entries.at? missing change path origin entries = some result) :
    result.KeysDistinct := by
  induction path generalizing origin entries result with
  | nil => exact keeps origin entries result distinct changed
  | cons key path ih =>
    rw [Entries.at?] at changed
    split at changed
    · obtain ⟨inner, below, rfl⟩ := Option.map_eq_some_iff.mp changed
      have made := ih keysDistinct_nil below
      exact distinct.put key (.table made.keys made.items)
    · cases changed
    · rename_i own old found
      split at changed
      · cases changed
      · obtain ⟨inner, below, rfl⟩ := Option.map_eq_some_iff.mp changed
        cases distinct.lookup found with
        | table keys items =>
          have made := ih ⟨keys, items⟩ below
          exact distinct.put key (.table made.keys made.items)
    · rename_i elements found
      obtain ⟨last, isLast, changed⟩ := Option.bind_eq_some_iff.mp changed
      obtain ⟨inner, below, changed⟩ := Option.bind_eq_some_iff.mp changed
      cases changed
      cases distinct.lookup found with
      | tables keys items =>
        have inside := List.mem_of_getLast? isLast
        have made := ih ⟨keys last inside, items last inside⟩ below
        have earlier : ∀ entries ∈ elements.dropLast ++ [inner], KeysDistinct entries := by
          intro entries member
          rcases List.mem_append.mp member with old | new
          · have old := (List.dropLast_sublist elements).subset old
            exact ⟨keys entries old, items entries old⟩
          · cases List.mem_singleton.mp new
            exact made
        exact distinct.put key (.tables (fun entries member => (earlier entries member).keys)
          fun entries member => (earlier entries member).items)

theorem KeysDistinct.assign {entries result : Entries} (distinct : entries.KeysDistinct)
    {path : List Text} {key : Text} {value : Value} (stored : value.KeysDistinct)
    (changed : entries.assign path key value = some result) : result.KeysDistinct := by
  refine distinct.at? ?_ changed
  intro origin entries result distinct changed
  dsimp only at changed
  split at changed
  · cases changed
  · split at changed
    · cases changed
      exact distinct.put key (.value stored)
    · cases changed

theorem KeysDistinct.assignUnder {entries result : Entries} (distinct : entries.KeysDistinct)
    {header path : List Text} {key : Text} {value : Value} (stored : value.KeysDistinct)
    (changed : entries.assignUnder header path key value = some result) :
    result.KeysDistinct :=
  distinct.at? (fun _ _ _ distinct changed => distinct.assign stored changed) changed

theorem KeysDistinct.openTable {entries result : Entries} (distinct : entries.KeysDistinct)
    {path : List Text} {key : Text} (changed : entries.openTable path key = some result) :
    result.KeysDistinct := by
  refine distinct.at? ?_ changed
  intro origin entries result distinct changed
  dsimp only at changed
  split at changed
  · cases changed
    exact distinct.put key (.table List.nodup_nil (by simp))
  · rename_i inner found
    cases changed
    cases distinct.lookup found with
    | table keys items =>
      have others : KeysDistinct (entries.filter fun entry => entry.1 ≠ key) :=
        ⟨distinct.keys.sublist (List.filter_sublist.map Prod.fst),
          fun entry member => distinct.items entry (List.mem_of_mem_filter member)⟩
      exact others.concat (by simp) (.table keys items)
  · cases changed

theorem KeysDistinct.openElement {entries result : Entries} (distinct : entries.KeysDistinct)
    {path : List Text} {key : Text} (changed : entries.openElement path key = some result) :
    result.KeysDistinct := by
  refine distinct.at? ?_ changed
  intro origin entries result distinct changed
  dsimp only at changed
  split at changed
  · cases changed
    exact distinct.put key (.tables (by simp) (by simp))
  · rename_i elements found
    cases changed
    cases distinct.lookup found with
    | tables keys items =>
      refine distinct.put key (.tables ?_ ?_)
      · intro entries member
        rcases List.mem_append.mp member with old | new
        · exact keys entries old
        · cases List.mem_singleton.mp new
          exact List.nodup_nil
      · intro entries member
        rcases List.mem_append.mp member with old | new
        · exact items entries old
        · cases List.mem_singleton.mp new
          simp
  · cases changed

end Entries

/-! ## Reading values -/

theorem keysDistinct_of_signedWord? {i : Int} {value : Value} (read : signedWord? i = some value) :
    value.KeysDistinct := by
  obtain ⟨_, read⟩ := Option.ite_none_right_eq_some.mp read
  obtain ⟨n, _, rfl⟩ := Option.map_eq_some_iff.mp read
  exact .whole

theorem keysDistinct_of_ofBase? {base : Nat} {text : Text} {value : Value}
    (read : ofBase? base text = some value) : value.KeysDistinct := by
  obtain ⟨_, _, read⟩ := Option.bind_eq_some_iff.mp read
  obtain ⟨_, _, read⟩ := Option.bind_eq_some_iff.mp read
  exact keysDistinct_of_signedWord? read

theorem keysDistinct_of_whole? {text : Text} {value : Value} (read : whole? text = some value) :
    value.KeysDistinct := by
  unfold whole? at read
  split at read
  · exact keysDistinct_of_ofBase? read
  · exact keysDistinct_of_ofBase? read
  · exact keysDistinct_of_ofBase? read
  · obtain ⟨_, _, read⟩ := Option.bind_eq_some_iff.mp read
    exact keysDistinct_of_signedWord? read

theorem keysDistinct_of_ofDigits? {x : Binary64} {value : Value}
    (read : ofDigits? x = some value) : value.KeysDistinct := by
  obtain ⟨_, read⟩ := Option.ite_none_right_eq_some.mp read
  cases read
  exact .float

theorem keysDistinct_of_float? {text : Text} {value : Value} (read : float? text = some value) :
    value.KeysDistinct := by
  unfold float? at read
  split at read
  split at read
  · cases read
    exact .float
  split at read
  · cases read
    exact .float
  -- Whatever the parts of the number are, it is made of digits in the end.
  dsimp only at read
  repeat' first
    | exact keysDistinct_of_ofDigits? read
    | split at read
    | obtain ⟨_, _, read⟩ := Option.bind_eq_some_iff.mp read

theorem keysDistinct_of_word? {text : Text} {value : Value} (read : word? text = some value) :
    value.KeysDistinct := by
  unfold word? at read
  split at read
  · cases read
    exact .boolean
  · split at read
    · cases read
      exact .boolean
    · rcases (Option.orElse_eq_some _ _ _).mp read with moment | ⟨_, read⟩
      · obtain ⟨_, _, rfl⟩ := Option.map_eq_some_iff.mp moment
        exact .moment
      · rcases (Option.orElse_eq_some _ _ _).mp read with whole | ⟨_, read⟩
        · exact keysDistinct_of_whole? whole
        · exact keysDistinct_of_float? read

theorem keysDistinct_of_scalar? {text rest : Text} {value : Value}
    (read : scalar? text = some (value, rest)) : value.KeysDistinct := by
  have word {word behind : Text} (found : (word? word).map (·, behind) = some (value, rest)) :
      value.KeysDistinct := by
    obtain ⟨_, read, same⟩ := Option.map_eq_some_iff.mp found
    cases same
    exact keysDistinct_of_word? read
  unfold scalar? at read
  dsimp only at read
  split at read
  · split at read
    · exact word read
    · exact word read
  · exact word read

/-- That a reader finds no values but such as have tables with different keys. -/
def Sound (read? : Text → Option (Value × Text)) : Prop :=
  ∀ text value rest, read? text = some (value, rest) → value.KeysDistinct

theorem sound_items? {depth : Nat} (sound : Sound (value? depth)) {before : List Value}
    (distinct : ∀ item ∈ before, item.KeysDistinct) : Sound (items? depth before) := by
  intro text value rest read
  induction length : text.length using Nat.strong_induction_on generalizing before text with
  | _ bound ih =>
    subst length
    rw [items?] at read
    split at read
    · cases read
    · cases read
      exact .array fun item member => distinct item (List.mem_reverse.mp member)
    · split at read
      · cases read
      · rename_i item behind readItem
        have more : ∀ item' ∈ item :: before, item'.KeysDistinct :=
          List.forall_mem_cons.mpr ⟨sound _ _ _ readItem, distinct⟩
        split at read
        · obtain ⟨shorter, read⟩ := Option.ite_none_right_eq_some.mp read
          exact ih _ shorter more _ read rfl
        · cases read
          exact .array fun item member => more item (List.mem_reverse.mp member)
        · cases read

theorem sound_members? {depth : Nat} (sound : Sound (value? depth)) {before : Entries}
    (distinct : before.KeysDistinct) : Sound (members? depth before) := by
  intro text value rest read
  induction length : text.length using Nat.strong_induction_on generalizing before text with
  | _ bound ih =>
    subst length
    rw [members?] at read
    split at read
    · split at read
      · cases read
      · rename_i readValue
        split at read
        · cases read
        · rename_i entries assigned
          have more := distinct.assign (sound _ _ _ readValue) assigned
          split at read
          · obtain ⟨shorter, read⟩ := Option.ite_none_right_eq_some.mp read
            exact ih _ shorter more _ read rfl
          · cases read
            exact more.toValue
          · cases read
    · cases read

theorem sound_string? : Sound fun text => (string? text).map fun (t, rest) => (.text t, rest) := by
  intro text value rest read
  obtain ⟨⟨_, _⟩, _, same⟩ := Option.map_eq_some_iff.mp read
  cases same
  exact .text

theorem sound_value? (depth : Nat) : Sound (value? depth) := by
  induction depth with
  | zero =>
    intro text value rest read
    unfold value? at read
    split at read
    · exact sound_string? _ _ _ read
    · exact sound_string? _ _ _ read
    · contradiction
    · contradiction
    · exact keysDistinct_of_scalar? read
  | succ depth ih =>
    intro text value rest read
    unfold value? at read
    split at read
    · exact sound_string? _ _ _ read
    · exact sound_string? _ _ _ read
    · rename_i same
      cases same
      exact sound_items? ih (by simp) _ _ _ read
    · rename_i same
      cases same
      split at read
      · cases read
        exact .table List.nodup_nil (by simp)
      · exact sound_members? ih Entries.keysDistinct_nil _ _ _ read
    · exact keysDistinct_of_scalar? read

/-! ## Reading lines -/

namespace Reading

theorem keysDistinct_header? {reading next : Reading} {close rest text : Text}
    {define : List Text → Text → Entries → Option Entries}
    (keeps : ∀ path key entries, reading.entries.KeysDistinct →
      define path key reading.entries = some entries → entries.KeysDistinct)
    (distinct : reading.entries.KeysDistinct)
    (read : reading.header? close define text = some (next, rest)) :
    next.entries.KeysDistinct := by
  obtain ⟨⟨path, key, _⟩, _, read⟩ := Option.bind_eq_some_iff.mp read
  obtain ⟨_, _, read⟩ := Option.bind_eq_some_iff.mp read
  obtain ⟨_, _, read⟩ := Option.bind_eq_some_iff.mp read
  obtain ⟨entries, defined, read⟩ := Option.bind_eq_some_iff.mp read
  cases read
  exact keeps path key entries distinct defined

theorem keysDistinct_assignment? {reading next : Reading} {rest text : Text}
    (distinct : reading.entries.KeysDistinct)
    (read : reading.assignment? text = some (next, rest)) : next.entries.KeysDistinct := by
  unfold assignment? at read
  split at read
  · obtain ⟨⟨value, _⟩, readValue, read⟩ := Option.bind_eq_some_iff.mp read
    obtain ⟨_, _, read⟩ := Option.bind_eq_some_iff.mp read
    obtain ⟨entries, assigned, read⟩ := Option.bind_eq_some_iff.mp read
    cases read
    exact distinct.assignUnder (sound_value? _ _ _ _ readValue) assigned
  · cases read

theorem keysDistinct_line? {reading next : Reading} {rest text : Text}
    (distinct : reading.entries.KeysDistinct)
    (read : reading.line? text = some (next, rest)) : next.entries.KeysDistinct := by
  unfold line? at read
  split at read
  · exact keysDistinct_header? (fun _ _ _ distinct => distinct.openElement) distinct read
  · exact keysDistinct_header? (fun _ _ _ distinct => distinct.openTable) distinct read
  · exact keysDistinct_assignment? distinct read

theorem keysDistinct_lines? {reading last : Reading} {text : Text}
    (distinct : reading.entries.KeysDistinct) (read : reading.lines? text = some last) :
    last.entries.KeysDistinct := by
  induction length : text.length using Nat.strong_induction_on generalizing reading text with
  | _ bound ih =>
    subst length
    rw [lines?] at read
    split at read
    · cases read
    · cases read
      exact distinct
    · split at read
      · cases read
      · rename_i next rest line
        obtain ⟨shorter, read⟩ := Option.ite_none_right_eq_some.mp read
        exact ih _ shorter (keysDistinct_line? distinct line) read rfl

end Reading

theorem keysDistinct_of_read? {text : Text} {document : Document}
    (read : read? text = some document) : document.KeysDistinct := by
  obtain ⟨reading, lines, read⟩ := Option.bind_eq_some_iff.mp read
  have distinct := Reading.keysDistinct_lines? Entries.keysDistinct_nil lines
  exact distinct.toValue.document? read

end Toml

end QueryTemplate
