import Mathlib.Data.List.DropRight
import Mathlib.Data.List.Forall2
import QueryTemplate.Engine.Cache
import QueryTemplate.Proofs.TextLists

/-! What a cache holds after a history of requests: the templates of the sources that were asked
for first since it was emptied, up to its capacity. Digests stand for sources as long as no two
sources of the history have one digest. -/

set_option autoImplicit false

namespace QueryTemplate

/-- No two different texts of a list have one digest. -/
def Digest.Distinguishes (Key : Type) [Digest Key] (texts : List Text) : Prop :=
  ∀ first ∈ texts, ∀ second ∈ texts,
    (Digest.ofText first : Key) = Digest.ofText second → first = second

instance {Key : Type} [Digest Key] [DecidableEq Key] (texts : List Text) :
    Decidable (Digest.Distinguishes Key texts) := by
  unfold Digest.Distinguishes
  infer_instance

theorem Digest.Distinguishes.mono {Key : Type} [Digest Key] {texts fewer : List Text}
    (distinct : Distinguishes Key texts) (subset : fewer ⊆ texts) : Distinguishes Key fewer :=
  fun first firstMember second secondMember =>
    distinct first (subset firstMember) second (subset secondMember)

namespace Cache

/-! ## Histories of requests -/

namespace Request

def source? : Request → Option Text
  | .get source => some source
  | .contains source => some source
  | .clear => none

/-- The source that a request asks the template of, if it has one. -/
def wanted? : Request → Option Text
  | .get source => if (Template.parse source).isOk then some source else none
  | .contains _ => none
  | .clear => none

/-- The answer of a cache that holds the templates of some sources. -/
def answer (held : List Text) : Request → Answer
  | .get source => .template (Template.parse source)
  | .contains source => .contains (decide (source ∈ held))
  | .clear => .cleared

theorem wanted?_get {source : Text} {template : Template}
    (parsed : Template.parse source = .ok template) : wanted? (.get source) = some source := by
  rw [wanted?, parsed]
  rfl

theorem wanted?_get_of_error {source : Text} {error : SyntaxError}
    (parsed : Template.parse source = .error error) : wanted? (.get source) = none := by
  rw [wanted?, parsed]
  rfl

end Request

/-- The requests behind the last one that empties the cache. -/
def sinceCleared (requests : List Request) : List Request :=
  requests.rtakeWhile fun request => request != .clear

/-- The sources with templates that were asked for since the cache was emptied, each at its first
request. -/
def wanted (requests : List Request) : List Text :=
  ((sinceCleared requests).filterMap Request.wanted?).eraseDups

/-- The first of these sources, as many as a capacity admits. -/
def retained (capacity : Nat) (requests : List Request) : List Text :=
  if capacity = 0 then wanted requests else (wanted requests).take capacity

theorem sinceCleared_concat {request : Request} (kept : request ≠ .clear)
    (before : List Request) :
    sinceCleared (before ++ [request]) = sinceCleared before ++ [request] :=
  List.rtakeWhile_concat_pos _ _ _ (by simpa using kept)

theorem wanted_concat {request : Request} (kept : request ≠ .clear) {source : Text}
    (asked : request.wanted? = some source) (before : List Request) :
    wanted (before ++ [request]) =
      if source ∈ wanted before then wanted before else wanted before ++ [source] := by
  rw [wanted, sinceCleared_concat kept, List.filterMap_append, List.filterMap_cons_some asked]
  exact Text.eraseDups_concat _ source

theorem wanted_subset (requests : List Request) :
    wanted requests ⊆ requests.filterMap Request.source? := by
  intro source member
  obtain ⟨request, inside, asked⟩ := List.mem_filterMap.mp (List.mem_eraseDups.mp member)
  have whole : request ∈ requests := (List.rtakeWhile_suffix _ _).subset inside
  refine List.mem_filterMap.mpr ⟨request, whole, ?_⟩
  cases request with
  | get own =>
    rw [Request.wanted?] at asked
    split at asked
    · exact asked
    · cases asked
  | contains own => cases asked
  | clear => cases asked

/-- A capacity admits one more source than those that are held. -/
def Admits (capacity : Nat) (held : List Text) : Prop := capacity = 0 ∨ held.length < capacity

section Retained

variable {capacity : Nat} {before : List Request}

theorem retained_sublist (capacity : Nat) (requests : List Request) :
    (retained capacity requests).Sublist (wanted requests) := by
  rw [retained]
  split
  · exact List.Sublist.refl _
  · exact List.take_sublist _ _

theorem retained_subset (capacity : Nat) (requests : List Request) :
    retained capacity requests ⊆ requests.filterMap Request.source? :=
  fun _ member => wanted_subset requests ((retained_sublist capacity requests).subset member)

theorem length_retained_le (bounded : 0 < capacity) (requests : List Request) :
    (retained capacity requests).length ≤ capacity := by
  rw [retained, if_neg bounded.ne']
  exact List.length_take_le _ _

theorem retained_eq_wanted (room : Admits capacity (retained capacity before)) :
    retained capacity before = wanted before := by
  unfold Admits retained at room
  unfold retained
  split
  · rfl
  · rename_i bounded
    rw [if_neg bounded, List.length_take] at room
    exact List.take_of_length_le (by omega)

theorem retained_nil (capacity : Nat) : retained capacity [] = [] := by
  simp [retained, wanted, sinceCleared]

theorem retained_concat_clear (capacity : Nat) (before : List Request) :
    retained capacity (before ++ [.clear]) = [] := by
  have emptied : sinceCleared (before ++ [.clear]) = [] :=
    List.rtakeWhile_concat_neg _ _ _ (by simp)
  simp [retained, wanted, emptied]

theorem retained_concat_of_unwanted {request : Request} (kept : request ≠ .clear)
    (unwanted : request.wanted? = none) :
    retained capacity (before ++ [request]) = retained capacity before := by
  have same : wanted (before ++ [request]) = wanted before := by
    simp [wanted, sinceCleared_concat kept, unwanted]
  rw [retained, retained, same]

variable {request : Request} {source : Text}

theorem retained_concat_of_mem (kept : request ≠ .clear) (asked : request.wanted? = some source)
    (held : source ∈ retained capacity before) :
    retained capacity (before ++ [request]) = retained capacity before := by
  have known : source ∈ wanted before := (retained_sublist capacity before).subset held
  rw [retained, retained, wanted_concat kept asked, if_pos known]

theorem retained_concat_of_full (kept : request ≠ .clear) (asked : request.wanted? = some source)
    (full : ¬ Admits capacity (retained capacity before)) :
    retained capacity (before ++ [request]) = retained capacity before := by
  unfold Admits retained at full
  rw [retained, retained, wanted_concat kept asked]
  split
  · rename_i unbounded
    exact absurd (.inl unbounded) full
  · rename_i bounded
    rw [if_neg bounded, List.length_take] at full
    split
    · rfl
    · exact List.take_append_of_le_length (by omega)

theorem retained_concat_of_admits (kept : request ≠ .clear)
    (asked : request.wanted? = some source) (absent : source ∉ retained capacity before)
    (room : Admits capacity (retained capacity before)) :
    retained capacity (before ++ [request]) = retained capacity before ++ [source] := by
  have whole := retained_eq_wanted room
  rw [whole] at absent room ⊢
  rw [retained, wanted_concat kept asked, if_neg absent]
  split
  · rfl
  · rename_i bounded
    have fits : (wanted before).length < capacity := room.resolve_left bounded
    exact List.take_of_length_le (by simpa [Nat.succ_le_iff] using fits)

end Retained

/-! ## Contents of a cache -/

section Contents

variable {Key : Type} [Digest Key]

/-- An entry files the template of a source under the digest of the source. -/
structure Files (source : Text) (entry : Key × Template) : Prop where
  digest : entry.1 = Digest.ofText source
  template : Template.parse source = .ok entry.2

/-- The entries of a cache are those of some sources, one for each and in their order. -/
def Holds (cache : Cache Key) (held : List Text) : Prop := List.Forall₂ Files held cache.entries

theorem Holds.size_eq {cache : Cache Key} {held : List Text} (holds : cache.Holds held) :
    cache.size = held.length :=
  (List.Forall₂.length_eq holds).symm

theorem Holds.hasRoom_iff {cache : Cache Key} {held : List Text} (holds : cache.Holds held) :
    cache.hasRoom = true ↔ Admits cache.capacity held := by
  simp [hasRoom, Admits, holds.size_eq]

theorem Files.exists_template {held : List Text} {entries : List (Key × Template)}
    (files : List.Forall₂ Files held entries) {source : Text} (member : source ∈ held) :
    ∃ template, Template.parse source = .ok template := by
  induction files with
  | nil => cases member
  | cons filed _ ih =>
    rcases List.mem_cons.mp member with rfl | further
    · exact ⟨_, filed.template⟩
    · exact ih further

variable [DecidableEq Key]

theorem Files.lookup_eq_some_iff {held : List Text} {entries : List (Key × Template)}
    (files : List.Forall₂ Files held entries) {source : Text}
    (distinct : Digest.Distinguishes Key (source :: held)) (template : Template) :
    entries.lookup (Digest.ofText source) = some template ↔
      source ∈ held ∧ Template.parse source = .ok template := by
  induction files with
  | nil => simp
  | @cons first entry held entries filed _ ih =>
    obtain ⟨key, own⟩ := entry
    obtain ⟨rfl, parsed⟩ := filed
    by_cases same : source = first
    · subst same
      simp [parsed]
    · have different : (Digest.ofText source : Key) ≠ Digest.ofText first := fun equal =>
        same (distinct source (by simp) first (by simp) equal)
      have further := ih (distinct.mono (by simp))
      rw [List.lookup_cons, beq_eq_false_iff_ne.mpr different]
      simp [same, further]

variable {cache : Cache Key} {held : List Text} {source : Text}

theorem Holds.find?_eq_some_iff (holds : cache.Holds held)
    (distinct : Digest.Distinguishes Key (source :: held)) (template : Template) :
    cache.find? source = some template ↔ source ∈ held ∧ Template.parse source = .ok template :=
  Files.lookup_eq_some_iff holds distinct template

theorem Holds.contains_iff (holds : cache.Holds held)
    (distinct : Digest.Distinguishes Key (source :: held)) :
    cache.contains source = true ↔ source ∈ held := by
  rw [contains, Option.isSome_iff_exists]
  constructor
  · rintro ⟨template, found⟩
    exact ((holds.find?_eq_some_iff distinct template).mp found).1
  · intro member
    obtain ⟨template, parsed⟩ := Files.exists_template holds member
    exact ⟨template, (holds.find?_eq_some_iff distinct template).mpr ⟨member, parsed⟩⟩

theorem Holds.find?_eq_none (holds : cache.Holds held)
    (distinct : Digest.Distinguishes Key (source :: held)) (absent : source ∉ held) :
    cache.find? source = none := by
  rw [← Option.not_isSome_iff_eq_none]
  exact fun found => absent ((holds.contains_iff distinct).mp found)

theorem Holds.get_eq_parse (holds : cache.Holds held)
    (distinct : Digest.Distinguishes Key (source :: held)) :
    (cache.get source).1 = Template.parse source := by
  unfold get
  cases found : cache.find? source with
  | some template => exact ((holds.find?_eq_some_iff distinct template).mp found).2.symm
  | none =>
    cases Template.parse source with
    | error error => rfl
    | ok template =>
      dsimp only
      split <;> rfl

theorem Holds.get_of_mem (holds : cache.Holds held)
    (distinct : Digest.Distinguishes Key (source :: held)) (member : source ∈ held) :
    (cache.get source).2 = cache := by
  obtain ⟨template, parsed⟩ := Files.exists_template holds member
  rw [get, (holds.find?_eq_some_iff distinct template).mpr ⟨member, parsed⟩]

theorem get_of_error {error : SyntaxError} (parsed : Template.parse source = .error error) :
    (cache.get source).2 = cache := by
  rw [get, parsed]
  cases cache.find? source <;> rfl

theorem get_of_full (full : ¬ cache.hasRoom = true) : (cache.get source).2 = cache := by
  unfold get
  cases cache.find? source with
  | some template => rfl
  | none =>
    cases Template.parse source with
    | error error => rfl
    | ok template => simp [full]

theorem Holds.get_of_absent (holds : cache.Holds held)
    (distinct : Digest.Distinguishes Key (source :: held)) (absent : source ∉ held)
    (room : cache.hasRoom = true) {template : Template}
    (parsed : Template.parse source = .ok template) :
    (cache.get source).2.Holds (held ++ [source]) ∧
      (cache.get source).2.capacity = cache.capacity := by
  rw [get, holds.find?_eq_none distinct absent, parsed]
  simp only [room, if_true]
  exact ⟨List.rel_append holds (.cons ⟨rfl, parsed⟩ .nil), trivial⟩

end Contents

/-! ## Runs -/

section Runs

variable {Key : Type} [Digest Key]

/-- A cache of a capacity holds what it retains from a history of requests. -/
structure Keeps (cache : Cache Key) (capacity : Nat) (requests : List Request) : Prop where
  capacity_eq : cache.capacity = capacity
  holds : cache.Holds (retained capacity requests)

theorem Keeps.admits_iff {cache : Cache Key} {capacity : Nat} {requests : List Request}
    (keeps : cache.Keeps capacity requests) :
    cache.hasRoom = true ↔ Admits capacity (retained capacity requests) := by
  rw [keeps.holds.hasRoom_iff, keeps.capacity_eq]

variable {cache : Cache Key} {capacity : Nat} {before : List Request}

theorem keeps_new (capacity : Nat) : (⟨capacity, []⟩ : Cache Key).Keeps capacity [] :=
  ⟨rfl, by
    rw [retained_nil]
    exact .nil⟩

theorem Keeps.clear (keeps : cache.Keeps capacity before) :
    cache.clear.Keeps capacity (before ++ [.clear]) :=
  ⟨keeps.capacity_eq, by
    rw [retained_concat_clear]
    exact .nil⟩

theorem Keeps.of_retained_eq {after : List Request} (keeps : cache.Keeps capacity before)
    (same : retained capacity after = retained capacity before) : cache.Keeps capacity after :=
  ⟨keeps.capacity_eq, by
    rw [same]
    exact keeps.holds⟩

variable [DecidableEq Key]

theorem Keeps.get (keeps : cache.Keeps capacity before) {source : Text}
    (distinct : Digest.Distinguishes Key (source :: retained capacity before)) :
    (cache.get source).2.Keeps capacity (before ++ [.get source]) := by
  have kept : Request.get source ≠ .clear := by simp
  cases parsed : Template.parse source with
  | error error =>
    have unwanted := Request.wanted?_get_of_error parsed
    rw [get_of_error parsed]
    exact keeps.of_retained_eq (retained_concat_of_unwanted kept unwanted)
  | ok template =>
    have asked := Request.wanted?_get parsed
    by_cases member : source ∈ retained capacity before
    · rw [keeps.holds.get_of_mem distinct member]
      exact keeps.of_retained_eq (retained_concat_of_mem kept asked member)
    · by_cases room : Admits capacity (retained capacity before)
      · obtain ⟨holds, same⟩ :=
          keeps.holds.get_of_absent distinct member (keeps.admits_iff.mpr room) parsed
        refine ⟨same.trans keeps.capacity_eq, ?_⟩
        rwa [retained_concat_of_admits kept asked member room]
      · rw [get_of_full (fun free => room (keeps.admits_iff.mp free))]
        exact keeps.of_retained_eq (retained_concat_of_full kept asked room)

theorem Keeps.step (keeps : cache.Keeps capacity before) (request : Request)
    (distinct : Digest.Distinguishes Key (request.source?.toList ++ retained capacity before)) :
    (cache.step request).1 = request.answer (retained capacity before) ∧
      (cache.step request).2.Keeps capacity (before ++ [request]) := by
  cases request with
  | get source =>
    exact ⟨congrArg Answer.template (keeps.holds.get_eq_parse distinct), keeps.get distinct⟩
  | contains source =>
    have same : cache.contains source = decide (source ∈ retained capacity before) := by
      rw [Bool.eq_iff_iff, decide_eq_true_iff]
      exact keeps.holds.contains_iff distinct
    exact ⟨congrArg Answer.contains same,
      keeps.of_retained_eq (retained_concat_of_unwanted (by simp) rfl)⟩
  | clear => exact ⟨rfl, keeps.clear⟩

theorem run_append (cache : Cache Key) (front back : List Request) :
    cache.run (front ++ back) =
      ((cache.run front).1 ++ ((cache.run front).2.run back).1,
        ((cache.run front).2.run back).2) := by
  induction front generalizing cache with
  | nil => rfl
  | cons request front ih => simp only [List.cons_append, run, ih]

theorem length_answers_run (cache : Cache Key) (requests : List Request) :
    (cache.run requests).1.length = requests.length := by
  induction requests generalizing cache with
  | nil => rfl
  | cons request requests ih => simp only [run, List.length_cons, ih]

/-- The sources whose digests one request depends on belong to the history. -/
theorem concerned_subset (capacity : Nat) (before : List Request) (request : Request) :
    request.source?.toList ++ retained capacity before ⊆
      (before ++ [request]).filterMap Request.source? := by
  rw [List.filterMap_append]
  refine List.append_subset.mpr ⟨?_, ?_⟩
  · cases asked : request.source? <;> simp [asked]
  · exact List.subset_append_of_subset_left _ (retained_subset capacity before)

theorem keeps_run (capacity : Nat) (requests : List Request)
    (distinct : Digest.Distinguishes Key (requests.filterMap Request.source?)) :
    ((⟨capacity, []⟩ : Cache Key).run requests).2.Keeps capacity requests := by
  induction requests using List.reverseRecOn with
  | nil => exact keeps_new capacity
  | append_singleton before request ih =>
    have concerned := distinct.mono (concerned_subset capacity before request)
    rw [List.filterMap_append] at distinct
    have keeps := ih (distinct.mono (List.subset_append_left _ _))
    rw [run_append]
    exact (keeps.step request concerned).2

theorem answer_run {capacity : Nat} {requests before after : List Request} {request : Request}
    (split : requests = before ++ request :: after)
    (distinct : Digest.Distinguishes Key (requests.filterMap Request.source?)) :
    ((⟨capacity, []⟩ : Cache Key).run requests).1[before.length]? =
      some (request.answer (retained capacity before)) := by
  subst split
  have start : before ++ [request] <+: before ++ request :: after := ⟨after, by simp⟩
  have concerned := distinct.mono
    (List.Subset.trans (concerned_subset capacity before request) (start.filterMap _).subset)
  rw [List.filterMap_append] at distinct
  have keeps := keeps_run capacity before (distinct.mono (List.subset_append_left _ _))
  rw [run_append, List.getElem?_append_right (length_answers_run _ before).le,
    length_answers_run, Nat.sub_self]
  exact congrArg some (keeps.step request concerned).1

/-- A cache that was empty at the start holds the sources with templates that were asked for since
it was emptied, as many of the first as it keeps, and beside each what reading it gives. Whatever
it is asked, it answers as reading and these sources say, and it stays as it is when it holds the
source, when the source is no template and when it is full. -/
theorem run_retained (capacity : Nat) (requests : List Request)
    (distinct : Digest.Distinguishes Key (requests.filterMap Request.source?)) :
    let cache := ((⟨capacity, []⟩ : Cache Key).run requests).2
    let held := retained capacity requests
    cache.Holds held ∧ held.Nodup ∧ cache.size = held.length ∧
      (0 < capacity → cache.size ≤ capacity) ∧
      (∀ before request after, requests = before ++ request :: after →
        ((⟨capacity, []⟩ : Cache Key).run requests).1[before.length]? =
          some (request.answer (retained capacity before))) ∧
      ∀ source, Digest.Distinguishes Key (source :: requests.filterMap Request.source?) →
        (cache.contains source = true ↔ source ∈ held) ∧
          (cache.get source).1 = Template.parse source ∧
          (source ∈ held ∨ (∃ error, Template.parse source = .error error) ∨
              (0 < capacity ∧ cache.size = capacity) →
            (cache.get source).2 = cache) := by
  intro cache held
  have keeps : cache.Keeps capacity requests := keeps_run capacity requests distinct
  have size : cache.size = held.length := keeps.holds.size_eq
  refine ⟨keeps.holds, ?_, size, ?_, ?_, ?_⟩
  · exact (Text.nodup_eraseDups _).sublist (retained_sublist capacity requests)
  · intro bounded
    exact size.trans_le (length_retained_le bounded requests)
  · intro before request after split
    exact answer_run split distinct
  · intro source distinctFrom
    have concerned : Digest.Distinguishes Key (source :: held) :=
      distinctFrom.mono (List.cons_subset_cons source (retained_subset capacity requests))
    refine ⟨keeps.holds.contains_iff concerned, keeps.holds.get_eq_parse concerned, ?_⟩
    rintro (member | ⟨error, parsed⟩ | ⟨bounded, full⟩)
    · exact keeps.holds.get_of_mem concerned member
    · exact get_of_error parsed
    · apply get_of_full
      rw [keeps.admits_iff]
      rintro (unbounded | room)
      · exact bounded.ne' unbounded
      · exact absurd (size ▸ full) room.ne

end Runs

/-- Two templates and one source that is none, filed under their 256-bit digests where one entry
is kept. -/
theorem run_retained_one :
    let _ : Digest Nat := ⟨fun text =>
      if text = "one".toList then
        0x7692c3ad3540bb803c020b3aee66cd8887123234ea0c6e7143c0add73ff431ed
      else if text = "two".toList then
        0x3fc4ccfe745870e2c0d99f71f30ff0656c8dedd41cc1d7d3d376b0dbe685e2f3
      else 0x9d0e8aa2892a9f23fa7f89051a4ae0a05c2c4858c25a86c4e9ebf9060b9a63b2⟩
    let requests : List Request := [.get ['{', '{'], .get "one".toList, .get "two".toList,
      .contains "two".toList]
    let cache := ((⟨1, []⟩ : Cache Nat).run requests).2
    Digest.Distinguishes Nat (requests.filterMap Request.source?) ∧
      cache.Holds ["one".toList] ∧ cache.size = 1 ∧
      ((⟨1, []⟩ : Cache Nat).run requests).1[3]? = some (.contains false) ∧
      (cache.get "two".toList).1 = .ok (.literal "two".toList .nil) ∧
      (cache.get "two".toList).2 = cache := by
  intro _ requests cache
  have distinct : Digest.Distinguishes Nat (requests.filterMap Request.source?) := by decide
  have distinctFrom :
      Digest.Distinguishes Nat ("two".toList :: requests.filterMap Request.source?) := by decide
  have held : retained 1 requests = ["one".toList] := by decide +kernel
  have parsed : Template.parse "two".toList = .ok (.literal "two".toList .nil) := by
    decide +kernel
  obtain ⟨holds, _, size, _, answers, next⟩ := run_retained 1 requests distinct
  have answer := answers [.get ['{', '{'], .get "one".toList, .get "two".toList]
    (.contains "two".toList) [] rfl
  obtain ⟨_, template, unchanged⟩ := next "two".toList distinctFrom
  rw [held] at holds size
  have unheld : retained 1 [.get ['{', '{'], .get "one".toList, .get "two".toList] =
      ["one".toList] := by decide +kernel
  rw [unheld] at answer
  exact ⟨distinct, holds, size, answer, template.trans parsed,
    unchanged (.inr (.inr ⟨Nat.one_pos, size⟩))⟩

end Cache

end QueryTemplate
