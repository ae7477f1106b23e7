import QueryTemplate.Template.Nesting

/-!
# Template cache

Templates that were read before, filed under digests of their sources. A cache that is full stays
as it is: further templates are read and given away, but not kept. Sources that are no templates
are never kept.
-/

set_option autoImplicit false

namespace QueryTemplate

/-- Digests of texts. Two texts may have one digest. -/
class Digest (Key : Type) where
  ofText : Text → Key

/-- A text may stand for itself. -/
instance : Digest Text := ⟨id⟩

/-- Digests of sources with the templates of the sources, and the number of entries that are kept
at most; no bound is written as zero. -/
structure Cache (Key : Type := Text) where
  capacity : Nat
  entries : List (Key × Template) := []
  deriving DecidableEq, Repr

namespace Cache

variable {Key : Type}

def size (cache : Cache Key) : Nat := cache.entries.length

def isEmpty (cache : Cache Key) : Bool := cache.entries.isEmpty

def hasRoom (cache : Cache Key) : Bool := cache.capacity == 0 || cache.size < cache.capacity

def clear (cache : Cache Key) : Cache Key := { cache with entries := [] }

def described (cache : Cache Key) : Text :=
  "TemplateCache \x7b entries: ".toList ++ Text.decimal cache.size ++ ", capacity: ".toList ++
    Text.decimal cache.capacity ++ [' ', '}']

inductive Request where
  | get (source : Text)
  | contains (source : Text)
  | clear
  deriving DecidableEq, Repr

inductive Answer where
  | template (template : Except SyntaxError Template)
  | contains (contains : Bool)
  | cleared

variable [DecidableEq Key] [Digest Key]

def find? (cache : Cache Key) (source : Text) : Option Template :=
  cache.entries.lookup (Digest.ofText source)

def contains (cache : Cache Key) (source : Text) : Bool := (cache.find? source).isSome

/-- The template of a source, and the cache after the question. -/
def get (cache : Cache Key) (source : Text) : Except SyntaxError Template × Cache Key :=
  match cache.find? source with
  | some template => (.ok template, cache)
  | none =>
    match Template.parse source with
    | .error error => (.error error, cache)
    | .ok template =>
      if cache.hasRoom then
        (.ok template,
          { cache with entries := cache.entries ++ [(Digest.ofText source, template)] })
      else (.ok template, cache)

/-- The answer to a request, and the cache after it. -/
def step (cache : Cache Key) : Request → Answer × Cache Key
  | .get source =>
    let (template, cache) := cache.get source
    (.template template, cache)
  | .contains source => (.contains (cache.contains source), cache)
  | .clear => (.cleared, cache.clear)

/-- The answers to requests, in order, and the cache after all of them. -/
def run (cache : Cache Key) : List Request → List Answer × Cache Key
  | [] => ([], cache)
  | request :: requests =>
    let (answer, cache) := cache.step request
    let (answers, cache) := cache.run requests
    (answer :: answers, cache)

end Cache

end QueryTemplate
