import QueryTemplate.Settings.Basic
import QueryTemplate.Text.Quoted

/-!
# Settings from documents

An object gives fields by their keys, an array gives them in order. Fields that are not given keep
their defaults, and keys that are not known do not count. The first field that does not have its
type is reported, in the order of the document.
-/

set_option autoImplicit false

namespace QueryTemplate

inductive Expectation where
  | boolean
  | string
  | capacity
  | settings
  | cacheSettings
  deriving DecidableEq, Repr

/-- The way in which a document differs from settings. -/
inductive Mismatch where
  | wrongType (found : Document) (expected : Expectation)
  | wrongValue (found : Whole)
  | tooManyItems (count : Nat)

namespace Expectation

def described : Expectation → Text
  | boolean => "a boolean".toList
  | string => "a string".toList
  | capacity => "usize".toList
  | settings => "struct Settings".toList
  | cacheSettings => "struct TemplateSettings".toList

end Expectation

namespace Document

/-- The kind of a document and, if it is short, what it holds. -/
def described : Document → Text
  | .null => "null".toList
  | .boolean b => "boolean `".toList ++ Text.ofBool b ++ "`".toList
  | .whole n => "integer `".toList ++ Text.signedDecimal n.val ++ "`".toList
  | .float x => "floating point `".toList ++ Json.floatText x ++ "`".toList
  | .string t => "string ".toList ++ Text.quoted t
  | .array _ => "sequence".toList
  | .object _ => "map".toList

end Document

namespace Mismatch

def message : Mismatch → Text
  | wrongType found expected =>
    "invalid type: ".toList ++ found.described ++ ", expected ".toList ++ expected.described
  | wrongValue found =>
    "invalid value: ".toList ++ (Document.whole found).described ++ ", expected ".toList ++
      Expectation.described .capacity
  | tooManyItems count =>
    "invalid length ".toList ++ Text.decimal count ++
      ", expected fewer elements in array".toList

end Mismatch

namespace Document

def asBoolean : Document → Except Mismatch Bool
  | .boolean b => .ok b
  | document => .error (.wrongType document .boolean)

def asString : Document → Except Mismatch Text
  | .string t => .ok t
  | document => .error (.wrongType document .string)

def asCapacity : Document → Except Mismatch UInt64
  | .whole n => if 0 ≤ n.val then .ok (UInt64.ofNat n.val.toNat) else .error (.wrongValue n)
  | document => .error (.wrongType document .capacity)

end Document

/-- Gives fields to a record one after the other. -/
def setFields {α : Type} (set : α → Text → Document → Except Mismatch α) (record : α) :
    Members → Except Mismatch α
  | [] => .ok record
  | (key, document) :: rest =>
    match set record key document with
    | .error mismatch => .error mismatch
    | .ok next => setFields set next rest

/-- Gives a record its fields in order, and refuses further items. -/
def setItems {α : Type} (set : α → Text → Document → Except Mismatch α) (record : α)
    (keys : List Text) (items : List Document) : Except Mismatch α :=
  match setFields set record (keys.zip items) with
  | .error mismatch => .error mismatch
  | .ok result =>
    if items.length ≤ keys.length then .ok result else .error (.tooManyItems items.length)

/-- Reads a record from an object by the keys of its fields, or from an array by their order. -/
def readRecord {α : Type} (set : α → Text → Document → Except Mismatch α) (standard : α)
    (keys : List Text) (expected : Expectation) : Document → Except Mismatch α
  | .object members => setFields set standard members
  | .array items => setItems set standard keys items
  | document => .error (.wrongType document expected)

namespace CacheSettings

def set (settings : CacheSettings) (key : Text) (document : Document) :
    Except Mismatch CacheSettings :=
  if key = enabledKey then document.asBoolean.map fun b => { settings with enabled := b }
  else if key = capacityKey then
    document.asCapacity.map fun n => { settings with capacity := n }
  else .ok settings

def ofDocument : Document → Except Mismatch CacheSettings :=
  readRecord set {} keys .cacheSettings

end CacheSettings

namespace Settings

def set (settings : Settings) (key : Text) (document : Document) : Except Mismatch Settings :=
  if key = debugKey then document.asBoolean.map fun b => { settings with debug := b }
  else if key = logLevelKey then document.asString.map fun t => { settings with logLevel := t }
  else if key = cacheKey then
    (CacheSettings.ofDocument document).map fun cache => { settings with cache := cache }
  else .ok settings

def ofDocument : Document → Except Mismatch Settings := readRecord set {} keys .settings

end Settings

end QueryTemplate
