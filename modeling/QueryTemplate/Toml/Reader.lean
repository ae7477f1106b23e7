import QueryTemplate.Toml.Scalar
import QueryTemplate.Toml.Strings
import QueryTemplate.Toml.Table

/-!
# Reading TOML text

A TOML text is read line by line. A header names the table that the lines below it belong to; any
other line stores a value under a key. Values may reach over several lines.
-/

set_option autoImplicit false

namespace QueryTemplate

namespace Toml

def skipFiller (inComment : Bool) : Text → Option Text
  | [] => some []
  | '\n' :: rest => skipFiller false rest
  | '\r' :: '\n' :: rest => skipFiller false rest
  | c :: rest =>
    if inComment then if isContent c then skipFiller true rest else none
    else if isLineBlank c then skipFiller false rest
    else if c = '#' then skipFiller true rest
    else some (c :: rest)

def skipBlanks (text : Text) : Text := text.dropWhile isLineBlank

/-- What follows the end of a line, with a comment in front of it or without. -/
def afterLine? (text : Text) : Option Text :=
  match skipBlanks text with
  | [] => some []
  | '\n' :: rest => some rest
  | '\r' :: '\n' :: rest => some rest
  | '#' :: rest => skipFiller true rest
  | _ => none

def isKeyChar (c : Char) : Bool := c.isAlphanum || c == '_' || c == '-'

/-- Reads one key: a word, or a string on one line. -/
def key? (text : Text) : Option (Text × Text) :=
  match text with
  | '"' :: rest => basicBody rest
  | '\'' :: rest => literalBody rest
  | _ =>
    let word := text.takeWhile isKeyChar
    if word = [] then none else some (word, text.dropWhile isKeyChar)

/-- Tables are nested and dotted keys are written less deep than this. -/
def depthLimit : Nat := 80

/-- Reads keys with periods between them, given those before; all but the last one, the last one,
and what follows it. -/
def dottedFrom? (before : List Text) (text : Text) : Option (List Text × Text × Text) :=
  match key? (skipBlanks text) with
  | none => none
  | some (key, rest) =>
    match skipBlanks rest with
    | '.' :: rest =>
      if rest.length < text.length then dottedFrom? (before ++ [key]) rest else none
    | rest => if before.length + 1 < depthLimit then some (before, key, rest) else none
termination_by text.length

def dotted? (text : Text) : Option (List Text × Text × Text) := dottedFrom? [] text

mutual

/-- Reads a value: the value, and what follows it. Arrays and inline tables may be nested in it
as deep as `depth` says. -/
def value? (depth : Nat) (text : Text) : Option (Value × Text) :=
  match depth, text with
  | _, '"' :: _ => (string? text).map fun (t, rest) => (.text t, rest)
  | _, '\'' :: _ => (string? text).map fun (t, rest) => (.text t, rest)
  | depth + 1, '[' :: rest => items? depth [] rest
  | depth + 1, '{' :: rest =>
    match skipBlanks rest with
    | '}' :: rest => some (.table [], rest)
    | rest => members? depth [] rest
  | _, _ => scalar? text
termination_by (depth, 0, 0)

/-- Reads the items of an array behind its opening bracket or behind a comma, given those before,
the last one first. -/
def items? (depth : Nat) (before : List Value) (text : Text) : Option (Value × Text) :=
  match skipFiller false text with
  | none => none
  | some (']' :: rest) => some (.array before.reverse, rest)
  | some start =>
    match value? depth start with
    | none => none
    | some (item, rest) =>
      match skipFiller false rest with
      | some (',' :: rest) =>
        if rest.length < text.length then items? depth (item :: before) rest else none
      | some (']' :: rest) => some (.array (item :: before).reverse, rest)
      | _ => none
termination_by (depth, 1, text.length)

/-- Reads the members of an inline table behind its opening brace or behind a comma, given those
before. -/
def members? (depth : Nat) (before : Entries) (text : Text) : Option (Value × Text) :=
  match dotted? text with
  | some (path, key, '=' :: rest) =>
    match value? depth (skipBlanks rest) with
    | none => none
    | some (value, rest) =>
      match before.assign path key value with
      | none => none
      | some entries =>
        match skipBlanks rest with
        | ',' :: rest =>
          if rest.length < text.length then members? depth entries rest else none
        | '}' :: rest => some (entries.toValue, rest)
        | _ => none
  | _ => none
termination_by (depth, 1, text.length)

end

/-- What the lines so far have defined, and the header under which the next ones stand. -/
structure Reading where
  header : List Text := []
  entries : Entries := []

namespace Reading

/-- Reads a header behind its opening brackets, as many as `close` ends it with. -/
def header? (reading : Reading) (close : Text)
    (define : List Text → Text → Entries → Option Entries) (text : Text) :
    Option (Reading × Text) := do
  let (path, key, rest) ← dotted? text
  let rest ← Text.after? close rest
  let rest ← afterLine? rest
  let entries ← define path key reading.entries
  some (⟨path ++ [key], entries⟩, rest)

def assignment? (reading : Reading) (text : Text) : Option (Reading × Text) :=
  match dotted? text with
  | some (path, key, '=' :: rest) => do
    let (value, rest) ← value? (depthLimit - 1) (skipBlanks rest)
    let rest ← afterLine? rest
    let entries ← reading.entries.assignUnder reading.header path key value
    some (⟨reading.header, entries⟩, rest)
  | _ => none

/-- Reads one line that is neither blank nor a comment. -/
def line? (reading : Reading) : Text → Option (Reading × Text)
  | '[' :: '[' :: rest => reading.header? [']', ']'] (fun p k e => Entries.openElement p k e) rest
  | '[' :: rest => reading.header? [']'] (fun p k e => Entries.openTable p k e) rest
  | text => reading.assignment? text

def lines? (reading : Reading) (text : Text) : Option Reading :=
  match skipFiller false text with
  | none => none
  | some [] => some reading
  | some start =>
    match reading.line? start with
    | none => none
    | some (next, rest) => if rest.length < text.length then next.lines? rest else none
termination_by text.length

end Reading

/-- A text without the mark of its byte order that it may start with. -/
def withoutMark : Text → Text
  | '\uFEFF' :: rest => rest
  | text => text

/-- The document that a text is the TOML form of; its objects have their keys sorted. -/
def read? (text : Text) : Option Document :=
  (Reading.lines? {} (withoutMark text)).bind fun reading => reading.entries.toValue.document?

end Toml

end QueryTemplate
