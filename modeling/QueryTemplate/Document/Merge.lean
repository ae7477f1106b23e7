import QueryTemplate.Document.Basic

/-!
# Merging documents

One document laid over another. Objects are merged member by member, at every depth; anything else
is replaced as a whole.
-/

set_option autoImplicit false

namespace QueryTemplate

mutual

/-- The document `overlay` laid over `base`. -/
def Document.merge (base overlay : Document) : Document :=
  match base, overlay with
  | .object members, .object overriding => .object (Members.merge members overriding)
  | _, overlay => overlay

/-- Each overriding member in turn: the member with its key, if there is one, gives up its place
to the last one, and the merged document is stored at the end. -/
def Members.merge (members : Members) (overriding : List (Text × Document)) : Members :=
  match overriding with
  | [] => members
  | (key, overlay) :: rest =>
    let merged :=
      match members.get? key with
      | some base => Document.merge base overlay
      | none => overlay
    Members.merge (members.swapRemove key ++ [(key, merged)]) rest

end

end QueryTemplate
