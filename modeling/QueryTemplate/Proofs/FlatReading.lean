import Mathlib.Data.List.Infix
import QueryTemplate.Proofs.Evaluation
import QueryTemplate.Proofs.RoundTrip

/-! Rendering read off the tokens of a source. Opening and closing tags are matched like brackets,
whatever their names; a token is written if every block around it is rendered. No tree is built,
and what a bind stands for is never looked at again. -/

set_option autoImplicit false

namespace QueryTemplate

namespace Token

def opensBlock : Token → Bool
  | .opening _ _ _ => true
  | _ => false

def closesBlock : Token → Bool
  | .closing _ _ => true
  | _ => false

/-- The tokens close no block that was opened in front of them: up to no place among them are more
blocks closed than opened. -/
def ClosesOwn (tokens : List Token) : Prop :=
  ∀ part ∈ tokens.inits, part.countP closesBlock ≤ part.countP opensBlock

instance (tokens : List Token) : Decidable (ClosesOwn tokens) := by
  unfold ClosesOwn
  infer_instance

/-- The opening tags around the place behind tokens: those behind which no token closes a block
that was opened in front of it. The outermost comes first. -/
def enclosing : List Token → List Token
  | [] => []
  | token :: tokens =>
    if token.opensBlock = true ∧ ClosesOwn tokens then token :: enclosing tokens
    else enclosing tokens

section Flat

variable (answer : Text → Values)

def admits : Token → Bool
  | .opening name inverted _ => (answer name).isTruthy != inverted
  | _ => true

/-- A text behind tokens, if every block around it is rendered. -/
def guarded (before : List Token) (text : Text) : Text :=
  if (enclosing before).all (admits answer) then text else []

end Flat

/-! ## Matching brackets -/

theorem closesOwn_iff {tokens : List Token} :
    ClosesOwn tokens ↔
      ∀ part, part <+: tokens → part.countP closesBlock ≤ part.countP opensBlock := by
  simp only [ClosesOwn, List.mem_inits]

theorem prefix_append_cases {part front back : List Token} (start : part <+: front ++ back) :
    part <+: front ∨ ∃ rest, rest <+: back ∧ part = front ++ rest := by
  rcases List.prefix_or_prefix_of_prefix start (List.prefix_append front back) with short | long
  · exact .inl short
  · obtain ⟨rest, rfl⟩ := long
    exact .inr ⟨rest, (List.prefix_append_right_inj front).mp start, rfl⟩

theorem ClosesOwn.of_append {front back : List Token} (own : ClosesOwn (front ++ back)) :
    ClosesOwn front := by
  rw [closesOwn_iff] at own ⊢
  intro part start
  exact own part (start.trans (List.prefix_append front back))

/-- Tokens that close exactly the blocks that they open. -/
structure Balanced (tokens : List Token) : Prop where
  own : ClosesOwn tokens
  settled : tokens.countP closesBlock = tokens.countP opensBlock

theorem closesOwn_append_iff {front back : List Token} (own : ClosesOwn back) :
    ClosesOwn (front ++ back) ↔ ClosesOwn front := by
  constructor
  · exact ClosesOwn.of_append
  · intro ownFront
    rw [closesOwn_iff] at own ownFront ⊢
    intro part start
    rcases prefix_append_cases start with inFront | ⟨rest, inBack, rfl⟩
    · exact ownFront part inFront
    · have first := ownFront front (List.prefix_refl front)
      have second := own rest inBack
      rw [List.countP_append, List.countP_append]
      omega

theorem balanced_nil : Balanced [] := by
  constructor
  · simp [ClosesOwn]
  · rfl

theorem Balanced.append {front back : List Token} (first : Balanced front)
    (second : Balanced back) : Balanced (front ++ back) := by
  constructor
  · exact (closesOwn_append_iff second.own).mpr first.own
  · rw [List.countP_append, List.countP_append, first.settled, second.settled]

theorem balanced_singleton {token : Token} (opens : token.opensBlock = false)
    (closes : token.closesBlock = false) : Balanced [token] := by
  constructor
  · rw [closesOwn_iff]
    intro part start
    have none : part.countP closesBlock = 0 := by
      rw [List.countP_eq_zero]
      intro other member
      cases List.mem_singleton.mp (start.subset member)
      simp [closes]
    rw [none]
    exact Nat.zero_le _
  · simp [opens, closes]

theorem Balanced.wrap {inner : List Token} (balanced : Balanced inner) (name : Text)
    (inverted : Bool) (opened closed : Nat) :
    Balanced (.opening name inverted opened :: (inner ++ [.closing name closed])) := by
  have total := balanced.settled
  constructor
  · rw [closesOwn_iff]
    intro part start
    rcases List.prefix_cons_iff.mp start with rfl | ⟨rest, rfl, inRest⟩
    · exact Nat.le_refl _
    · have bounded : rest.countP closesBlock ≤ rest.countP opensBlock + 1 := by
        rcases prefix_append_cases inRest with inInner | ⟨last, inLast, rfl⟩
        · have own := closesOwn_iff.mp balanced.own rest inInner
          omega
        · have single := inLast.length_le
          have counted := List.countP_le_length (p := closesBlock) (l := last)
          rw [List.countP_append, List.countP_append]
          simp only [List.length_singleton] at single
          omega
      rw [List.countP_cons_of_neg (by simp [closesBlock]), List.countP_cons_of_pos rfl]
      exact bounded
  · rw [List.countP_cons_of_neg (by simp [closesBlock]), List.countP_cons_of_pos rfl,
      List.countP_append, List.countP_append, total]
    rfl

theorem balanced_of_flattens {t : Template} {tokens : List Token} (flattens : t.Flattens tokens) :
    Balanced tokens := by
  induction flattens with
  | nil => exact balanced_nil
  | literal _ ih => exact (balanced_singleton rfl rfl).append ih
  | slot _ ih => exact (balanced_singleton rfl rfl).append ih
  | @block name inverted opened closed body rest inner tokens _ _ bodyIH ih =>
    have whole := (bodyIH.wrap name inverted opened closed).append ih
    simpa using whole

theorem enclosing_append {front back : List Token} (own : ClosesOwn back) :
    enclosing (front ++ back) = enclosing front ++ enclosing back := by
  induction front with
  | nil => rfl
  | cons token front ih =>
    simp only [List.cons_append, enclosing, closesOwn_append_iff own, ih]
    split <;> rfl

/-- A tag that is not around the place behind the first tokens is not around any later one. -/
theorem enclosing_append_of_eq_nil {front : List Token} (closed : enclosing front = [])
    (back : List Token) : enclosing (front ++ back) = enclosing back := by
  induction front with
  | nil => rfl
  | cons token front ih =>
    simp only [enclosing] at closed
    split at closed
    · cases closed
    · rename_i inside
      rw [List.cons_append, enclosing, ih closed, if_neg]
      intro around
      exact inside ⟨around.1, around.2.of_append⟩

theorem enclosing_of_flattens {t : Template} {tokens : List Token}
    (flattens : t.Flattens tokens) : enclosing tokens = [] := by
  induction flattens with
  | nil => rfl
  | literal _ ih => simpa [enclosing, opensBlock] using ih
  | slot _ ih => simpa [enclosing, opensBlock] using ih
  | @block name inverted opened closed body rest inner tokens bodyFlattens _ bodyIH ih =>
    have ended : ¬ ClosesOwn (inner ++ .closing name closed :: tokens) := by
      intro own
      have start : inner ++ [.closing name closed] <+: inner ++ .closing name closed :: tokens :=
        ⟨tokens, by simp⟩
      have bounded := closesOwn_iff.mp own _ start
      rw [List.countP_append, List.countP_append, (balanced_of_flattens bodyFlattens).settled]
        at bounded
      exact absurd bounded (Nat.not_succ_le_self _)
    have after : enclosing (.closing name closed :: tokens) = [] := by
      simpa [enclosing, opensBlock] using ih
    rw [enclosing, if_neg (fun around => ended around.2), enclosing_append_of_eq_nil bodyIH, after]

theorem enclosing_append_flattens {t : Template} {tokens : List Token}
    (flattens : t.Flattens tokens) (before : List Token) :
    enclosing (before ++ tokens) = enclosing before := by
  rw [enclosing_append (balanced_of_flattens flattens).own, enclosing_of_flattens flattens,
    List.append_nil]

theorem enclosing_concat_opening (before : List Token) (name : Text) (inverted : Bool)
    (offset : Nat) :
    enclosing (before ++ [.opening name inverted offset]) =
      enclosing before ++ [.opening name inverted offset] := by
  have own : ClosesOwn [.opening name inverted offset] := by
    simp [ClosesOwn, closesBlock]
  rw [enclosing_append own]
  rfl

section Guarded

variable {answer : Text → Values}

end Guarded

end Token

namespace Template

/-! ## The text of a template -/

variable (answer : Text → Values)

/-- What a template writes when every bind has values. -/
def written : Template → Text
  | nil => []
  | literal text rest => text ++ rest.written
  | slot name escaped rest => (answer name).shown escaped ++ rest.written
  | block name inverted body rest =>
    (if (answer name).isTruthy != inverted then body.written else []) ++ rest.written

theorem exists_tokens_of_parse {source : Text} {t : Template} (parsed : parse source = .ok t) :
    ∃ tokens, Token.ofSource source = .ok tokens ∧ t.Flattens tokens := by
  unfold parse at parsed
  split at parsed
  · cases parsed
  · rename_i tokens reads
    obtain ⟨pieces, writes, _⟩ := Token.exists_pieces_of_scan reads
    have apart : tokens.IsChain Token.Apart := by
      refine writes.isChain.imp ?_
      intro first second adjoins before after texts
      subst texts
      exact adjoins.1 after
    have flattens := flattens_of_ofTokens parsed
    rw [Token.joined_of_isChain apart] at flattens
    exact ⟨tokens, reads, flattens⟩

end Template

end QueryTemplate
