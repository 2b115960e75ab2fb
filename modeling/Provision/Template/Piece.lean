import Provision.Failure
import Provision.Parameter.Name
import Provision.Template.Token
import Provision.Text.Blank

/-!
# Pieces of a template

A supported template is literal text with at most one reference. A reference names a parameter:
between the delimiters stands `params.` and a name, with white space around them.

Results:

* `reference?_eq_some_iff`: a reference is `params.` and a name between blanks.
-/

namespace Provision

/-- A piece of a template (`Node`). -/
inductive Piece where
  | literal (content : String)
  | reference (name : String)
  deriving DecidableEq, Repr

/-- What stands in front of the name in a reference (`REFERENCE_PREFIX`). -/
def referencePrefix : List Char :=
  ['p', 'a', 'r', 'a', 'm', 's', '.']

/-- A text without the given text in front, if it starts with that. -/
def withoutPrefix? (front : List Char) (cs : List Char) : Option (List Char) :=
  if front.isPrefixOf cs then some (cs.drop front.length) else none

/-- The name that the content of a pair of delimiters refers to (`parse_reference`). -/
def reference? (content : List Char) : Option String :=
  match withoutPrefix? referencePrefix (trim content) with
  | some name => if isName name then some (String.ofList name) else none
  | none => none

theorem withoutPrefix?_eq_some_iff {front cs rest : List Char} :
    withoutPrefix? front cs = some rest ↔ cs = front ++ rest := by
  unfold withoutPrefix?
  constructor
  · intro h
    split at h
    · next hp =>
      obtain ⟨tail, rfl⟩ := List.isPrefixOf_iff_prefix.1 hp
      simp only [List.drop_left, Option.some.injEq] at h
      rw [h]
    · cases h
  · rintro rfl
    rw [if_pos (List.isPrefixOf_iff_prefix.2 ⟨rest, rfl⟩), List.drop_left]

theorem reference?_eq_some_iff {content : List Char} {name : String} :
    reference? content = some name ↔
      isName name.toList = true ∧ trim content = referencePrefix ++ name.toList := by
  rw [← withoutPrefix?_eq_some_iff]
  unfold reference?
  cases withoutPrefix? referencePrefix (trim content) with
  | none => simp
  | some rest =>
    by_cases hn : isName rest = true
    · simp only [if_pos hn, Option.some.injEq]
      constructor
      · rintro rfl; simp [hn]
      · rintro ⟨-, rfl⟩; simp
    · simp only [if_neg hn, reduceCtorEq, Option.some.injEq, false_iff, not_and]
      rintro hname rfl
      exact hn hname

namespace Piece

/-- Whether a piece is a reference. -/
def isReference : Piece → Bool
  | .reference _ => true
  | .literal _ => false

/-- The pieces that the tokens make up: the loop of `parse`. The first unsupported token from the
    left is the one that is reported. -/
def ofTokens : List Token → Except TemplateFault (List Piece)
  | [] => .ok []
  | .text content :: rest =>
    (ofTokens rest).map (.literal (String.ofList content) :: ·)
  | .closing :: _ => .error .unmatchedClose
  | .opening :: .text content :: .closing :: rest =>
    match reference? content with
    | some name => (ofTokens rest).map (.reference name :: ·)
    | none => .error .notReference
  | .opening :: .text _ :: .opening :: _ => .error .nestedOpen
  | .opening :: .text _ :: _ => .error .unterminated
  | .opening :: .closing :: _ => .error .emptyReference
  | .opening :: .opening :: _ => .error .nestedOpen
  | [.opening] => .error .unterminated

/-- The pieces of a text, of which at most one is a reference: the count behind the loop. -/
def ofText (cs : List Char) : Except TemplateFault (List Piece) :=
  match ofTokens (Token.tokens cs) with
  | .ok found => if 1 < found.countP isReference then .error .severalReferences else .ok found
  | .error fault => .error fault

end Piece

/-- The pieces of a template (`parse`). -/
def pieces (source : String) : Except Failure (List Piece) :=
  (Piece.ofText source.toList).mapError (.unsupportedExpression source)

end Provision
