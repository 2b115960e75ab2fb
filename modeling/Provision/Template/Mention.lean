import Provision.Template.Piece

/-!
# Names mentioned in a template

Whether or not a template is supported, the names between its delimiters are known: a mention is
`params.` with the longest name behind it, unless the character in front belongs to a name too.
A scan goes on behind the name that it has found.

Results:

* `mentions_eq_nil`: a literal mentions nothing.
-/

namespace Provision

namespace Mention

/-- The mentions in a text, in order (`collect_references`). The first `skip` characters have been
    read already, and `before` tells whether a name may be running on from the character in
    front. -/
def scan (skip : Nat) (before : Bool) : List Char → List (List Char)
  | [] => []
  | c :: cs =>
    match skip with
    | k + 1 => scan k false cs
    | 0 =>
      match withoutPrefix? referencePrefix (c :: cs) with
      | none => scan 0 (isNameChar c) cs
      | some after =>
        let name := after.takeWhile isNameChar
        let rest := scan (referencePrefix.length + name.length - 1) false cs
        if name.isEmpty || before then rest else name :: rest

/-- The mentions in the texts that follow an opening delimiter: the loop of `dependencies`. -/
def ofTokens (inside : Bool) : List Token → List (List Char)
  | [] => []
  | .opening :: rest => ofTokens true rest
  | .closing :: rest => ofTokens false rest
  | .text content :: rest =>
    (if inside then scan 0 false content else []) ++ ofTokens inside rest

end Mention

/-- The names that a template mentions, in order (`dependencies`). A literal mentions nothing. -/
def mentions (source : String) : List String :=
  if isTemplate source.toList then
    (Mention.ofTokens false (Token.tokens source.toList)).map String.ofList
  else []

theorem mentions_eq_nil {source : String} (h : isTemplate source.toList = false) :
    mentions source = [] := by
  simp [mentions, h]

end Provision
