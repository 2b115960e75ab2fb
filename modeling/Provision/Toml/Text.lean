import Provision.Toml.Number

/-!
# Texts of a TOML document

Basic texts stand between double quotes and have escapes; literal texts stand between single
quotes and have none. Between three quotes a text may span lines: a line end is read as a line
feed, and the one behind the opening quotes is dropped. A backslash at the end of a line swallows
the white space up to the next character.
-/

namespace Provision

namespace Toml

/-- Whether a character may stand in a text or a comment: a tab, or no control character. -/
def isTextChar (c : Char) : Bool :=
  c == '\t' || (0x20 ≤ c.toNat && c.toNat != 0x7f)

/-- Puts a character in front of a text that has been read. -/
def cons (c : Char) : Option (List Char × List Char) → Option (List Char × List Char) :=
  Option.map fun found => (c :: found.1, found.2)

/-- The end of a text between three quotes. One or two quotes in front of the closing ones
    belong to the text. -/
def closing? (quote : Char) (cs : List Char) : Option (List Char × List Char) :=
  let count := (cs.takeWhile (· == quote)).length
  if count < 3 then none
  else
    let own := min (count - 3) 2
    some (List.replicate own quote, cs.drop (own + 3))

/-- The character that one letter behind a backslash stands for. -/
def escaped? (c : Char) : Option Char :=
  if c = 'b' then some '\x08'
  else if c = 't' then some '\t'
  else if c = 'n' then some '\n'
  else if c = 'f' then some '\x0c'
  else if c = 'r' then some '\r'
  else if c = '"' then some '"'
  else if c = '\\' then some '\\'
  else none

/-- The character with a code point. -/
def charOf? (n : Nat) : Option Char :=
  if n.isValidChar then some (Char.ofNat n) else none

/-- Where the reading of a basic text stands. -/
inductive Escape where
  /-- Behind a character of the text. -/
  | outside
  /-- Behind a backslash. -/
  | begun
  /-- Within the digits of a code point; `left` of them are to come. -/
  | code (left : Nat) (value : Nat)
  /-- Behind a backslash and blanks, which must be the end of a line. -/
  | lineEnd
  /-- In the white space that a backslash at the end of a line swallows. -/
  | gap
  deriving DecidableEq, Repr

/-- The rest of a basic text behind its opening quotes, and what follows it. -/
def basic? (lines : Bool) : Escape → List Char → Option (List Char × List Char)
  | _, [] => none
  | .code left value, c :: rest =>
    match digitValue? c with
    | none => none
    | some digit =>
      if 1 < left then basic? lines (.code (left - 1) (16 * value + digit)) rest
      else
        match charOf? (16 * value + digit) with
        | some d => cons d (basic? lines .outside rest)
        | none => none
  | .begun, c :: rest =>
    match escaped? c with
    | some d => cons d (basic? lines .outside rest)
    | none =>
      if c = 'u' then basic? lines (.code 4 0) rest
      else if c = 'U' then basic? lines (.code 8 0) rest
      else if !lines then none
      else if c = ' ' ∨ c = '\t' then basic? lines .lineEnd rest
      else if c = '\n' then basic? lines .gap rest
      else if c = '\r' ∧ rest.head? = some '\n' then basic? lines .lineEnd rest
      else none
  | .lineEnd, c :: rest =>
    if c = ' ' ∨ c = '\t' then basic? lines .lineEnd rest
    else if c = '\n' then basic? lines .gap rest
    else if c = '\r' ∧ rest.head? = some '\n' then basic? lines .lineEnd rest
    else none
  | mode, c :: rest =>
    if mode = .gap ∧ (c = ' ' ∨ c = '\t' ∨ c = '\n') then basic? lines .gap rest
    else if c = '\r' ∧ lines ∧ rest.head? = some '\n' then basic? lines mode rest
    else if c = '\n' then
      if lines then cons '\n' (basic? lines .outside rest) else none
    else if c = '\\' then basic? lines .begun rest
    else if c = '"' then
      if lines then
        match closing? '"' (c :: rest) with
        | some ending => some ending
        | none => cons '"' (basic? lines .outside rest)
      else some ([], rest)
    else if isTextChar c then cons c (basic? lines .outside rest)
    else none

/-- The rest of a literal text behind its opening quotes, and what follows it. -/
def literal? (lines : Bool) : List Char → Option (List Char × List Char)
  | [] => none
  | c :: rest =>
    if c = '\'' then
      if lines then
        match closing? '\'' (c :: rest) with
        | some ending => some ending
        | none => cons '\'' (literal? lines rest)
      else some ([], rest)
    else if c = '\n' then
      if lines then cons '\n' (literal? lines rest) else none
    else if c = '\r' ∧ lines ∧ rest.head? = some '\n' then literal? lines rest
    else if isTextChar c then cons c (literal? lines rest)
    else none

/-- A text without the line end in front of it. -/
def withoutLineEnd : List Char → List Char
  | '\n' :: rest => rest
  | '\r' :: '\n' :: rest => rest
  | cs => cs

/-- A text and what follows it. -/
def text? (cs : List Char) : Option (List Char × List Char) :=
  match cs with
  | '"' :: '"' :: '"' :: rest => basic? true .outside (withoutLineEnd rest)
  | '\'' :: '\'' :: '\'' :: rest => literal? true (withoutLineEnd rest)
  | '"' :: rest => basic? false .outside rest
  | '\'' :: rest => literal? false rest
  | _ => none

end Toml

end Provision
