import Provision.Toml.Text

/-!
# Reading TOML documents

A document is a list of lines, each with a header or with a key and its value; blanks, comments
and empty lines stand in between. Arrays may span lines and inline tables may not. Arrays and
inline tables nest less than eighty deep, and a dotted key has less than eighty parts.
-/

namespace Provision

namespace Toml

/-- Whether a character is a blank within a line. -/
def isSpace (c : Char) : Bool :=
  c == ' ' || c == '\t'

/-- A text without the blanks in front. -/
def skipSpaces (cs : List Char) : List Char :=
  cs.dropWhile isSpace

/-- A text without the blanks, line ends and comments in front. -/
def skipLines (inComment : Bool) : List Char → List Char
  | [] => []
  | c :: rest =>
    if c = '\n' then skipLines false rest
    else if c = '\r' ∧ rest.head? = some '\n' then skipLines inComment rest
    else if inComment then
      if isTextChar c then skipLines true rest else c :: rest
    else if isSpace c then skipLines false rest
    else if c = '#' then skipLines true rest
    else c :: rest

/-- What follows the end of a line. -/
def lineEnd? : List Char → Option (List Char)
  | [] => some []
  | '\n' :: rest => some rest
  | '\r' :: '\n' :: rest => some rest
  | _ => none

/-- What follows the end of a line on which at most blanks and a comment are left. -/
def lineRest? (cs : List Char) : Option (List Char) :=
  match skipSpaces cs with
  | '#' :: rest => lineEnd? (rest.dropWhile isTextChar)
  | cs => lineEnd? cs

/-- One part of a key, and what follows it. -/
def keyPart? (cs : List Char) : Option (List Char × List Char) :=
  match cs with
  | '"' :: rest => basic? false .outside rest
  | '\'' :: rest => literal? false rest
  | _ =>
    let run := cs.span isBareKeyChar
    if run.1.isEmpty then none else some run

/-- The parts of a key with points between them, and what follows. There are at most `parts` of
    them, and blanks may stand around each. -/
def key? : Nat → List Char → Option (List String × List Char)
  | 0, _ => none
  | parts + 1, cs =>
    match keyPart? (skipSpaces cs) with
    | none => none
    | some (part, after) =>
      match skipSpaces after with
      | '.' :: rest => (key? parts rest).map fun found => (String.ofList part :: found.1, found.2)
      | rest => some ([String.ofList part], rest)

/-- The path and the last part of a key, and what follows it. -/
def path? (cs : List Char) : Option ((List String × String) × List Char) :=
  match key? 79 cs with
  | some (parts, rest) => parts.getLast?.map fun last => ((parts.dropLast, last), rest)
  | none => none

/-- The items of an array behind its opening bracket, and what follows the closing one. -/
def items? (value : List Char → Option (Toml × List Char)) (cs : List Char) :
    Option (List Toml × List Char) :=
  match skipLines false cs with
  | ']' :: rest => some ([], rest)
  | start =>
    match value start with
    | none => none
    | some (item, after) =>
      match skipLines false after with
      | ']' :: rest => some ([item], rest)
      | ',' :: rest =>
        if rest.length < cs.length then
          (items? value rest).map fun found => (item :: found.1, found.2)
        else none
      | _ => none
  termination_by cs.length

/-- A key with its value, and what follows them. -/
def pair? (value : List Char → Option (Toml × List Char)) (cs : List Char) :
    Option (Pair × List Char) :=
  match path? cs with
  | some ((path, key), '=' :: rest) =>
    (value (skipSpaces rest)).map fun found => (⟨path, key, found.1⟩, found.2)
  | _ => none

/-- The pairs of an inline table, of which there is one at least, and what follows the closing
    brace. -/
def pairs? (value : List Char → Option (Toml × List Char)) (cs : List Char) :
    Option (List Pair × List Char) :=
  match pair? value cs with
  | none => none
  | some (pair, after) =>
    match skipSpaces after with
    | '\x7d' :: rest => some ([pair], rest)
    | ',' :: rest =>
      if rest.length < cs.length then
        (pairs? value rest).map fun found => (pair :: found.1, found.2)
      else none
    | _ => none
  termination_by cs.length

/-- An inline table behind its opening brace, and what follows the closing one. -/
def inlineTable? (value : List Char → Option (Toml × List Char)) (cs : List Char) :
    Option (Toml × List Char) :=
  match skipSpaces cs with
  | '\x7d' :: rest => some (.table .inline [], rest)
  | start =>
    match pairs? value start with
    | none => none
    | some (pairs, rest) => (addPairs [] pairs).map fun entries => (.table .inline entries, rest)

/-- A value that is no array and no table, and what follows it. -/
def scalar? (cs : List Char) : Option (Toml × List Char) :=
  match cs with
  | 't' :: 'r' :: 'u' :: 'e' :: rest => some (.boolean true, rest)
  | 'f' :: 'a' :: 'l' :: 's' :: 'e' :: rest => some (.boolean false, rest)
  | c :: _ =>
    if c = '"' ∨ c = '\'' then
      (text? cs).map fun found => (.text (String.ofList found.1), found.2)
    else number? cs
  | [] => none

/-- A value with arrays and inline tables at most `depth` deep, and what follows it. -/
def value? : Nat → List Char → Option (Toml × List Char)
  | 0, cs => scalar? cs
  | depth + 1, cs =>
    match cs with
    | '[' :: rest =>
      (items? (value? depth) rest).map fun found => (.array false found.1, found.2)
    | '\x7b' :: rest => inlineTable? (value? depth) rest
    | _ => scalar? cs

/-- A line of a document: a key with its value, or a header. -/
inductive Line where
  | pair (pair : Pair)
  | header (header : Header)

/-- The header behind its first bracket, and what follows it. -/
def header? (cs : List Char) : Option (Header × List Char) :=
  match cs with
  | '[' :: rest =>
    match path? rest with
    | some ((path, key), ']' :: ']' :: rest) => some (⟨true, path, key⟩, rest)
    | _ => none
  | _ =>
    match path? cs with
    | some ((path, key), ']' :: rest) => some (⟨false, path, key⟩, rest)
    | _ => none

/-- One line without its end, and what follows it. -/
def line? (cs : List Char) : Option (Line × List Char) :=
  match cs with
  | '[' :: rest => (header? rest).map fun found => (.header found.1, found.2)
  | _ => (pair? (value? 79) cs).map fun found => (.pair found.1, found.2)

/-- The lines of a document. -/
def lines? (cs : List Char) : Option (List Line) :=
  match skipLines false cs with
  | [] => some []
  | start =>
    match line? start with
    | none => none
    | some (line, after) =>
      match lineRest? after with
      | none => none
      | some rest =>
        if rest.length < cs.length then (lines? rest).map (line :: ·) else none
  termination_by cs.length

/-- The values before the first header, and each header with the values under it. -/
def sections : List Line → List Pair × List (Header × List Pair)
  | [] => ([], [])
  | .pair pair :: rest =>
    let found := sections rest
    (pair :: found.1, found.2)
  | .header header :: rest =>
    let found := sections rest
    ([], (header, found.1) :: found.2)

/-- A document without the mark of the order of bytes in front. -/
def withoutMark : List Char → List Char
  | '\ufeff' :: rest => rest
  | cs => cs

/-- The table of a document. -/
def read? (cs : List Char) : Option Entries :=
  match lines? (withoutMark cs) with
  | none => none
  | some lines =>
    let found := sections lines
    ofSections? found.1 found.2

end Toml

end Provision
