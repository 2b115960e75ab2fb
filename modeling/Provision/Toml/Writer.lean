import Provision.Bindings
import Provision.Template.Token
import Provision.Toml.Basic

/-!
# Writing TOML

A table of scalars is written one line per entry, in order. A key is bare where it can be; a text
takes the first of the forms that shows it without escapes, and is escaped between double quotes
if there is none.
-/

namespace Provision

namespace Toml

/-- How doubles are written: every number positionally, and a whole one with a zero behind its
    point. -/
def floatStyle : FloatStyle where
  tie := .up
  wholeMark := ".0"
  positional _ := true
  infinite negative := if negative then "-inf" else "inf"
  nan := "nan"

/-- Whether a character can only be written with an escape. -/
def isControl (c : Char) : Bool :=
  (c.toNat < 0x20 || c == '\x7f') && c != '\t' && c != '\n'

/-- The digits of a control character, two of them in upper case behind two zeros. -/
def codeDigits (n : Nat) : List Char :=
  ['0', '0'] ++ ((Nat.toDigits 16 (n / 16)) ++ (Nat.toDigits 16 (n % 16))).map Char.toUpper

/-- How a character other than a quote is written between double quotes. -/
def escapeChar (lines : Bool) (c : Char) : List Char :=
  if c = '\x08' then ['\\', 'b']
  else if c = '\t' then ['\\', 't']
  else if c = '\n' then (if lines then ['\n'] else ['\\', 'n'])
  else if c = '\x0c' then ['\\', 'f']
  else if c = '\r' then ['\\', 'r']
  else if c = '\\' then ['\\', '\\']
  else if isControl c then '\\' :: 'u' :: codeDigits c.toNat
  else [c]

/-- The content of a text on one line between double quotes. -/
def lineBody (cs : List Char) : List Char :=
  cs.flatMap fun c => if c = '"' then ['\\', '"'] else escapeChar false c

/-- The content of a text between three double quotes. Every third quote in a row is escaped,
    and `quotes` of them stand in front. -/
def linesBody (quotes : Nat) : List Char → List Char
  | [] => []
  | c :: rest =>
    if c = '"' then
      if quotes = 2 then '\\' :: '"' :: linesBody 0 rest else '"' :: linesBody (quotes + 1) rest
    else escapeChar true c ++ linesBody 0 rest

/-- The forms of a text. -/
inductive TextForm where
  | basic
  | literal
  | basicLines
  | literalLines
  deriving DecidableEq, Repr

/-- The form in which a text is written. -/
def formOf (cs : List Char) : TextForm :=
  let plain := !cs.any isControl
  let oneLine := !cs.elem '\n'
  if plain && oneLine && !cs.elem '\\' && !cs.elem '"' then .basic
  else if plain && oneLine && !cs.elem '\'' then .literal
  else if plain && !cs.elem '\\' && !occurs ['"', '"', '"'] cs then .basicLines
  else if plain && !occurs ['\'', '\'', '\''] cs then .literalLines
  else if oneLine then .basic
  else .basicLines

/-- The line end behind three opening quotes, in front of a text of several lines. -/
def leadingLineEnd (cs : List Char) : List Char :=
  if cs.elem '\n' then ['\n'] else []

/-- A text in a form. -/
def writeForm (cs : List Char) : TextForm → List Char
  | .basic => '"' :: (lineBody cs ++ ['"'])
  | .literal => '\'' :: (cs ++ ['\''])
  | .basicLines =>
    ['"', '"', '"'] ++ (leadingLineEnd cs ++ (linesBody 0 cs ++ ['"', '"', '"']))
  | .literalLines => ['\'', '\'', '\''] ++ (leadingLineEnd cs ++ (cs ++ ['\'', '\'', '\'']))

/-- A text as it is written. -/
def writeText (cs : List Char) : List Char :=
  writeForm cs (formOf cs)

/-- Whether a key has no character that must be escaped on one line. -/
def isPlainKey (cs : List Char) : Bool :=
  !cs.any fun c => isControl c || c == '\n'

/-- A key as it is written. -/
def writeKey (cs : List Char) : List Char :=
  if !cs.isEmpty && cs.all isBareKeyChar then cs
  else if isPlainKey cs && !cs.elem '\\' && !cs.elem '"' then writeForm cs .basic
  else if isPlainKey cs && !cs.elem '\'' then writeForm cs .literal
  else writeForm cs .basic

/-- A scalar as it is written. -/
def writeScalar : Scalar → List Char
  | .text s => writeText s.toList
  | .integer n => Numeral.ofInt n.toInt
  | .float x => (floatStyle.render x).toList
  | .boolean true => ['t', 'r', 'u', 'e']
  | .boolean false => ['f', 'a', 'l', 's', 'e']

/-- The line of an entry. -/
def writeEntry (entry : String × Scalar) : List Char :=
  writeKey entry.1.toList ++ ([' ', '=', ' '] ++ (writeScalar entry.2 ++ ['\n']))

/-- The lines of a table of scalars. -/
def write (values : Bindings) : List Char :=
  values.entries.flatMap writeEntry

end Toml

end Provision
