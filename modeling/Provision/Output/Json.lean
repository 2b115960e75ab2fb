import Provision.Bindings

/-!
# Values as JSON

An object with one member per line, indented by two blanks. Texts keep their characters, quotes,
backslashes and control characters apart.
-/

namespace Provision

namespace Json

/-- How doubles are written: positionally from a hundred-thousandth up to ten to the sixteenth,
    and with an exponent beyond. JSON has no infinities and no NaN. -/
def floatStyle : FloatStyle where
  tie := .even
  wholeMark := ".0"
  positional point := -5 < point && point ≤ 16
  infinite _ := "null"
  nan := "null"

/-- How one character is written between double quotes. -/
def escapeChar (c : Char) : List Char :=
  if c = '"' then ['\\', '"']
  else if c = '\\' then ['\\', '\\']
  else if c = '\x08' then ['\\', 'b']
  else if c = '\t' then ['\\', 't']
  else if c = '\n' then ['\\', 'n']
  else if c = '\x0c' then ['\\', 'f']
  else if c = '\r' then ['\\', 'r']
  else if c.toNat < 0x20 then
    ['\\', 'u', '0', '0'] ++ Nat.toDigits 16 (c.toNat / 16) ++ Nat.toDigits 16 (c.toNat % 16)
  else [c]

/-- A text between double quotes. -/
def text (s : String) : List Char :=
  '"' :: (s.toList.flatMap escapeChar ++ ['"'])

/-- A scalar. -/
def scalar : Scalar → List Char
  | .text s => text s
  | .float x => (floatStyle.render x).toList
  | v => v.plain.toList

/-- A member of an object, on a line of its own. -/
def member (entry : String × Scalar) : List Char :=
  ['\n', ' ', ' '] ++ text entry.1 ++ [':', ' '] ++ scalar entry.2

/-- The members of an object with commas between them. -/
def members : List (String × Scalar) → List Char
  | [] => []
  | [entry] => member entry
  | entry :: rest => member entry ++ ',' :: members rest

/-- The object that holds the values. -/
def object (values : Bindings) : List Char :=
  if values.entries.isEmpty then ['{', '}']
  else '{' :: (members values.entries ++ ['\n', '}'])

end Json

end Provision
