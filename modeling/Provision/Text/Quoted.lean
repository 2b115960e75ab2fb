import Provision.Text.Combining
import Provision.Text.Ignorable
import Provision.Text.Unprintable

/-!
# Quoted text

A text between double quotes, on one line, such that each character can be told from the look
of it: quotes and backslashes are escaped, and so is what cannot be seen or is drawn onto another
character.
-/

namespace Provision

namespace Quoted

/-- The digits of a number in base sixteen, in lower case. -/
def hex (n : Nat) : List Char :=
  Nat.toDigits 16 n

/-- Whether a character is one of the two halfwidth voicing marks. They belong to the character
    before them, and take a place of their own behind it. -/
def isVoicingMark (c : Char) : Bool :=
  c == '\uff9e' || c == '\uff9f'

/-- Whether a character has no place or no look of its own. -/
def isHidden (c : Char) : Bool :=
  (isCombining c && !isVoicingMark c) || isIgnorable c || isUnprintable c

/-- How one character is written between double quotes. -/
def escapeChar (c : Char) : List Char :=
  if c = '\x00' then ['\\', '0']
  else if c = '\t' then ['\\', 't']
  else if c = '\n' then ['\\', 'n']
  else if c = '\r' then ['\\', 'r']
  else if c = '"' then ['\\', '"']
  else if c = '\\' then ['\\', '\\']
  else if isHidden c then '\\' :: 'u' :: '{' :: (hex c.toNat ++ ['}'])
  else [c]

/-- The characters of a text, each as it is written between double quotes. -/
def body (cs : List Char) : List Char :=
  cs.flatMap escapeChar

end Quoted

/-- A text between double quotes, with escapes. -/
def quoted (s : String) : String :=
  String.ofList ('"' :: (Quoted.body s.toList ++ ['"']))

end Provision
