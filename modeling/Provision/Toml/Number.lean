import Provision.Toml.Basic
import Provision.Toml.Moment

/-!
# Numbers of a TOML document

Integers of 64 bits in decimal, hexadecimal, octal and binary notation, and doubles. Single
underscores may stand between digits.
-/

namespace Provision

namespace Toml

/-- The digits in front without the underscores between them, and what follows. `inside` tells
    whether a digit stands before. -/
def digitRun (isDigit : Char → Bool) (inside : Bool) : List Char → List Char × List Char
  | [] => ([], [])
  | c :: rest =>
    if isDigit c then
      let run := digitRun isDigit true rest
      (c :: run.1, run.2)
    else if inside && c == '_' && rest.head?.any isDigit then digitRun isDigit true rest
    else ([], c :: rest)

/-- The value of a digit in bases up to sixteen. -/
def digitValue? (c : Char) : Option Nat :=
  if c.isDigit then some (c.toNat - '0'.toNat)
  else if 'a' ≤ c ∧ c ≤ 'f' then some (c.toNat - 'a'.toNat + 10)
  else if 'A' ≤ c ∧ c ≤ 'F' then some (c.toNat - 'A'.toNat + 10)
  else none

/-- Whether a character is a digit in a base. -/
def isDigitIn (base : Nat) (c : Char) : Bool :=
  (digitValue? c).any (· < base)

/-- The number that digits denote in a base. -/
def valueIn (base : Nat) (cs : List Char) : Nat :=
  cs.foldl (fun n c => base * n + (digitValue? c).getD 0) 0

/-- An integer in a base other than ten. -/
def radix? (base : Nat) (cs : List Char) : Option (Toml × List Char) :=
  let run := digitRun (isDigitIn base) false cs
  if run.1.isEmpty then none
  else (Numeral.int64? (valueIn base run.1)).map fun n => (.integer n, run.2)

/-- The digits before the point. A zero stands alone. -/
def wholeRun : List Char → List Char × List Char
  | '0' :: rest => (['0'], rest)
  | cs => digitRun Char.isDigit false cs

/-- Whether an exponent follows. -/
def startsExponent : List Char → Bool
  | c :: _ => c == 'e' || c == 'E'
  | [] => false

/-- The exponent in front, zero if there is none, and what follows it. -/
def exponent? (cs : List Char) : Option (Int × List Char) :=
  if startsExponent cs then
    let signed := Numeral.sign (cs.drop 1)
    let run := digitRun Char.isDigit false signed.2
    if run.1.isEmpty then none
    else some (Numeral.signed signed.1 (Numeral.ofDigits run.1), run.2)
  else some (0, cs)

/-- The double with these digits and the exponent that follows. A positive number past the
    largest double is refused. -/
def float? (negative : Bool) (whole fraction rest : List Char) : Option (Toml × List Char) :=
  match exponent? rest with
  | none => none
  | some (exponent, rest) =>
    let x := (Decimal.ofParts negative whole fraction exponent).toBinary64
    if x = .infinite false then none else some (.float x, rest)

/-- What follows the digits before the point: a fraction or an exponent makes a double, and
    without both it is an integer. -/
def afterWhole? (negative : Bool) (whole rest : List Char) : Option (Toml × List Char) :=
  match rest with
  | '.' :: rest =>
    let fraction := digitRun Char.isDigit false rest
    if fraction.1.isEmpty then none else float? negative whole fraction.1 fraction.2
  | _ =>
    if startsExponent rest then float? negative whole [] rest
    else
      (Numeral.int64? (Numeral.signed negative (Numeral.ofDigits whole))).map
        fun n => (.integer n, rest)

/-- A decimal number, an infinity or a NaN behind its sign. -/
def unsigned? (negative : Bool) (cs : List Char) : Option (Toml × List Char) :=
  match cs with
  | 'i' :: 'n' :: 'f' :: rest => some (.float (.infinite negative), rest)
  | 'n' :: 'a' :: 'n' :: rest => some (.float .nan, rest)
  | _ =>
    let whole := wholeRun cs
    if whole.1.isEmpty then none else afterWhole? negative whole.1 whole.2

/-- A date, a time or a number, and what follows it. -/
def number? (cs : List Char) : Option (Toml × List Char) :=
  match Moment.rest? cs with
  | some rest => some (.moment, rest)
  | none =>
    match cs with
    | '0' :: 'x' :: rest => radix? 16 rest
    | '0' :: 'o' :: rest => radix? 8 rest
    | '0' :: 'b' :: rest => radix? 2 rest
    | _ =>
      let signed := Numeral.sign cs
      unsigned? signed.1 signed.2

end Toml

end Provision
