import Provision.Number.Binary64
import Provision.Number.Numeral

/-!
# Decimal notation

A decimal is a sign, an integer significand and a power of ten. The text of a number is read
into a decimal exactly, and a decimal is rounded once, to the nearest double.
-/

namespace Provision

/-- The number `± significand · 10 ^ exponent`. -/
structure Decimal where
  negative : Bool
  significand : Nat
  exponent : Int
  deriving DecidableEq, Repr

namespace Decimal

/-- The double nearest to a decimal. Past `10 ^ 400` every number is infinite, and below
    `10 ^ -400` every number is zero. -/
def toBinary64 (d : Decimal) : Binary64 :=
  if d.significand = 0 then .zero d.negative
  else if 400 < d.exponent then .infinite d.negative
  else if d.exponent < -(2000 + d.significand.log2 : Nat) then .zero d.negative
  else if 0 ≤ d.exponent then
    .ofRatio d.negative (d.significand * Nat.pow 10 d.exponent.toNat) 1
  else
    .ofRatio d.negative d.significand (Nat.pow 10 (-d.exponent).toNat)

/-- Reads the exponent part to the end of the text: nothing, or `e` with a signed integer. -/
def exponent? : List Char → Option Int
  | [] => some 0
  | c :: cs =>
    if c = 'e' ∨ c = 'E' then
      let (negative, body) := Numeral.sign cs
      if body.isEmpty || !body.all Char.isDigit then none
      else some (Numeral.signed negative (Numeral.ofDigits body))
    else none

/-- The decimal of the digits before the point, those after it, and an exponent. -/
def ofParts (negative : Bool) (whole fraction : List Char) (exponent : Int) : Decimal where
  negative := negative
  significand := Numeral.ofDigits (whole ++ fraction)
  exponent := exponent - fraction.length

/-- Reads an unsigned number in decimal notation to the end of the text. A point may stand
    first or last, but not alone. -/
def magnitude? (negative : Bool) (cs : List Char) : Option Decimal :=
  let (whole, rest) := Numeral.span cs
  let (fraction, rest) := match rest with
    | '.' :: rest => Numeral.span rest
    | _ => ([], rest)
  if whole.isEmpty && fraction.isEmpty then none
  else (exponent? rest).map (ofParts negative whole fraction)

/-- Reads a number in decimal notation with an optional sign. -/
def read? (cs : List Char) : Option Decimal :=
  let (negative, body) := Numeral.sign cs
  magnitude? negative body

end Decimal

namespace Binary64

/-- Reads an unsigned infinity or NaN by its name, in any case. -/
def named? (negative : Bool) (cs : List Char) : Option Binary64 :=
  let name := String.ofList (cs.map Char.toLower)
  if name = "inf" ∨ name = "infinity" then some (.infinite negative)
  else if name = "nan" then some .nan
  else none

/-- Reads a double: a number in decimal notation, an infinity or a NaN. -/
def read? (cs : List Char) : Option Binary64 :=
  let (negative, body) := Numeral.sign cs
  match Decimal.magnitude? negative body with
  | some d => some d.toBinary64
  | none => named? negative body

end Binary64

end Provision
