import Provision.Number.Decimal

/-!
# The shortest text of a double

A double is written with the fewest digits that read back as the same double; of the decimals
with so few digits the nearest is taken, and a `Tie` decides between two that are equally near.
A `FloatStyle` holds the decisions of one output format.

Results:

* `Shortest.search_reads`: the decimal found for a double reads back as the double, unless the
  search ends without one.
-/

namespace Provision

/-- The neighbour taken between two equally near decimals. -/
inductive Tie where
  | up
  | even
  deriving DecidableEq, Repr

namespace Shortest

/-- The number of digits of `num / den` before the decimal point: zero or less for a number
    below one tenth. -/
def pointPosition (num den : Nat) : Int :=
  (Numeral.digits (num * Nat.pow 10 400 / den)).length - 400

/-- A fraction over the power `10 ^ exponent`, as a fraction of naturals. -/
def overPower (num den : Nat) (exponent : Int) : Nat × Nat :=
  if 0 ≤ exponent then (num, den * Nat.pow 10 exponent.toNat)
  else (num * Nat.pow 10 (-exponent).toNat, den)

/-- A significand that has carried into one digit more loses its last zero. -/
def settle (negative : Bool) (places significand : Nat) (exponent : Int) : Decimal :=
  if significand = Nat.pow 10 places then ⟨negative, 1, exponent + places⟩
  else ⟨negative, significand, exponent⟩

/-- The first of two decimals that reads back as `x`. -/
def firstReading (x : Binary64) (a b : Decimal) : Option Decimal :=
  if a.toBinary64 = x then some a
  else if b.toBinary64 = x then some b
  else none

theorem firstReading_reads {x : Binary64} {a b d : Decimal}
    (h : firstReading x a b = some d) : d.toBinary64 = x := by
  unfold firstReading at h
  split at h
  · next ha => cases h; exact ha
  · split at h
    · next hb => cases h; exact hb
    · cases h

/-- The nearer neighbour of `num / den` on the grid with `places` digits, of those neighbours
    that read back as `x`. -/
def onGrid? (tie : Tie) (x : Binary64) (num den places : Nat) : Option Decimal :=
  let exponent := pointPosition num den - places
  let fraction := overPower num den exponent
  let below := fraction.1 / fraction.2
  let twice := 2 * (fraction.1 % fraction.2)
  let lower := settle x.isNegative places below exponent
  let upper := settle x.isNegative places (below + 1) exponent
  if twice < fraction.2 || (twice == fraction.2 && tie == .even && below % 2 == 0) then
    firstReading x lower upper
  else firstReading x upper lower

theorem onGrid?_reads {tie : Tie} {x : Binary64} {num den places : Nat} {d : Decimal}
    (h : onGrid? tie x num den places = some d) : d.toBinary64 = x := by
  unfold onGrid? at h
  dsimp only at h
  split at h <;> exact firstReading_reads h

/-- The shortest decimal that reads back as `x`, whose magnitude is `num / den`. Seventeen
    digits are enough for every double; past them stands the decimal given. -/
def search (tie : Tie) (x : Binary64) (num den : Nat) (otherwise : Decimal) : Decimal :=
  ((List.range 17).findSome? fun i => onGrid? tie x num den (i + 1)).getD otherwise

theorem search_reads (tie : Tie) (x : Binary64) (num den : Nat) (otherwise : Decimal) :
    (search tie x num den otherwise).toBinary64 = x ∨
      search tie x num den otherwise = otherwise := by
  unfold search
  cases h : (List.range 17).findSome? fun i => onGrid? tie x num den (i + 1) with
  | none => exact .inr rfl
  | some d =>
    obtain ⟨i, -, hi⟩ := List.exists_of_findSome?_eq_some h
    exact .inl (onGrid?_reads hi)

/-- The decimal that is equal to a finite double. -/
def exact (negative : Bool) (significand exponent : Nat) : Decimal :=
  ⟨negative, Binary64.units significand exponent * Nat.pow 5 1074, -1074⟩

/-- The shortest decimal that reads back as a finite double. -/
def decimal (tie : Tie) (x : Binary64) (significand exponent : Nat) : Decimal :=
  search tie x (Binary64.units significand exponent) (Nat.pow 2 1074)
    (exact x.isNegative significand exponent)

end Shortest

/-- How a format writes doubles. -/
structure FloatStyle where
  /-- The choice between two equally near texts. -/
  tie : Tie
  /-- What follows a whole number that is written positionally. -/
  wholeMark : String
  /-- Whether a number is written positionally, by the position of its decimal point. -/
  positional : Int → Bool
  /-- The text of an infinity, by its sign. -/
  infinite : Bool → String
  /-- The text of a NaN. -/
  nan : String

namespace FloatStyle

/-- Digits with a decimal point after the given number of them. -/
def positionalText (wholeMark : List Char) (digits : List Char) (point : Int) : List Char :=
  if point ≤ 0 then
    '0' :: '.' :: (List.replicate (-point).toNat '0' ++ digits)
  else if point < digits.length then
    digits.take point.toNat ++ '.' :: digits.drop point.toNat
  else
    digits ++ List.replicate (point.toNat - digits.length) '0' ++ wholeMark

/-- One digit before the point, and the exponent with its sign. -/
def scientificText (digits : List Char) (point : Int) : List Char :=
  let exponent := point - 1
  let mantissa := match digits with
    | d :: e :: rest => d :: '.' :: e :: rest
    | short => short
  mantissa ++ 'e' :: (if exponent < 0 then '-' else '+') :: Numeral.digits exponent.natAbs

/-- The text of a positive decimal. -/
def magnitudeText (style : FloatStyle) (d : Decimal) : List Char :=
  let digits := Numeral.digits d.significand
  let point := digits.length + d.exponent
  if style.positional point then positionalText style.wholeMark.toList digits point
  else scientificText digits point

/-- The text of a double. -/
def render (style : FloatStyle) (x : Binary64) : String :=
  match x with
  | .nan => style.nan
  | .infinite negative => style.infinite negative
  | .finite negative significand exponent _ =>
    let body :=
      if significand = 0 then '0' :: style.wholeMark.toList
      else style.magnitudeText (Shortest.decimal style.tie x significand exponent)
    String.ofList (if negative then '-' :: body else body)

/-- The plain text of a double: every number positionally, whole ones without a point. -/
def plain : FloatStyle where
  tie := .up
  wholeMark := ""
  positional _ := true
  infinite negative := if negative then "-inf" else "inf"
  nan := "NaN"

end FloatStyle

end Provision
