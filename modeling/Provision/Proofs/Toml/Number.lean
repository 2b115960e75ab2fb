import Mathlib.Data.List.Infix
import Provision.Proofs.Number.Numeral
import Provision.Proofs.Number.Rounding
import Provision.Proofs.Text.Blank
import Provision.Toml.Number
import Provision.Toml.Writer

/-!
# Numbers read back

A written number is a sign and digits, with a point among them for a double. No date and no time
is written like that. An integer is read as the integer, and a double as the double, because its
decimal is rounded to it.

Results:

* `Toml.number?_ofInt`: a written integer is read back.
* `Toml.number?_render`: a written double is read back, an infinity and a NaN too.
* `Toml.IsNumberText`: with what a written number begins and ends.
-/

namespace Provision

namespace Moment

/-! ## No dates and no times -/

theorem rest?_of_not_isDigit {c : Char} (h : c.isDigit = false) (rest : List Char) :
    rest? (c :: rest) = none := by
  have htwo : ∀ low high, twoDigits? low high (c :: rest) = none := by
    intro low high
    cases rest <;> simp [twoDigits?, h]
  simp [rest?, dateRest?, timeRest?, htwo]

theorem exists_of_twoDigits? {low high n : Nat} {cs rest : List Char}
    (h : twoDigits? low high cs = some (n, rest)) :
    ∃ a b, cs = a :: b :: rest ∧ a.isDigit = true ∧ b.isDigit = true := by
  unfold twoDigits? at h
  split at h
  · next a b rest' =>
    dsimp only at h
    split_ifs at h with hdigits
    cases h
    simp only [Bool.and_eq_true] at hdigits
    exact ⟨a, b, rfl, hdigits.1.1.1, hdigits.1.1.2⟩
  · cases h

/-- The characters of a line up to its end. -/
def line (cs : List Char) : List Char :=
  cs.takeWhile (· != '\n')

theorem line_of_twoDigits? {low high n : Nat} {cs rest : List Char}
    (h : twoDigits? low high cs = some (n, rest)) {c : Char} (hc : c ∈ line rest) :
    c ∈ line cs := by
  obtain ⟨a, b, rfl, ha, hb⟩ := exists_of_twoDigits? h
  have hne : ∀ {d : Char}, d.isDigit = true → (d != '\n') = true := by
    rintro d hd
    rw [bne_iff_ne]
    rintro rfl
    cases hd
  simp only [line, List.takeWhile_cons, hne ha, hne hb, if_true]
  exact List.mem_cons_of_mem _ (List.mem_cons_of_mem _ hc)

theorem after?_of_not_mem {c : Char} (hc : c ≠ '\n') {cs : List Char} (h : c ∉ line cs) :
    after? c cs = none := by
  cases cs with
  | nil => rfl
  | cons d rest =>
    have hd : d ≠ c := by
      rintro rfl
      exact h (by simp [line, hc])
    rw [after?, if_neg hd]

/-- A line without hyphens and colons is no date and no time. -/
theorem rest?_of_line {cs : List Char} (hhyphen : '-' ∉ line cs) (hcolon : ':' ∉ line cs) :
    rest? cs = none := by
  have hdate : dateRest? cs = none := by
    cases h₁ : twoDigits? 0 99 cs with
    | none => simp [dateRest?, h₁]
    | some first =>
      cases h₂ : twoDigits? 0 99 first.2 with
      | none => simp [dateRest?, h₁, h₂]
      | some second =>
        have hnot : '-' ∉ line second.2 := fun h =>
          hhyphen (line_of_twoDigits? h₁ (line_of_twoDigits? h₂ h))
        simp [dateRest?, h₁, h₂, after?_of_not_mem (by decide) hnot]
  have htime : timeRest? cs = none := by
    cases h₁ : twoDigits? 0 23 cs with
    | none => simp [timeRest?, h₁]
    | some first =>
      have hnot : ':' ∉ line first.2 := fun h => hcolon (line_of_twoDigits? h₁ h)
      simp [timeRest?, h₁, after?_of_not_mem (by decide) hnot]
  rw [rest?, hdate, htime]

end Moment

namespace Toml

/-! ## Digits -/

theorem digitRun_append {cs : List Char} (hcs : ∀ c ∈ cs, c.isDigit = true) {c : Char}
    (hc : c.isDigit = false) (hunderscore : c ≠ '_') (inside : Bool) (rest : List Char) :
    digitRun Char.isDigit inside (cs ++ c :: rest) = (cs, c :: rest) := by
  induction cs generalizing inside with
  | nil => simp [digitRun, hc, hunderscore]
  | cons d ds ih =>
    have hd := hcs d (by simp)
    rw [List.cons_append, digitRun, if_pos hd, ih (fun e he => hcs e (List.mem_cons_of_mem _ he))]

/-- Digits that can stand in front are read up to the character behind them. -/
theorem wholeRun_append {cs : List Char} (hcs : Numeral.IsLeading cs) {c : Char}
    (hc : c.isDigit = false) (hunderscore : c ≠ '_') (rest : List Char) :
    wholeRun (cs ++ c :: rest) = (cs, c :: rest) := by
  rcases hcs.leads with rfl | ⟨d, ds, rfl, hd⟩
  · rfl
  · have hrun := digitRun_append hcs.isDigit hc hunderscore false rest
    rw [List.cons_append] at hrun ⊢
    unfold wholeRun
    split
    · next h =>
      rw [List.cons.injEq] at h
      exact absurd h.1 hd
    · exact hrun

/-! ## Signs -/

/-- A text behind a minus, if there is one. -/
def signed (negative : Bool) (body : List Char) : List Char :=
  if negative then '-' :: body else body

/-- Whether a character is a digit or a point. -/
def isNumeric (c : Char) : Bool :=
  c.isDigit || c == '.'

theorem ne_of_isNumeric {c d : Char} (hc : isNumeric c = true) (hd : isNumeric d = false) :
    c ≠ d := by
  rintro rfl
  rw [hc] at hd
  cases hd

theorem sign_of_isNumeric {c : Char} (h : isNumeric c = true) (rest : List Char) :
    Numeral.sign (c :: rest) = (false, c :: rest) := by
  have hminus : c ≠ '-' := ne_of_isNumeric h (by decide)
  have hplus : c ≠ '+' := ne_of_isNumeric h (by decide)
  exact Numeral.sign_of_ne hminus hplus rest

theorem number?_signed {body : List Char} (hne : body ≠ [])
    (hbody : ∀ c ∈ body, isNumeric c = true) (negative : Bool) (rest : List Char) :
    number? (signed negative body ++ '\n' :: rest) = unsigned? negative (body ++ '\n' :: rest) := by
  cases negative with
  | true =>
    have hmoment := Moment.rest?_of_not_isDigit (c := '-') (by decide) (body ++ '\n' :: rest)
    simp [number?, signed, hmoment, Numeral.sign]
  | false =>
    have hline : Moment.line (body ++ '\n' :: rest) = body := by
      have hpos : ∀ c ∈ body, (c != '\n') = true := fun c hc =>
        bne_iff_ne.2 (ne_of_isNumeric (hbody c hc) (by decide))
      rw [Moment.line, List.takeWhile_append_of_pos hpos]
      simp
    have hmoment : Moment.rest? (body ++ '\n' :: rest) = none := by
      apply Moment.rest?_of_line
      · rw [hline]
        exact fun h => absurd (hbody _ h) (by decide)
      · rw [hline]
        exact fun h => absurd (hbody _ h) (by decide)
    obtain ⟨c, cs, rfl⟩ := List.exists_cons_of_ne_nil hne
    -- Behind the first character stands a digit, a point or the end of the line.
    have hsecond : ∀ d tail, cs ++ '\n' :: rest = d :: tail → isNumeric d = true ∨ d = '\n' := by
      intro d tail htail
      cases cs with
      | nil => exact Or.inr (List.cons.inj htail).1.symm
      | cons e es =>
        have he : e = d := (List.cons.inj htail).1
        exact Or.inl (he ▸ hbody e (by simp))
    have hletter : ∀ d tail, c :: (cs ++ '\n' :: rest) = '0' :: d :: tail →
        d ≠ 'x' ∧ d ≠ 'o' ∧ d ≠ 'b' := by
      intro d tail htail
      rcases hsecond d tail (List.cons.inj htail).2 with hd | rfl
      · exact ⟨ne_of_isNumeric hd (by decide), ne_of_isNumeric hd (by decide),
          ne_of_isNumeric hd (by decide)⟩
      · decide
    rw [List.cons_append] at hmoment
    rw [signed, if_neg Bool.false_ne_true, List.cons_append]
    unfold number?
    simp only [hmoment]
    split
    · next heq => exact absurd rfl (hletter _ _ heq).1
    · next heq => exact absurd rfl (hletter _ _ heq).2.1
    · next heq => exact absurd rfl (hletter _ _ heq).2.2
    · rw [sign_of_isNumeric (hbody c (by simp))]

/-! ## Digits with and without a point -/

/-- What follows the digits in front decides what is read. -/
theorem unsigned?_leading {whole : List Char} (hwhole : Numeral.IsLeading whole) {c : Char}
    (hc : c.isDigit = false) (hunderscore : c ≠ '_') (negative : Bool) (rest : List Char) :
    unsigned? negative (whole ++ c :: rest) = afterWhole? negative whole (c :: rest) := by
  have hrun := wholeRun_append hwhole hc hunderscore rest
  obtain ⟨d, ds, rfl⟩ := List.exists_cons_of_ne_nil hwhole.ne_nil
  have hd : d.isDigit = true := hwhole.isDigit d (by simp)
  rw [List.cons_append] at hrun ⊢
  unfold unsigned?
  split
  · next heq =>
    rw [(List.cons.inj heq).1] at hd
    cases hd
  · next heq =>
    rw [(List.cons.inj heq).1] at hd
    cases hd
  · rw [hrun]
    rfl

theorem afterWhole?_line (negative : Bool) (whole rest : List Char) :
    afterWhole? negative whole ('\n' :: rest) =
      (Numeral.int64? (Numeral.signed negative (Numeral.ofDigits whole))).map
        fun n => (.integer n, '\n' :: rest) := by
  simp [afterWhole?, startsExponent]

theorem afterWhole?_fraction {fraction : List Char} (hne : fraction ≠ [])
    (hfraction : ∀ c ∈ fraction, c.isDigit = true) {negative : Bool} {whole : List Char}
    {x : Binary64} (hx : (Decimal.ofParts negative whole fraction 0).toBinary64 = x)
    (hfinite : x ≠ .infinite false) (rest : List Char) :
    afterWhole? negative whole ('.' :: (fraction ++ '\n' :: rest)) =
      some (.float x, '\n' :: rest) := by
  have hrun : digitRun Char.isDigit false (fraction ++ '\n' :: rest) =
      (fraction, '\n' :: rest) := digitRun_append hfraction (by decide) (by decide) false rest
  have hexponent : exponent? ('\n' :: rest) = some (0, '\n' :: rest) := by
    simp [exponent?, startsExponent]
  simp [afterWhole?, hrun, hne, float?, hexponent, hx, hfinite]

theorem ofInt_eq_signed (n : Int) :
    Numeral.ofInt n = signed (decide (n < 0)) (Numeral.digits n.natAbs) := by
  simp [Numeral.ofInt, signed]

theorem isNumeric_of_mem_digits {n : Nat} {c : Char} (h : c ∈ Numeral.digits n) :
    isNumeric c = true := by
  rw [isNumeric, Numeral.isDigit_of_mem_digits h, Bool.true_or]

/-- **Integers are read back.** -/
theorem number?_ofInt (n : Int64) (rest : List Char) :
    number? (Numeral.ofInt n.toInt ++ '\n' :: rest) = some (.integer n, '\n' :: rest) := by
  rw [ofInt_eq_signed, number?_signed (Numeral.digits_ne_nil _)
      (fun c hc => isNumeric_of_mem_digits hc),
    unsigned?_leading (Numeral.isLeading_digits _) (by decide) (by decide), afterWhole?_line,
    Numeral.ofDigits_digits, Numeral.signed_natAbs, Numeral.int64?_toInt]
  rfl

/-! ## Doubles -/

/-- A text with a point that is read as a decimal: digits that can stand in front of the point,
    and one digit behind it at least. -/
structure IsPointed (text whole fraction : List Char) : Prop where
  written : text = whole ++ '.' :: fraction
  leading : Numeral.IsLeading whole
  ne_nil : fraction ≠ []
  isDigit : ∀ c ∈ fraction, c.isDigit = true

namespace IsPointed

variable {text whole fraction : List Char}

theorem isNumeric_of_mem (h : IsPointed text whole fraction) {c : Char} (hc : c ∈ text) :
    isNumeric c = true := by
  rw [h.written, List.mem_append, List.mem_cons] at hc
  rcases hc with hc | rfl | hc
  · rw [isNumeric, h.leading.isDigit c hc, Bool.true_or]
  · rfl
  · rw [isNumeric, h.isDigit c hc, Bool.true_or]

theorem text_ne_nil (h : IsPointed text whole fraction) : text ≠ [] := by
  rw [h.written]
  simp

/-- A text with a point is read as the double that its decimal is rounded to. -/
theorem number?_eq (h : IsPointed text whole fraction) {negative : Bool} {x : Binary64}
    (hx : (Decimal.ofParts negative whole fraction 0).toBinary64 = x)
    (hfinite : x ≠ .infinite false) (rest : List Char) :
    number? (signed negative text ++ '\n' :: rest) = some (.float x, '\n' :: rest) := by
  rw [number?_signed h.text_ne_nil (fun c hc => h.isNumeric_of_mem hc), h.written,
    List.append_assoc, List.cons_append, unsigned?_leading h.leading (by decide) (by decide),
    afterWhole?_fraction h.ne_nil h.isDigit hx hfinite]

end IsPointed

/-- A number below one is written with zeros in front. -/
theorem isPointed_low (n : Nat) {point : Int} (hpoint : point ≤ 0) :
    IsPointed (FloatStyle.positionalText ['.', '0'] (Numeral.digits n) point) ['0']
      (List.replicate (-point).toNat '0' ++ Numeral.digits n) where
  written := by simp [FloatStyle.positionalText, hpoint]
  leading := Numeral.isLeading_zero
  ne_nil := by simp [Numeral.digits_ne_nil]
  isDigit c hc := by
    rcases List.mem_append.1 hc with hc | hc
    · rw [(List.mem_replicate.1 hc).2]
      rfl
    · exact Numeral.isDigit_of_mem_digits hc

/-- A point within the digits parts them. -/
theorem isPointed_middle {n : Nat} (hzero : n ≠ 0) {point : Int} (hlow : 0 < point)
    (hhigh : point < (Numeral.digits n).length) :
    IsPointed (FloatStyle.positionalText ['.', '0'] (Numeral.digits n) point)
      ((Numeral.digits n).take point.toNat) ((Numeral.digits n).drop point.toNat) where
  written := by simp [FloatStyle.positionalText, hhigh, Int.not_le.2 hlow]
  leading := by
    refine ⟨fun c hc => Numeral.isDigit_of_mem_digits (List.mem_of_mem_take hc), Or.inr ?_⟩
    obtain ⟨d, rest, hdigits, hd⟩ := Numeral.digits_eq_cons hzero
    obtain ⟨k, hk⟩ : ∃ k, point.toNat = k + 1 := ⟨point.toNat - 1, by omega⟩
    exact ⟨d, rest.take k, by rw [hdigits, hk]; rfl, hd⟩
  ne_nil := by
    rw [Ne, List.drop_eq_nil_iff]
    omega
  isDigit c hc := Numeral.isDigit_of_mem_digits (List.mem_of_mem_drop hc)

/-- A whole number is written with zeros behind, and one behind the point. -/
theorem isPointed_high {n : Nat} (hzero : n ≠ 0) {point : Int}
    (hhigh : (Numeral.digits n).length ≤ point) :
    IsPointed (FloatStyle.positionalText ['.', '0'] (Numeral.digits n) point)
      (Numeral.digits n ++
        List.replicate (point.toNat - (Numeral.digits n).length) '0') ['0'] where
  written := by
    have hlength : 0 < (Numeral.digits n).length :=
      List.length_pos_of_ne_nil (Numeral.digits_ne_nil n)
    have hlow : ¬ point ≤ 0 := by omega
    simp [FloatStyle.positionalText, Int.not_lt.2 hhigh, hlow]
  leading := by
    constructor
    · intro c hc
      rcases List.mem_append.1 hc with hc | hc
      · exact Numeral.isDigit_of_mem_digits hc
      · rw [(List.mem_replicate.1 hc).2]
        rfl
    · obtain ⟨d, rest, hdigits, hd⟩ := Numeral.digits_eq_cons hzero
      rw [hdigits]
      exact Or.inr ⟨d, _, rfl, hd⟩
  ne_nil := by simp
  isDigit := Numeral.isLeading_zero.isDigit

/-! ## What is read from a text with a point -/

/-- With zeros in front the decimal itself is read. -/
theorem ofParts_low (negative : Bool) (n : Nat) {exponent : Int}
    (hlow : (Numeral.digits n).length + exponent ≤ 0) :
    Decimal.ofParts negative ['0'] (List.replicate
        (-((Numeral.digits n).length + exponent)).toNat '0' ++ Numeral.digits n) 0 =
      ⟨negative, n, exponent⟩ := by
  have hsignificand : ∀ count, Numeral.ofDigits (['0'] ++
      (List.replicate count '0' ++ Numeral.digits n)) = n := by
    intro count
    rw [List.singleton_append, ← List.cons_append, ← List.replicate_succ,
      Numeral.ofDigits_zeros_append, Numeral.ofDigits_digits]
  simp only [Decimal.ofParts, hsignificand, Decimal.mk.injEq, true_and, List.length_append,
    List.length_replicate]
  omega

/-- With the point within the digits the decimal itself is read. -/
theorem ofParts_middle (negative : Bool) (n : Nat) {exponent : Int}
    (hlow : 0 < (Numeral.digits n).length + exponent)
    (hhigh : (Numeral.digits n).length + exponent < (Numeral.digits n).length) :
    Decimal.ofParts negative
        ((Numeral.digits n).take ((Numeral.digits n).length + exponent).toNat)
        ((Numeral.digits n).drop ((Numeral.digits n).length + exponent).toNat) 0 =
      ⟨negative, n, exponent⟩ := by
  simp only [Decimal.ofParts, List.take_append_drop, Numeral.ofDigits_digits,
    Decimal.mk.injEq, true_and, List.length_drop]
  omega

/-- With the zero behind the point the significand is ten times as large, and more so by the
    zeros in front of the point. -/
theorem ofParts_high (negative : Bool) (n exponent : Nat) :
    Decimal.ofParts negative (Numeral.digits n ++ List.replicate
        (((Numeral.digits n).length + (exponent : Int)).toNat - (Numeral.digits n).length) '0')
        ['0'] 0 =
      ⟨negative, n * Nat.pow 10 (exponent + 1), -1⟩ := by
  have hcount : ((Numeral.digits n).length + (exponent : Int)).toNat -
      (Numeral.digits n).length = exponent := by omega
  have hsignificand : Numeral.ofDigits
      ((Numeral.digits n ++ List.replicate exponent '0') ++ ['0']) =
        n * Nat.pow 10 (exponent + 1) := by
    rw [List.append_assoc, ← List.replicate_succ', Numeral.ofDigits_append_zeros,
      Numeral.ofDigits_digits]
  rw [hcount, Decimal.ofParts, hsignificand]
  rfl

/-- The text of a decimal has a point, and what is read from it is rounded like the decimal. -/
theorem exists_isPointed {d : Decimal} (hzero : d.significand ≠ 0)
    (hfinite : d.toBinary64 ≠ .infinite d.negative) :
    ∃ whole fraction, IsPointed (floatStyle.magnitudeText d) whole fraction ∧
      (Decimal.ofParts d.negative whole fraction 0).toBinary64 = d.toBinary64 := by
  obtain ⟨negative, n, exponent⟩ := d
  replace hzero : n ≠ 0 := hzero
  have htext : floatStyle.magnitudeText ⟨negative, n, exponent⟩ =
      FloatStyle.positionalText ['.', '0'] (Numeral.digits n)
        ((Numeral.digits n).length + exponent) := rfl
  rw [htext]
  by_cases hlow : (Numeral.digits n).length + exponent ≤ 0
  · exact ⟨_, _, isPointed_low n hlow, congrArg Decimal.toBinary64 (ofParts_low negative n hlow)⟩
  · rw [Int.not_le] at hlow
    by_cases hhigh : (Numeral.digits n).length + exponent < (Numeral.digits n).length
    · exact ⟨_, _, isPointed_middle hzero hlow hhigh,
        congrArg Decimal.toBinary64 (ofParts_middle negative n hlow hhigh)⟩
    · obtain ⟨e, rfl⟩ : ∃ e : Nat, exponent = e := ⟨exponent.toNat, by omega⟩
      refine ⟨_, _, isPointed_high hzero (by omega), ?_⟩
      rw [ofParts_high]
      exact Decimal.toBinary64_tenfold hfinite

/-- The text of a finite double behind its sign, and what is read from it. -/
theorem exists_isPointed_render {negative : Bool} {significand exponent : Nat}
    (h : Binary64.Canonical significand exponent) :
    ∃ text whole fraction,
      (floatStyle.render (.finite negative significand exponent h)).toList =
        signed negative text ∧
      IsPointed text whole fraction ∧
      (Decimal.ofParts negative whole fraction 0).toBinary64 =
        .finite negative significand exponent h := by
  by_cases hzero : significand = 0
  · subst hzero
    have hexponent : exponent = 0 := by
      rcases h.2.2 with h | h
      · exact h
      · exact absurd h (by decide)
    subst hexponent
    have hpointed : IsPointed ['0', '.', '0'] ['0'] ['0'] :=
      ⟨rfl, Numeral.isLeading_zero, by simp, Numeral.isLeading_zero.isDigit⟩
    refine ⟨_, _, _, ?_, hpointed, rfl⟩
    simp only [FloatStyle.render, if_true, String.toList_ofList]
    rfl
  · generalize hx : Binary64.finite negative significand exponent h = x
    generalize hd : Shortest.decimal floatStyle.tie x significand exponent = d
    have hreads : d.toBinary64 = x := by
      rw [← hd, ← hx]
      exact Shortest.toBinary64_decimal _ h hzero
    have hnegative : d.negative = negative := by
      rw [← Decimal.isNegative_toBinary64, hreads, ← hx]
      rfl
    have hsignificand : d.significand ≠ 0 :=
      Decimal.significand_ne_zero hzero (hreads.trans hx.symm)
    have hfinite : d.toBinary64 ≠ .infinite d.negative := by
      rw [hreads, ← hx]
      exact Binary64.noConfusion
    obtain ⟨whole, fraction, hpointed, hvalue⟩ := exists_isPointed hsignificand hfinite
    refine ⟨_, whole, fraction, ?_, hpointed, ?_⟩
    · rw [← hd, ← hx]
      simp only [FloatStyle.render, if_neg hzero, String.toList_ofList]
      rfl
    · rw [← hnegative, hvalue, hreads]

theorem toList_render_nan : (floatStyle.render .nan).toList = ['n', 'a', 'n'] := by
  decide

theorem toList_render_infinite (negative : Bool) :
    (floatStyle.render (.infinite negative)).toList = signed negative ['i', 'n', 'f'] := by
  cases negative <;> decide

/-- **Doubles are read back.** -/
theorem number?_render (x : Binary64) (rest : List Char) :
    number? ((floatStyle.render x).toList ++ '\n' :: rest) = some (.float x, '\n' :: rest) := by
  cases x with
  | nan =>
    have hmoment := Moment.rest?_of_not_isDigit (c := 'n') (by decide)
      ('a' :: 'n' :: '\n' :: rest)
    rw [toList_render_nan]
    simp [number?, hmoment, Numeral.sign, unsigned?]
  | infinite negative =>
    rw [toList_render_infinite]
    cases negative with
    | true =>
      have hmoment := Moment.rest?_of_not_isDigit (c := '-') (by decide)
        ('i' :: 'n' :: 'f' :: '\n' :: rest)
      simp [number?, signed, hmoment, Numeral.sign, unsigned?]
    | false =>
      have hmoment := Moment.rest?_of_not_isDigit (c := 'i') (by decide)
        ('n' :: 'f' :: '\n' :: rest)
      simp [number?, signed, hmoment, Numeral.sign, unsigned?]
  | finite negative significand exponent h =>
    obtain ⟨text, whole, fraction, hwritten, hpointed, hvalue⟩ := exists_isPointed_render h
    rw [hwritten, hpointed.number?_eq hvalue Binary64.noConfusion]

/-! ## The ends of numbers -/

/-- What a written number consists of: a sign, and digits with a point among them or a name. -/
def IsNumberText (cs : List Char) : Prop :=
  ∃ negative body, cs = signed negative body ∧ body ≠ [] ∧
    ((∀ c ∈ body, isNumeric c = true) ∨ body = ['i', 'n', 'f'] ∨ body = ['n', 'a', 'n'])

theorem isNumberText_ofInt (n : Int) : IsNumberText (Numeral.ofInt n) :=
  ⟨_, _, ofInt_eq_signed n, Numeral.digits_ne_nil _,
    Or.inl fun _ hc => isNumeric_of_mem_digits hc⟩

theorem isNumberText_render (x : Binary64) : IsNumberText (floatStyle.render x).toList := by
  cases x with
  | nan => exact ⟨false, _, toList_render_nan, by simp, Or.inr (Or.inr rfl)⟩
  | infinite negative =>
    exact ⟨negative, _, toList_render_infinite negative, by simp, Or.inr (Or.inl rfl)⟩
  | finite negative significand exponent h =>
    obtain ⟨text, whole, fraction, hwritten, hpointed, -⟩ := exists_isPointed_render h
    exact ⟨negative, text, hwritten, hpointed.text_ne_nil,
      Or.inl fun c hc => hpointed.isNumeric_of_mem hc⟩

/-- A character with which a written number begins. -/
def StartsNumber (c : Char) : Prop :=
  isNumeric c = true ∨ c ∈ ['-', 'i', 'n']

theorem StartsNumber.ne {c d : Char} (hc : StartsNumber c) (hnumeric : isNumeric d = false)
    (hd : d ∉ ['-', 'i', 'n']) : c ≠ d := by
  rcases hc with hc | hc
  · exact ne_of_isNumeric hc hnumeric
  · rintro rfl
    exact hd hc

theorem IsNumberText.eq_cons {cs : List Char} (h : IsNumberText cs) :
    ∃ c rest, cs = c :: rest ∧ StartsNumber c := by
  obtain ⟨negative, body, rfl, hne, hbody⟩ := h
  cases negative with
  | true => exact ⟨'-', body, rfl, Or.inr (by decide)⟩
  | false =>
    rcases hbody with hbody | rfl | rfl
    · obtain ⟨c, rest, rfl⟩ := List.exists_cons_of_ne_nil hne
      exact ⟨c, rest, rfl, Or.inl (hbody c (by simp))⟩
    · exact ⟨'i', _, rfl, Or.inr (by decide)⟩
    · exact ⟨'n', _, rfl, Or.inr (by decide)⟩

theorem isBlank_of_isNumeric {c : Char} (h : isNumeric c = true) : isBlank c = false := by
  rw [isNumeric, Bool.or_eq_true, beq_iff_eq] at h
  rcases h with h | rfl
  · exact isBlank_of_isDigit h
  · decide

theorem IsNumberText.eq_concat {cs : List Char} (h : IsNumberText cs) :
    ∃ front c, cs = front ++ [c] ∧ isBlank c = false := by
  obtain ⟨negative, body, rfl, hne, hbody⟩ := h
  have hsigned : ∀ front c, signed negative (front ++ [c]) = signed negative front ++ [c] := by
    intro front c
    cases negative <;> rfl
  rcases hbody with hbody | rfl | rfl
  · refine ⟨signed negative body.dropLast, body.getLast hne, ?_, ?_⟩
    · rw [← hsigned, List.dropLast_append_getLast]
    · exact isBlank_of_isNumeric (hbody _ (List.getLast_mem hne))
  · exact ⟨signed negative ['i', 'n'], 'f', hsigned ['i', 'n'] 'f', by decide⟩
  · exact ⟨signed negative ['n', 'a'], 'n', hsigned ['n', 'a'] 'n', by decide⟩

end Toml

end Provision
