/-!
# White space

The blank characters (property White_Space of Unicode), and texts without the blanks at their
ends.

Results:

* `trim_eq_nil_iff`: what is trimmed to nothing is blank throughout.
-/

namespace Provision

/-- Whether a character is white space. -/
def isBlank (c : Char) : Bool :=
  let n := c.toNat
  (9 ≤ n && n ≤ 13) || n == 0x20 || n == 0x85 || n == 0xa0 || n == 0x1680 ||
    (0x2000 ≤ n && n ≤ 0x200a) || n == 0x2028 || n == 0x2029 || n == 0x202f || n == 0x205f ||
    n == 0x3000

/-- A text without the blanks in front. -/
def trimStart (cs : List Char) : List Char :=
  cs.dropWhile isBlank

/-- A text without the blanks at its end. -/
def trimEnd (cs : List Char) : List Char :=
  (cs.reverse.dropWhile isBlank).reverse

/-- A text without the blanks at both ends. -/
def trim (cs : List Char) : List Char :=
  trimEnd (trimStart cs)

theorem dropWhile_isBlank_eq_nil_iff {cs : List Char} :
    cs.dropWhile isBlank = [] ↔ ∀ c ∈ cs, isBlank c = true := by
  induction cs with
  | nil => simp
  | cons c cs ih => by_cases h : isBlank c <;> simp [h, ih]

theorem trim_eq_nil_iff {cs : List Char} : trim cs = [] ↔ ∀ c ∈ cs, isBlank c = true := by
  constructor
  · intro h
    simp only [trim, trimEnd, List.reverse_eq_nil_iff, dropWhile_isBlank_eq_nil_iff,
      List.mem_reverse] at h
    cases hs : trimStart cs with
    | nil => exact dropWhile_isBlank_eq_nil_iff.1 hs
    | cons c rest =>
      have hc : isBlank c = true := h c (by simp [hs])
      have := List.head?_dropWhile_not isBlank cs
      simp only [trimStart] at hs
      simp [hs, hc] at this
  · intro h
    simp [trim, trimEnd, trimStart, dropWhile_isBlank_eq_nil_iff.2 h]

end Provision
