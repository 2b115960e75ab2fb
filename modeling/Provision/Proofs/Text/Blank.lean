import Provision.Parameter.Name
import Provision.Text.Blank

/-!
# Trimmed texts

A text is what trimming leaves of it, with white space around that. What begins and ends with
other characters is found again by trimming, whatever white space surrounds it.

Results:

* `eq_append_trim`: a text is its trimmed form between blanks.
* `trim_append`: trimming takes the blanks around a text away, and nothing else.
* `trimEnd_append_cons`: nothing is trimmed in front of a character that is no white space.
* `trim_of_not_isBlank`: a text without white space is not changed by trimming.
* `isBlank_of_isDigit`, `isBlank_of_isNameChar`: digits and the characters of names.
-/

namespace Provision

/-- A text that holds nothing but white space. -/
def Blank (cs : List Char) : Prop :=
  ∀ c ∈ cs, isBlank c = true

theorem blank_takeWhile (cs : List Char) : Blank (cs.takeWhile isBlank) := by
  intro c hc
  exact List.all_eq_true.1 List.all_takeWhile c hc

theorem Blank.reverse {cs : List Char} (h : Blank cs) : Blank cs.reverse :=
  fun c hc => h c (List.mem_reverse.1 hc)

theorem eq_append_trimStart (cs : List Char) :
    ∃ left, Blank left ∧ cs = left ++ trimStart cs :=
  ⟨cs.takeWhile isBlank, blank_takeWhile cs, List.takeWhile_append_dropWhile.symm⟩

theorem eq_append_trimEnd (cs : List Char) : ∃ right, Blank right ∧ cs = trimEnd cs ++ right := by
  obtain ⟨left, hleft, h⟩ := eq_append_trimStart cs.reverse
  refine ⟨left.reverse, hleft.reverse, ?_⟩
  rw [trimEnd, ← List.reverse_append]
  exact List.reverse_eq_iff.1 h

/-- A text is its trimmed form between blanks. -/
theorem eq_append_trim (cs : List Char) :
    ∃ left right, Blank left ∧ Blank right ∧ cs = left ++ trim cs ++ right := by
  obtain ⟨left, hleft, hstart⟩ := eq_append_trimStart cs
  obtain ⟨right, hright, hend⟩ := eq_append_trimEnd (trimStart cs)
  refine ⟨left, right, hleft, hright, ?_⟩
  rw [List.append_assoc, trim, ← hend, ← hstart]

theorem trimStart_append {left rest : List Char} (hleft : Blank left)
    (hrest : ∀ c, rest.head? = some c → isBlank c = false) : trimStart (left ++ rest) = rest := by
  rw [trimStart, List.dropWhile_append_of_pos hleft]
  cases rest with
  | nil => rfl
  | cons c rest => rw [List.dropWhile_cons, hrest c rfl, if_neg Bool.false_ne_true]

theorem trimEnd_append {front right : List Char} (hright : Blank right)
    (hfront : ∀ c, front.getLast? = some c → isBlank c = false) :
    trimEnd (front ++ right) = front := by
  have hreverse : trimStart (right.reverse ++ front.reverse) = front.reverse :=
    trimStart_append hright.reverse (by simpa using hfront)
  rw [trimStart, ← List.reverse_append] at hreverse
  rw [trimEnd, hreverse, List.reverse_reverse]

/-- Trimming takes the blanks around a text away, and nothing else. -/
theorem trim_append {left core right : List Char} (hleft : Blank left) (hright : Blank right)
    (hne : core ≠ []) (hhead : ∀ c, core.head? = some c → isBlank c = false)
    (hlast : ∀ c, core.getLast? = some c → isBlank c = false) :
    trim (left ++ core ++ right) = core := by
  have hstart : trimStart (left ++ (core ++ right)) = core ++ right := by
    refine trimStart_append hleft fun c hc => hhead c ?_
    obtain ⟨first, rest, rfl⟩ := List.exists_cons_of_ne_nil hne
    exact hc
  rw [trim, List.append_assoc, hstart, trimEnd_append hright hlast]

/-! ## The end of a text -/

theorem isBlank_of_getLast?_trimEnd {cs : List Char} {c : Char}
    (h : (trimEnd cs).getLast? = some c) : isBlank c = false := by
  have hhead := List.head?_dropWhile_not isBlank cs.reverse
  rw [trimEnd, List.getLast?_reverse] at h
  rw [h] at hhead
  exact hhead

theorem trimEnd_eq_self_iff {cs : List Char} :
    trimEnd cs = cs ↔ ∀ c, cs.getLast? = some c → isBlank c = false := by
  constructor
  · intro h c hc
    rw [← h] at hc
    exact isBlank_of_getLast?_trimEnd hc
  · intro h
    have hempty : Blank [] := fun c hc => absurd hc List.not_mem_nil
    simpa using trimEnd_append hempty h

theorem trimEnd_append_blank {right : List Char} (cs : List Char) (hright : Blank right) :
    trimEnd (cs ++ right) = trimEnd cs := by
  obtain ⟨blanks, hblanks, hcs⟩ := eq_append_trimEnd cs
  have hall : Blank (blanks ++ right) := fun c hc =>
    (List.mem_append.1 hc).elim (hblanks c) (hright c)
  have hsplit : cs ++ right = trimEnd cs ++ (blanks ++ right) := by
    rw [← List.append_assoc, ← hcs]
  rw [hsplit, trimEnd_append hall fun c => isBlank_of_getLast?_trimEnd]

theorem trimEnd_append_cons {c : Char} (hc : isBlank c = false) (front rest : List Char) :
    trimEnd (front ++ c :: rest) = front ++ c :: trimEnd rest := by
  obtain ⟨right, hright, hrest⟩ := eq_append_trimEnd rest
  have hsplit : front ++ c :: rest = (front ++ c :: trimEnd rest) ++ right := by
    rw [List.append_assoc, List.cons_append, ← hrest]
  rw [hsplit]
  refine trimEnd_append hright fun last hlast => ?_
  rw [List.getLast?_append, List.getLast?_cons] at hlast
  cases hend : (trimEnd rest).getLast? with
  | none =>
    rw [hend] at hlast
    cases hlast
    exact hc
  | some d =>
    rw [hend] at hlast
    cases hlast
    exact isBlank_of_getLast?_trimEnd hend

/-! ## Texts without blanks -/

theorem trim_of_not_isBlank {cs : List Char} (h : ∀ c ∈ cs, isBlank c = false) : trim cs = cs := by
  by_cases hne : cs = []
  · rw [hne]
    rfl
  · have hempty : Blank [] := fun c hc => absurd hc List.not_mem_nil
    have hhead : ∀ c, cs.head? = some c → isBlank c = false :=
      fun c hc => h c (List.mem_of_head? hc)
    have hlast : ∀ c, cs.getLast? = some c → isBlank c = false :=
      fun c hc => h c (List.mem_of_getLast? hc)
    simpa using trim_append hempty hempty hne hhead hlast

theorem toNat_of_isAlphanum {c : Char} (h : c.isAlphanum = true) :
    (65 ≤ c.toNat ∧ c.toNat ≤ 90) ∨ (97 ≤ c.toNat ∧ c.toNat ≤ 122) ∨
      (48 ≤ c.toNat ∧ c.toNat ≤ 57) := by
  have hclasses : ((c.isUpper || c.isLower) || c.isDigit) = true := h
  rw [Bool.or_eq_true, Bool.or_eq_true, or_assoc] at hclasses
  have hupper : c.isUpper = true → 65 ≤ c.toNat ∧ c.toNat ≤ 90 := fun h => of_decide_eq_true h
  have hlower : c.isLower = true → 97 ≤ c.toNat ∧ c.toNat ≤ 122 := fun h =>
    (Bool.and_eq_true_iff.1 h).imp of_decide_eq_true of_decide_eq_true
  have hdigit : c.isDigit = true → 48 ≤ c.toNat ∧ c.toNat ≤ 57 := fun h =>
    (Bool.and_eq_true_iff.1 h).imp of_decide_eq_true of_decide_eq_true
  exact hclasses.imp hupper (Or.imp hlower hdigit)

theorem isBlank_of_isAlphanum {c : Char} (h : c.isAlphanum = true) : isBlank c = false := by
  have hrange := toNat_of_isAlphanum h
  simp only [isBlank, Bool.or_eq_false_iff, Bool.and_eq_false_iff, beq_eq_false_iff_ne,
    decide_eq_false_iff_not]
  omega

theorem isBlank_of_isDigit {c : Char} (h : c.isDigit = true) : isBlank c = false :=
  isBlank_of_isAlphanum (by rw [Char.isAlphanum, h, Bool.or_true])

theorem isBlank_of_isNameChar {c : Char} (h : isNameChar c = true) : isBlank c = false := by
  rw [isNameChar, Bool.or_eq_true, beq_iff_eq] at h
  rcases h with h | rfl
  · exact isBlank_of_isAlphanum h
  · rfl

theorem isNameChar_of_isName {cs : List Char} (h : isName cs = true) :
    cs ≠ [] ∧ ∀ c ∈ cs, isNameChar c = true := by
  rw [isName, Bool.and_eq_true, Bool.not_eq_true', List.isEmpty_eq_false_iff,
    List.all_eq_true] at h
  exact h

end Provision
