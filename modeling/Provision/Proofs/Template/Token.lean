import Provision.Template.Token

/-!
# Tokens and what they are written as

A text can be cut into delimiters and the texts between them in several ways: three braces in a
row hold a delimiter and a half. The cut that is made from the left is the one in which every
text between delimiters is as long as it can be and no half of a delimiter is left in front of a
whole one. Such a list of tokens is called canonical.

Results:

* `Undelimited`: the texts in which no delimiter stands.
* `Token.canonical_tokens`, `Token.tokens_flatMap_written`: the tokens of a text are canonical,
  and a canonical list is read back from what it is written as.
* `Token.LeftmostCut`, `Token.LeftmostCut.canonical`: the cut from the left, told by the neighbours
  of its tokens; it is a canonical list.
* `Token.mem_tokens_iff`: a delimiter is among the tokens if it stands somewhere in the text.
* `Token.tokens_leftmost`: the tokens of a text are the one cut of it from the left.
-/

namespace Provision

/-- A delimiter stands at the very front of a text. -/
def StartsDelimiter (cs : List Char) : Prop :=
  Token.openingText <+: cs ∨ Token.closingText <+: cs

/-- No delimiter stands anywhere in a text. -/
def Undelimited (cs : List Char) : Prop :=
  occurs Token.openingText cs = false ∧ occurs Token.closingText cs = false

/-! ## Texts without delimiters -/

theorem undelimited_nil : Undelimited [] :=
  ⟨rfl, rfl⟩

theorem undelimited_iff {cs : List Char} :
    Undelimited cs ↔ ¬ Token.openingText <:+: cs ∧ ¬ Token.closingText <:+: cs := by
  simp only [Undelimited, ← Bool.not_eq_true, occurs_iff]

theorem undelimited_cons_iff {c : Char} {cs : List Char} :
    Undelimited (c :: cs) ↔ ¬ StartsDelimiter (c :: cs) ∧ Undelimited cs := by
  simp only [Undelimited, StartsDelimiter, occurs, Bool.or_eq_false_iff, not_or,
    ← List.isPrefixOf_iff_prefix, Bool.not_eq_true]
  exact and_and_and_comm

theorem undelimited_singleton (c : Char) : Undelimited [c] := by
  rw [undelimited_cons_iff]
  refine ⟨?_, undelimited_nil⟩
  simp [StartsDelimiter, Token.openingText, Token.closingText]

theorem isTemplate_eq_false_of_undelimited {cs : List Char} (h : Undelimited cs) :
    isTemplate cs = false := by
  rw [isTemplate, h.1, Bool.false_and]

theorem undelimited_of_not_mem {cs : List Char} (hopening : '{' ∉ cs) (hclosing : '}' ∉ cs) :
    Undelimited cs := by
  constructor
  · rw [← Bool.not_eq_true, occurs_iff]
    exact fun h => hopening (h.subset (by simp [Token.openingText]))
  · rw [← Bool.not_eq_true, occurs_iff]
    exact fun h => hclosing (h.subset (by simp [Token.closingText]))

theorem StartsDelimiter.append {cs : List Char} (h : StartsDelimiter cs) (rest : List Char) :
    StartsDelimiter (cs ++ rest) :=
  h.imp (·.trans (List.prefix_append _ _)) (·.trans (List.prefix_append _ _))

/-- A delimiter is two characters long, so that what follows these does not matter. -/
theorem startsDelimiter_cons_cons {c d : Char} {cs rest : List Char} :
    StartsDelimiter (c :: d :: cs) ↔ StartsDelimiter (c :: d :: rest) := by
  simp [StartsDelimiter, Token.openingText, Token.closingText, List.cons_prefix_cons]

namespace Token

/-! ## Canonical lists -/

/-- A text may stand in front of these tokens: there is no text at their front with which it
    would be one, and it does not end in half of the delimiter at their front. -/
def EndsBefore (content : List Char) : List Token → Prop
  | [] => True
  | .text _ :: _ => False
  | .opening :: _ => content.getLast? ≠ some '{'
  | .closing :: _ => content.getLast? ≠ some '}'

/-- The lists of tokens that are made by cutting a text from the left. -/
inductive Canonical : List Token → Prop where
  | nil : Canonical []
  | opening {ts : List Token} : Canonical ts → Canonical (.opening :: ts)
  | closing {ts : List Token} : Canonical ts → Canonical (.closing :: ts)
  | text {content : List Char} {ts : List Token} : content ≠ [] → Undelimited content →
      EndsBefore content ts → Canonical ts → Canonical (.text content :: ts)

theorem EndsBefore.cons {content : List Char} {ts : List Token} (h : EndsBefore content ts)
    (hne : content ≠ []) (c : Char) : EndsBefore (c :: content) ts := by
  cases ts with
  | nil => trivial
  | cons t ts =>
    cases t with
    | text _ => exact h
    | opening => rwa [EndsBefore, List.getLast?_cons_of_ne_nil hne]
    | closing => rwa [EndsBefore, List.getLast?_cons_of_ne_nil hne]

theorem EndsBefore.tail {c : Char} {content : List Char} {ts : List Token}
    (h : EndsBefore (c :: content) ts) (hne : content ≠ []) : EndsBefore content ts := by
  cases ts with
  | nil => trivial
  | cons t ts =>
    cases t with
    | text _ => exact h
    | opening => rwa [EndsBefore, List.getLast?_cons_of_ne_nil hne] at h
    | closing => rwa [EndsBefore, List.getLast?_cons_of_ne_nil hne] at h

/-- A single character may stand in front of tokens exactly if it does not begin a delimiter
    with them. -/
theorem endsBefore_singleton_iff {c : Char} {ts : List Token} (htext : ∀ content rest,
    ts ≠ .text content :: rest) :
    EndsBefore [c] ts ↔ ¬ StartsDelimiter (c :: ts.flatMap written) := by
  cases ts with
  | nil => simp [EndsBefore, StartsDelimiter, openingText, closingText]
  | cons t ts =>
    cases t with
    | text content => exact absurd rfl (htext content ts)
    | opening => simp [EndsBefore, StartsDelimiter, written, openingText, closingText, eq_comm]
    | closing => simp [EndsBefore, StartsDelimiter, written, openingText, closingText, eq_comm]

/-! ## Reading -/

theorem tokens_cons {c : Char} {cs : List Char} (h : ¬ StartsDelimiter (c :: cs)) :
    tokens (c :: cs) = prepend c (tokens cs) := by
  rw [StartsDelimiter, not_or] at h
  refine tokens.eq_4 c cs ?_ ?_
  · rintro rest rfl rfl
    exact h.1 ⟨rest, rfl⟩
  · rintro rest rfl rfl
    exact h.2 ⟨rest, rfl⟩

theorem not_startsDelimiter {c : Char} {cs : List Char}
    (hopening : ∀ rest, c = '{' → cs = '{' :: rest → False)
    (hclosing : ∀ rest, c = '}' → cs = '}' :: rest → False) : ¬ StartsDelimiter (c :: cs) := by
  rintro (⟨tail, h⟩ | ⟨tail, h⟩)
  · cases h
    exact hopening _ rfl rfl
  · cases h
    exact hclosing _ rfl rfl

theorem canonical_prepend {c : Char} {ts : List Token} (h : Canonical ts)
    (hstart : ¬ StartsDelimiter (c :: ts.flatMap written)) : Canonical (prepend c ts) := by
  have hsingle : (∀ content rest, ts ≠ .text content :: rest) → Canonical (.text [c] :: ts) :=
    fun htext => .text (by simp) (undelimited_singleton c)
      ((endsBefore_singleton_iff htext).2 hstart) h
  cases h with
  | nil => exact hsingle (by simp)
  | opening _ => exact hsingle (by simp)
  | closing _ => exact hsingle (by simp)
  | text hne hund hends hts =>
    refine .text (by simp) (undelimited_cons_iff.2 ⟨fun h => hstart ?_, hund⟩)
      (hends.cons hne c) hts
    exact h.append _

theorem canonical_tokens (cs : List Char) : Canonical (tokens cs) := by
  fun_induction tokens cs with
  | case1 => exact .nil
  | case2 rest ih => exact .opening ih
  | case3 rest ih => exact .closing ih
  | case4 c rest hopening hclosing ih =>
    refine canonical_prepend ih ?_
    rw [flatten_tokens]
    exact not_startsDelimiter hopening hclosing

/-- A text in front of canonical tokens is read as one token. -/
theorem tokens_append {content : List Char} {ts : List Token} (hne : content ≠ [])
    (hund : Undelimited content) (hends : EndsBefore content ts)
    (hts : tokens (ts.flatMap written) = ts) :
    tokens (content ++ ts.flatMap written) = .text content :: ts := by
  induction content with
  | nil => exact absurd rfl hne
  | cons c content ih =>
    obtain ⟨hstart, hund⟩ := undelimited_cons_iff.1 hund
    cases content with
    | nil =>
      have htext : ∀ content rest, ts ≠ .text content :: rest := by
        rintro content rest rfl
        exact hends
      have hstart : ¬ StartsDelimiter (c :: ts.flatMap written) :=
        (endsBefore_singleton_iff htext).1 hends
      rw [List.singleton_append, tokens_cons hstart, hts]
      cases ts with
      | nil => rfl
      | cons t ts =>
        cases t with
        | text content => exact absurd rfl (htext content ts)
        | opening => rfl
        | closing => rfl
    | cons d content =>
      have hstart : ¬ StartsDelimiter (c :: (d :: content ++ ts.flatMap written)) :=
        fun h => hstart (startsDelimiter_cons_cons.1 h)
      rw [List.cons_append, tokens_cons hstart, ih (by simp) hund (hends.tail (by simp))]
      rfl

/-- A canonical list is read back from what it is written as. -/
theorem tokens_flatMap_written {ts : List Token} (h : Canonical ts) :
    tokens (ts.flatMap written) = ts := by
  induction h with
  | nil => rfl
  | opening _ ih => exact congrArg (Token.opening :: ·) ih
  | closing _ ih => exact congrArg (Token.closing :: ·) ih
  | text hne hund hends _ ih => exact tokens_append hne hund hends ih

/-! ## The cut from the left -/

/-- The cut of a text from the left: what it is written as is the text, no delimiter stands in a
    text between delimiters, none of these is empty or stands in front of another one, and none
    ends in half of the delimiter behind it. -/
structure LeftmostCut (cs : List Char) (ts : List Token) : Prop where
  written : ts.flatMap Token.written = cs
  text : ∀ content, .text content ∈ ts →
    content ≠ [] ∧ ¬ openingText <:+: content ∧ ¬ closingText <:+: content
  apart : ∀ content other, ¬ [.text content, .text other] <:+: ts
  opening : ∀ content, [.text content, .opening] <:+: ts → content.getLast? ≠ some '{'
  closing : ∀ content, [.text content, .closing] <:+: ts → content.getLast? ≠ some '}'

variable {cs content : List Char} {t : Token} {ts front : List Token}

theorem Canonical.tail (h : Canonical (t :: ts)) : Canonical ts := by
  cases h <;> assumption

theorem Canonical.of_append (h : Canonical (front ++ ts)) : Canonical ts := by
  induction front with
  | nil => exact h
  | cons t front ih => exact ih h.tail

/-- What a text in a canonical list is like, and what it may stand in front of. -/
theorem Canonical.of_text (h : Canonical (front ++ .text content :: ts)) :
    content ≠ [] ∧ Undelimited content ∧ EndsBefore content ts := by
  cases h.of_append with
  | text hne hund hends _ => exact ⟨hne, hund, hends⟩

theorem Canonical.leftmostCut (h : Canonical ts) : LeftmostCut (ts.flatMap Token.written) ts where
  written := rfl
  text content hmem := by
    obtain ⟨front, rest, rfl⟩ := List.append_of_mem hmem
    obtain ⟨hne, hund, -⟩ := h.of_text
    exact ⟨hne, undelimited_iff.1 hund⟩
  apart content other := by
    rintro ⟨front, rest, rfl⟩
    rw [List.append_assoc] at h
    exact h.of_text.2.2
  opening content := by
    rintro ⟨front, rest, rfl⟩
    rw [List.append_assoc] at h
    exact h.of_text.2.2
  closing content := by
    rintro ⟨front, rest, rfl⟩
    rw [List.append_assoc] at h
    exact h.of_text.2.2

theorem LeftmostCut.tail (h : LeftmostCut cs (t :: ts)) :
    LeftmostCut (ts.flatMap Token.written) ts where
  written := rfl
  text content hmem := h.text content (List.mem_cons_of_mem t hmem)
  apart content other hpair := h.apart content other (List.infix_cons hpair)
  opening content hpair := h.opening content (List.infix_cons hpair)
  closing content hpair := h.closing content (List.infix_cons hpair)

theorem LeftmostCut.endsBefore (h : LeftmostCut cs (.text content :: ts)) :
    EndsBefore content ts :=
  match ts with
  | [] => trivial
  | .text other :: rest => h.apart content other ⟨[], rest, rfl⟩
  | .opening :: rest => h.opening content ⟨[], rest, rfl⟩
  | .closing :: rest => h.closing content ⟨[], rest, rfl⟩

theorem LeftmostCut.canonical (h : LeftmostCut cs ts) : Canonical ts := by
  induction ts generalizing cs with
  | nil => exact .nil
  | cons t ts ih =>
    have hts : Canonical ts := ih h.tail
    cases t with
    | opening => exact .opening hts
    | closing => exact .closing hts
    | text content =>
      obtain ⟨hne, hund⟩ := h.text content List.mem_cons_self
      exact .text hne (undelimited_iff.2 hund) h.endsBefore hts

theorem tokens_eq_iff : tokens cs = ts ↔ LeftmostCut cs ts := by
  constructor
  · rintro rfl
    have hcut := (canonical_tokens cs).leftmostCut
    rwa [flatten_tokens] at hcut
  · intro h
    rw [← h.written, tokens_flatMap_written h.canonical]

/-! ## Delimiters among the tokens -/

theorem mem_prepend_iff (ht : ∀ content, t ≠ .text content) (c : Char) (ts : List Token) :
    t ∈ prepend c ts ↔ t ∈ ts := by
  cases ts with
  | nil => simp [prepend, ht]
  | cons u rest => cases u <;> simp [prepend, ht]

theorem startsDelimiter_of_written (ht : ∀ content, t ≠ .text content)
    (h : t.written <+: cs) : StartsDelimiter cs := by
  cases t with
  | text content => exact absurd rfl (ht content)
  | opening => exact Or.inl h
  | closing => exact Or.inr h

/-- A delimiter is among the tokens of a text exactly if it stands somewhere in the text. -/
theorem mem_tokens_iff (ht : ∀ content, t ≠ .text content) :
    t ∈ tokens cs ↔ t.written <:+: cs := by
  fun_induction tokens cs with
  | case1 =>
    cases t with
    | text content => exact absurd rfl (ht content)
    | opening => simp [written, openingText]
    | closing => simp [written, closingText]
  | case2 rest ih =>
    cases t with
    | text content => exact absurd rfl (ht content)
    | opening => simp [written, openingText, List.infix_cons_iff]
    | closing => simpa [written, closingText, List.infix_cons_iff] using ih
  | case3 rest ih =>
    cases t with
    | text content => exact absurd rfl (ht content)
    | opening => simpa [written, openingText, List.infix_cons_iff] using ih
    | closing => simp [written, closingText, List.infix_cons_iff]
  | case4 c rest hopening hclosing ih =>
    have hstart : ¬ t.written <+: c :: rest := fun h =>
      not_startsDelimiter hopening hclosing (startsDelimiter_of_written ht h)
    rw [mem_prepend_iff ht, ih, List.infix_cons_iff, or_iff_right hstart]

/-- **The cut from the left.** The tokens of a text are the one list for which this holds: what it
    is written as is the text, every text in it is not empty and holds no delimiter, no two texts
    are neighbours, and no text ends in a left brace in front of an opening delimiter, or in a right
    one in front of a closing one. So each delimiter is among the tokens exactly if it stands
    somewhere in the text, and a template is a text whose tokens have both. -/
theorem tokens_leftmost (cs : List Char) :
    (∀ ts, tokens cs = ts ↔ LeftmostCut cs ts) ∧
    (.opening ∈ tokens cs ↔ openingText <:+: cs) ∧
    (.closing ∈ tokens cs ↔ closingText <:+: cs) ∧
    (isTemplate cs = true ↔ .opening ∈ tokens cs ∧ .closing ∈ tokens cs) := by
  have hopening : .opening ∈ tokens cs ↔ openingText <:+: cs := mem_tokens_iff (by simp)
  have hclosing : .closing ∈ tokens cs ↔ closingText <:+: cs := mem_tokens_iff (by simp)
  refine ⟨fun ts => tokens_eq_iff, hopening, hclosing, ?_⟩
  rw [hopening, hclosing, isTemplate, Bool.and_eq_true, occurs_iff, occurs_iff]

/-- Of three braces in a row the first two are the delimiter. -/
example : tokens "\x7b\x7b\x7ba\x7d\x7d\x7d".toList =
    [.opening, .text ['{', 'a'], .closing, .text ['}']] := by decide

end Token

end Provision
