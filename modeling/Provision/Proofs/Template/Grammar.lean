import Mathlib.Data.List.Basic
import Provision.Proofs.Outcome
import Provision.Proofs.Template.Token
import Provision.Proofs.Text.Blank
import Provision.Template.Piece

/-!
# The grammar of templates

A supported template is one reference with literal text on both sides. The reference is
`params.` and a name between the delimiters, with white space around it; no delimiter stands in
the literal text, and it leaves no half of one in front of the reference.

Results:

* `Refers`: the texts of this form.
* `Parses`: the grammar, which gives pieces to these texts and to those without a delimiter.
* `pieces_eq_ok_iff`: a template is supported exactly if it has this form, and its pieces are
  the reference and the literal text that is not empty.
* `Refers.unique`: the parts of a template are determined by its text.
* `pieces_grammar`: a text has the pieces that the grammar gives it, and without any it is told to
  be unsupported.
-/

namespace Provision

/-- The text is a reference to `name`, with `before` and `after` as the literal text around. -/
structure Refers (source before : List Char) (name : String) (after : List Char) : Prop where
  written : ∃ left right, Blank left ∧ Blank right ∧
    source = before ++ Token.openingText ++ (left ++ (referencePrefix ++ name.toList) ++ right) ++
      Token.closingText ++ after
  isName : isName name.toList = true
  undelimited_before : Undelimited before
  boundary : before.getLast? ≠ some '{'
  undelimited_after : Undelimited after

/-! ## The content of a reference -/

/-- The content of a pair of delimiters is a reference exactly if it is `params.` and a name
    between blanks. -/
theorem reference?_eq_some_iff_written {content : List Char} {name : String} :
    reference? content = some name ↔ isName name.toList = true ∧
      ∃ left right, Blank left ∧ Blank right ∧
        content = left ++ (referencePrefix ++ name.toList) ++ right := by
  rw [reference?_eq_some_iff]
  refine and_congr_right fun hname => ?_
  obtain ⟨hne, hchars⟩ := isNameChar_of_isName hname
  constructor
  · intro htrim
    obtain ⟨left, right, hleft, hright, h⟩ := eq_append_trim content
    exact ⟨left, right, hleft, hright, htrim ▸ h⟩
  · rintro ⟨left, right, hleft, hright, rfl⟩
    refine trim_append hleft hright (by simp [referencePrefix]) ?_ ?_
    · rintro c ⟨⟩
      decide
    · intro c hc
      rw [List.getLast?_append, List.getLast?_eq_some_getLast hne, Option.some_or] at hc
      cases hc
      exact isBlank_of_isNameChar (hchars _ (List.getLast_mem hne))

/-- No brace stands in the content of a reference. -/
theorem not_mem_of_reference {left right : List Char} {name : String} (hleft : Blank left)
    (hright : Blank right) (hname : isName name.toList = true) {c : Char}
    (hblank : isBlank c = false) (hchar : isNameChar c = false) (hreference : c ∉ referencePrefix) :
    c ∉ left ++ (referencePrefix ++ name.toList) ++ right := by
  simp only [List.mem_append, not_or]
  refine ⟨⟨fun h => ?_, hreference, fun h => ?_⟩, fun h => ?_⟩
  · exact absurd (hleft c h) (by simp [hblank])
  · exact absurd ((isNameChar_of_isName hname).2 c h) (by simp [hchar])
  · exact absurd (hright c h) (by simp [hblank])

/-! ## Literal text -/

/-- The tokens of a literal text, which are none if it is empty. -/
def literalTokens (cs : List Char) : List Token :=
  if cs = [] then [] else [.text cs]

/-- The pieces of a literal text, which are none if it is empty. -/
def literals (cs : List Char) : List Piece :=
  if cs = [] then [] else [.literal (String.ofList cs)]

/-- The tokens of a reference between literal texts. -/
def tokensAround (before content after : List Char) : List Token :=
  literalTokens before ++ .opening :: .text content :: .closing :: literalTokens after

/-- The pieces of a reference between literal texts. -/
def piecesAround (before : List Char) (name : String) (after : List Char) : List Piece :=
  literals before ++ .reference name :: literals after

/-- The grammar: a text without a delimiter is a literal text, and one of the form of a reference
    is the reference between literal texts. No other text has pieces. -/
inductive Parses (source : List Char) : List Piece → Prop where
  | literal : Undelimited source → Parses source (literals source)
  | reference {before after : List Char} {name : String} : Refers source before name after →
      Parses source (piecesAround before name after)

theorem flatMap_written_literalTokens (cs : List Char) :
    (literalTokens cs).flatMap Token.written = cs := by
  by_cases h : cs = []
  · simp [literalTokens, h]
  · simp [literalTokens, h, Token.written]

theorem canonical_literalTokens_append {cs : List Char} {ts : List Token} (hund : Undelimited cs)
    (hends : cs ≠ [] → Token.EndsBefore cs ts) (hts : Token.Canonical ts) :
    Token.Canonical (literalTokens cs ++ ts) := by
  by_cases h : cs = []
  · rwa [literalTokens, if_pos h]
  · rw [literalTokens, if_neg h]
    exact .text h hund (hends h) hts

theorem canonical_literalTokens {cs : List Char} (hund : Undelimited cs) :
    Token.Canonical (literalTokens cs) := by
  rw [← List.append_nil (literalTokens cs)]
  exact canonical_literalTokens_append hund (fun _ => trivial) .nil

theorem tokens_of_undelimited {cs : List Char} (hund : Undelimited cs) :
    Token.tokens cs = literalTokens cs := by
  have hread : Token.tokens ((literalTokens cs).flatMap Token.written) = literalTokens cs :=
    Token.tokens_flatMap_written (canonical_literalTokens hund)
  rwa [flatMap_written_literalTokens] at hread

theorem ofTokens_literalTokens_append (cs : List Char) (ts : List Token) :
    Piece.ofTokens (literalTokens cs ++ ts) = (Piece.ofTokens ts).map (literals cs ++ ·) := by
  by_cases h : cs = []
  · cases hts : Piece.ofTokens ts <;> simp [literalTokens, literals, h, hts, Except.map]
  · simp [literalTokens, literals, h, Piece.ofTokens]

theorem ofTokens_literalTokens (cs : List Char) :
    Piece.ofTokens (literalTokens cs) = .ok (literals cs) := by
  rw [← List.append_nil (literalTokens cs), ofTokens_literalTokens_append]
  simp [Piece.ofTokens, Except.map]

theorem isReference_of_mem_literals {cs : List Char} {piece : Piece} (h : piece ∈ literals cs) :
    piece.isReference = false := by
  unfold literals at h
  split at h
  · cases h
  · rw [List.mem_singleton.1 h]
    rfl

theorem not_reference_mem_literals {cs : List Char} {name : String} :
    .reference name ∉ literals cs :=
  fun h => absurd (isReference_of_mem_literals h) (by simp [Piece.isReference])

theorem countP_isReference_literals (cs : List Char) :
    (literals cs).countP Piece.isReference = 0 :=
  List.countP_eq_zero.2 fun _ h => by simp [isReference_of_mem_literals h]

theorem literals_inj {cs cs' : List Char} (h : literals cs = literals cs') : cs = cs' := by
  by_cases hcs : cs = [] <;> by_cases hcs' : cs' = []
  · rw [hcs, hcs']
  · simp [literals, hcs, hcs'] at h
  · simp [literals, hcs, hcs'] at h
  · simpa [literals, hcs, hcs', String.ofList_inj] using h

theorem countP_isReference_append (cs : List Char) (name : String) (rest : List Piece) :
    (literals cs ++ .reference name :: rest).countP Piece.isReference =
      rest.countP Piece.isReference + 1 := by
  rw [List.countP_append, countP_isReference_literals, Nat.zero_add]
  exact List.countP_cons_of_pos rfl

/-- Canonical tokens are a literal text, which may be empty, and then nothing or a delimiter. -/
theorem Token.Canonical.exists_literal {ts : List Token} (h : Canonical ts) :
    ∃ cs rest, ts = literalTokens cs ++ rest ∧ Undelimited cs ∧ Canonical rest ∧
      (cs ≠ [] → EndsBefore cs rest) ∧ ∀ content tail, rest ≠ .text content :: tail := by
  cases h with
  | nil => exact ⟨[], [], rfl, undelimited_nil, .nil, by simp, by simp⟩
  | opening h => exact ⟨[], _, rfl, undelimited_nil, .opening h, by simp, by simp⟩
  | closing h => exact ⟨[], _, rfl, undelimited_nil, .closing h, by simp, by simp⟩
  | @text content rest hne hund hends hrest =>
    refine ⟨content, rest, by simp [literalTokens, hne], hund, hrest, fun _ => hends, ?_⟩
    rintro other tail rfl
    exact hends

/-! ## Pieces of canonical tokens -/

/-- What follows an opening delimiter in supported tokens. -/
theorem ofTokens_opening_eq_ok {ts : List Token} {found : List Piece}
    (h : Piece.ofTokens (.opening :: ts) = .ok found) :
    ∃ content name rest others, ts = .text content :: .closing :: rest ∧
      reference? content = some name ∧ Piece.ofTokens rest = .ok others ∧
      found = .reference name :: others := by
  match ts, h with
  | .text content :: .closing :: rest, h =>
    rw [Piece.ofTokens] at h
    split at h
    · next name hname =>
      obtain ⟨others, hothers, rfl⟩ := Except.map_eq_ok_iff.1 h
      exact ⟨content, name, rest, others, rfl, hname, hothers, rfl⟩
    · cases h

/-- Supported tokens are a literal text, or a literal text with a reference behind it. -/
theorem ofTokens_eq_ok {ts : List Token} {found : List Piece} (hts : Token.Canonical ts)
    (h : Piece.ofTokens ts = .ok found) :
    ∃ before, Undelimited before ∧
      (ts = literalTokens before ∧ found = literals before ∨
        ∃ content name rest others,
          ts = literalTokens before ++ .opening :: .text content :: .closing :: rest ∧
          found = literals before ++ .reference name :: others ∧
          before.getLast? ≠ some '{' ∧ reference? content = some name ∧
          Token.Canonical rest ∧ Piece.ofTokens rest = .ok others) := by
  obtain ⟨before, rest, rfl, hund, hrest, hends, hfirst⟩ := hts.exists_literal
  rw [ofTokens_literalTokens_append] at h
  obtain ⟨others, hothers, rfl⟩ := Except.map_eq_ok_iff.1 h
  refine ⟨before, hund, ?_⟩
  match rest, hothers with
  | [], hothers =>
    cases hothers
    exact Or.inl ⟨List.append_nil _, List.append_nil _⟩
  | .text content :: tail, _ => exact absurd rfl (hfirst content tail)
  | .opening :: tail, hothers =>
    obtain ⟨content, name, rest, others, rfl, hname, hrestOthers, rfl⟩ :=
      ofTokens_opening_eq_ok hothers
    have hboundary : before.getLast? ≠ some '{' := by
      by_cases hne : before = []
      · simp [hne]
      · exact hends hne
    have hcanonical : Token.Canonical rest := hrest.tail.tail.tail
    exact Or.inr
      ⟨content, name, rest, others, rfl, rfl, hboundary, hname, hcanonical, hrestOthers⟩

/-! ## Supported texts -/

theorem ofText_eq_ok_iff {cs : List Char} {found : List Piece} :
    Piece.ofText cs = .ok found ↔
      Piece.ofTokens (Token.tokens cs) = .ok found ∧ found.countP Piece.isReference ≤ 1 := by
  unfold Piece.ofText
  cases h : Piece.ofTokens (Token.tokens cs) with
  | error fault => simp
  | ok others =>
    by_cases hcount : 1 < others.countP Piece.isReference
    · simp only [if_pos hcount, reduceCtorEq, Except.ok.injEq, false_iff, not_and]
      rintro rfl
      exact Nat.not_le_of_lt hcount
    · simp only [if_neg hcount, Except.ok.injEq, iff_self_and]
      rintro rfl
      exact Nat.le_of_not_lt hcount

/-- The tokens of a reference between literal texts. -/
theorem Refers.exists_tokens {source before after : List Char} {name : String}
    (h : Refers source before name after) :
    ∃ content, reference? content = some name ∧
      Token.tokens source = tokensAround before content after := by
  obtain ⟨⟨left, right, hleft, hright, rfl⟩, hname, hbefore, hboundary, hafter⟩ := h
  have hopening : '{' ∉ left ++ (referencePrefix ++ name.toList) ++ right :=
    not_mem_of_reference hleft hright hname (by decide) (by decide) (by decide)
  have hclosing : '}' ∉ left ++ (referencePrefix ++ name.toList) ++ right :=
    not_mem_of_reference hleft hright hname (by decide) (by decide) (by decide)
  have href : reference? (left ++ (referencePrefix ++ name.toList) ++ right) = some name :=
    reference?_eq_some_iff_written.2 ⟨hname, left, right, hleft, hright, rfl⟩
  have hne : left ++ (referencePrefix ++ name.toList) ++ right ≠ [] := by simp [referencePrefix]
  generalize left ++ (referencePrefix ++ name.toList) ++ right = content at *
  refine ⟨content, href, ?_⟩
  have hlast : content.getLast? ≠ some '}' := fun h => hclosing (List.mem_of_getLast? h)
  have hcanonical : Token.Canonical (tokensAround before content after) :=
    canonical_literalTokens_append hbefore (fun _ => hboundary)
      (.opening (.text hne (undelimited_of_not_mem hopening hclosing) hlast
        (.closing (canonical_literalTokens hafter))))
  have hwritten : (tokensAround before content after).flatMap Token.written =
      before ++ Token.openingText ++ content ++ Token.closingText ++ after := by
    simp [tokensAround, flatMap_written_literalTokens, Token.written]
  rw [← hwritten, Token.tokens_flatMap_written hcanonical]

theorem Refers.ofText_eq {source before after : List Char} {name : String}
    (h : Refers source before name after) :
    Piece.ofText source = .ok (piecesAround before name after) := by
  obtain ⟨content, hcontent, htokens⟩ := h.exists_tokens
  rw [ofText_eq_ok_iff, htokens, tokensAround, ofTokens_literalTokens_append, Piece.ofTokens,
    hcontent]
  have hcount : (piecesAround before name after).countP Piece.isReference = 0 + 1 := by
    rw [piecesAround, countP_isReference_append, countP_isReference_literals]
  exact ⟨by simp [ofTokens_literalTokens, Except.map, piecesAround], Nat.le_of_eq hcount⟩

theorem ofText_of_undelimited {cs : List Char} (hund : Undelimited cs) :
    Piece.ofText cs = .ok (literals cs) := by
  rw [ofText_eq_ok_iff, tokens_of_undelimited hund]
  exact ⟨ofTokens_literalTokens cs, by simp [countP_isReference_literals]⟩

theorem parses_of_ofText {cs : List Char} {found : List Piece} (h : Piece.ofText cs = .ok found) :
    Parses cs found := by
  obtain ⟨htokens, hcount⟩ := ofText_eq_ok_iff.1 h
  have hwritten := Token.flatten_tokens cs
  obtain ⟨before, hbefore, ⟨hts, rfl⟩ | ⟨content, name, rest, others, hts, rfl, hboundary, hname,
    hrest, hothers⟩⟩ := ofTokens_eq_ok (Token.canonical_tokens cs) htokens
  · -- The text is literal as a whole.
    rw [hts, flatMap_written_literalTokens] at hwritten
    subst hwritten
    exact .literal hbefore
  · obtain ⟨after, hafter, ⟨rfl, rfl⟩ | ⟨_, _, _, _, -, rfl, -⟩⟩ := ofTokens_eq_ok hrest hothers
    · refine .reference ⟨?_, ?_, hbefore, hboundary, hafter⟩
      · obtain ⟨-, left, right, hleft, hright, rfl⟩ := reference?_eq_some_iff_written.1 hname
        refine ⟨left, right, hleft, hright, ?_⟩
        rw [← hwritten, hts]
        simp [flatMap_written_literalTokens, Token.written]
      · exact (reference?_eq_some_iff_written.1 hname).1
    · -- Two references are one too many.
      rw [countP_isReference_append, countP_isReference_append] at hcount
      omega

theorem Refers.isTemplate {source before after : List Char} {name : String}
    (h : Refers source before name after) : Provision.isTemplate source = true := by
  obtain ⟨⟨left, right, -, -, rfl⟩, -⟩ := h
  rw [Provision.isTemplate, Bool.and_eq_true, occurs_iff, occurs_iff]
  constructor
  · refine ⟨before, left ++ (referencePrefix ++ name.toList) ++ right ++ Token.closingText ++ after,
      ?_⟩
    simp
  · exact ⟨before ++ Token.openingText ++ (left ++ (referencePrefix ++ name.toList) ++ right),
      after, rfl⟩

theorem pieces_eq_ok_iff_ofText {source : String} {found : List Piece} :
    pieces source = .ok found ↔ Piece.ofText source.toList = .ok found :=
  Except.mapError_eq_ok_iff

/-- The pieces of a text are exactly those that the grammar gives it. -/
theorem pieces_eq_ok_iff_parses {source : String} {found : List Piece} :
    pieces source = .ok found ↔ Parses source.toList found := by
  rw [pieces_eq_ok_iff_ofText]
  constructor
  · exact parses_of_ofText
  · rintro (hund | href)
    · exact ofText_of_undelimited hund
    · exact href.ofText_eq

theorem pieces_error {source : String} {failure : Failure} (h : pieces source = .error failure) :
    ∃ fault, failure = .unsupportedExpression source fault := by
  obtain ⟨fault, -, rfl⟩ := Except.mapError_eq_error_iff.1 h
  exact ⟨fault, rfl⟩

theorem pieces_of_refers {source : String} {before after : List Char} {name : String}
    (h : Refers source.toList before name after) :
    pieces source = .ok (piecesAround before name after) :=
  pieces_eq_ok_iff_ofText.2 h.ofText_eq

/-- A template is supported exactly if it is one reference between literal texts. -/
theorem pieces_eq_ok_iff {source : String} {found : List Piece}
    (htemplate : isTemplate source.toList = true) :
    pieces source = .ok found ↔
      ∃ before name after, Refers source.toList before name after ∧
        found = piecesAround before name after := by
  rw [pieces_eq_ok_iff_parses]
  constructor
  · rintro (hund | href)
    · -- A literal text is not a template.
      simp [isTemplate_eq_false_of_undelimited hund] at htemplate
    · exact ⟨_, _, _, href, rfl⟩
  · rintro ⟨before, name, after, href, rfl⟩
    exact .reference href

/-! ## The parts of a template -/

theorem piecesAround_inj {before before' after after' : List Char} {name name' : String}
    (h : piecesAround before name after = piecesAround before' name' after') :
    before = before' ∧ name = name' ∧ after = after' := by
  unfold piecesAround at h
  obtain ⟨hbefore, hname, hafter⟩ := (List.append_cons_inj_of_notMem
    not_reference_mem_literals not_reference_mem_literals).1 h
  exact ⟨literals_inj hbefore, Piece.reference.inj hname, literals_inj hafter⟩

/-- The parts of a template are determined by its text. -/
theorem Refers.unique {source before before' after after' : List Char} {name name' : String}
    (h : Refers source before name after) (h' : Refers source before' name' after') :
    before = before' ∧ name = name' ∧ after = after' := by
  have hsame : piecesAround before name after = piecesAround before' name' after' :=
    Except.ok.inj (h.ofText_eq.symm.trans h'.ofText_eq)
  exact piecesAround_inj hsame

/-! ## The whole grammar -/

/-- **Grammar.** A text has the pieces that the grammar gives it, and no others: it holds no
    delimiter and is a literal text, or it is a reference between literal texts. Exactly the texts
    to which the grammar gives no pieces are told to be unsupported, as they are. -/
theorem pieces_grammar (source : String) :
    (∀ found, pieces source = .ok found ↔ Parses source.toList found) ∧
    ((∃ fault, pieces source = .error (.unsupportedExpression source fault)) ↔
      ∀ found, ¬ Parses source.toList found) := by
  refine ⟨fun found => pieces_eq_ok_iff_parses, ?_, ?_⟩
  · rintro ⟨fault, herror⟩ found hparses
    rw [pieces_eq_ok_iff_parses.2 hparses] at herror
    cases herror
  · intro hnone
    cases hpieces : pieces source with
    | ok found => exact absurd (pieces_eq_ok_iff_parses.1 hpieces) (hnone found)
    | error failure =>
      obtain ⟨fault, rfl⟩ := pieces_error hpieces
      exact ⟨fault, rfl⟩

end Provision
