import Mathlib.Data.List.Infix
import Mathlib.Data.List.TakeWhile
import Provision.Toml.Text
import Provision.Toml.Writer

/-!
# Texts read back

Each form in which a text is written is read back as the text. Between single quotes this takes
a text without what would need an escape there; between double quotes it holds of every text.

Results:

* `Toml.basic?_lineBody`, `Toml.basic?_linesBody`: what stands between double quotes.
* `Toml.literal?_line`, `Toml.literal?_lines`: what stands between single quotes.
* `Toml.text?_writeText`: a written text is read back, whatever follows it but a quote.
-/

namespace Provision

namespace Toml

/-! ## Escapes -/

theorem cons_some (c : Char) (cs after : List Char) :
    cons c (some (cs, after)) = some (c :: cs, after) :=
  rfl

theorem map_digitValue?_codeDigits : ∀ n < 128,
    (codeDigits n).map digitValue? = [some 0, some 0, some (n / 16), some (n % 16)] := by
  decide

theorem charOf?_toNat (c : Char) : charOf? c.toNat = some c := by
  have hvalid : c.toNat.isValidChar := c.valid
  rw [charOf?, if_pos hvalid, Char.ofNat_toNat]

theorem basic?_codeDigits (lines : Bool) {c : Char} (h : c.toNat < 128) (after : List Char) :
    basic? lines (.code 4 0) (codeDigits c.toNat ++ after) =
      cons c (basic? lines .outside after) := by
  have hmap := map_digitValue?_codeDigits c.toNat h
  obtain ⟨d₁, ds, hdigits, h₁, hmap⟩ := List.map_eq_cons_iff.1 hmap
  obtain ⟨d₂, ds, rfl, h₂, hmap⟩ := List.map_eq_cons_iff.1 hmap
  obtain ⟨d₃, ds, rfl, h₃, hmap⟩ := List.map_eq_cons_iff.1 hmap
  obtain ⟨d₄, ds, rfl, h₄, hmap⟩ := List.map_eq_cons_iff.1 hmap
  rw [List.map_eq_nil_iff] at hmap
  subst hmap
  have hvalue : 16 * (c.toNat / 16) + c.toNat % 16 = c.toNat := Nat.div_add_mod _ _
  simp [hdigits, basic?, h₁, h₂, h₃, h₄, hvalue, charOf?_toNat]

theorem lt_of_isControl {c : Char} (h : isControl c = true) : c.toNat < 128 := by
  simp only [isControl, Bool.and_eq_true, Bool.or_eq_true, decide_eq_true_eq, beq_iff_eq] at h
  rcases h.1.1 with h | rfl
  · omega
  · decide

/-- Apart from control characters and line ends there is no character that a text cannot hold. -/
theorem isTextChar_of_not_isControl {c : Char} (h : isControl c = false) (hline : c ≠ '\n') :
    isTextChar c = true := by
  by_cases htab : c = '\t'
  · simp [isTextChar, htab]
  · have hdelete : c.toNat = 127 ↔ c = '\x7f' := by
      rw [← Char.toNat_inj]
      rfl
    simp only [isControl, Bool.and_eq_false_iff, Bool.or_eq_false_iff, decide_eq_false_iff_not,
      beq_eq_false_iff_ne, bne_eq_false_iff_eq, hline, htab, or_false] at h
    simp only [isTextChar, Bool.or_eq_true, Bool.and_eq_true, decide_eq_true_eq, bne_iff_ne]
    right
    exact ⟨by omega, fun h' => h.2 (hdelete.1 h')⟩

/-- What is written for a character other than a quote is read as the character. -/
theorem basic?_escapeChar (lines : Bool) {c : Char} (hquote : c ≠ '"') (after : List Char) :
    basic? lines .outside (escapeChar lines c ++ after) = cons c (basic? lines .outside after) := by
  unfold escapeChar
  split_ifs with h₁ h₂ h₃ hlines h₄ h₅ h₆ hcontrol
  · simp [basic?, escaped?, h₁]
  · simp [basic?, escaped?, h₂]
  · simp [basic?, h₃, hlines]
  · simp [basic?, escaped?, h₃]
  · simp [basic?, escaped?, h₄]
  · simp [basic?, escaped?, h₅]
  · simp [basic?, escaped?, h₆]
  · have hcode := basic?_codeDigits lines (lt_of_isControl hcontrol) after
    simp [basic?, escaped?, hcode]
  · rw [Bool.not_eq_true] at hcontrol
    have htext := isTextChar_of_not_isControl hcontrol h₃
    simp [basic?, h₃, h₅, h₆, hquote, htext]

/-- An escape begins with a backslash, and a character that is not escaped with itself. -/
theorem escapeChar_eq_cons (lines : Bool) (c : Char) :
    ∃ d rest, escapeChar lines c = d :: rest ∧ (d = '\\' ∨ d = c ∧ c ≠ '\r') := by
  by_cases hline : c = '\n'
  · cases lines <;> simp [escapeChar, hline]
  · unfold escapeChar
    split_ifs <;> simp_all

/-! ## Between double quotes -/

/-- What is written on one line is read up to the closing quote. -/
theorem basic?_lineBody (cs after : List Char) :
    basic? false .outside (lineBody cs ++ '"' :: after) = some (cs, after) := by
  induction cs with
  | nil => simp [lineBody, basic?]
  | cons c cs ih =>
    have hcons : lineBody (c :: cs) =
        (if c = '"' then ['\\', '"'] else escapeChar false c) ++ lineBody cs := rfl
    rw [hcons, List.append_assoc]
    split_ifs with hquote
    · subst hquote
      have hread : basic? false .outside ('\\' :: '"' :: (lineBody cs ++ '"' :: after)) =
          cons '"' (basic? false .outside (lineBody cs ++ '"' :: after)) := by
        simp [basic?, escaped?]
      rw [List.cons_append, List.singleton_append, hread, ih, cons_some]
    · rw [basic?_escapeChar false hquote, ih, cons_some]

/-- At most two quotes in front of the end of a text belong to the text. -/
theorem closing?_replicate {quote : Char} {j : Nat} (hj : j ≤ 2) {after : List Char}
    (hafter : after.head? ≠ some quote) :
    closing? quote (List.replicate j quote ++ ([quote, quote, quote] ++ after)) =
      some (List.replicate j quote, after) := by
  have hrun : (after.takeWhile (· == quote)) = [] := by
    cases after with
    | nil => rfl
    | cons c rest =>
      have hc : c ≠ quote := fun h => hafter (by rw [h]; rfl)
      simp [hc]
  have hall : List.replicate j quote ++ ([quote, quote, quote] ++ after) =
      List.replicate (j + 3) quote ++ after := by
    rw [List.replicate_add, List.append_assoc]
    rfl
  have hcount : ((List.replicate (j + 3) quote ++ after).takeWhile (· == quote)).length =
      j + 3 := by
    rw [List.takeWhile_append_of_pos (by simp), hrun, List.append_nil, List.length_replicate]
  rw [hall, closing?, hcount, if_neg (by omega)]
  have hown : min (j + 3 - 3) 2 = j := by omega
  simp only [hown]
  rw [List.drop_left' List.length_replicate]

/-- Two quotes in front of another character do not end a text. -/
theorem closing?_eq_none {quote c : Char} {j : Nat} (hj : j ≤ 2) (hc : c ≠ quote)
    (rest : List Char) : closing? quote (List.replicate j quote ++ c :: rest) = none := by
  have hcount : ((List.replicate j quote ++ c :: rest).takeWhile (· == quote)).length = j := by
    rw [List.takeWhile_append_of_pos (by simp)]
    simp [hc]
  rw [closing?, hcount, if_pos (by omega)]

/-- In what is written there are at most two quotes in a row, `k` in front of it counted in. If
    nothing else is written, the quotes are the text. -/
theorem linesBody_run {k : Nat} (hk : k ≤ 2) (cs : List Char) :
    ∃ j ≤ 2 - k, cs = List.replicate j '"' ∧ linesBody k cs = List.replicate j '"' ∨
      ∃ c rest, c ≠ '"' ∧ linesBody k cs = List.replicate j '"' ++ c :: rest := by
  induction cs generalizing k with
  | nil => exact ⟨0, by omega, Or.inl ⟨rfl, rfl⟩⟩
  | cons c cs ih =>
    rw [linesBody]
    by_cases hquote : c = '"'
    · subst hquote
      rw [if_pos rfl]
      by_cases hfull : k = 2
      · rw [if_pos hfull]
        exact ⟨0, by omega, Or.inr ⟨'\\', _, by decide, rfl⟩⟩
      · rw [if_neg hfull]
        obtain ⟨j, hj, ⟨hcs, hbody⟩ | ⟨d, rest, hd, hbody⟩⟩ := ih (k := k + 1) (by omega)
        · exact ⟨j + 1, by omega, Or.inl ⟨by rw [hcs]; rfl, by rw [hbody]; rfl⟩⟩
        · exact ⟨j + 1, by omega, Or.inr ⟨d, rest, hd, by rw [hbody]; rfl⟩⟩
    · rw [if_neg hquote]
      obtain ⟨d, rest, hescape, hd⟩ := escapeChar_eq_cons true c
      refine ⟨0, by omega, Or.inr ⟨d, rest ++ linesBody 0 cs, ?_, by rw [hescape]; rfl⟩⟩
      rcases hd with rfl | ⟨rfl, -⟩
      · decide
      · exact hquote

theorem basic?_quote_of_some {tail : List Char} {ending : List Char × List Char}
    (h : closing? '"' ('"' :: tail) = some ending) :
    basic? true .outside ('"' :: tail) = some ending := by
  simp [basic?, h]

theorem basic?_quote_of_none {tail : List Char} (h : closing? '"' ('"' :: tail) = none) :
    basic? true .outside ('"' :: tail) = cons '"' (basic? true .outside tail) := by
  simp [basic?, h]

/-- What is written over several lines is read up to the closing quotes. -/
theorem basic?_linesBody {k : Nat} (hk : k ≤ 2) (cs : List Char) {after : List Char}
    (hafter : after.head? ≠ some '"') :
    basic? true .outside (linesBody k cs ++ (['"', '"', '"'] ++ after)) = some (cs, after) := by
  induction cs generalizing k with
  | nil => exact basic?_quote_of_some (closing?_replicate (j := 0) (by omega) hafter)
  | cons c cs ih =>
    rw [linesBody]
    by_cases hquote : c = '"'
    · subst hquote
      rw [if_pos rfl]
      by_cases hfull : k = 2
      · have hread : ∀ tail, basic? true .outside ('\\' :: '"' :: tail) =
            cons '"' (basic? true .outside tail) := by
          intro tail
          simp [basic?, escaped?]
        rw [if_pos hfull, List.cons_append, List.cons_append, hread, ih (by omega), cons_some]
      · -- The quote ends the text if nothing but quotes is written behind it.
        rw [if_neg hfull, List.cons_append]
        obtain ⟨j, hj, ⟨hcs, hbody⟩ | ⟨d, rest, hd, hbody⟩⟩ := linesBody_run (k := k + 1)
          (by omega) cs
        · have hclosing := closing?_replicate (j := j + 1) (by omega) hafter
          rw [List.replicate_succ, List.cons_append, ← hbody] at hclosing
          rw [basic?_quote_of_some hclosing, hbody, ← hcs]
        · have hnone := closing?_eq_none (j := j + 1) (by omega) hd
            (rest ++ (['"', '"', '"'] ++ after))
          have hwritten : '"' :: (linesBody (k + 1) cs ++ (['"', '"', '"'] ++ after)) =
              List.replicate (j + 1) '"' ++ d :: (rest ++ (['"', '"', '"'] ++ after)) := by
            rw [hbody, List.replicate_succ, List.cons_append, List.append_assoc]
            rfl
          rw [← hwritten] at hnone
          rw [basic?_quote_of_none hnone, ih (by omega), cons_some]
    · rw [if_neg hquote, List.append_assoc, basic?_escapeChar true hquote, ih (by omega),
        cons_some]

/-! ## Between single quotes -/

theorem isTextChar_of_mem {cs : List Char} (hplain : cs.any isControl = false) {c : Char}
    (hc : c ∈ cs) (hline : c ≠ '\n') : isTextChar c = true := by
  rw [List.any_eq_false] at hplain
  exact isTextChar_of_not_isControl (Bool.not_eq_true _ ▸ hplain c hc) hline

theorem literal?_line {cs : List Char} (hplain : cs.any isControl = false)
    (hline : '\n' ∉ cs) (hquote : '\'' ∉ cs) (after : List Char) :
    literal? false (cs ++ '\'' :: after) = some (cs, after) := by
  induction cs with
  | nil => simp [literal?]
  | cons c cs ih =>
    have hc : c ≠ '\n' := fun h => hline (by simp [h])
    have hcq : c ≠ '\'' := fun h => hquote (by simp [h])
    have htext := isTextChar_of_mem hplain (by simp) hc
    have hrest := ih (by simp_all) (fun h => hline (by simp [h])) (fun h => hquote (by simp [h]))
    rw [List.cons_append, literal?, if_neg hcq, if_neg hc]
    simp [htext, hrest, cons_some]

/-- A text without three quotes in a row begins with at most two, and with nothing else only if
    that is the whole text. -/
theorem run_of_not_infix {quote : Char} {cs : List Char}
    (h : ¬ [quote, quote, quote] <:+: cs) :
    ∃ j ≤ 2, cs = List.replicate j quote ∨
      ∃ c rest, c ≠ quote ∧ cs = List.replicate j quote ++ c :: rest := by
  have htake : cs.takeWhile (· == quote) =
      List.replicate (cs.takeWhile (· == quote)).length quote := by
    refine List.eq_replicate_iff.2 ⟨rfl, fun c hc => ?_⟩
    exact beq_iff_eq.1 (List.mem_takeWhile_imp (p := (· == quote)) hc)
  have hcs : cs.takeWhile (· == quote) ++ cs.dropWhile (· == quote) = cs :=
    List.takeWhile_append_dropWhile
  generalize (cs.takeWhile (· == quote)).length = j at htake
  rw [htake] at hcs
  refine ⟨j, ?_, ?_⟩
  · by_contra hj
    obtain ⟨m, rfl⟩ : ∃ m, j = 3 + m := ⟨j - 3, by omega⟩
    rw [List.replicate_add, List.append_assoc] at hcs
    exact h ⟨[], _, hcs⟩
  · cases hdrop : cs.dropWhile (· == quote) with
    | nil =>
      rw [hdrop, List.append_nil] at hcs
      exact Or.inl hcs.symm
    | cons c rest =>
      rw [hdrop] at hcs
      have hc := List.head_dropWhile_not (· == quote) (l := cs) (by simp [hdrop])
      simp only [hdrop, List.head_cons, beq_eq_false_iff_ne] at hc
      exact Or.inr ⟨c, rest, hc, hcs.symm⟩

theorem literal?_quote_of_some {tail : List Char} {ending : List Char × List Char}
    (h : closing? '\'' ('\'' :: tail) = some ending) :
    literal? true ('\'' :: tail) = some ending := by
  simp [literal?, h]

theorem literal?_quote_of_none {tail : List Char} (h : closing? '\'' ('\'' :: tail) = none) :
    literal? true ('\'' :: tail) = cons '\'' (literal? true tail) := by
  simp [literal?, h]

theorem ne_of_not_isControl {cs : List Char} (hplain : cs.any isControl = false) {c : Char}
    (hc : c ∈ cs) : c ≠ '\r' := by
  rintro rfl
  rw [List.any_eq_false] at hplain
  exact hplain _ hc (by decide)

/-- A text without three quotes in a row is read up to the closing quotes. -/
theorem literal?_lines {cs : List Char} (hplain : cs.any isControl = false)
    (hruns : ¬ ['\'', '\'', '\''] <:+: cs) {after : List Char}
    (hafter : after.head? ≠ some '\'') :
    literal? true (cs ++ (['\'', '\'', '\''] ++ after)) = some (cs, after) := by
  induction cs with
  | nil => exact literal?_quote_of_some (closing?_replicate (j := 0) (by omega) hafter)
  | cons c cs ih =>
    have hrest := ih (by simp_all) fun h => hruns (h.trans (List.suffix_cons c cs).isInfix)
    by_cases hquote : c = '\''
    · subst hquote
      obtain ⟨j, hj, hcs | ⟨d, rest, hd, hcs⟩⟩ := run_of_not_infix hruns
      · have hclosing := closing?_replicate (j := j) hj hafter
        rw [← hcs, List.cons_append] at hclosing
        exact literal?_quote_of_some hclosing
      · have hnone := closing?_eq_none hj hd (rest ++ (['\'', '\'', '\''] ++ after))
        rw [← List.cons_append, ← List.append_assoc, ← hcs, List.cons_append] at hnone
        rw [List.cons_append, literal?_quote_of_none hnone, hrest, cons_some]
    · by_cases hline : c = '\n'
      · subst hline
        rw [List.cons_append, literal?, if_neg (by decide), if_pos rfl, if_pos rfl, hrest,
          cons_some]
      · have htext := isTextChar_of_mem hplain (by simp) hline
        have hreturn := ne_of_not_isControl hplain (List.mem_cons_self (a := c))
        rw [List.cons_append, literal?, if_neg hquote, if_neg hline,
          if_neg (fun h => hreturn h.1), if_pos htext, hrest, cons_some]

/-! ## The forms of a text -/

theorem withoutLineEnd_leadingLineEnd {cs body : List Char}
    (h : '\n' ∉ cs → ∃ c rest, body = c :: rest ∧ c ≠ '\n' ∧ c ≠ '\r') :
    withoutLineEnd (leadingLineEnd cs ++ body) = body := by
  rw [leadingLineEnd]
  split_ifs with hline
  · rfl
  · rw [List.elem_iff] at hline
    obtain ⟨c, rest, rfl, hfeed, hreturn⟩ := h hline
    rw [List.nil_append]
    unfold withoutLineEnd
    split <;> simp_all

theorem text?_double {rest : List Char} (h : ∀ tail, rest ≠ '"' :: '"' :: tail) :
    text? ('"' :: rest) = basic? false .outside rest := by
  unfold text?
  split <;> simp_all

theorem text?_single {rest : List Char} (h : ∀ tail, rest ≠ '\'' :: '\'' :: tail) :
    text? ('\'' :: rest) = literal? false rest := by
  unfold text?
  split <;> simp_all

theorem text?_basic (cs : List Char) {after : List Char} (hafter : after.head? ≠ some '"') :
    text? (writeForm cs .basic ++ after) = some (cs, after) := by
  have hwritten : writeForm cs .basic ++ after = '"' :: (lineBody cs ++ '"' :: after) := by
    simp [writeForm]
  rw [hwritten, text?_double, basic?_lineBody]
  intro tail htail
  cases cs with
  | nil =>
    rw [lineBody, List.flatMap_nil, List.nil_append, List.cons.injEq] at htail
    rw [htail.2] at hafter
    exact hafter rfl
  | cons c cs =>
    rw [lineBody, List.flatMap_cons] at htail
    split_ifs at htail with hquote
    · cases htail
    · obtain ⟨d, rest, hescape, hd⟩ := escapeChar_eq_cons false c
      rw [hescape] at htail
      have hdq : d = '"' := (List.cons.inj htail).1
      rcases hd with rfl | ⟨rfl, -⟩
      · cases hdq
      · exact hquote hdq

theorem text?_literal {cs : List Char} (hplain : cs.any isControl = false) (hline : '\n' ∉ cs)
    (hquote : '\'' ∉ cs) {after : List Char} (hafter : after.head? ≠ some '\'') :
    text? (writeForm cs .literal ++ after) = some (cs, after) := by
  have hwritten : writeForm cs .literal ++ after = '\'' :: (cs ++ '\'' :: after) := by
    simp [writeForm]
  rw [hwritten, text?_single, literal?_line hplain hline hquote]
  intro tail htail
  cases cs with
  | nil =>
    rw [List.nil_append, List.cons.injEq] at htail
    rw [htail.2] at hafter
    exact hafter rfl
  | cons c cs =>
    have hc : c = '\'' := (List.cons.inj htail).1
    exact hquote (by simp [hc])

theorem text?_basicLines (cs : List Char) {after : List Char}
    (hafter : after.head? ≠ some '"') :
    text? (writeForm cs .basicLines ++ after) = some (cs, after) := by
  have hread : ∀ rest, text? ('"' :: '"' :: '"' :: rest) =
      basic? true .outside (withoutLineEnd rest) := fun _ => rfl
  have hwritten : writeForm cs .basicLines ++ after = '"' :: '"' :: '"' ::
      (leadingLineEnd cs ++ (linesBody 0 cs ++ (['"', '"', '"'] ++ after))) := by
    simp [writeForm]
  rw [hwritten, hread, withoutLineEnd_leadingLineEnd, basic?_linesBody (by omega) cs hafter]
  intro hline
  cases cs with
  | nil => exact ⟨'"', _, rfl, by decide, by decide⟩
  | cons c cs =>
    rw [linesBody]
    split_ifs with hquote hfull
    · cases hfull
    · exact ⟨'"', _, rfl, by decide, by decide⟩
    · obtain ⟨d, rest, hescape, hd⟩ := escapeChar_eq_cons true c
      refine ⟨d, _, by rw [hescape]; rfl, ?_⟩
      rcases hd with rfl | ⟨rfl, hreturn⟩
      · exact ⟨by decide, by decide⟩
      · exact ⟨fun h => hline (by simp [h]), hreturn⟩

theorem text?_literalLines {cs : List Char} (hplain : cs.any isControl = false)
    (hruns : ¬ ['\'', '\'', '\''] <:+: cs) {after : List Char}
    (hafter : after.head? ≠ some '\'') :
    text? (writeForm cs .literalLines ++ after) = some (cs, after) := by
  have hread : ∀ rest, text? ('\'' :: '\'' :: '\'' :: rest) =
      literal? true (withoutLineEnd rest) := fun _ => rfl
  have hwritten : writeForm cs .literalLines ++ after = '\'' :: '\'' :: '\'' ::
      (leadingLineEnd cs ++ (cs ++ (['\'', '\'', '\''] ++ after))) := by
    simp [writeForm]
  rw [hwritten, hread, withoutLineEnd_leadingLineEnd, literal?_lines hplain hruns hafter]
  intro hline
  cases cs with
  | nil => exact ⟨'\'', _, rfl, by decide, by decide⟩
  | cons c cs =>
    have hreturn := ne_of_not_isControl hplain (List.mem_cons_self (a := c))
    exact ⟨c, _, rfl, fun h => hline (by simp [h]), hreturn⟩

/-- **Texts are read back.** A written text is read as the text, whatever follows it but a
    quote. -/
theorem text?_writeText (cs : List Char) {after : List Char} (hdouble : after.head? ≠ some '"')
    (hsingle : after.head? ≠ some '\'') :
    text? (writeText cs ++ after) = some (cs, after) := by
  unfold writeText formOf
  simp only [Bool.and_eq_true, Bool.not_eq_true', List.elem_eq_mem, decide_eq_false_iff_not]
  split_ifs with h₁ h₂ h₃ h₄ h₅
  · exact text?_basic cs hdouble
  · exact text?_literal h₂.1.1 h₂.1.2 h₂.2 hsingle
  · exact text?_basicLines cs hdouble
  · refine text?_literalLines h₄.1 ?_ hsingle
    rw [← occurs_iff, Bool.not_eq_true]
    exact h₄.2
  · exact text?_basicLines cs hdouble
  · exact text?_basic cs hdouble

end Toml

end Provision
