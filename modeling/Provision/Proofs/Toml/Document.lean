import Provision.Proofs.Toml.Number
import Provision.Proofs.Toml.Text
import Provision.Toml.Reader

/-!
# Documents read back

The lines of a table of scalars are read one by one: the key, the value, and the end of the line.
Keys that are all different make up a table with the same entries in the same order.

Results:

* `Toml.keyPart?_writeKey`, `Toml.value?_writeScalar`: a key and a value are read back.
* `Toml.line?_writeEntry`: a line is read back, and what follows it is left.
* `Toml.lines?_of_line`: a document is read line by line.
* `Toml.read?_write`: the written table is read back.
-/

namespace Provision

namespace Toml

/-! ## Keys -/

/-- A character with which a written key begins. -/
def StartsKey (c : Char) : Prop :=
  c = '"' ∨ c = '\'' ∨ isBareKeyChar c = true

theorem StartsKey.ne {c d : Char} (hc : StartsKey c) (hdouble : d ≠ '"') (hsingle : d ≠ '\'')
    (hbare : isBareKeyChar d = false) : c ≠ d := by
  rintro rfl
  rcases hc with h | h | h
  · exact hdouble h
  · exact hsingle h
  · rw [h] at hbare
    cases hbare

theorem writeKey_eq_cons (cs : List Char) :
    ∃ c rest, writeKey cs = c :: rest ∧ StartsKey c := by
  unfold writeKey
  split_ifs with hbare
  · simp only [Bool.and_eq_true, Bool.not_eq_true', List.isEmpty_eq_false_iff,
      List.all_eq_true] at hbare
    obtain ⟨c, rest, rfl⟩ := List.exists_cons_of_ne_nil hbare.1
    exact ⟨c, rest, rfl, Or.inr (Or.inr (hbare.2 c (by simp)))⟩
  · exact ⟨'"', _, rfl, Or.inl rfl⟩
  · exact ⟨'\'', _, rfl, Or.inr (Or.inl rfl)⟩
  · exact ⟨'"', _, rfl, Or.inl rfl⟩

theorem keyPart?_basic (cs rest : List Char) :
    keyPart? (writeForm cs .basic ++ rest) = some (cs, rest) := by
  have hwritten : writeForm cs .basic ++ rest = '"' :: (lineBody cs ++ '"' :: rest) := by
    simp [writeForm]
  rw [hwritten]
  exact basic?_lineBody cs rest

theorem keyPart?_literal {cs : List Char} (hplain : isPlainKey cs = true) (hquote : '\'' ∉ cs)
    (rest : List Char) : keyPart? (writeForm cs .literal ++ rest) = some (cs, rest) := by
  have hwritten : writeForm cs .literal ++ rest = '\'' :: (cs ++ '\'' :: rest) := by
    simp [writeForm]
  have hclean : ∀ c ∈ cs, isControl c = false ∧ c ≠ '\n' := by
    simpa [isPlainKey] using hplain
  have hcontrol : cs.any isControl = false := by
    rw [List.any_eq_false]
    exact fun c hc => Bool.not_eq_true _ ▸ (hclean c hc).1
  have hline : '\n' ∉ cs := fun h => (hclean _ h).2 rfl
  rw [hwritten]
  exact literal?_line hcontrol hline hquote rest

theorem keyPart?_bare {cs : List Char} (hne : cs ≠ []) (hbare : ∀ c ∈ cs, isBareKeyChar c = true)
    (rest : List Char) : keyPart? (cs ++ ' ' :: rest) = some (cs, ' ' :: rest) := by
  have hspan : (cs ++ ' ' :: rest).span isBareKeyChar = (cs, ' ' :: rest) := by
    rw [List.span_eq_takeWhile_dropWhile, List.takeWhile_append_of_pos hbare,
      List.dropWhile_append_of_pos hbare]
    have hspace : isBareKeyChar ' ' = false := by decide
    simp [hspace]
  obtain ⟨c, tail, rfl⟩ := List.exists_cons_of_ne_nil hne
  have hc := hbare c (by simp)
  have hdouble : c ≠ '"' := by
    rintro rfl
    exact absurd hc (by decide)
  have hsingle : c ≠ '\'' := by
    rintro rfl
    exact absurd hc (by decide)
  rw [List.cons_append] at hspan ⊢
  unfold keyPart?
  split
  · next heq => exact absurd (List.cons.inj heq).1 hdouble
  · next heq => exact absurd (List.cons.inj heq).1 hsingle
  · rw [hspan]
    rfl

theorem keyPart?_writeKey (cs rest : List Char) :
    keyPart? (writeKey cs ++ ' ' :: rest) = some (cs, ' ' :: rest) := by
  unfold writeKey
  split_ifs with hbare hbasic hliteral
  · simp only [Bool.and_eq_true, Bool.not_eq_true', List.isEmpty_eq_false_iff,
      List.all_eq_true] at hbare
    exact keyPart?_bare hbare.1 hbare.2 rest
  · exact keyPart?_basic cs _
  · simp only [Bool.and_eq_true, Bool.not_eq_true', List.elem_eq_mem,
      decide_eq_false_iff_not] at hliteral
    exact keyPart?_literal hliteral.1 hliteral.2 _
  · exact keyPart?_basic cs _

theorem isSpace_eq_false {c : Char} (hblank : c ≠ ' ') (htab : c ≠ '\t') : isSpace c = false := by
  simp [isSpace, hblank, htab]

theorem skipSpaces_of_not_isSpace {c : Char} (h : isSpace c = false) (rest : List Char) :
    skipSpaces (c :: rest) = c :: rest := by
  simp [skipSpaces, h]

theorem path?_writeKey (key : String) (rest : List Char) :
    path? (writeKey key.toList ++ ' ' :: '=' :: rest) = some (([], key), '=' :: rest) := by
  obtain ⟨c, tail, hkey, hc⟩ := writeKey_eq_cons key.toList
  have hspace : isSpace c = false :=
    isSpace_eq_false (hc.ne (by decide) (by decide) (by decide))
      (hc.ne (by decide) (by decide) (by decide))
  have hskip : skipSpaces (writeKey key.toList ++ ' ' :: '=' :: rest) =
      writeKey key.toList ++ ' ' :: '=' :: rest := by
    rw [hkey]
    exact skipSpaces_of_not_isSpace hspace _
  have hbehind : skipSpaces (' ' :: '=' :: rest) = '=' :: rest := by
    simp [skipSpaces, isSpace]
  simp [path?, key?, hskip, keyPart?_writeKey, hbehind]

/-! ## Values -/

/-- A scalar as a value of a document. -/
def ofScalar : Scalar → Toml
  | .text s => .text s
  | .integer n => .integer n
  | .float x => .float x
  | .boolean b => .boolean b

/-- A value that is no array and no table is a scalar, at every depth. -/
theorem value?_of_scalar {c : Char} (hbracket : c ≠ '[') (hbrace : c ≠ '\x7b') (depth : Nat)
    (rest : List Char) : value? depth (c :: rest) = scalar? (c :: rest) := by
  cases depth with
  | zero => rfl
  | succ depth =>
    unfold value?
    split
    · next heq => exact absurd (List.cons.inj heq).1 hbracket
    · next heq => exact absurd (List.cons.inj heq).1 hbrace
    · rfl

theorem scalar?_of_startsNumber {c : Char} (hc : StartsNumber c) (rest : List Char) :
    scalar? (c :: rest) = number? (c :: rest) := by
  have hquotes : ¬ (c = '"' ∨ c = '\'') := by
    rintro (h | h)
    · exact hc.ne (by decide) (by decide) h
    · exact hc.ne (by decide) (by decide) h
  unfold scalar?
  split
  · next heq => exact absurd (List.cons.inj heq).1 (hc.ne (by decide) (by decide))
  · next heq => exact absurd (List.cons.inj heq).1 (hc.ne (by decide) (by decide))
  · next heq =>
    obtain ⟨rfl, rfl⟩ := List.cons.inj heq
    rw [if_neg hquotes]
  · next heq => cases heq

theorem scalar?_of_quote {c : Char} (hc : c = '"' ∨ c = '\'') (rest : List Char) :
    scalar? (c :: rest) =
      (text? (c :: rest)).map fun found => (.text (String.ofList found.1), found.2) := by
  rcases hc with rfl | rfl <;> simp [scalar?]

/-- A written text begins and ends with a quote. -/
theorem writeText_eq (cs : List Char) :
    (∃ c rest, writeText cs = c :: rest ∧ (c = '"' ∨ c = '\'')) ∧
      ∃ front c, writeText cs = front ++ [c] ∧ (c = '"' ∨ c = '\'') := by
  unfold writeText
  cases formOf cs with
  | basic => exact ⟨⟨'"', _, rfl, Or.inl rfl⟩, ⟨'"' :: lineBody cs, '"', rfl, Or.inl rfl⟩⟩
  | literal => exact ⟨⟨'\'', _, rfl, Or.inr rfl⟩, ⟨'\'' :: cs, '\'', rfl, Or.inr rfl⟩⟩
  | basicLines =>
    refine ⟨⟨'"', _, rfl, Or.inl rfl⟩, ⟨['"', '"', '"'] ++ (leadingLineEnd cs ++
      (linesBody 0 cs ++ ['"', '"'])), '"', ?_, Or.inl rfl⟩⟩
    simp [writeForm]
  | literalLines =>
    refine ⟨⟨'\'', _, rfl, Or.inr rfl⟩, ⟨['\'', '\'', '\''] ++ (leadingLineEnd cs ++
      (cs ++ ['\'', '\''])), '\'', ?_, Or.inr rfl⟩⟩
    simp [writeForm]

theorem writeScalar_eq_cons (v : Scalar) :
    ∃ c rest, writeScalar v = c :: rest ∧ isSpace c = false ∧ c ≠ '[' ∧ c ≠ '\x7b' := by
  have hnumber : ∀ {cs}, IsNumberText cs →
      ∃ c rest, cs = c :: rest ∧ isSpace c = false ∧ c ≠ '[' ∧ c ≠ '\x7b' := by
    intro cs hcs
    obtain ⟨c, rest, rfl, hc⟩ := hcs.eq_cons
    have hspace : isSpace c = false :=
      isSpace_eq_false (hc.ne (by decide) (by decide)) (hc.ne (by decide) (by decide))
    exact ⟨c, rest, rfl, hspace, hc.ne (by decide) (by decide), hc.ne (by decide) (by decide)⟩
  cases v with
  | text s =>
    obtain ⟨c, rest, hwritten, hc⟩ := (writeText_eq s.toList).1
    refine ⟨c, rest, hwritten, ?_⟩
    rcases hc with rfl | rfl <;> decide
  | integer n => exact hnumber (isNumberText_ofInt _)
  | float x => exact hnumber (isNumberText_render x)
  | boolean b => cases b <;> exact ⟨_, _, rfl, by decide⟩

theorem writeScalar_eq_concat (v : Scalar) :
    ∃ front c, writeScalar v = front ++ [c] ∧ isBlank c = false := by
  cases v with
  | text s =>
    obtain ⟨front, c, hwritten, hc⟩ := (writeText_eq s.toList).2
    refine ⟨front, c, hwritten, ?_⟩
    rcases hc with rfl | rfl <;> decide
  | integer n => exact (isNumberText_ofInt _).eq_concat
  | float x => exact (isNumberText_render x).eq_concat
  | boolean b =>
    cases b with
    | true => exact ⟨['t', 'r', 'u'], 'e', rfl, by decide⟩
    | false => exact ⟨['f', 'a', 'l', 's'], 'e', rfl, by decide⟩

theorem scalar?_writeScalar (v : Scalar) (rest : List Char) :
    scalar? (writeScalar v ++ '\n' :: rest) = some (ofScalar v, '\n' :: rest) := by
  have hnumber : ∀ {cs}, IsNumberText cs →
      scalar? (cs ++ '\n' :: rest) = number? (cs ++ '\n' :: rest) := by
    intro cs hcs
    obtain ⟨c, tail, rfl, hc⟩ := hcs.eq_cons
    exact scalar?_of_startsNumber hc _
  cases v with
  | text s =>
    obtain ⟨c, tail, hwritten, hc⟩ := (writeText_eq s.toList).1
    have htext : text? (writeText s.toList ++ '\n' :: rest) = some (s.toList, '\n' :: rest) :=
      text?_writeText s.toList (by simp) (by simp)
    rw [writeScalar, hwritten, List.cons_append, scalar?_of_quote hc, ← List.cons_append,
      ← hwritten, htext, Option.map_some, String.ofList_toList]
    rfl
  | integer n => rw [writeScalar, hnumber (isNumberText_ofInt _), number?_ofInt]; rfl
  | float x => rw [writeScalar, hnumber (isNumberText_render x), number?_render]; rfl
  | boolean b => cases b <;> rfl

theorem value?_writeScalar (v : Scalar) (depth : Nat) (rest : List Char) :
    value? depth (skipSpaces (' ' :: (writeScalar v ++ '\n' :: rest))) =
      some (ofScalar v, '\n' :: rest) := by
  obtain ⟨c, tail, hwritten, hspace, hbracket, hbrace⟩ := writeScalar_eq_cons v
  have hblank : skipSpaces (' ' :: (writeScalar v ++ '\n' :: rest)) =
      skipSpaces (writeScalar v ++ '\n' :: rest) := rfl
  have hscalar := scalar?_writeScalar v rest
  rw [hblank]
  rw [hwritten, List.cons_append] at hscalar ⊢
  rw [skipSpaces_of_not_isSpace hspace, value?_of_scalar hbracket hbrace, hscalar]

/-! ## Lines -/

/-- The pair that an entry is read as. -/
def pairOf (entry : String × Scalar) : Pair :=
  ⟨[], entry.1, ofScalar entry.2⟩

theorem pair?_writeEntry (entry : String × Scalar) (rest : List Char) :
    pair? (value? 79) (writeEntry entry ++ rest) = some (pairOf entry, '\n' :: rest) := by
  have hwritten : writeEntry entry ++ rest = writeKey entry.1.toList ++
      ' ' :: '=' :: (' ' :: (writeScalar entry.2 ++ '\n' :: rest)) := by
    simp [writeEntry]
  rw [pair?, hwritten, path?_writeKey]
  simp only [value?_writeScalar, Option.map_some]
  rfl

theorem line?_writeEntry (entry : String × Scalar) (rest : List Char) :
    line? (writeEntry entry ++ rest) = some (.pair (pairOf entry), '\n' :: rest) := by
  obtain ⟨c, tail, hkey, hc⟩ := writeKey_eq_cons entry.1.toList
  have hbracket : c ≠ '[' := hc.ne (by decide) (by decide) (by decide)
  have hwritten : writeEntry entry ++ rest = c :: (tail ++ ([' ', '=', ' '] ++
      (writeScalar entry.2 ++ ['\n']) ++ rest)) := by
    rw [writeEntry, hkey, List.cons_append, List.cons_append, List.append_assoc]
  have hpair := pair?_writeEntry entry rest
  rw [hwritten] at hpair ⊢
  unfold line?
  split
  · next heq => exact absurd (List.cons.inj heq).1 hbracket
  · rw [hpair]
    rfl

theorem skipLines_writeEntry (entry : String × Scalar) (rest : List Char) :
    skipLines false (writeEntry entry ++ rest) = writeEntry entry ++ rest := by
  obtain ⟨c, tail, hkey, hc⟩ := writeKey_eq_cons entry.1.toList
  have hfeed : c ≠ '\n' := hc.ne (by decide) (by decide) (by decide)
  have hreturn : c ≠ '\r' := hc.ne (by decide) (by decide) (by decide)
  have hcomment : c ≠ '#' := hc.ne (by decide) (by decide) (by decide)
  have hspace : isSpace c = false :=
    isSpace_eq_false (hc.ne (by decide) (by decide) (by decide))
      (hc.ne (by decide) (by decide) (by decide))
  rw [writeEntry, hkey, List.cons_append, List.cons_append]
  simp [skipLines, hfeed, hreturn, hcomment, hspace]

theorem lineRest?_feed (rest : List Char) : lineRest? ('\n' :: rest) = some rest := by
  simp [lineRest?, skipSpaces, isSpace, lineEnd?]

theorem lines?_nil : lines? [] = some [] := by
  rw [lines?]
  rfl

/-- A document whose first line is read has this line and those of what follows. -/
theorem lines?_of_line {cs after rest : List Char} {line : Line} {lines : List Line}
    (hne : skipLines false cs ≠ []) (hline : line? (skipLines false cs) = some (line, after))
    (hrest : lineRest? after = some rest) (hlength : rest.length < cs.length)
    (hlines : lines? rest = some lines) : lines? cs = some (line :: lines) := by
  rw [lines?]
  split
  · next heq => exact absurd heq hne
  · simp only [hline, hrest, if_pos hlength, hlines, Option.map_some]

theorem lines?_write (entries : List (String × Scalar)) :
    lines? (entries.flatMap writeEntry) = some (entries.map fun entry => .pair (pairOf entry)) := by
  induction entries with
  | nil => exact lines?_nil
  | cons entry entries ih =>
    have hne : writeEntry entry ≠ [] := by simp [writeEntry]
    have hlength : (entries.flatMap writeEntry).length <
        (writeEntry entry ++ entries.flatMap writeEntry).length := by
      have hpos := List.length_pos_of_ne_nil hne
      rw [List.length_append]
      omega
    refine lines?_of_line ?_ ?_ (lineRest?_feed _) hlength ih
    · rw [List.flatMap_cons, skipLines_writeEntry]
      exact List.append_ne_nil_of_left_ne_nil hne _
    · rw [List.flatMap_cons, skipLines_writeEntry, line?_writeEntry]

/-! ## Tables -/

theorem sections_pairs (pairs : List Pair) : sections (pairs.map .pair) = (pairs, []) := by
  induction pairs with
  | nil => rfl
  | cons pair pairs ih => simp [sections, ih]

/-- Keys that are all different make up a table with the same entries in the same order. -/
theorem addPairs_pairOf {entries : List (String × Scalar)} {table : Entries}
    (hnd : (entries.map Prod.fst).Nodup)
    (hnew : ∀ entry ∈ entries, table.lookup entry.1 = none) :
    addPairs table (entries.map pairOf) =
      some (table ++ entries.map fun entry => (entry.1, ofScalar entry.2)) := by
  induction entries generalizing table with
  | nil => simp [addPairs]
  | cons entry entries ih =>
    rw [List.map_cons, List.nodup_cons] at hnd
    have hadd : addPair table (pairOf entry) =
        some (table ++ [(entry.1, ofScalar entry.2)]) := by
      rw [pairOf, addPair_simple, hnew entry (by simp)]
      rfl
    have hrest : ∀ other ∈ entries,
        (table ++ [(entry.1, ofScalar entry.2)]).lookup other.1 = none := by
      intro other hother
      have hne : other.1 ≠ entry.1 := by
        intro heq
        exact hnd.1 (heq ▸ List.mem_map_of_mem hother)
      rw [List.lookup_append, hnew other (by simp [hother])]
      simp [List.lookup_cons, beq_eq_false_iff_ne.2 hne]
    have hstep : addPairs table ((entry :: entries).map pairOf) =
        (addPair table (pairOf entry)).bind fun table => addPairs table (entries.map pairOf) :=
      rfl
    rw [hstep, hadd, Option.bind_some, ih hnd.2 hrest]
    simp

theorem withoutMark_write (values : Bindings) : withoutMark (write values) = write values := by
  rw [write]
  cases values.entries with
  | nil => rfl
  | cons entry entries =>
    obtain ⟨c, tail, hkey, hc⟩ := writeKey_eq_cons entry.1.toList
    have hmark : c ≠ '\ufeff' := hc.ne (by decide) (by decide) (by decide)
    rw [List.flatMap_cons, writeEntry, hkey, List.cons_append, List.cons_append]
    unfold withoutMark
    split
    · next heq => exact absurd (List.cons.inj heq).1 hmark
    · rfl

/-- A document of one empty line is the empty table. -/
theorem read?_feed : read? ['\n'] = some [] := by
  have hlines : lines? ['\n'] = some [] := by
    rw [lines?]
    rfl
  have hmark : withoutMark ['\n'] = ['\n'] := rfl
  rw [read?, hmark, hlines]
  rfl

/-- **Tables are read back.** The written table is read as the table, in the same order. -/
theorem read?_write (values : Bindings) :
    read? (write values) =
      some (values.entries.map fun entry => (entry.1, ofScalar entry.2)) := by
  have hlines : lines? (write values) = some ((values.entries.map pairOf).map .pair) := by
    rw [write, lines?_write, List.map_map]
    rfl
  simp only [read?, withoutMark_write, hlines, sections_pairs, ofSections?]
  rw [addPairs_pairOf values.distinct (by simp)]
  rfl

end Toml

end Provision
