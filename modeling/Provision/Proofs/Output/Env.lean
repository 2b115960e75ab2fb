import Provision.Dialogue.Script
import Provision.Output.Format
import Provision.Proofs.Manifest
import Provision.Proofs.Number.Numeral
import Provision.Proofs.Pass.Shape
import Provision.Proofs.Toml.Document

/-!
# Values printed as lines

The format `env` writes every value behind its name, and quotes nothing. What is printed has one
line for each value if the values allow it: a text that holds a line end is broken into several
lines, and white space at the end of the last value is trimmed together with the line end behind
it. In all other cases the lines are the names and the values.

Results:

* `splitOn_eq_concat_nil_iff`: a text is split into lines exactly if it is these lines, ended.
* `Format.printed_env_concat`: what is printed, and how much of the last value.
* `Format.PrintsWhole`: the values that are printed as they are.
* `Format.printed_env_lines`: exactly these are printed one to a line.
* `Format.printed_env_loses`: values that are not.
-/

namespace Provision

/-! ## Lines -/

theorem not_mem_of_mem_splitOn {cs line : List Char} (h : line ∈ cs.splitOn '\n') :
    '\n' ∉ line := by
  induction cs generalizing line with
  | nil =>
    rw [List.splitOn_nil, List.mem_singleton] at h
    simp [h]
  | cons c cs ih =>
    rw [List.splitOn_cons_eq_if_modifyHead] at h
    split at h
    · rcases List.mem_cons.1 h with rfl | h
      · exact List.not_mem_nil
      · exact ih h
    · next hc =>
      obtain ⟨first, rest, hsplit⟩ := List.exists_cons_of_ne_nil (List.splitOn_ne_nil '\n' cs)
      rw [hsplit, List.modifyHead_cons] at h
      rw [hsplit] at ih
      rcases List.mem_cons.1 h with rfl | h
      · rw [List.mem_cons, not_or]
        exact ⟨fun heq => hc (by simp [← heq]), ih List.mem_cons_self⟩
      · exact ih (List.mem_cons_of_mem _ h)

/-- Lines that are ended stand before the empty text, with line ends between them. -/
theorem intercalate_concat_nil (lines : List (List Char)) :
    ['\n'].intercalate (lines ++ [[]]) = lines.flatMap (· ++ ['\n']) := by
  induction lines with
  | nil => rfl
  | cons line lines ih => cases lines <;> simp_all [List.intercalate]

/-- A text is split into some lines, with nothing behind them, exactly if it consists of these
    lines, each of them ended, and none of them holds a line end. -/
theorem splitOn_eq_concat_nil_iff {cs : List Char} {lines : List (List Char)} :
    cs.splitOn '\n' = lines ++ [[]] ↔
      (∀ line ∈ lines, '\n' ∉ line) ∧ cs = lines.flatMap (· ++ ['\n']) := by
  constructor
  · intro h
    have hjoined : ['\n'].intercalate (cs.splitOn '\n') = cs := List.intercalate_splitOn '\n'
    rw [h, intercalate_concat_nil] at hjoined
    refine ⟨fun line hline => ?_, hjoined.symm⟩
    exact not_mem_of_mem_splitOn (h ▸ List.mem_append_left _ hline)
  · rintro ⟨hlines, rfl⟩
    rw [← intercalate_concat_nil]
    refine List.splitOn_intercalate '\n' (fun line hline => ?_) (by simp)
    rcases List.mem_append.1 hline with hline | hline
    · exact hlines line hline
    · simp [List.mem_singleton.1 hline]

namespace Format

/-! ## What is printed -/

/-- A name and its value, as they should stand in a line. -/
def envPair (entry : String × Scalar) : List Char :=
  entry.1.toList ++ '=' :: entry.2.plain.toList

/-- The lines as which some values should be printed: one for each of them in their order, and an
    empty one if there is none. -/
def envPairs (values : Bindings) : List (List Char) :=
  if values.entries = [] then [[]] else values.entries.map envPair

theorem envLines_eq_flatMap (entries : List (String × Scalar)) :
    envLines entries = (entries.map envPair).flatMap (· ++ ['\n']) := by
  rw [envLines, List.flatMap_map]
  exact List.flatMap_congr fun entry _ => by simp [envLine, envPair]

/-- All values are printed in full except for the last one, which loses the white space at its
    end. -/
theorem printed_env_concat {values : Bindings} {front : List (String × Scalar)}
    {last : String × Scalar} (h : values.entries = front ++ [last]) :
    (env.printed values).toList =
      envLines front ++ (last.1.toList ++ '=' :: (trimEnd last.2.plain.toList ++ ['\n'])) := by
  have hline : Blank ['\n'] := by
    intro c hc
    rw [List.mem_singleton.1 hc]
    rfl
  have htext : envLines (front ++ [last]) =
      (envLines front ++ last.1.toList) ++ '=' :: (last.2.plain.toList ++ ['\n']) := by
    simp [envLines, envLine]
  rw [printed, render, String.toList_ofList, h, htext, trimEnd_append_cons rfl,
    trimEnd_append_blank _ hline]
  simp

/-- The names and the values are printed as they should be exactly if nothing of the last value is
    lost. -/
theorem toList_printed_env_eq_iff (values : Bindings) :
    (env.printed values).toList = (envPairs values).flatMap (· ++ ['\n']) ↔
      ∀ last, values.entries.getLast? = some last →
        trimEnd last.2.plain.toList = last.2.plain.toList := by
  rcases List.eq_nil_or_concat' values.entries with hnil | ⟨front, last, hconcat⟩
  · have hempty : values = .empty := Bindings.ext hnil
    subst hempty
    simp [printed, render, envLines, envPairs, Bindings.empty, trimEnd]
  · have hpairs : envPairs values = (front ++ [last]).map envPair := by
      simp [envPairs, hconcat]
    rw [printed_env_concat hconcat, hpairs, ← envLines_eq_flatMap, env_append, hconcat]
    simp [envLines, envLine]

/-! ## Values that are printed whole -/

/-- No text holds a line end, and the last value does not end in white space. -/
structure PrintsWhole (values : Bindings) : Prop where
  unbroken : ∀ name s, values.get? name = some (.text s) → '\n' ∉ s.toList
  untrimmed : ∀ name s, values.entries.getLast? = some (name, .text s) →
    ∀ c, s.toList.getLast? = some c → isBlank c = false

/-- Only texts can be printed otherwise than as they are. -/
theorem printsWhole_iff {params : List Parameter} {values : Bindings} (hfits : Fits params values) :
    PrintsWhole values ↔
      (∀ entry ∈ values.entries, '\n' ∉ entry.2.plain.toList) ∧
        ∀ last, values.entries.getLast? = some last →
          trimEnd last.2.plain.toList = last.2.plain.toList := by
  have hinteger : ∀ n : Int64, ∀ c ∈ (Scalar.integer n).plain.toList, isBlank c = false := by
    intro n c hc
    rw [Scalar.plain, String.toList_ofList] at hc
    exact Numeral.isBlank_of_mem_ofInt hc
  constructor
  · rintro ⟨hunbroken, huntrimmed⟩
    refine ⟨?_, ?_⟩
    · rintro ⟨name, value⟩ hentry
      have hvalue := Bindings.mem_entries_iff.1 hentry
      rcases hfits.eq_text_or_integer hvalue with ⟨s, rfl⟩ | ⟨n, rfl⟩
      · exact hunbroken name s hvalue
      · intro hmem
        cases hinteger n _ hmem
    · rintro ⟨name, value⟩ hlast
      have hvalue := Bindings.mem_entries_iff.1 (List.mem_of_getLast? hlast)
      rw [trimEnd_eq_self_iff]
      rcases hfits.eq_text_or_integer hvalue with ⟨s, rfl⟩ | ⟨n, rfl⟩
      · exact huntrimmed name s hlast
      · exact fun c hc => hinteger n c (List.mem_of_getLast? hc)
  · rintro ⟨hunbroken, huntrimmed⟩
    refine ⟨fun name s hvalue => ?_, fun name s hlast => ?_⟩
    · exact hunbroken (name, .text s) (Bindings.mem_entries_iff.2 hvalue)
    · exact trimEnd_eq_self_iff.1 (huntrimmed (name, .text s) hlast)

/-- A line end in the line of a value is one in the value, and not in the name. -/
theorem newline_not_mem_envPair_iff {params : List Parameter} {values : Bindings}
    (hnames : ∀ p ∈ params, isName p.name.toList = true) (hfits : Fits params values)
    {entry : String × Scalar} (hentry : entry ∈ values.entries) :
    '\n' ∉ envPair entry ↔ '\n' ∉ entry.2.plain.toList := by
  have hkey : entry.1 ∈ params.map Parameter.name := by
    rw [← hfits.keys]
    exact List.mem_map_of_mem hentry
  obtain ⟨p, hp, hname⟩ := List.mem_map.1 hkey
  have hfree : '\n' ∉ entry.1.toList := by
    intro hmem
    cases (isNameChar_of_isName (hname ▸ hnames p hp)).2 _ hmem
  simp [envPair, hfree]

/-- The values of a pass over parameters that have names are printed one to a line exactly if they
    are printed whole. -/
theorem splitOn_printed_env_eq_iff {params : List Parameter} {values : Bindings}
    (hnames : ∀ p ∈ params, isName p.name.toList = true) (hfits : Fits params values) :
    (env.printed values).toList.splitOn '\n' = envPairs values ++ [[]] ↔ PrintsWhole values := by
  have hpairs : (∀ line ∈ envPairs values, '\n' ∉ line) ↔
      ∀ entry ∈ values.entries, '\n' ∉ entry.2.plain.toList := by
    by_cases hempty : values.entries = []
    · simp [envPairs, hempty]
    · rw [envPairs, if_neg hempty, List.forall_mem_map]
      exact forall₂_congr fun entry => newline_not_mem_envPair_iff hnames hfits
  rw [splitOn_eq_concat_nil_iff, toList_printed_env_eq_iff, printsWhole_iff hfits, hpairs]

/-! ## Values that are told apart -/

theorem map_plain_of_map_envPair {xs ys : List (String × Scalar)}
    (hnames : xs.map Prod.fst = ys.map Prod.fst) (h : xs.map envPair = ys.map envPair) :
    xs.map (·.2.plain) = ys.map (·.2.plain) := by
  induction xs generalizing ys with
  | nil =>
    obtain rfl : ys = [] := List.map_eq_nil_iff.1 hnames.symm
    rfl
  | cons x xs ih =>
    obtain ⟨y, ys, rfl⟩ := List.exists_cons_of_ne_nil (l := ys) (by rintro rfl; cases hnames)
    rw [List.map_cons, List.map_cons, List.cons.injEq] at hnames h
    have hvalue : x.2.plain.toList = y.2.plain.toList := by
      have hpair := h.1
      rw [envPair, envPair, hnames.1] at hpair
      exact (List.cons.inj (List.append_cancel_left hpair)).2
    rw [List.map_cons, List.map_cons, ih hnames.2 h.2, String.toList_inj.1 hvalue]

/-- Values with the same names and the same lines are the same texts one by one. -/
theorem map_plain_of_envPairs {a b : Bindings} (hkeys : a.keys = b.keys)
    (h : envPairs a = envPairs b) :
    a.entries.map (·.2.plain) = b.entries.map (·.2.plain) := by
  refine map_plain_of_map_envPair hkeys ?_
  by_cases hempty : a.entries = []
  · have hnone : b.entries = [] := by
      rw [Bindings.keys, Bindings.keys, hempty] at hkeys
      exact List.map_eq_nil_iff.1 hkeys.symm
    rw [hempty, hnone]
  · have hsome : b.entries ≠ [] := by
      intro hnone
      rw [Bindings.keys, Bindings.keys, hnone] at hkeys
      exact hempty (List.map_eq_nil_iff.1 hkeys)
    rwa [envPairs, envPairs, if_neg hempty, if_neg hsome] at h

/-- **One line for each value.** The values that a pass gives to the parameters of a manifest are
    printed as one line for each of them, in order and with nothing behind, exactly if no text among
    them holds a line end and the last one does not end in white space. Of such values with the same
    names, those that are printed alike are the same texts. -/
theorem printed_env_lines {source : String} {values : Bindings}
    (h : Manifest.Yields source values) :
    ((env.printed values).toList.splitOn '\n' = envPairs values ++ [[]] ↔ PrintsWhole values) ∧
      ∀ source' other, Manifest.Yields source' other → other.keys = values.keys →
        PrintsWhole other → PrintsWhole values → env.printed other = env.printed values →
        other.entries.map (·.2.plain) = values.entries.map (·.2.plain) := by
  have hlines : ∀ {source values}, Manifest.Yields source values →
      ((env.printed values).toList.splitOn '\n' = envPairs values ++ [[]] ↔
        PrintsWhole values) := by
    rintro source values ⟨m, σ, prompter, mode, overrides, state, hread, hvalues⟩
    exact splitOn_printed_env_eq_iff (Manifest.names_of_read hread).1 (fits_of_resolve hvalues)
  refine ⟨hlines h, fun source' other hother hkeys hwhole hwhole' hprinted => ?_⟩
  refine map_plain_of_envPairs hkeys ?_
  have hsame : envPairs other ++ [[]] = envPairs values ++ [[]] := by
    rw [← (hlines hother).2 hwhole, hprinted, (hlines h).2 hwhole']
  exact List.append_cancel_right hsame

/-- A text with a blank in front and an equals sign, and an integer. -/
theorem printed_env_lines_overrides :
    let source := "[[params]]\nname='FLAG'\ntype='string'\n[[params]]\nname='SIZE'\ntype='int'\n"
    let values := Bindings.ofList [("FLAG", .text " a=b"), ("SIZE", .integer (-3))]
    Manifest.Yields source values ∧ (env.printed values).toList.splitOn '\n' =
      ["FLAG= a=b".toList, "SIZE=-3".toList, []] := by
  intro source values
  have hlines : Toml.lines? (Toml.withoutMark source.toList) =
      some [.header ⟨true, [], "params"⟩, .pair ⟨[], "name", .text "FLAG"⟩,
        .pair ⟨[], "type", .text "string"⟩, .header ⟨true, [], "params"⟩,
        .pair ⟨[], "name", .text "SIZE"⟩, .pair ⟨[], "type", .text "int"⟩] := by
    unfold source
    iterate 6 refine Toml.lines?_of_line (by decide) rfl rfl (by decide) ?_
    exact Toml.lines?_nil
  have hread : Manifest.read source =
      .ok ⟨none, [.plain .text "FLAG", .plain .integer "SIZE"]⟩ := by
    rw [Manifest.read, Toml.read?, hlines]
    rfl
  have hyields : Manifest.Yields source values :=
    ⟨_, _, scripted, .nonInteractive, values, [], hread, rfl⟩
  have hwhole : PrintsWhole values := by
    constructor
    · intro name s hvalue
      have hentry : (name, Scalar.text s) ∈
          [("FLAG", Scalar.text " a=b"), ("SIZE", .integer (-3))] :=
        Bindings.mem_entries_iff.2 hvalue
      simp only [List.mem_cons, Prod.mk.injEq, Scalar.text.injEq, reduceCtorEq, and_false,
        List.not_mem_nil, or_false] at hentry
      obtain ⟨-, rfl⟩ := hentry
      decide
    · intro name s hlast
      cases hlast
  exact ⟨hyields, (printed_env_lines hyields).1.2 hwhole⟩

/-- White space at the end of the last value is lost, so that it is printed like the value without
    it. And a line end in a value ends the line. -/
theorem printed_env_loses :
    let source := "[[params]]\nname = \"A\"\ntype = \"string\"\ndefault = \"x \"\n"
    let blank := Bindings.ofList [("A", .text "x ")]
    let bare := Bindings.ofList [("A", .text "x")]
    let broken := Bindings.ofList [("A", .text "x\nB=y")]
    (Manifest.Yields source blank ∧ env.printed blank = "A=x\n" ∧
      (env.printed blank).toList.splitOn '\n' ≠ envPairs blank ++ [[]]) ∧
    (Manifest.Yields source bare ∧ bare.keys = blank.keys ∧
      env.printed bare = env.printed blank ∧
      bare.entries.map (·.2.plain) ≠ blank.entries.map (·.2.plain)) ∧
    (Manifest.Yields source broken ∧
      (env.printed broken).toList.splitOn '\n' = ["A=x".toList, "B=y".toList, []]) := by
  intro source blank bare broken
  have hlines : Toml.lines? (Toml.withoutMark source.toList) =
      some [.header ⟨true, [], "params"⟩, .pair ⟨[], "name", .text "A"⟩,
        .pair ⟨[], "type", .text "string"⟩, .pair ⟨[], "default", .text "x "⟩] := by
    unfold source
    iterate 4 refine Toml.lines?_of_line (by decide) rfl rfl (by decide) ?_
    exact Toml.lines?_nil
  have hread : Manifest.read source =
      .ok ⟨none, [(Parameter.plain .text "A").withDefault (.text "x ")]⟩ := by
    rw [Manifest.read, Toml.read?, hlines]
    rfl
  have hblank : Manifest.Yields source blank :=
    ⟨_, _, scripted, .nonInteractive, .empty, [], hread, rfl⟩
  have hbare : Manifest.Yields source bare :=
    ⟨_, _, scripted, .nonInteractive, bare, [], hread, rfl⟩
  have hbroken : Manifest.Yields source broken :=
    ⟨_, _, scripted, .nonInteractive, broken, [], hread, rfl⟩
  have hprinted : env.printed blank = "A=x\n" := by decide
  refine ⟨⟨hblank, hprinted, by decide⟩, ⟨hbare, rfl, by decide, by decide⟩, hbroken, by decide⟩

end Format

end Provision
