import Provision.Proofs.Template.Grammar
import Provision.Template.Mention

/-!
# Where names are mentioned

The scan for mentions reads a text once, from the left, and goes on behind each name that it has
found. Against the text as a whole it looks at too little: the character in front of a mention is
known only if it has not been passed over, and a mention that begins in what is passed over is not
looked at. Neither matters. What is passed over ends where a name ends, so that no mention begins
right there; and a mention that begins further in front has a character of a name or a dot before
it.

Results:

* `mentions_of_refers`: a supported template mentions exactly the name that it refers to.
* `MentionedIn`: `params.` and a name stand between delimiters.
* `exists_listing_scan`, `exists_listing_ofTokens`: what a scan finds in a text and in tokens.
* `isName_of_mem_mentions`: whatever a template mentions is a name, supported or not.
* `mentions_listing`: every mention that is found stands in the template and is not part of a
  longer name, and every one with no dot in front either is found, once and in order.
-/

namespace Provision

variable {source : String} {before after : List Char} {name : String}

/-! ## Runs of names -/

/-- The last character of a text belongs to a name. -/
def endsInName (cs : List Char) : Bool :=
  cs.getLast?.any isNameChar

/-- The first character of a text belongs to a name. -/
def startsInName (cs : List Char) : Bool :=
  cs.head?.any isNameChar

theorem endsInName_concat (cs : List Char) (c : Char) :
    endsInName (cs ++ [c]) = isNameChar c := by
  simp [endsInName]

theorem isNameChar_of_isBlank {c : Char} (h : isBlank c = true) : isNameChar c = false := by
  cases hname : isNameChar c with
  | false => rfl
  | true => simp [isBlank_of_isNameChar hname] at h

theorem startsInName_of_blank {cs : List Char} (h : Blank cs) : startsInName cs = false := by
  cases cs with
  | nil => rfl
  | cons c cs => exact isNameChar_of_isBlank (h c (by simp))

theorem startsInName_dropWhile (cs : List Char) :
    startsInName (cs.dropWhile isNameChar) = false := by
  have hhead := List.head?_dropWhile_not isNameChar cs
  rw [startsInName]
  cases h : (cs.dropWhile isNameChar).head? with
  | none => rfl
  | some c => simpa [h] using hhead

theorem takeWhile_isNameChar_append {run rest : List Char} (hrun : ∀ c ∈ run, isNameChar c = true)
    (hrest : startsInName rest = false) : (run ++ rest).takeWhile isNameChar = run := by
  rw [List.takeWhile_append_of_pos hrun]
  cases rest with
  | nil => simp
  | cons c rest =>
    have hc : isNameChar c = false := hrest
    simp [hc]

/-! ## Steps of a scan -/

theorem scan_skip (found rest : List Char) :
    Mention.scan found.length false (found ++ rest) = Mention.scan 0 false rest := by
  induction found with
  | nil => rfl
  | cons c found ih => exact ih

theorem scan_cons {c : Char} {cs : List Char} (h : ¬ referencePrefix <+: c :: cs)
    (running : Bool) : Mention.scan 0 running (c :: cs) = Mention.scan 0 (isNameChar c) cs := by
  have hnone : withoutPrefix? referencePrefix (c :: cs) = none := by
    rw [Option.eq_none_iff_forall_ne_some]
    intro tail htail
    exact h ⟨tail, (withoutPrefix?_eq_some_iff.1 htail).symm⟩
  rw [Mention.scan, hnone]

/-- At a mention the longest name behind it is taken, and the scan goes on behind the name. -/
theorem scan_mention {run rest : List Char} (hrun : ∀ c ∈ run, isNameChar c = true)
    (hrest : startsInName rest = false) (running : Bool) :
    Mention.scan 0 running (referencePrefix ++ run ++ rest) =
      (if run.isEmpty || running then [] else [run]) ++ Mention.scan 0 false rest := by
  have hcons : referencePrefix ++ run ++ rest = 'p' :: (referencePrefix.tail ++ run ++ rest) := rfl
  have hfound : withoutPrefix? referencePrefix ('p' :: (referencePrefix.tail ++ run ++ rest)) =
      some (run ++ rest) :=
    withoutPrefix?_eq_some_iff.2 rfl
  have hlength :
      referencePrefix.length + run.length - 1 = (referencePrefix.tail ++ run).length := by
    simp [referencePrefix]
    omega
  rw [hcons, Mention.scan, hfound]
  simp only [takeWhile_isNameChar_append hrun hrest, hlength, scan_skip]
  cases run.isEmpty || running <;> rfl

theorem scan_blank {left : List Char} (hleft : Blank left) (rest : List Char) :
    Mention.scan 0 false (left ++ rest) = Mention.scan 0 false rest := by
  induction left with
  | nil => rfl
  | cons c left ih =>
    have hc : isBlank c = true := hleft c (by simp)
    have hnone : ¬ referencePrefix <+: c :: (left ++ rest) := by
      rintro ⟨tail, h⟩
      rw [referencePrefix, List.cons_append, List.cons.injEq] at h
      rw [← h.1] at hc
      exact absurd hc (by decide)
    rw [List.cons_append, scan_cons hnone, isNameChar_of_isBlank hc]
    exact ih fun d hd => hleft d (List.mem_cons_of_mem _ hd)

theorem scan_reference {cs right : List Char} (hname : isName cs = true) (hright : Blank right) :
    Mention.scan 0 false (referencePrefix ++ cs ++ right) = [cs] := by
  obtain ⟨hne, hchars⟩ := isNameChar_of_isName hname
  have hrest : Mention.scan 0 false right = [] := by
    rw [← List.append_nil right, scan_blank hright, Mention.scan]
  rw [scan_mention hchars (startsInName_of_blank hright), hrest, List.isEmpty_eq_false_iff.2 hne]
  rfl

/-! ## Mentions of a supported template -/

theorem mentions_literalTokens_append (cs : List Char) (ts : List Token) :
    Mention.ofTokens false (literalTokens cs ++ ts) = Mention.ofTokens false ts := by
  by_cases h : cs = [] <;> simp [literalTokens, h, Mention.ofTokens]

/-- A supported template mentions exactly the name that it refers to. -/
theorem mentions_of_refers (h : Refers source.toList before name after) :
    mentions source = [name] := by
  obtain ⟨content, hcontent, htokens⟩ := h.exists_tokens
  obtain ⟨hname, left, right, hleft, hright, rfl⟩ := reference?_eq_some_iff_written.1 hcontent
  have hinside : Mention.scan 0 false (left ++ (referencePrefix ++ name.toList) ++ right) =
      [name.toList] := by
    rw [List.append_assoc, scan_blank hleft, scan_reference hname hright]
  have hbehind : Mention.ofTokens false (literalTokens after) = [] := by
    rw [← List.append_nil (literalTokens after), mentions_literalTokens_append, Mention.ofTokens]
  rw [mentions, if_pos h.isTemplate, htokens, tokensAround, mentions_literalTokens_append]
  simp only [Mention.ofTokens, if_true, hinside, hbehind, List.append_nil, List.map_cons,
    List.map_nil, String.ofList_toList]

/-! ## Places of mentions -/

/-- `params.` and a name stand in a text behind `left`. The name goes on for as long as it can. -/
structure Spells (content left name : List Char) : Prop where
  isName : isName name = true
  written : ∃ right, content = left ++ (referencePrefix ++ name) ++ right ∧
    startsInName right = false

/-- What stands in front is not part of a name that runs on. -/
def Detached (left : List Char) : Prop :=
  endsInName left = false

/-- What stands in front is not part of a name that runs on, and no dot either. -/
def Free (left : List Char) : Prop :=
  Detached left ∧ left.getLast? ≠ some '.'

/-- A mention stands at a place of a text, and what is in front of it there is as told. -/
def SpelledAt (front : List Char → Prop) (content : List Char) (place : Nat)
    (name : List Char) : Prop :=
  ∃ left, Spells content left name ∧ front left ∧ place = left.length

/-- Whether a token is a delimiter. -/
def Token.isDelimiter : Token → Bool
  | .text _ => false
  | _ => true

/-- The delimiter nearest to the end of the tokens. -/
def Token.nearest? (ts : List Token) : Option Token :=
  ts.reverse.find? Token.isDelimiter

/-- A mention stands at a place of the written tokens, in a text whose nearest delimiter in front
    is an opening one. `outer` is the delimiter in front of all the tokens, if there is one. -/
def MentionedIn (front : List Char → Prop) (outer : Option Token) (ts : List Token) (place : Nat)
    (name : List Char) : Prop :=
  ∃ earlier content later offset, ts = earlier ++ .text content :: later ∧
    (Token.nearest? earlier).or outer = some .opening ∧ SpelledAt front content offset name ∧
    place = (earlier.flatMap Token.written).length + offset

/-- The places, with the names that are mentioned there, are in order and no place comes twice; all
    of them are sound, and all that are free are among them. -/
structure Listing (sound free : Nat → List Char → Prop) (places : List (Nat × List Char)) :
    Prop where
  ordered : places.Pairwise fun earlier later => earlier.1 < later.1
  sound : ∀ place ∈ places, sound place.1 place.2
  complete : ∀ place name, free place name → (place, name) ∈ places

namespace Listing

variable {sound sound' free free' : Nat → List Char → Prop}
  {places places' : List (Nat × List Char)}

theorem nil (h : ∀ place name, ¬ free place name) : Listing sound free [] where
  ordered := .nil
  sound := by simp
  complete place name hfree := absurd hfree (h place name)

theorem mono (h : Listing sound free places)
    (hsound : ∀ place name, sound place name → sound' place name)
    (hfree : ∀ place name, free' place name → free place name) : Listing sound' free' places where
  ordered := h.ordered
  sound place hplace := hsound _ _ (h.sound place hplace)
  complete place name hname := h.complete place name (hfree place name hname)

theorem append (h : Listing sound free places) (h' : Listing sound' free' places')
    (hlt : ∀ place name place' name', sound place name → sound' place' name' → place < place') :
    Listing (fun place name => sound place name ∨ sound' place name)
      (fun place name => free place name ∨ free' place name) (places ++ places') where
  ordered := List.pairwise_append.2 ⟨h.ordered, h'.ordered, fun place hplace place' hplace' =>
    hlt _ _ _ _ (h.sound place hplace) (h'.sound place' hplace')⟩
  sound place hplace := (List.mem_append.1 hplace).imp (h.sound place) (h'.sound place)
  complete place name hfree := List.mem_append.2
    (hfree.imp (h.complete place name) (h'.complete place name))

/-- The places in a text behind another one. -/
theorem shift (h : Listing sound free places) (length : Nat) :
    Listing (fun place name => ∃ offset, sound offset name ∧ place = length + offset)
      (fun place name => ∃ offset, free offset name ∧ place = length + offset)
      (places.map fun place => (length + place.1, place.2)) where
  ordered := List.pairwise_map.2 (h.ordered.imp fun hlt => Nat.add_lt_add_left hlt length)
  sound := by
    intro place hplace
    obtain ⟨inner, hinner, rfl⟩ := List.mem_map.1 hplace
    exact ⟨inner.1, h.sound inner hinner, rfl⟩
  complete := by
    rintro _ name ⟨offset, hfree, rfl⟩
    exact List.mem_map.2 ⟨(offset, name), h.complete offset name hfree, rfl⟩

end Listing

/-! ## A scan of a text -/

/-- The places of the mentions that begin in `cs`, behind `left`. -/
def ListsBehind (left cs : List Char) (places : List (Nat × List Char)) : Prop :=
  Listing (fun place name => SpelledAt Detached (left ++ cs) place name ∧ left.length ≤ place)
    (fun place name => SpelledAt Free (left ++ cs) place name ∧ left.length ≤ place) places

theorem SpelledAt.lt {front : List Char → Prop} {content name : List Char} {place : Nat}
    (h : SpelledAt front content place name) : place < content.length := by
  obtain ⟨left, ⟨-, right, rfl, -⟩, -, rfl⟩ := h
  simp [referencePrefix]

theorem SpelledAt.spells {front : List Char → Prop} {left rest name : List Char}
    (h : SpelledAt front (left ++ rest) left.length name) :
    Spells (left ++ rest) left name ∧ front left := by
  obtain ⟨other, hspells, hother, hlength⟩ := h
  obtain ⟨right, hwritten, -⟩ := hspells.written
  have hstarts : other <+: left ++ rest := ⟨referencePrefix ++ name ++ right, by simp [hwritten]⟩
  have hsame : left = other :=
    (List.prefix_of_prefix_length_le (List.prefix_append left rest) hstarts
      (Nat.le_of_eq hlength)).eq_of_length hlength
  rw [hsame]
  exact ⟨hsame ▸ hspells, hother⟩

/-- The name of a mention is the run of characters behind `params.`. -/
theorem Spells.eq_run {left run rest name : List Char} (hrun : ∀ c ∈ run, isNameChar c = true)
    (hrest : startsInName rest = false)
    (h : Spells (left ++ (referencePrefix ++ run ++ rest)) left name) : name = run := by
  obtain ⟨hname, right, hwritten, hright⟩ := h
  have htail : run ++ rest = name ++ right := by simpa using hwritten
  rw [← takeWhile_isNameChar_append hrun hrest, htail,
    takeWhile_isNameChar_append (isNameChar_of_isName hname).2 hright]

theorem isNameChar_or_dot_of_mem {run : List Char} (hrun : ∀ c ∈ run, isNameChar c = true) :
    ∀ c ∈ referencePrefix ++ run, isNameChar c = true ∨ c = '.' := by
  intro c hc
  rcases List.mem_append.1 hc with hc | hc
  · have hall : referencePrefix.all (fun d => isNameChar d || d == '.') = true := rfl
    simpa using List.all_eq_true.1 hall c hc
  · exact Or.inl (hrun c hc)

/-- Nothing that ends within such characters is free. -/
theorem not_free_within {left chars rest front : List Char}
    (hchars : ∀ c ∈ chars, isNameChar c = true ∨ c = '.')
    (hfront : front <+: left ++ chars ++ rest) (hlt : left.length < front.length)
    (hle : front.length ≤ (left ++ chars).length) : ¬ Free front := by
  rintro ⟨hdetached, hdot⟩
  have hwithin : front <+: left ++ chars :=
    List.prefix_of_prefix_length_le hfront (List.prefix_append _ _) hle
  obtain ⟨part, rfl⟩ : left <+: front :=
    List.prefix_of_prefix_length_le (List.prefix_append _ _) hwithin (Nat.le_of_lt hlt)
  have hpart : part <+: chars := (List.prefix_append_right_inj left).1 hwithin
  have hne : part ≠ [] := by
    rintro rfl
    simp at hlt
  obtain ⟨begin, c, rfl⟩ := (List.eq_nil_or_concat' part).resolve_left hne
  rw [← List.append_assoc] at hdetached hdot
  rw [Detached, endsInName_concat] at hdetached
  rcases hchars c (hpart.subset (by simp)) with hc | rfl
  · simp [hdetached] at hc
  · simp at hdot

theorem listsBehind_nil (left : List Char) : ListsBehind left [] [] := by
  refine .nil ?_
  rintro place name ⟨hspelled, hle⟩
  rw [List.append_nil] at hspelled
  exact absurd hspelled.lt (Nat.not_lt_of_le hle)

/-- No mention begins at a character that does not begin `params.`. -/
theorem ListsBehind.cons {left cs : List Char} {c : Char} {places : List (Nat × List Char)}
    (hstarts : ¬ referencePrefix <+: c :: cs) (h : ListsBehind (left ++ [c]) cs places) :
    ListsBehind left (c :: cs) places := by
  rw [ListsBehind, List.append_assoc, List.singleton_append] at h
  refine h.mono ?_ ?_
  · rintro place name ⟨hspelled, hle⟩
    exact ⟨hspelled, by simp at hle; omega⟩
  · rintro place name ⟨hspelled, hle⟩
    refine ⟨hspelled, ?_⟩
    rcases Nat.eq_or_lt_of_le hle with rfl | hlt
    · obtain ⟨⟨-, right, hwritten, -⟩, -⟩ := hspelled.spells
      rw [List.append_assoc, List.append_cancel_left_eq, List.append_assoc] at hwritten
      exact absurd ⟨_, hwritten.symm⟩ hstarts
    · simpa using Nat.succ_le_of_lt hlt

/-- What a scan lists at `params.`: the name behind it, if there is one and none runs on in
    front. -/
theorem listing_front {left run rest : List Char} (hrun : ∀ c ∈ run, isNameChar c = true)
    (hrest : startsInName rest = false) :
    Listing
      (fun place name => SpelledAt Detached (left ++ (referencePrefix ++ run ++ rest)) place name ∧
        place = left.length)
      (fun place name => SpelledAt Free (left ++ (referencePrefix ++ run ++ rest)) place name ∧
        place = left.length)
      (if run.isEmpty || endsInName left then [] else [(left.length, run)]) := by
  split
  · next hskipped =>
    refine .nil ?_
    rintro place name ⟨hspelled, rfl⟩
    obtain ⟨hspells, hdetached, -⟩ := hspelled.spells
    have hempty : run = [] := by
      rw [Bool.or_eq_true, List.isEmpty_iff, hdetached] at hskipped
      simpa using hskipped
    have hname := hspells.isName
    rw [hspells.eq_run hrun hrest, hempty, isName_nil] at hname
    cases hname
  · next hfound =>
    rw [Bool.or_eq_true, not_or, Bool.not_eq_true, Bool.not_eq_true] at hfound
    refine ⟨List.pairwise_singleton _ _, ?_, ?_⟩
    · intro place hplace
      rw [List.mem_singleton.1 hplace]
      have hname : isName run = true := by
        rw [isName, hfound.1, Bool.not_false, Bool.true_and, List.all_eq_true]
        exact hrun
      exact ⟨⟨left, ⟨hname, rest, by simp, hrest⟩, hfound.2, rfl⟩, rfl⟩
    · rintro place name ⟨hspelled, rfl⟩
      rw [hspelled.spells.1.eq_run hrun hrest]
      exact List.mem_singleton.2 rfl

/-- No free mention begins within `params.` and the run behind it, or right behind that. -/
theorem ListsBehind.mention {left run rest : List Char} {places : List (Nat × List Char)}
    (hrun : ∀ c ∈ run, isNameChar c = true) (hrest : startsInName rest = false)
    (h : ListsBehind (left ++ (referencePrefix ++ run)) rest places) :
    ListsBehind left (referencePrefix ++ run ++ rest)
      ((if run.isEmpty || endsInName left then [] else [(left.length, run)]) ++ places) := by
  rw [ListsBehind, List.append_assoc left] at h
  have hbehind : left.length < (left ++ (referencePrefix ++ run)).length := by
    simp [referencePrefix]
  refine ((listing_front hrun hrest).append h ?_).mono ?_ ?_
  · rintro place name place' name' ⟨-, rfl⟩ ⟨-, hle⟩
    exact Nat.lt_of_lt_of_le hbehind hle
  · rintro place name (⟨hspelled, rfl⟩ | ⟨hspelled, hle⟩)
    · exact ⟨hspelled, Nat.le_refl _⟩
    · exact ⟨hspelled, Nat.le_of_lt (Nat.lt_of_lt_of_le hbehind hle)⟩
  · rintro place name ⟨hspelled, hle⟩
    rcases Nat.eq_or_lt_of_le hle with rfl | hlt
    · exact Or.inl ⟨hspelled, rfl⟩
    · refine Or.inr ⟨hspelled, ?_⟩
      obtain ⟨front, ⟨-, right, hwritten, -⟩, hfree, rfl⟩ := hspelled
      by_contra hwithin
      have hfront : front <+: left ++ (referencePrefix ++ run) ++ rest := by
        rw [List.append_assoc left, hwritten, List.append_assoc front]
        exact List.prefix_append _ _
      exact not_free_within (isNameChar_or_dot_of_mem hrun) hfront hlt (Nat.le_of_not_le hwithin)
        hfree

/-- Behind `params.` stands a run of characters of a name, which may be empty, and then nothing that
    belongs to it. -/
theorem exists_run {cs : List Char} (h : referencePrefix <+: cs) :
    ∃ run rest, cs = referencePrefix ++ run ++ rest ∧ (∀ c ∈ run, isNameChar c = true) ∧
      startsInName rest = false := by
  obtain ⟨after, rfl⟩ := h
  refine ⟨after.takeWhile isNameChar, after.dropWhile isNameChar, ?_, ?_, ?_⟩
  · rw [List.append_assoc, List.takeWhile_append_dropWhile]
  · exact fun c hc => List.all_eq_true.1 List.all_takeWhile c hc
  · exact startsInName_dropWhile after

/-- A scan lists the mentions in what is left to read. It has been told whether a name is running on
    in front, unless what is left begins with no name anyway. -/
theorem exists_listing_scan (left cs : List Char) (running : Bool)
    (hrunning : running = endsInName left ∨ running = false ∧ startsInName cs = false) :
    ∃ places, Mention.scan 0 running cs = places.map Prod.snd ∧ ListsBehind left cs places := by
  induction hlength : cs.length using Nat.strongRecOn generalizing left cs running with
  | _ length ih =>
  by_cases hstarts : referencePrefix <+: cs
  · obtain ⟨run, rest, rfl, hrun, hrest⟩ := exists_run hstarts
    have hshorter : rest.length < length := by
      rw [← hlength]
      simp [referencePrefix]
      omega
    -- Behind the name no other one begins, so that its last character may be forgotten.
    obtain ⟨places, hscan, hplaces⟩ := ih rest.length hshorter
      (left ++ (referencePrefix ++ run)) rest false (Or.inr ⟨rfl, hrest⟩) rfl
    have hknown : running = endsInName left := by
      rcases hrunning with hknown | ⟨-, hstart⟩
      · exact hknown
      · cases hstart
    refine ⟨_, ?_, hplaces.mention hrun hrest⟩
    rw [scan_mention hrun hrest, hscan, hknown, List.map_append]
    split <;> rfl
  · cases cs with
    | nil => exact ⟨[], rfl, listsBehind_nil left⟩
    | cons c cs =>
      have hshorter : cs.length < length := by simp [← hlength]
      obtain ⟨places, hscan, hplaces⟩ := ih cs.length hshorter (left ++ [c]) cs (isNameChar c)
        (Or.inl (endsInName_concat left c).symm) rfl
      exact ⟨places, (scan_cons hstarts running).trans hscan, hplaces.cons hstarts⟩

/-! ## A scan of tokens -/

/-- The nearest delimiter in front of what comes after a token. -/
def Token.delimiterAfter (outer : Option Token) (t : Token) : Option Token :=
  if t.isDelimiter then some t else outer

theorem nearest?_cons (outer : Option Token) (t : Token) (ts : List Token) :
    (Token.nearest? (t :: ts)).or outer =
      (Token.nearest? ts).or (Token.delimiterAfter outer t) := by
  rw [Token.nearest?, List.reverse_cons, List.find?_append, Option.or_assoc]
  cases h : t.isDelimiter <;> simp [Token.nearest?, Token.delimiterAfter, h]

/-- A mention stands in the first token, or in the others. -/
theorem mentionedIn_cons_iff {front : List Char → Prop} {outer : Option Token} {t : Token}
    {ts : List Token} {place : Nat} {name : List Char} :
    MentionedIn front outer (t :: ts) place name ↔
      (∃ content, t = .text content ∧ outer = some .opening ∧
        SpelledAt front content place name) ∨
      ∃ offset, MentionedIn front (Token.delimiterAfter outer t) ts offset name ∧
        place = t.written.length + offset := by
  constructor
  · rintro ⟨earlier, content, later, offset, hsplit, hnearest, hspelled, rfl⟩
    cases earlier with
    | nil =>
      rw [List.nil_append, List.cons.injEq] at hsplit
      exact Or.inl ⟨content, hsplit.1, hnearest, by simpa using hspelled⟩
    | cons first earlier =>
      rw [List.cons_append, List.cons.injEq] at hsplit
      obtain ⟨rfl, rfl⟩ := hsplit
      rw [nearest?_cons] at hnearest
      refine Or.inr ⟨_, ⟨earlier, content, later, offset, rfl, hnearest, hspelled, rfl⟩, ?_⟩
      simp [Nat.add_assoc]
  · rintro (⟨content, rfl, rfl, hspelled⟩ | ⟨_, ⟨earlier, content, later, offset, rfl, hnearest,
      hspelled, rfl⟩, rfl⟩)
    · exact ⟨[], content, ts, place, rfl, rfl, hspelled, by simp⟩
    · rw [← nearest?_cons] at hnearest
      exact ⟨t :: earlier, content, later, offset, rfl, hnearest, hspelled,
        by simp [Nat.add_assoc]⟩

theorem ofTokens_cons (outer : Option Token) (t : Token) (ts : List Token) :
    Mention.ofTokens (decide (outer = some .opening)) (t :: ts) =
      Mention.ofTokens (decide (outer = some .opening)) [t] ++
        Mention.ofTokens (decide (Token.delimiterAfter outer t = some .opening)) ts := by
  cases t <;> simp [Mention.ofTokens, Token.delimiterAfter, Token.isDelimiter]

theorem exists_listing_token (outer : Option Token) (t : Token) :
    ∃ places, Mention.ofTokens (decide (outer = some .opening)) [t] = places.map Prod.snd ∧
      Listing
        (fun place name => ∃ content, t = .text content ∧ outer = some .opening ∧
          SpelledAt Detached content place name)
        (fun place name => ∃ content, t = .text content ∧ outer = some .opening ∧
          SpelledAt Free content place name) places := by
  by_cases hinside : ∃ content, t = .text content ∧ outer = some .opening
  · obtain ⟨content, rfl, rfl⟩ := hinside
    obtain ⟨places, hscan, hplaces⟩ := exists_listing_scan [] content false (Or.inl rfl)
    refine ⟨places, ?_, hplaces.mono ?_ ?_⟩
    · simpa [Mention.ofTokens] using hscan
    · rintro place name ⟨hspelled, -⟩
      exact ⟨content, rfl, rfl, hspelled⟩
    · rintro place name ⟨_, hcontent, -, hspelled⟩
      cases hcontent
      exact ⟨hspelled, Nat.zero_le place⟩
  · refine ⟨[], ?_, .nil ?_⟩
    · cases t with
      | opening => rfl
      | closing => rfl
      | text content =>
        have houter : outer ≠ some .opening := fun h => hinside ⟨content, rfl, h⟩
        simp [Mention.ofTokens, houter]
    · rintro place name ⟨content, ht, houter, -⟩
      exact hinside ⟨content, ht, houter⟩

/-- A scan lists the mentions in the tokens. -/
theorem exists_listing_ofTokens (outer : Option Token) (ts : List Token) :
    ∃ places, Mention.ofTokens (decide (outer = some .opening)) ts = places.map Prod.snd ∧
      Listing (MentionedIn Detached outer ts) (MentionedIn Free outer ts) places := by
  induction ts generalizing outer with
  | nil =>
    refine ⟨[], rfl, .nil ?_⟩
    rintro place name ⟨earlier, content, later, -, hsplit, -⟩
    simp at hsplit
  | cons t ts ih =>
    obtain ⟨first, hfirst, hlisting⟩ := exists_listing_token outer t
    obtain ⟨places, hscan, hplaces⟩ := ih (Token.delimiterAfter outer t)
    refine ⟨first ++ places.map fun place => (t.written.length + place.1, place.2), ?_,
      (hlisting.append (hplaces.shift t.written.length) ?_).mono ?_ ?_⟩
    · rw [ofTokens_cons, hfirst, hscan, List.map_append, List.map_map]
      rfl
    · rintro place name _ name' ⟨content, rfl, -, hspelled⟩ ⟨offset, -, rfl⟩
      exact Nat.lt_of_lt_of_le hspelled.lt (Nat.le_add_right _ _)
    · exact fun place name => mentionedIn_cons_iff.2
    · exact fun place name => mentionedIn_cons_iff.1

theorem MentionedIn.isName {front : List Char → Prop} {outer : Option Token} {ts : List Token}
    {place : Nat} {name : List Char} (h : MentionedIn front outer ts place name) :
    Provision.isName name = true := by
  obtain ⟨_, _, _, _, -, -, ⟨_, hspells, -⟩, -⟩ := h
  exact hspells.isName

/-- A mention between delimiters stands at its place of what the tokens are written as. -/
theorem MentionedIn.prefix_drop {front : List Char → Prop} {outer : Option Token}
    {ts : List Token} {place : Nat} {name : List Char} (h : MentionedIn front outer ts place name) :
    referencePrefix ++ name <+: (ts.flatMap Token.written).drop place := by
  obtain ⟨earlier, content, later, offset, rfl, -, ⟨left, ⟨-, right, rfl, -⟩, -, rfl⟩, rfl⟩ := h
  have hwhole : (earlier ++ .text (left ++ (referencePrefix ++ name) ++ right) :: later).flatMap
      Token.written = (earlier.flatMap Token.written ++ left) ++
        (referencePrefix ++ name ++ (right ++ later.flatMap Token.written)) := by
    simp [Token.written]
  rw [hwhole, ← List.length_append, List.drop_left]
  exact List.prefix_append _ _

/-! ## Mentions of a template -/

theorem exists_listing_mentions (htemplate : isTemplate source.toList = true) :
    ∃ places : List (Nat × List Char),
      mentions source = places.map (fun place => String.ofList place.2) ∧
      Listing (MentionedIn Detached none (Token.tokens source.toList))
        (MentionedIn Free none (Token.tokens source.toList)) places := by
  obtain ⟨places, hscan, hplaces⟩ := exists_listing_ofTokens none (Token.tokens source.toList)
  have houtside : Mention.ofTokens false (Token.tokens source.toList) = places.map Prod.snd := hscan
  refine ⟨places, ?_, hplaces⟩
  rw [mentions, if_pos htemplate, houtside, List.map_map]
  rfl

/-- Whatever a template mentions is a name, supported or not. -/
theorem isName_of_mem_mentions (h : name ∈ mentions source) : isName name.toList = true := by
  cases htemplate : isTemplate source.toList with
  | false =>
    rw [mentions_eq_nil htemplate] at h
    cases h
  | true =>
    obtain ⟨places, hmentions, hplaces⟩ := exists_listing_mentions htemplate
    rw [hmentions] at h
    obtain ⟨place, hplace, rfl⟩ := List.mem_map.1 h
    rw [String.toList_ofList]
    exact (hplaces.sound place hplace).isName

/-- **Mentions.** A literal mentions nothing. In a template there is a place for each name that is
    mentioned, in the order of the text, at which `params.` and the name stand between delimiters:
    the name is not part of a longer one, neither in front nor behind. Wherever `params.` and a
    name stand like this, with no dot in front either, there is such a place. -/
theorem mentions_listing (source : String) :
    (isTemplate source.toList = false → mentions source = []) ∧
    (isTemplate source.toList = true → ∃ places : List (Nat × List Char),
      mentions source = places.map (fun place => String.ofList place.2) ∧
      Listing (MentionedIn Detached none (Token.tokens source.toList))
        (MentionedIn Free none (Token.tokens source.toList)) places ∧
      ∀ place ∈ places, referencePrefix ++ place.2 <+: source.toList.drop place.1) := by
  refine ⟨mentions_eq_nil, fun htemplate => ?_⟩
  obtain ⟨places, hmentions, hplaces⟩ := exists_listing_mentions htemplate
  refine ⟨places, hmentions, hplaces, fun place hplace => ?_⟩
  have hwritten := (hplaces.sound place hplace).prefix_drop
  rwa [Token.flatten_tokens] at hwritten

/-- Mentions in a template that is not supported. Between the first delimiters stand two names, the
    second of which is found although it has a dot in front; behind the last one stands another.
    Without a closing delimiter the same text is a literal. -/
theorem mentions_listing_unsupported :
    let source := "\x7b\x7b params.A1+x.params.B \x7d\x7d params.C \x7b\x7bparams.D"
    let literal := "\x7b\x7b params.A1"
    isTemplate source.toList = true ∧ isTemplate literal.toList = false ∧ mentions literal = [] ∧
      mentions source = ["A1", "B", "D"] ∧
      ∃ places : List (Nat × List Char), places.map (fun place => String.ofList place.2) =
        ["A1", "B", "D"] ∧ (3, ['A', '1']) ∈ places ∧ (38, ['D']) ∈ places := by
  intro source literal
  have htemplate : isTemplate source.toList = true := by decide
  have hliteral : isTemplate literal.toList = false := by decide
  have hmentions : mentions source = ["A1", "B", "D"] := by decide
  obtain ⟨places, hplaces, hlisting, -⟩ := (mentions_listing source).2 htemplate
  have hfirst : MentionedIn Free none (Token.tokens source.toList) 3 ['A', '1'] :=
    ⟨[.opening], " params.A1+x.params.B ".toList,
      [.closing, .text " params.C ".toList, .opening, .text "params.D".toList], 1, by decide, rfl,
      ⟨[' '], ⟨rfl, "+x.params.B ".toList, by decide, rfl⟩, ⟨rfl, by decide⟩, rfl⟩, rfl⟩
  have hlast : MentionedIn Free none (Token.tokens source.toList) 38 ['D'] :=
    ⟨[.opening, .text " params.A1+x.params.B ".toList, .closing, .text " params.C ".toList,
      .opening], "params.D".toList, [], 0, by decide, rfl,
      ⟨[], ⟨rfl, [], by decide, rfl⟩, ⟨rfl, by decide⟩, rfl⟩, rfl⟩
  exact ⟨htemplate, hliteral, (mentions_listing literal).1 hliteral, hmentions, places,
    hplaces.symm.trans hmentions, hlisting.complete _ _ hfirst, hlisting.complete _ _ hlast⟩

end Provision
