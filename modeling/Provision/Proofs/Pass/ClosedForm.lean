import Mathlib.Data.List.Induction
import Provision.Dialogue.Script
import Provision.Proofs.Pass.Default
import Provision.Proofs.Pass.Settled

/-!
# The values of a pass without questions

If nobody is asked, every value of a result is given by the overrides, the declaration of its
parameter and the other values of the same result. So the result solves a system of equations,
and because a default refers only to parameters in front, the system has one solution. In which
order the parameters are declared decides whether there is a result, and not which one.

Results:

* `settles_of_resolve`: each value of a result is what its parameter settles at, against the
  values in front of it.
* `resolve_closed_form`: the equation of each value, in terms of the whole result.
* `get?_eq_of_perm`: the results of two orders of the same declarations give every name the
  same value.
-/

namespace Provision

variable {σ τ : Type} {prompter : Prompter σ} {other : Prompter τ} {state : σ} {start : τ}
  {params permuted : List Parameter} {overrides values values' : Bindings}

/-! ## The equations -/

/-- Each value of a result is what its parameter settles at, against the values in front of it,
    which are those of the result. -/
theorem settles_of_resolve
    (h : (resolve prompter .nonInteractive params overrides state).outcome = .ok values)
    {front rest : List Parameter} {p : Parameter} (hsplit : params = front ++ p :: rest) :
    ∃ (before : Bindings) (value : Scalar), before.keys = front.map Parameter.name ∧
      (∀ name ∈ before.keys, values.get? name = before.get? name) ∧
      values.get? p.name = some value ∧ Settles overrides before p value := by
  obtain ⟨before, state', ⟨value, source⟩, hkeys, hbefore, hfound, hvalue, -⟩ :=
    exists_settle_of_resolve h hsplit
  exact ⟨before, value, hkeys, hbefore, hvalue, outcome_settle_nonInteractive_iff.1 ⟨_, hfound⟩⟩

/-- **Closed form.** In the result of a pass without questions the value of a parameter is its
    override, whatever characters that consists of. Without an override there is a default: a
    literal is the value; a template refers to a parameter in front, whose value in the result
    is put between the literal texts of a text parameter, where no delimiter is left, and is
    the value of an integer parameter, where the literal texts are blank. -/
theorem resolve_closed_form
    (h : (resolve prompter .nonInteractive params overrides state).outcome = .ok values)
    {front rest : List Parameter} {p : Parameter} (hsplit : params = front ++ p :: rest) :
    ∃ value, values.get? p.name = some value ∧
      (∀ given, overrides.get? p.name = some given → p.Takes given value) ∧
      (overrides.get? p.name = none → ∃ default, p.default = some default ∧
        (default.isTemplate = false → p.Takes default value) ∧
        (default.isTemplate = true → ∃ source before name after, default = .text source ∧
          Refers source.toList before name after ∧ name ∈ front.map Parameter.name ∧
          (p.type = .text → ∃ found, values.get? name = some (.text found) ∧
            Undelimited (before ++ found.toList ++ after) ∧
            value = .text (String.ofList (before ++ found.toList ++ after))) ∧
          (p.type = .integer → Blank before ∧ Blank after ∧ values.get? name = some value))) := by
  obtain ⟨earlier, value, hkeys, hearlier, hvalue, hsettles⟩ := settles_of_resolve h hsplit
  -- What a default refers to has been settled in front, and has the same value in the result.
  have hfinal : ∀ {name v}, earlier.get? name = some v →
      name ∈ front.map Parameter.name ∧ values.get? name = some v := by
    intro name v hv
    have hname : name ∈ earlier.keys := Bindings.mem_keys_iff.2 ⟨v, hv⟩
    exact ⟨hkeys ▸ hname, (hearlier name hname).trans hv⟩
  refine ⟨value, hvalue, ?_, ?_⟩
  · intro given hgiven
    cases hsettles with
    | override hgiven' htakes =>
      cases hgiven.symm.trans hgiven'
      exact htakes
    | default hnone => simp [hgiven] at hnone
  · intro hnone
    cases hsettles with
    | override hgiven => simp [hnone] at hgiven
    | @default declared _ _ hdeclared hdenotes =>
      refine ⟨declared, hdeclared, ?_, ?_⟩
      · intro hliteral
        cases hdenotes with
        | literal _ htakes => exact htakes
        | substituted _ href => cases href.isTemplate.symm.trans hliteral
        | referred _ href => cases href.isTemplate.symm.trans hliteral
      · intro htemplate
        cases hdenotes with
        | literal hliteral => simp [htemplate] at hliteral
        | substituted htype href hfound hund =>
          obtain ⟨hname, hfound⟩ := hfinal hfound
          refine ⟨_, _, _, _, rfl, href, hname, fun _ => ⟨_, hfound, hund, rfl⟩, ?_⟩
          simp [htype]
        | referred htype href hbefore hafter hv =>
          obtain ⟨hname, hv⟩ := hfinal hv
          refine ⟨_, _, _, _, rfl, href, hname, ?_, fun _ => ⟨hbefore, hafter, hv⟩⟩
          simp [htype]

/-- A location that is made of an overridden name. The override of the first parameter holds
    delimiters, and is kept as it is. -/
theorem resolve_closed_form_location :
    let bucket : Parameter := .plain .text "BUCKET"
    let location := (Parameter.plain .text "LOCATION").withDefault
      (.text "gs://\x7b\x7b params.BUCKET \x7d\x7d/data")
    let params := [.plain .text "NOTE", bucket, location]
    let overrides := Bindings.ofList
      [("NOTE", .text "\x7b\x7b params.BUCKET \x7d\x7d"), ("BUCKET", .text "b")]
    let values := Bindings.ofList
      [("NOTE", .text "\x7b\x7b params.BUCKET \x7d\x7d"), ("BUCKET", .text "b"),
        ("LOCATION", .text "gs://b/data")]
    (resolve scripted .nonInteractive params overrides []).outcome = .ok values ∧
      ∃ before name after found,
        Refers "gs://\x7b\x7b params.BUCKET \x7d\x7d/data".toList before name after ∧
        name ∈ ["NOTE", "BUCKET"] ∧ values.get? name = some (.text found) ∧
        values.get? "LOCATION" =
          some (.text (String.ofList (before ++ found.toList ++ after))) := by
  intro bucket location params overrides values
  have h : (resolve scripted .nonInteractive params overrides []).outcome = .ok values := rfl
  refine ⟨h, ?_⟩
  obtain ⟨value, hvalue, -, hopen⟩ := resolve_closed_form h
    (show params = [.plain .text "NOTE", bucket] ++ location :: [] from rfl)
  obtain ⟨_, hdefault, -, htemplate⟩ := hopen rfl
  cases hdefault
  obtain ⟨_, before, name, after, hsource, href, hname, htext, -⟩ := htemplate (by decide)
  cases hsource
  obtain ⟨found, hfound, -, rfl⟩ := htext rfl
  exact ⟨before, name, after, found, href, hname, hfound, hvalue⟩

/-! ## The order of the declarations -/

/-- The parameters in front have the same values in the result of another order. The induction
    is along the first order, in which a default refers only to what is in front. -/
theorem get?_eq_of_prefix (hsub : ∀ p ∈ params, p ∈ permuted)
    (h : (resolve prompter .nonInteractive params overrides state).outcome = .ok values)
    (h' : (resolve other .nonInteractive permuted overrides start).outcome = .ok values')
    {front : List Parameter} (hfront : front <+: params) :
    ∀ p ∈ front, values.get? p.name = values'.get? p.name := by
  induction front using List.reverseRecOn with
  | nil => simp
  | append_singleton front p ih =>
    obtain ⟨rest, hsplit⟩ := hfront
    rw [List.append_assoc, List.singleton_append] at hsplit
    have hearlier := ih ⟨p :: rest, hsplit⟩
    have hp : p ∈ permuted := hsub p (by simp [← hsplit])
    obtain ⟨front', rest', hsplit'⟩ := List.append_of_mem hp
    obtain ⟨before, value, hkeys, hbefore, hvalue, hsettles⟩ := settles_of_resolve h hsplit.symm
    obtain ⟨before', value', -, hbefore', hvalue', hsettles'⟩ := settles_of_resolve h' hsplit'
    have hsame : ∀ name a b, before.get? name = some a → before'.get? name = some b → a = b := by
      intro name a b ha hb
      have hname : name ∈ before.keys := Bindings.mem_keys_iff.2 ⟨a, ha⟩
      have hname' : name ∈ before'.keys := Bindings.mem_keys_iff.2 ⟨b, hb⟩
      have heq : values.get? name = values'.get? name := by
        rw [hkeys] at hname
        obtain ⟨q, hq, rfl⟩ := List.mem_map.1 hname
        exact hearlier q hq
      rw [hbefore name hname, hbefore' name hname', ha, hb] at heq
      exact Option.some.inj heq
    intro q hq
    rw [List.mem_append, List.mem_singleton] at hq
    rcases hq with hq | rfl
    · exact hearlier q hq
    · rw [hvalue, hvalue', hsettles.unique hsettles' hsame]

/-- **Order.** Two passes without questions over the same declarations in different orders, with
    the same overrides, give every name the same value if both succeed. -/
theorem get?_eq_of_perm (hperm : permuted.Perm params)
    (h : (resolve prompter .nonInteractive params overrides state).outcome = .ok values)
    (h' : (resolve other .nonInteractive permuted overrides start).outcome = .ok values')
    (name : String) : values.get? name = values'.get? name := by
  by_cases hname : name ∈ values.keys
  · rw [keys_of_resolve h] at hname
    obtain ⟨p, hp, rfl⟩ := List.mem_map.1 hname
    exact get?_eq_of_prefix (fun q => hperm.mem_iff.2) h h' (List.prefix_refl params) p hp
  · have hname' : name ∉ values'.keys := by
      rw [keys_of_resolve h', (hperm.map Parameter.name).mem_iff, ← keys_of_resolve h]
      exact hname
    rw [Bindings.get?_eq_none_iff.2 hname, Bindings.get?_eq_none_iff.2 hname']

/-- A chain of references and an integer, in two orders. -/
theorem get?_eq_of_perm_chain :
    let chain : List Parameter :=
      [(Parameter.plain .text "ZONE").withDefault (.text "eu"),
        (Parameter.plain .text "HOST").withDefault (.text "\x7b\x7b params.ZONE \x7d\x7d-1"),
        (Parameter.plain .text "URL").withDefault (.text "db.\x7b\x7b params.HOST \x7d\x7d")]
    let size := (Parameter.plain .integer "SIZE").withDefault (.integer 3)
    let overrides := Bindings.ofList [("ZONE", .text "us")]
    let values := Bindings.ofList
      [("ZONE", .text "us"), ("HOST", .text "us-1"), ("URL", .text "db.us-1"),
        ("SIZE", .integer 3)]
    let values' := Bindings.ofList
      [("SIZE", .integer 3), ("ZONE", .text "us"), ("HOST", .text "us-1"),
        ("URL", .text "db.us-1")]
    (resolve scripted .nonInteractive (chain ++ [size]) overrides []).outcome = .ok values ∧
      (resolve scripted .nonInteractive ([size] ++ chain) overrides []).outcome = .ok values' ∧
      ∀ name, values.get? name = values'.get? name := by
  intro chain size overrides values values'
  have h : (resolve scripted .nonInteractive (chain ++ [size]) overrides []).outcome =
      .ok values := rfl
  have h' : (resolve scripted .nonInteractive ([size] ++ chain) overrides []).outcome =
      .ok values' := rfl
  exact ⟨h, h', get?_eq_of_perm List.perm_append_comm h h'⟩

end Provision
