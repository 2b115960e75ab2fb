import Mathlib.Data.Nat.Find
import Provision.Proofs.Dialogue.Accounting

/-!
# Questions put again

An integer is asked for until the answer is one. With a script this comes to an end in one of three
ways: an answer can be used, or it accepts a suggestion that nobody made, or there is no answer
left. The first place of the script at which one of these happens decides. Every answer in front of
it is refused, with a notice, and the question is put again as it was; that includes a suggestion
that is no integer, however often it is accepted. So the loop needs no bound, and its patience
counts for nothing.

Results:

* `Script.Decides`, `Script.EndsAt`: the places of a script at which a dialogue can end, and the
  first of them.
* `Script.exists_endsAt`: every script has such a place.
* `askInteger_of_endsAt`: what a question leaves behind that is asked until then.
* `promptInteger_stops`: a prompt for an integer stops at the first answer that can be used.
-/

namespace Provision

namespace Script

/-- What the answer at a place of a script comes to: the answer itself, or the suggested default
    where the answer accepts that. -/
def reply? (default : Option Scalar) (script : Script) (place : Nat) : Option Scalar :=
  script[place]?.bind fun answer => answer.or default

/-- A place of a script at which an integer is not asked for again, and the outcome there. -/
inductive Decides (name : String) (default : Option Scalar) (script : Script) (place : Nat) :
    Except Failure Scalar → Prop where
  /-- There is no answer. -/
  | exhausted : script[place]? = none →
      Decides name default script place (.error (.prompt (.noAnswer name)))
  /-- The answer accepts a default, and there is none. -/
  | unsuggested : script[place]? = some none → default = none →
      Decides name default script place (.error (.prompt (.noDefault name)))
  | usable {reply : Scalar} {n : Int64} : script.reply? default place = some reply →
      reply.toInteger? = some n → Decides name default script place (.ok (.integer n))

/-- The first place of a script at which an integer is not asked for again. -/
structure EndsAt (name : String) (default : Option Scalar) (script : Script) (place : Nat)
    (outcome : Except Failure Scalar) : Prop where
  first : ∀ earlier < place, ∀ other, ¬ Decides name default script earlier other
  decides : Decides name default script place outcome

variable {name : String} {default answer : Option Scalar} {script rest : Script} {place : Nat}
  {outcome : Except Failure Scalar}

/-- The places behind the first answer are those of the other answers. -/
theorem decides_cons_succ_iff :
    Decides name default (answer :: rest) (place + 1) outcome ↔
      Decides name default rest place outcome := by
  constructor
  · rintro (hnone | ⟨hnone, hdefault⟩ | ⟨hreply, hn⟩)
    · exact .exhausted hnone
    · exact .unsuggested hnone hdefault
    · exact .usable hreply hn
  · rintro (hnone | ⟨hnone, hdefault⟩ | ⟨hreply, hn⟩)
    · exact .exhausted hnone
    · exact .unsuggested hnone hdefault
    · exact .usable hreply hn

/-- An answer that does not decide is there, and no integer. -/
theorem exists_refused (h : ∀ other, ¬ Decides name default script 0 other) :
    ∃ answer rest reply, script = answer :: rest ∧ answer.or default = some reply ∧
      reply.toInteger? = none := by
  cases script with
  | nil => exact absurd (.exhausted rfl) (h _)
  | cons answer rest =>
    cases hreply : answer.or default with
    | none =>
      obtain ⟨rfl, hdefault⟩ := Option.or_eq_none_iff.1 hreply
      exact absurd (.unsuggested rfl hdefault) (h _)
    | some reply =>
      refine ⟨answer, rest, reply, rfl, hreply, ?_⟩
      cases hn : reply.toInteger? with
      | none => rfl
      | some n => exact absurd (.usable hreply hn) (h _)

theorem EndsAt.tail (h : EndsAt name default (answer :: rest) (place + 1) outcome) :
    EndsAt name default rest place outcome where
  first earlier hearlier other hdecides :=
    h.first (earlier + 1) (Nat.succ_lt_succ hearlier) other (decides_cons_succ_iff.2 hdecides)
  decides := decides_cons_succ_iff.1 h.decides

/-- Every script has a first place that decides: the end of the script does, if no answer. -/
theorem exists_endsAt (name : String) (default : Option Scalar) (script : Script) :
    ∃ place outcome, EndsAt name default script place outcome := by
  classical
  have hend : ∃ place outcome, Decides name default script place outcome :=
    ⟨script.length, _, .exhausted (List.getElem?_eq_none (Nat.le_refl _))⟩
  obtain ⟨outcome, hdecides⟩ := Nat.find_spec hend
  refine ⟨Nat.find hend, outcome, fun earlier hearlier other hother => ?_, hdecides⟩
  exact Nat.find_min hend hearlier ⟨other, hother⟩

end Script

/-! ## One question -/

variable {question : Question} {displayName : String} {script : Script} {patience place : Nat}
  {outcome : Except Failure Scalar}

theorem ask_scripted_of_reply {answer : Option Scalar} {rest : Script} {reply : Scalar}
    (h : answer.or question.default = some reply) :
    ask scripted question (answer :: rest) = ⟨.ok reply, rest, [.asked question]⟩ := by
  cases answer with
  | some value =>
    cases h
    rfl
  | none =>
    have hdefault : question.default = some reply := h
    simp only [ask, scripted, Script.answer, hdefault]

theorem askInteger_of_decides
    (h : Script.Decides question.name question.default script 0 outcome) :
    askInteger scripted question displayName (patience + 1) script =
      ⟨outcome, script.drop 1, [.asked question]⟩ := by
  cases h with
  | exhausted hnone =>
    cases script with
    | nil => rfl
    | cons answer rest => cases hnone
  | unsuggested hanswer hdefault =>
    cases script with
    | nil => cases hanswer
    | cons answer rest =>
      cases hanswer
      simp [askInteger, ask, scripted, Script.answer, hdefault, Run.andThen]
  | usable hreply hn =>
    cases script with
    | nil => cases hreply
    | cons answer rest =>
      rw [askInteger, ask_scripted_of_reply hreply]
      simp [Run.andThen, hn, Run.done, Run.after]

/-- After an answer that is no integer there is a notice, and the question is put again. -/
theorem askInteger_of_refused {answer : Option Scalar} {rest : Script} {reply : Scalar}
    (h : answer.or question.default = some reply) (hn : reply.toInteger? = none) :
    askInteger scripted question displayName (patience + 1) (answer :: rest) =
      (askInteger scripted question displayName patience rest).after
        [.asked question, .noted (.notInteger displayName)] := by
  rw [askInteger, ask_scripted_of_reply h]
  simp [Run.andThen, hn, Run.after]

/-! ## The dialogue -/

/-- A question with a number of answers that are refused, and with the one that ends it. -/
def retried (question : Question) (displayName : String) : Nat → List Event
  | 0 => [.asked question]
  | count + 1 =>
    .asked question :: .noted (.notInteger displayName) :: retried question displayName count

theorem questions_retried (question : Question) (displayName : String) (count : Nat) :
    (retried question displayName count).filterMap Event.question? =
      List.replicate (count + 1) question := by
  induction count with
  | zero => rfl
  | succ count ih => exact congrArg (question :: ·) ih

theorem notices_retried (question : Question) (displayName : String) (count : Nat) :
    (retried question displayName count).filterMap Event.notice? =
      List.replicate count (.notInteger displayName) := by
  induction count with
  | zero => rfl
  | succ count ih => exact congrArg (Notice.notInteger displayName :: ·) ih

/-- A dialogue with a script ends at the first place that decides, if the patience lasts so long. -/
theorem askInteger_of_endsAt
    (h : Script.EndsAt question.name question.default script place outcome)
    (hpatience : place < patience) :
    askInteger scripted question displayName patience script =
      ⟨outcome, script.drop (place + 1), retried question displayName place⟩ := by
  induction place generalizing script patience with
  | zero =>
    obtain ⟨patience, rfl⟩ := Nat.exists_eq_succ_of_ne_zero (Nat.ne_of_gt hpatience)
    exact askInteger_of_decides h.decides
  | succ place ih =>
    obtain ⟨patience, rfl⟩ := Nat.exists_eq_succ_of_ne_zero (Nat.ne_zero_of_lt hpatience)
    obtain ⟨answer, rest, reply, rfl, hreply, hn⟩ :=
      Script.exists_refused (h.first 0 (Nat.succ_pos place))
    rw [askInteger_of_refused hreply hn, ih h.tail (Nat.lt_of_succ_lt_succ hpatience)]
    rfl

/-- The first place that decides is within the patience of a script. -/
theorem Script.EndsAt.lt_patience {name : String} {default : Option Scalar}
    (h : EndsAt name default script place outcome) : place < scripted.patience script := by
  have hplace : place ≤ script.length := by
    by_contra hbehind
    exact h.first script.length (Nat.lt_of_not_le hbehind) _
      (.exhausted (List.getElem?_eq_none (Nat.le_refl _)))
  exact Nat.lt_succ_of_le hplace

/-- **Stopping.** A prompt for an integer ends at the first place of the script at which there is no
    answer, or the answer accepts a default that is absent, or the answer, or the default where it
    accepts that, is an integer. With the place counted from zero, the same question is put as often
    as the place says and once more, with a notice of an error after each but the last, and what is
    left are the answers behind the place. The loop ends there by itself, whatever the patience. -/
theorem promptInteger_stops {p : Parameter} (hinput : p.inputKind = .text)
    (default : Option Scalar) (script : Script) :
    let question := p.question .number default
    let run := promptInteger scripted p default script
    (∃ place outcome, script.EndsAt p.name default place outcome) ∧
    ∀ place outcome, script.EndsAt p.name default place outcome →
      run.outcome = outcome ∧ run.state = script.drop (place + 1) ∧
      run.questions = List.replicate (place + 1) question ∧
      run.notices = List.replicate place (.notInteger p.displayName) ∧
      (∀ notice ∈ run.notices, notice.record.level = .error) ∧
      ∀ patience, place < patience →
        askInteger scripted question p.displayName patience script = run := by
  intro question run
  refine ⟨Script.exists_endsAt p.name default script, fun place outcome h => ?_⟩
  have hloop : ∀ patience, place < patience →
      askInteger scripted question p.displayName patience script =
        ⟨outcome, script.drop (place + 1), retried question p.displayName place⟩ :=
    fun patience hpatience => askInteger_of_endsAt h hpatience
  have hrun : run = ⟨outcome, script.drop (place + 1), retried question p.displayName place⟩ := by
    show promptInteger scripted p default script = _
    simp only [promptInteger, hinput]
    exact hloop _ h.lt_patience
  have hnotices : run.notices = List.replicate place (.notInteger p.displayName) := by
    rw [hrun]
    exact notices_retried question p.displayName place
  refine ⟨by rw [hrun], by rw [hrun], ?_, hnotices, fun notice hnotice => ?_, ?_⟩
  · rw [hrun]
    exact questions_retried question p.displayName place
  · rw [hnotices] at hnotice
    rw [List.eq_of_mem_replicate hnotice]
    rfl
  · intro patience hpatience
    rw [hloop patience hpatience, hrun]

/-- A suggestion that is no integer is accepted and refused, and an answer behind it is refused as
    well; the third one can be used, and the fourth is left. Without a suggestion the first answer
    ends the dialogue, and without answers nothing but the question is left behind. -/
theorem promptInteger_stops_suggestion :
    let p := Parameter.plain .integer "N"
    let script : Script := [none, some (.boolean true), some (.integer 5), some (.integer 6)]
    let suggested := promptInteger scripted p (some (.text "x")) script
    let unsuggested := promptInteger scripted p none script
    let exhausted := promptInteger scripted p none []
    p.inputKind = .text ∧
      script.EndsAt "N" (some (.text "x")) 2 (.ok (.integer 5)) ∧
      suggested.outcome = .ok (.integer 5) ∧ suggested.state = [some (.integer 6)] ∧
      suggested.questions = List.replicate 3 (p.question .number (some (.text "x"))) ∧
      suggested.notices = List.replicate 2 (.notInteger "N") ∧
      unsuggested.outcome = .error (.prompt (.noDefault "N")) ∧
      unsuggested.state = script.tail ∧
      exhausted.outcome = .error (.prompt (.noAnswer "N")) ∧
      exhausted.questions = [p.question .number none] := by
  intro p script suggested unsuggested exhausted
  have hsuggested : script.EndsAt "N" (some (.text "x")) 2 (.ok (.integer 5)) := by
    refine ⟨fun earlier hearlier other h => ?_, .usable rfl rfl⟩
    obtain rfl | rfl : earlier = 0 ∨ earlier = 1 := by omega
    all_goals
      rcases h with hnone | ⟨-, hdefault⟩ | ⟨hreply, hn⟩
      · cases hnone
      · cases hdefault
      · cases hreply
        cases hn
  have hunsuggested : script.EndsAt "N" none 0 (.error (.prompt (.noDefault "N"))) :=
    ⟨fun earlier hearlier => absurd hearlier (Nat.not_lt_zero earlier), .unsuggested rfl rfl⟩
  have hexhausted : Script.EndsAt "N" none [] 0 (.error (.prompt (.noAnswer "N"))) :=
    ⟨fun earlier hearlier => absurd hearlier (Nat.not_lt_zero earlier), .exhausted rfl⟩
  have hinput : p.inputKind = .text := rfl
  obtain ⟨houtcome, hstate, hquestions, hnotices, -⟩ :=
    (promptInteger_stops hinput (some (.text "x")) script).2 _ _ hsuggested
  obtain ⟨houtcome', hstate', -⟩ := (promptInteger_stops hinput none script).2 _ _ hunsuggested
  obtain ⟨houtcome'', -, hquestions'', -⟩ := (promptInteger_stops hinput none []).2 _ _ hexhausted
  exact ⟨hinput, hsuggested, houtcome, hstate, hquestions, hnotices, houtcome', hstate',
    houtcome'', hquestions''⟩

end Provision
