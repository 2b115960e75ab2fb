/-!
# Tokens of a template

Component `params_core::expr`. A template is a text in which references stand between an opening
delimiter, two left braces, and a closing one, two right braces. Reading from the left, each
delimiter is taken where it first appears, and the text between two delimiters is one token.

Results:

* `Token.flatten_tokens`: nothing is lost; the written tokens make up the text.
* `occurs_iff`: the substring test says that the pattern stands somewhere in the text.
-/

namespace Provision

/-- A delimiter of a template, or the text between two of them (`Token`). -/
inductive Token where
  | opening
  | closing
  | text (content : List Char)
  deriving DecidableEq, Repr

namespace Token

/-- The delimiter in front of a reference (`OPEN`). -/
def openingText : List Char := ['{', '{']

/-- The delimiter behind a reference (`CLOSE`). -/
def closingText : List Char := ['}', '}']

/-- A token as it is written. -/
def written : Token → List Char
  | .opening => openingText
  | .closing => closingText
  | .text content => content

/-- Puts a character in front of the text that the tokens begin with. -/
def prepend (c : Char) : List Token → List Token
  | .text content :: rest => .text (c :: content) :: rest
  | rest => .text [c] :: rest

/-- The tokens of a text (`tokenize`). The searches for the next delimiter of either kind are one
    walk over the characters here. -/
def tokens : List Char → List Token
  | [] => []
  | '{' :: '{' :: rest => .opening :: tokens rest
  | '}' :: '}' :: rest => .closing :: tokens rest
  | c :: rest => prepend c (tokens rest)

theorem flatMap_written_prepend (c : Char) (ts : List Token) :
    (prepend c ts).flatMap written = c :: ts.flatMap written := by
  cases ts with
  | nil => rfl
  | cons t rest => cases t <;> rfl

/-- The written tokens make up the text. -/
theorem flatten_tokens (cs : List Char) : (tokens cs).flatMap written = cs := by
  fun_induction tokens cs with
  | case1 => rfl
  | case2 rest ih => simp [List.flatMap_cons, written, openingText, ih]
  | case3 rest ih => simp [List.flatMap_cons, written, closingText, ih]
  | case4 c rest _ _ ih => rw [flatMap_written_prepend, ih]

end Token

/-- Whether a pattern stands somewhere in a text. -/
def occurs (pattern : List Char) : List Char → Bool
  | [] => pattern.isEmpty
  | c :: cs => pattern.isPrefixOf (c :: cs) || occurs pattern cs

theorem occurs_iff {pattern cs : List Char} : occurs pattern cs = true ↔ pattern <:+: cs := by
  induction cs with
  | nil => simp [occurs]
  | cons c cs ih => simp [occurs, ih, List.infix_cons_iff]

/-- Whether both delimiters stand somewhere in a text (`has_delimiters`): only such a text is a
    template, every other one is a literal. -/
def isTemplate (cs : List Char) : Bool :=
  occurs Token.openingText cs && occurs Token.closingText cs

end Provision
