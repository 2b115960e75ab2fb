/-!
# Names of parameters

A name is one or more ASCII letters, digits and underscores.
-/

namespace Provision

/-- Whether a character may stand in a name. -/
def isNameChar (c : Char) : Bool :=
  c.isAlphanum || c == '_'

/-- Whether a text is a name. -/
def isName (cs : List Char) : Bool :=
  !cs.isEmpty && cs.all isNameChar

theorem isName_nil : isName [] = false :=
  rfl

end Provision
