import Provision.Parameter.Basic

/-!
# Failures

The causes for which no value is found, and the message that tells each of them to a user.
-/

namespace Provision

/-- What a template can have that is not supported: the reasons handed to `unsupported`. -/
inductive TemplateFault where
  | unmatchedClose
  | emptyReference
  | nestedOpen
  | unterminated
  | notReference
  | severalReferences
  | surroundingText
  | noReference
  | delimitersRemain
  deriving DecidableEq, Repr

/-- What a template does wrong. -/
def TemplateFault.message : TemplateFault → String
  | .unmatchedClose => "unmatched '\x7d\x7d'"
  | .emptyReference => "empty expression"
  | .nestedOpen => "nested '\x7b\x7b'"
  | .unterminated => "unterminated '\x7b\x7b'"
  | .notReference => "only the identity form '\x7b\x7b params.NAME \x7d\x7d' is supported"
  | .severalReferences => "multiple parameter references"
  | .surroundingText => "text around a reference is only supported for string values"
  | .noReference => "no parameter reference"
  | .delimitersRemain => "delimiters remain after substitution"

/-- Why a question was not answered. -/
inductive PromptFault where
  | noDefault (name : String)
  | noAnswer (name : String)
  | notATerminal
  /-- The user has typed no further line. -/
  | noLine (name : String)
  /-- The prompter was asked again and again without a usable answer, and is asked no more. -/
  | patienceEnded (name : String)
  deriving DecidableEq, Repr

/-- What went wrong with a question. -/
def PromptFault.message : PromptFault → String
  | .noDefault name => "no default to accept for '" ++ name ++ "'"
  | .noAnswer name => "no scripted answer left for '" ++ name ++ "'"
  | .notATerminal => "IO error: not a terminal"
  | .noLine name => "no line left for '" ++ name ++ "'"
  | .patienceEnded name => "no usable answer for '" ++ name ++ "'"

/-- What keeps a text from being the name of a parameter. -/
inductive NameFault where
  | empty
  | characters
  deriving DecidableEq, Repr

/-- The rule that a name breaks. -/
def NameFault.message : NameFault → String
  | .empty => "parameter name must not be empty"
  | .characters => "parameter name must contain only alphanumeric characters or underscores"

/-- Why a file could not be read. -/
inductive ReadFault where
  | directory
  | notDirectory
  | nameTooLong
  | notUtf8
  deriving DecidableEq, Repr

/-- What the system reports of a file that it does not read. -/
def ReadFault.message : ReadFault → String
  | .directory => "Is a directory (os error 21)"
  | .notDirectory => "Not a directory (os error 20)"
  | .nameTooLong => "File name too long (os error 36)"
  | .notUtf8 => "stream did not contain valid UTF-8"

/-- The causes for which no value is found (`Error`). -/
inductive Failure where
  /-- A value does not have the type of the parameter, or the kind that a reference needs. -/
  | typeMismatch (name : String) (expected : ScalarKind) (found : Scalar)
  /-- A default refers to a parameter that has no value yet. -/
  | missingDependency (expression dependency : String)
  | unsupportedExpression (expression : String) (fault : TemplateFault)
  | unsupportedInput (name : String) (kind : InputKind)
  /-- Neither an override nor a default is there, and nobody may be asked. -/
  | missingValue (name : String)
  | duplicateParameter (name : String)
  | prompt (fault : PromptFault)
  | invalidName (name : String) (fault : NameFault)
  | malformedManifest
  | malformedValues
  | manifestNotFound (path : String)
  | unreadable (fault : ReadFault)
  deriving DecidableEq

/-- The message that tells a failure to a user. -/
def Failure.message : Failure → String
  | .typeMismatch name expected found =>
    "parameter '" ++ name ++ "' expects a value of type " ++ expected.name ++ ", got " ++
      found.kind.name ++ " value " ++ found.display
  | .missingDependency expression dependency =>
    "expression '" ++ expression ++ "' references parameter '" ++ dependency ++
      "' which has not been resolved yet"
  | .unsupportedExpression expression fault =>
    "evaluation of expression '" ++ expression ++ "' is not supported: " ++ fault.message
  | .unsupportedInput name kind =>
    "parameter '" ++ name ++ "' declares unsupported input type '" ++ kind.name ++ "'"
  | .missingValue name =>
    "no value available for parameter '" ++ name ++ "' and prompting is disabled"
  | .duplicateParameter name => "parameter '" ++ name ++ "' is declared more than once"
  | .prompt fault => "prompt failed: " ++ fault.message
  | .invalidName name fault => "invalid parameter name '" ++ name ++ "': " ++ fault.message
  | .malformedManifest => "failed to parse parameter declarations"
  | .malformedValues => "failed to parse parameter values"
  | .manifestNotFound path => "parameter declarations not found: " ++ path
  | .unreadable fault => "I/O error: " ++ fault.message

end Provision
