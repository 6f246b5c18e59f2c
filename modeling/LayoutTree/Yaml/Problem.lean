import LayoutTree.Yaml.Position

/-!
# What is wrong with a YAML text

The causes for which a text is no YAML document, with their wording.
-/

namespace LayoutTree.Yaml

open LayoutTree.Text

/-- A problem at a position of a text. -/
inductive Problem
  /-- A character starts nothing. -/
  | cannotStart (c : Char)
  /-- A key has no colon. -/
  | missingColon
  /-- Entries of a kind cannot stand here. -/
  | notAllowed (kind : String)
  /-- Something else was expected than the character found, or the end of the text. -/
  | expected (what : String) (found : Option Char)
  /-- A block scalar is indented by zero. -/
  | zeroIndentation
  /-- The text ends in a quoted scalar. -/
  | unexpectedEnd
  /-- A document ends in a quoted scalar. -/
  | unexpectedSeparator
  /-- A character cannot be escaped. -/
  | unknownEscape (c : Option Char)
  /-- The escapes of a tag are not UTF-8. -/
  | invalidEscape (message : String)
  /-- The version is declared twice. -/
  | duplicateVersion
  /-- The version is another one than 1. -/
  | incompatibleVersion
  /-- A tag handle is declared twice. -/
  | duplicateHandle (handle : String)
  /-- A tag handle is not declared. -/
  | undefinedHandle (handle : String)
  /-- Something else was expected than the token found. -/
  | expectedToken (what : String) (found : String)
  /-- A flow collection goes on with another token than a comma or its end. -/
  | expectedInFlow (what : String) (found : String)
  /-- An alias has no anchor. -/
  | undefinedAlias (name : String)
  /-- An anchor stands twice. -/
  | secondAnchor
  /-- A second document follows. -/
  | anotherDocument
  /-- A node holds itself. -/
  | recursiveNode
  /-- A key is no scalar. -/
  | unhashableKey
  deriving DecidableEq, Repr

/-- A character, or the end of the text, as it is shown in a message. -/
def shown (c : Option Char) : String :=
  quoted (String.ofList [c.getD '\x00'])

/-- The message of a problem. -/
def Problem.message : Problem → String
  | .cannotStart c => "found character " ++ shown (some c) ++ " that cannot start any token"
  | .missingColon => "could not find expected ':'"
  | .notAllowed kind => kind ++ " are not allowed here"
  | .expected what found => "expected " ++ what ++ ", but found " ++ shown found
  | .zeroIndentation => "expected indentation indicator in the range 1-9, but found 0"
  | .unexpectedEnd => "found unexpected end of stream"
  | .unexpectedSeparator => "found unexpected document separator"
  | .unknownEscape c => "found unknown escape character " ++ shown c
  | .invalidEscape message => message
  | .duplicateVersion => "found duplicate YAML directive"
  | .incompatibleVersion => "found incompatible YAML document (version 1.* is required)"
  | .duplicateHandle handle => "duplicate tag handle " ++ quoted handle
  | .undefinedHandle handle => "found undefined tag handle " ++ quoted handle
  | .expectedToken what found => "expected " ++ what ++ ", but found " ++ quoted found
  | .expectedInFlow what found => "expected " ++ what ++ ", but got " ++ quoted found
  | .undefinedAlias name => "found undefined alias " ++ quoted name
  | .secondAnchor => "second occurrence"
  | .anotherDocument => "but found another document"
  | .recursiveNode => "found unconstructable recursive node"
  | .unhashableKey => "found unhashable key"

/-- Why a text is no YAML document. -/
inductive Failure
  /-- A character cannot stand in a YAML text. -/
  | unprintable
  /-- There is a problem at a position. -/
  | problem (problem : Problem) (mark : Mark)
  /-- An escape stands for a code that no character has. -/
  | invalidCode (code : Nat)
  /-- A number of a version has too many digits. -/
  | longNumber (digits : Nat)
  deriving DecidableEq, Repr

/-- A failure at a place. -/
def Cursor.fail {α : Type} (c : Cursor) (p : Problem) : Except Failure α :=
  .error (.problem p c.mark)

end LayoutTree.Yaml
