/-!
Why a text is not YAML, or YAML that stands for no value.
-/

namespace QuickFix.Yaml

/-- Why a text has no value. -/
inductive Error where
  /-- A control character, or one that is none. -/
  | controlCharacter (c : Char)
  /-- A character that begins no token. -/
  | unexpectedCharacter (c : Char)
  /-- An indicator where the block structure does not allow it. -/
  | misplacedIndicator
  /-- A tab where the indentation is measured. -/
  | tabInIndentation
  /-- What must be a key has no colon behind it. -/
  | missingColon
  /-- A scalar without an end. -/
  | unclosedScalar
  | malformedEscape
  /-- The first line of a block scalar holds more than it may. -/
  | malformedHeader
  | malformedDirective
  | malformedAnchor
  | malformedTag
  /-- A tag begins with a handle that no directive declares. -/
  | unknownHandle (handle : String)
  /-- A token that does not continue the document. -/
  | unexpectedToken
  /-- An alias of a name that no anchor in front of it has. -/
  | unknownAlias (name : String)
  /-- An alias of a number that no node has. -/
  | danglingAlias (anchor : Nat)
  | severalDocuments
  /-- Too many lists and mappings lie inside one another. -/
  | tooDeep
  /-- Aliases are followed too often for the size of the document. -/
  | tooManyAliases
  /-- A key that is a list or a mapping. -/
  | compoundKey
  /-- A tag of the document's own, which no value has. -/
  | localTag
  /-- A scalar is not of the kind that its tag says. -/
  | wrongKind
  /-- An integer of more than 64 bits. -/
  | integerOutOfRange
  deriving DecidableEq, Repr

end QuickFix.Yaml
