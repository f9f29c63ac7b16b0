/-!
What can be wrong with a text that should be JSON, and the wording of each report.
-/
namespace CensusLink

inductive Flaw
  | endInValue
  | endInString
  | endInList
  | endInObject
  | expectedValue
  | expectedWord
  | expectedColon
  | expectedListEnd
  | expectedObjectEnd
  | keyNotString
  | trailingComma
  | trailingCharacters
  | badNumber
  | numberRange
  | badEscape
  | controlCharacter
  | unpairedSurrogate
  | cutSurrogatePair
  | tooDeep
  deriving DecidableEq, Repr

def Flaw.message : Flaw → String
  | .endInValue => "EOF while parsing a value"
  | .endInString => "EOF while parsing a string"
  | .endInList => "EOF while parsing a list"
  | .endInObject => "EOF while parsing an object"
  | .expectedValue => "expected value"
  | .expectedWord => "expected ident"
  | .expectedColon => "expected `:`"
  | .expectedListEnd => "expected `,` or `]`"
  | .expectedObjectEnd => "expected `,` or `\x7d`"
  | .keyNotString => "key must be a string"
  | .trailingComma => "trailing comma"
  | .trailingCharacters => "trailing characters"
  | .badNumber => "invalid number"
  | .numberRange => "number out of range"
  | .badEscape => "invalid escape"
  | .controlCharacter => "control character (\\u0000-\\u001F) found while parsing a string"
  | .unpairedSurrogate => "lone leading surrogate in hex escape"
  | .cutSurrogatePair => "unexpected end of hex escape"
  | .tooDeep => "recursion limit exceeded"

/-- A fault behind which a text cannot be read on, as reported when the value is wanted and when
it is only passed over. -/
structure Break where
  kept : Flaw
  skipped : Flaw
  deriving DecidableEq, Repr

/-- One report in both cases. -/
def Flaw.both (f : Flaw) : Break := ⟨f, f⟩

end CensusLink
