/-!
# Faults of regular expressions

Why a text is refused as a regular expression: it is not formed like one, it asks for what an
automaton that reads UTF-8 cannot do, or it is too deep or too large.
-/

namespace HybridQuery.Regex

/-- Why an expression is refused. -/
inductive Fault where
  | unclosedGroup
  | unopenedGroup
  | unclosedClass
  | unclosedCount
  | missingOperand
  | missingNumber
  | oversizedNumber
  | invertedCount
  | invertedRange
  | rangeWithoutLiteral
  | escapeInClass
  | unfinishedEscape
  | unknownEscape
  | invalidCharacter
  | backReference
  | lookAround
  | invalidName
  | repeatedName
  | unknownFlag
  | repeatedFlag
  | danglingNegation
  | unfinishedFlags
  | unknownProperty
  | unknownBoundary
  | propertyWithoutUnicode
  | notUtf8
  | nestedTooDeep
  | tooLarge
  deriving DecidableEq, Repr

end HybridQuery.Regex
