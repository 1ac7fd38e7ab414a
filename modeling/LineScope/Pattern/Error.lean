set_option autoImplicit false

namespace LineScope.Pattern

inductive ParseError where
  | unmatchedOpen
  | unmatchedClose
  | prematureClassEnd
  | emptyClass
  | emptyRange
  | classAtRangeEnd
  | unmatchedRange
  | repeatTargetMissing
  | repeatTargetInvalid
  | repeatTooBig
  | endAtEscape
  | endInGroup
  | undefinedOption
  | emptyGroupName
  | invalidGroupName (name : List Char)
  | invalidGroupNameChar (name : List Char)
  | invalidReference
  | undefinedName (name : List Char)
  | numberedReference
  | unknownBracketClass
  | unknownProperty (name : List Char)
  | invalidLookBehind
  | tooShortDigits
  | tooBigNumber
  | tooBigCharacter
  | invalidCharacter
  | tooShortSequence
deriving DecidableEq, Repr, Inhabited

def ParseError.reason : ParseError → String
  | .unmatchedOpen => "end pattern with unmatched parenthesis"
  | .unmatchedClose => "unmatched close parenthesis"
  | .prematureClassEnd => "premature end of char-class"
  | .emptyClass => "empty char-class"
  | .emptyRange => "empty range in char class"
  | .classAtRangeEnd => "char-class value at end of range"
  | .unmatchedRange => "unmatched range specifier in char-class"
  | .repeatTargetMissing => "target of repeat operator is not specified"
  | .repeatTargetInvalid => "target of repeat operator is invalid"
  | .repeatTooBig => "too big number for repeat range"
  | .endAtEscape => "end pattern at escape"
  | .endInGroup => "end pattern in group"
  | .undefinedOption => "undefined group option"
  | .emptyGroupName => "group name is empty"
  | .invalidGroupName name => "invalid group name <" ++ String.ofList name ++ ">"
  | .invalidGroupNameChar name => "invalid char in group name <" ++ String.ofList name ++ ">"
  | .invalidReference => "invalid backref number/name"
  | .undefinedName name => "undefined name <" ++ String.ofList name ++ "> reference"
  | .numberedReference => "numbered backref/call is not allowed. (use name)"
  | .unknownBracketClass => "invalid POSIX bracket type"
  | .unknownProperty name => "invalid character property name \x7b" ++ String.ofList name ++ "\x7d"
  | .invalidLookBehind => "invalid pattern in look-behind"
  | .tooShortDigits => "too short digits"
  | .tooBigNumber => "too big number"
  | .tooBigCharacter => "too big wide-char value"
  | .invalidCharacter => "invalid code point value"
  | .tooShortSequence => "too short multibyte string"

def ParseError.message (error : ParseError) : String := "Oniguruma error: " ++ error.reason

end LineScope.Pattern
