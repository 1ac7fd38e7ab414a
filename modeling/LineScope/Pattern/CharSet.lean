import LineScope.Text.CharClass
import LineScope.Text.CaseMapping

set_option autoImplicit false

namespace LineScope.Pattern

inductive NamedClass where
  | alnum | alpha | ascii | blank | cntrl | digit | graph | lower | print | punct | space | upper
  | xdigit | word
  | any | letter | uppercaseLetter | lowercaseLetter | mark | number | punctuation | connector
  | spaceSeparator | unassigned
deriving DecidableEq, Repr, Inhabited

def NamedClass.contains : NamedClass → Char → Bool
  | .alnum, c => Text.isAlphabetic c || Text.isDecimalDigit c
  | .alpha, c => Text.isAlphabetic c
  | .ascii, c => c.toNat < 0x80
  | .blank, c => Text.isSpaceSeparator c || c == '\t'
  | .cntrl, c => Text.isControl c
  | .digit, c => Text.isDecimalDigit c
  | .graph, c => !(Text.isBlank c || Text.isControl c || Text.isUnassigned c)
  | .lower, c => Text.isLowercase c
  | .print, c => Text.isSpaceSeparator c || !(Text.isBlank c || Text.isControl c || Text.isUnassigned c)
  | .punct, c => Text.isPunctuation c || "$+<=>^`|~".toList.contains c
  | .space, c => Text.isBlank c
  | .upper, c => Text.isUppercase c
  | .xdigit, c => Text.isHexDigit c
  | .word, c => Text.isWord c
  | .any, _ => true
  | .letter, c => Text.isLetter c
  | .uppercaseLetter, c => Text.isUppercaseLetter c
  | .lowercaseLetter, c => Text.isLowercaseLetter c
  | .mark, c => Text.isMark c
  | .number, c => Text.isNumber c
  | .punctuation, c => Text.isPunctuation c
  | .connector, c => Text.isConnector c
  | .spaceSeparator, c => Text.isSpaceSeparator c
  | .unassigned, c => Text.isUnassigned c

def NamedClass.bracketNames : List (String × NamedClass) := [
  ("alnum", .alnum), ("alpha", .alpha), ("blank", .blank), ("cntrl", .cntrl), ("digit", .digit),
  ("graph", .graph), ("lower", .lower), ("print", .print), ("punct", .punct), ("space", .space),
  ("upper", .upper), ("xdigit", .xdigit), ("ascii", .ascii), ("word", .word)]

def NamedClass.propertyNames : List (String × NamedClass) := bracketNames ++ [
  ("any", .any), ("l", .letter), ("letter", .letter), ("lu", .uppercaseLetter),
  ("uppercaseletter", .uppercaseLetter), ("ll", .lowercaseLetter),
  ("lowercaseletter", .lowercaseLetter), ("m", .mark), ("mark", .mark), ("n", .number),
  ("number", .number), ("nd", .digit), ("decimalnumber", .digit), ("p", .punctuation),
  ("punctuation", .punctuation), ("pc", .connector), ("connectorpunctuation", .connector),
  ("zs", .spaceSeparator), ("spaceseparator", .spaceSeparator), ("cc", .cntrl), ("control", .cntrl),
  ("cn", .unassigned), ("unassigned", .unassigned), ("alphabetic", .alpha), ("uppercase", .upper),
  ("lowercase", .lower), ("whitespace", .space)]

inductive CharSet where
  | empty
  | range (first last : Nat)
  | named (name : NamedClass)
  | union (left right : CharSet)
  | inter (left right : CharSet)
  | complement (inner : CharSet)
deriving DecidableEq, Repr, Inhabited

namespace CharSet

def single (c : Char) : CharSet := .range c.toNat c.toNat

def contains : CharSet → Char → Bool
  | .empty, _ => false
  | .range first last, c => first ≤ c.toNat && c.toNat ≤ last
  | .named name, c => name.contains c
  | .union left right, c => left.contains c || right.contains c
  | .inter left right, c => left.contains c && right.contains c
  | .complement inner, c => !inner.contains c

-- Membership up to case: what is written in the set stands for all its case variants.
def containsFolded : CharSet → Char → Bool
  | .union left right, c => left.containsFolded c || right.containsFolded c
  | .inter left right, c => left.containsFolded c && right.containsFolded c
  | .complement inner, c => !inner.containsFolded c
  | set, c => set.contains c || (Text.caseVariants c).any set.contains

end CharSet

end LineScope.Pattern
