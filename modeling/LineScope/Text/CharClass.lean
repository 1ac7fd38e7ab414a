import LineScope.Text.Table.Letter
import LineScope.Text.Table.LetterCase
import LineScope.Text.Table.Mark
import LineScope.Text.Table.Unprinted

set_option autoImplicit false

namespace LineScope.Text

-- The property `White_Space`.
def isBlank (c : Char) : Bool :=
  let code := c.toNat
  (0x9 ≤ code && code ≤ 0xd) || code == 0x20 || code == 0x85 || code == 0xa0 || code == 0x1680 ||
    (0x2000 ≤ code && code ≤ 0x200a) || code == 0x2028 || code == 0x2029 || code == 0x202f ||
    code == 0x205f || code == 0x3000

-- The general category `Zs`: the blanks that are neither control characters nor separators of
-- lines or paragraphs.
def isSpaceSeparator (c : Char) : Bool :=
  isBlank c && 0x20 ≤ c.toNat && c.toNat != 0x85 && c.toNat != 0x2028 && c.toNat != 0x2029

def isAsciiBlank (c : Char) : Bool :=
  c == ' ' || c == '\t' || c == '\n' || c == '\x0c' || c == '\r'

def isControl (c : Char) : Bool := c.toNat < 0x20 || (0x7f ≤ c.toNat && c.toNat ≤ 0x9f)

-- ASCII characters answer without a look into the table.
def inTable (ascii : Char → Bool) (table : CharTable) (c : Char) : Bool :=
  if c.toNat < 0x80 then ascii c else table.contains c

def isAlphabetic (c : Char) : Bool := inTable Char.isAlpha Table.alphabetic c

def isDecimalDigit (c : Char) : Bool := inTable Char.isDigit Table.decimalDigit c

def isNumber (c : Char) : Bool := inTable Char.isDigit Table.number c

def isAlphanumeric (c : Char) : Bool := isAlphabetic c || isNumber c

def isMark (c : Char) : Bool := inTable (fun _ => false) Table.mark c

def isConnector (c : Char) : Bool := inTable (· == '_') Table.connector c

def isWord (c : Char) : Bool := isAlphabetic c || isDecimalDigit c || isConnector c || isMark c

def isJoinedWord (c : Char) : Bool := isWord c || c.toNat == 0x200c || c.toNat == 0x200d

def isLetter (c : Char) : Bool := inTable Char.isAlpha Table.letter c

def isUppercaseLetter (c : Char) : Bool := inTable Char.isUpper Table.uppercaseLetter c

def isLowercaseLetter (c : Char) : Bool := inTable Char.isLower Table.lowercaseLetter c

def isUppercase (c : Char) : Bool := isUppercaseLetter c || Table.otherUppercase.contains c

def isLowercase (c : Char) : Bool := isLowercaseLetter c || Table.otherLowercase.contains c

def isPunctuation (c : Char) : Bool := Table.punctuation.contains c

def isUnassigned (c : Char) : Bool := inTable (fun _ => false) Table.unassigned c

def isHexDigit (c : Char) : Bool :=
  c.isDigit || ('a' ≤ c && c ≤ 'f') || ('A' ≤ c && c ≤ 'F')

def isPrintable (c : Char) : Bool :=
  c == ' ' || !(isControl c || isBlank c || isUnassigned c || Table.format.contains c)

end LineScope.Text
