import LineScope.Scope

/-!
The metadata of a token in one 32-bit word:

* bits 0 to 7: the language;
* bits 8 and 9: the kind of text;
* bit 10: not used;
* bits 11 to 14: the font style;
* bits 15 to 23: the foreground colour;
* bits 24 to 31: the background colour.
-/

set_option autoImplicit false

namespace LineScope

-- A set of font styles: italic, bold, underline and strikethrough, from the lowest bit up.
structure FontStyle where
  bits : UInt8
deriving DecidableEq, Repr, Inhabited

namespace FontStyle

def empty : FontStyle := ⟨0⟩
def italic : FontStyle := ⟨1⟩
def bold : FontStyle := ⟨2⟩
def underline : FontStyle := ⟨4⟩
def strikethrough : FontStyle := ⟨8⟩

def union (a b : FontStyle) : FontStyle := ⟨a.bits ||| b.bits⟩

def has (style flag : FontStyle) : Bool := style.bits &&& flag.bits == flag.bits

def names : List (FontStyle × String) := [
  (italic, "ITALIC"), (bold, "BOLD"), (underline, "UNDERLINE"), (strikethrough, "STRIKETHROUGH")]

def describe (style : FontStyle) : String :=
  let present := (names.filter fun (flag, _) => style.has flag).map Prod.snd
  "FontStyle(" ++ (if present.isEmpty then "0x0" else " | ".intercalate present) ++ ")"

end FontStyle

inductive TokenType where
  | other
  | comment
  | string
  | pattern
deriving DecidableEq, Repr, Inhabited

namespace TokenType

def code : TokenType → Nat
  | .other => 0
  | .comment => 1
  | .string => 2
  | .pattern => 3

def ofCode : Nat → TokenType
  | 1 => .comment
  | 2 => .string
  | 3 => .pattern
  | _ => .other

def name : TokenType → String
  | .other => "Other"
  | .comment => "Comment"
  | .string => "String"
  | .pattern => "RegEx"

-- The words that decide the type of a scope; embedded code is text of its own.
def words : List (List Char × TokenType) := [
  ("comment".toList, .comment), ("string".toList, .string), ("regex".toList, .pattern),
  ("meta.embedded".toList, .other)]

def startsWord : List Char → Bool
  | [] => false
  | c :: _ => Text.isJoinedWord c

def leads (word text : List Char) : Bool :=
  word.isPrefixOf text && !startsWord (text.drop word.length)

-- The type that the first deciding word gives; `inside` says whether a word has been left open.
def ofText (inside : Bool) : List Char → Option TokenType
  | [] => none
  | c :: rest =>
    match if inside then none else words.find? fun (word, _) => leads word (c :: rest) with
    | some (_, type) => some type
    | none => ofText (Text.isJoinedWord c) rest

def ofScopes (scopes : ScopeList) : TokenType :=
  (scopes.reverse.findSome? fun scope => ofText false scope.toList).getD .other

end TokenType

structure TokenStyle where
  font : FontStyle := .empty
  foreground : UInt16 := 0
  background : UInt8 := 0
deriving DecidableEq, Repr, Inhabited

structure Metadata where
  bits : UInt32
deriving DecidableEq, Repr, Inhabited

namespace Metadata

-- The language has the bits from 0, the type those from 8, the font style those from 11, the
-- foreground those from 15 and the background those from 24. Of the font style four bits are
-- stored, of the foreground nine.
def pack (language : UInt8) (type : TokenType) (style : TokenStyle) : Metadata :=
  ⟨UInt32.ofNat (language.toNat + type.code * 0x100 + style.font.bits.toNat % 0x10 * 0x800 +
    style.foreground.toNat % 0x200 * 0x8000 + style.background.toNat * 0x1000000)⟩

def language (metadata : Metadata) : UInt8 := UInt8.ofNat (metadata.bits.toNat % 0x100)

def type (metadata : Metadata) : TokenType := .ofCode (metadata.bits.toNat / 0x100 % 0x4)

def font (metadata : Metadata) : FontStyle := ⟨UInt8.ofNat (metadata.bits.toNat / 0x800 % 0x10)⟩

def foreground (metadata : Metadata) : UInt16 :=
  UInt16.ofNat (metadata.bits.toNat / 0x8000 % 0x200)

def background (metadata : Metadata) : UInt8 := UInt8.ofNat (metadata.bits.toNat / 0x1000000)

end Metadata

structure Styling where
  language : ScopeList → UInt8
  style : ScopeList → TokenStyle

def Styling.metadata (styling : Styling) (scopes : ScopeList) : Metadata :=
  .pack (styling.language scopes) (.ofScopes scopes) (styling.style scopes)

end LineScope
