import LineScope.Cli.Arguments
import LineScope.Grammar.Diagnostic
import LineScope.Grammar.Rule
import LineScope.Json.Writer
import LineScope.Selector.Match
import LineScope.Text.Offset
import LineScope.Tokenizer

set_option autoImplicit false

namespace LineScope.Cli

open Json (Value Items Members)

def numbered {α : Type} (first : Nat) : List α → List (Nat × α)
  | [] => []
  | head :: tail => (first, head) :: numbered (first + 1) tail

def tokenText (line : List Char) (token : Token) : String :=
  String.ofList (Text.slice line token.start token.stop)

def tokenRow (number : Nat) (line : List Char) (token : Token) : String :=
  toString number ++ ":" ++ toString token.start ++ "-" ++ toString token.stop ++ " " ++
    Text.quote (tokenText line token) ++ " " ++ " ".intercalate token.scopes ++ "\n"

def tokenRecord (line : List Char) (token : Token) : Value :=
  .object (.ofList [
    ("start", .ofNat token.start),
    ("end", .ofNat token.stop),
    ("text", .text (tokenText line token)),
    ("scopes", .array (.ofList (token.scopes.map fun scope => .text (some scope))))])

def writeRecords (lines : List (List Value)) : String :=
  let value := Value.array (.ofList (lines.map fun records => .array (.ofList records)))
  String.ofList (value.writeIndented 0) ++ "\n"

def tokenReport (format : Format) (lines : List (List Char × List Token)) : String :=
  match format with
  | .text => "".intercalate <| (numbered 1 lines).flatMap fun (number, line, tokens) =>
    tokens.map (tokenRow number line)
  | .json => writeRecords (lines.map fun (line, tokens) => tokens.map (tokenRecord line))

def wordDigits (word : UInt32) : String :=
  let digits := Nat.toDigits 16 word.toNat
  String.ofList (List.replicate (8 - digits.length) '0' ++ digits)

def metadataRow (number start : Nat) (metadata : Metadata) : String :=
  toString number ++ ":" ++ toString start ++ " 0x" ++ wordDigits metadata.bits ++
    " lang=" ++ toString metadata.language.toNat ++ " type=" ++ metadata.type.name ++
    " font=" ++ metadata.font.describe ++ " fg=" ++ toString metadata.foreground.toNat ++
    " bg=" ++ toString metadata.background.toNat ++ "\n"

def metadataRecord (start : Nat) (metadata : Metadata) : Value :=
  .object (.ofList [("start", .ofNat start), ("metadata", .ofNat metadata.bits.toNat)])

def metadataReport (format : Format) (lines : List (List (Nat × Metadata))) : String :=
  match format with
  | .text => "".intercalate <| (numbered 1 lines).flatMap fun (number, pairs) =>
    pairs.map fun (start, metadata) => metadataRow number start metadata
  | .json => writeRecords (lines.map fun pairs =>
    pairs.map fun (start, metadata) => metadataRecord start metadata)

def grammarReport (scope : Scope) (grammar : Grammar) : String :=
  scope ++ ": " ++ toString grammar.ruleCount ++ " rules, " ++
    toString grammar.diagnostics.length ++ " diagnostics\n" ++
    "".intercalate (grammar.diagnostics.map fun diagnostic => "  " ++ diagnostic.message ++ "\n")

def specificityReport : Option Selector.Specificity → String
  | none => "no match\n"
  | some found => "match depth=" ++ toString found.depth ++ " segments=" ++ toString found.segments ++
    " steps=" ++ toString found.steps ++ "\n"

end LineScope.Cli
