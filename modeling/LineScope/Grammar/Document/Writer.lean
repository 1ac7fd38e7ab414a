import LineScope.Grammar.Document
import LineScope.Json.Writer

set_option autoImplicit false

namespace LineScope.Grammar

open Json (Value Items Members)

def textMember (key : String) : Option String → List (String × Value)
  | none => []
  | some text => [(key, .text (some text))]

mutual
def RuleDocument.toValue : RuleDocument → Value
  | .mk keys captures beginCaptures endCaptures whileCaptures patterns repository =>
    .object <| .ofList <|
      textMember "include" keys.includeTarget ++
      textMember "name" keys.name ++
      textMember "contentName" keys.contentName ++
      textMember "match" keys.matchPattern ++
      captures.toMembers "captures" ++
      textMember "begin" keys.beginPattern ++
      beginCaptures.toMembers "beginCaptures" ++
      textMember "end" keys.endPattern ++
      endCaptures.toMembers "endCaptures" ++
      textMember "while" keys.whilePattern ++
      whileCaptures.toMembers "whileCaptures" ++
      patterns.toMembers "patterns" ++
      repository.toMembers "repository" ++
      (if keys.endPatternLast then [("applyEndPatternLast", .bool true)] else [])

def OptionalTable.toMembers (key : String) : OptionalTable → List (String × Value)
  | .absent => []
  | .present table => [(key, .object table.toMembers)]

def OptionalRules.toMembers (key : String) : OptionalRules → List (String × Value)
  | .absent => []
  | .present rules => [(key, .array rules.toItems)]

def RuleTable.toMembers : RuleTable → Members
  | .nil => .nil
  | .cons key rule tail => .cons (some key) rule.toValue tail.toMembers

def RuleSequence.toItems : RuleSequence → Items
  | .nil => .nil
  | .cons rule tail => .cons rule.toValue tail.toItems
end

def tableMember (key : String) : RuleTable → List (String × Value)
  | .nil => []
  | table => [(key, .object table.toMembers)]

-- The patterns are always written; other keys only when they hold something.
def Document.toValue (document : Document) : Value :=
  .object <| .ofList <|
    [("scopeName", .text (some document.scopeName))] ++
    textMember "name" document.name ++
    (if document.fileTypes.isEmpty then []
      else [("fileTypes", .array (.ofList (document.fileTypes.map fun t => .text (some t))))]) ++
    textMember "firstLineMatch" document.firstLineMatch ++
    [("patterns", .array document.patterns.toItems)] ++
    tableMember "repository" document.repository ++
    tableMember "injections" document.injections ++
    textMember "injectionSelector" document.injectionSelector

def Document.write (document : Document) : String := String.ofList document.toValue.write

end LineScope.Grammar
