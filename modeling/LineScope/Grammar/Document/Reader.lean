import LineScope.Grammar.Document
import LineScope.Json.Decode
import LineScope.Json.Reader

/-!
Reading grammar documents from JSON. A rule or a grammar is an object of its keys, or an array of
their values in a fixed order that may stop early. A key that is not known is passed over; a known
key may be written once.
-/

set_option autoImplicit false

namespace LineScope.Grammar

open Json (Value Items Members Refusal)

-- The keys of a rule, in the order in which an array holds their values.
inductive RuleKey where
  | includeTarget | name | contentName | matchPattern | captures | beginPattern | beginCaptures
  | endPattern | endCaptures | whilePattern | whileCaptures | patterns | repository | endPatternLast
deriving DecidableEq, Repr, Inhabited

def RuleKey.order : List RuleKey := [
  .includeTarget, .name, .contentName, .matchPattern, .captures, .beginPattern, .beginCaptures,
  .endPattern, .endCaptures, .whilePattern, .whileCaptures, .patterns, .repository, .endPatternLast]

def RuleKey.text : RuleKey → String
  | .includeTarget => "include"
  | .name => "name"
  | .contentName => "contentName"
  | .matchPattern => "match"
  | .captures => "captures"
  | .beginPattern => "begin"
  | .beginCaptures => "beginCaptures"
  | .endPattern => "end"
  | .endCaptures => "endCaptures"
  | .whilePattern => "while"
  | .whileCaptures => "whileCaptures"
  | .patterns => "patterns"
  | .repository => "repository"
  | .endPatternLast => "applyEndPatternLast"

def RuleKey.ofText? (text : String) : Option RuleKey := RuleKey.order.find? (·.text = text)

structure PartialRule where
  seen : List RuleKey := []
  keys : RuleKeys := {}
  captures : OptionalTable := .absent
  beginCaptures : OptionalTable := .absent
  endCaptures : OptionalTable := .absent
  whileCaptures : OptionalTable := .absent
  patterns : OptionalRules := .absent
  repository : OptionalTable := .absent

def PartialRule.toRule (rule : PartialRule) : RuleDocument :=
  .mk rule.keys rule.captures rule.beginCaptures rule.endCaptures rule.whileCaptures rule.patterns
    rule.repository

def RuleKey.holdsTable : RuleKey → Bool
  | .captures | .beginCaptures | .endCaptures | .whileCaptures | .repository => true
  | _ => false

def PartialRule.setTable (rule : PartialRule) (key : RuleKey) (table : OptionalTable) :
    PartialRule :=
  match key with
  | .captures => { rule with captures := table }
  | .beginCaptures => { rule with beginCaptures := table }
  | .endCaptures => { rule with endCaptures := table }
  | .whileCaptures => { rule with whileCaptures := table }
  | .repository => { rule with repository := table }
  | _ => rule

def PartialRule.setText (rule : PartialRule) (key : RuleKey) (text : Option String) :
    PartialRule :=
  match key with
  | .includeTarget => { rule with keys := { rule.keys with includeTarget := text } }
  | .name => { rule with keys := { rule.keys with name := text } }
  | .contentName => { rule with keys := { rule.keys with contentName := text } }
  | .matchPattern => { rule with keys := { rule.keys with matchPattern := text } }
  | .beginPattern => { rule with keys := { rule.keys with beginPattern := text } }
  | .endPattern => { rule with keys := { rule.keys with endPattern := text } }
  | .whilePattern => { rule with keys := { rule.keys with whilePattern := text } }
  | _ => rule

def PartialRule.setPlain (rule : PartialRule) (depth : Nat) (key : RuleKey) (value : Value) :
    Except Refusal PartialRule :=
  if key = .endPatternLast then do
    let flag ← value.asFlag depth
    pure { rule with keys := { rule.keys with endPatternLast := flag } }
  else if key.holdsTable || key = .patterns then
    match value with
    | .null => .ok rule
    | _ => .error value.mismatch
  else do
    let text ← value.optional Value.asText
    pure (rule.setText key text)

mutual
def readRule (depth : Nat) : Value → Except Refusal RuleDocument
  | .object members => do
    let depth ← Json.enter depth
    readRuleMembers depth {} members
  | .array items => do
    let depth ← Json.enter depth
    readRuleItems depth {} RuleKey.order items
  | value => .error value.mismatch

def readRuleMembers (depth : Nat) (rule : PartialRule) : Members → Except Refusal RuleDocument
  | .nil => .ok rule.toRule
  | .cons key value tail => do
    let key ← Json.keyText key
    match RuleKey.ofText? key with
    | none =>
      value.skip
      readRuleMembers depth rule tail
    | some key =>
      if rule.seen.contains key then throw .mismatched
      let rule ← readRuleKey depth { rule with seen := key :: rule.seen } key value
      readRuleMembers depth rule tail
  | .fault kept _ => .error kept.refusal

def readRuleItems (depth : Nat) (rule : PartialRule) :
    List RuleKey → Items → Except Refusal RuleDocument
  | _, .nil => .ok rule.toRule
  | [], .cons .. => .error .malformed
  | key :: keys, .cons value tail => do
    let rule ← readRuleKey depth rule key value
    readRuleItems depth rule keys tail
  | _, .fault fault => .error fault.refusal

def readRuleKey (depth : Nat) (rule : PartialRule) (key : RuleKey) :
    Value → Except Refusal PartialRule
  | .object members =>
    if key.holdsTable then do
      let depth ← Json.enter depth
      let table ← readTable depth .nil members
      pure (rule.setTable key (.present table))
    else rule.setPlain depth key (.object members)
  | .array items =>
    if key = .patterns then do
      let depth ← Json.enter depth
      let rules ← readSequence depth items
      pure { rule with patterns := .present rules }
    else rule.setPlain depth key (.array items)
  | value => rule.setPlain depth key value

-- A key written again replaces its rule and keeps its place.
def readTable (depth : Nat) (table : RuleTable) : Members → Except Refusal RuleTable
  | .nil => .ok table
  | .cons key value tail => do
    let key ← Json.keyText key
    let rule ← readRule depth value
    readTable depth (table.put key rule) tail
  | .fault kept _ => .error kept.refusal

def readSequence (depth : Nat) : Items → Except Refusal RuleSequence
  | .nil => .ok .nil
  | .cons value tail => do
    let rule ← readRule depth value
    let rules ← readSequence depth tail
    pure (.cons rule rules)
  | .fault fault => .error fault.refusal
end

inductive DocumentKey where
  | scopeName | name | fileTypes | firstLineMatch | patterns | repository | injections
  | injectionSelector
deriving DecidableEq, Repr, Inhabited

def DocumentKey.order : List DocumentKey := [
  .scopeName, .name, .fileTypes, .firstLineMatch, .patterns, .repository, .injections,
  .injectionSelector]

def DocumentKey.text : DocumentKey → String
  | .scopeName => "scopeName"
  | .name => "name"
  | .fileTypes => "fileTypes"
  | .firstLineMatch => "firstLineMatch"
  | .patterns => "patterns"
  | .repository => "repository"
  | .injections => "injections"
  | .injectionSelector => "injectionSelector"

def DocumentKey.ofText? (text : String) : Option DocumentKey :=
  DocumentKey.order.find? (·.text = text)

structure PartialDocument where
  seen : List DocumentKey := []
  document : Document := { scopeName := "" }

-- Only the scope name has to be written.
def PartialDocument.toDocument (grammar : PartialDocument) : Except Refusal Document :=
  if grammar.seen.contains .scopeName then .ok grammar.document else .error .mismatched

def readRuleTable (depth : Nat) : Value → Except Refusal RuleTable
  | .object members => do
    let depth ← Json.enter depth
    readTable depth .nil members
  | value => .error value.mismatch

def readRuleSequence (depth : Nat) : Value → Except Refusal RuleSequence
  | .array items => do
    let depth ← Json.enter depth
    readSequence depth items
  | value => .error value.mismatch

def readDocumentKey (depth : Nat) (document : Document) (key : DocumentKey) (value : Value) :
    Except Refusal Document :=
  match key with
  | .scopeName => do
    let text ← value.asText
    pure { document with scopeName := text }
  | .name => do
    let text ← value.optional Value.asText
    pure { document with name := text }
  | .fileTypes => do
    let texts ← value.asTexts depth
    pure { document with fileTypes := texts }
  | .firstLineMatch => do
    let text ← value.optional Value.asText
    pure { document with firstLineMatch := text }
  | .patterns => do
    let rules ← readRuleSequence depth value
    pure { document with patterns := rules }
  | .repository => do
    let table ← readRuleTable depth value
    pure { document with repository := table }
  | .injections => do
    let table ← readRuleTable depth value
    pure { document with injections := table }
  | .injectionSelector => do
    let text ← value.optional Value.asText
    pure { document with injectionSelector := text }

def readDocumentMembers (depth : Nat) (grammar : PartialDocument) :
    Members → Except Refusal Document
  | .nil => grammar.toDocument
  | .cons key value tail => do
    let key ← Json.keyText key
    match DocumentKey.ofText? key with
    | none =>
      value.skip
      readDocumentMembers depth grammar tail
    | some key =>
      if grammar.seen.contains key then throw .mismatched
      let document ← readDocumentKey depth grammar.document key value
      readDocumentMembers depth ⟨key :: grammar.seen, document⟩ tail
  | .fault kept _ => .error kept.refusal

def readDocumentItems (depth : Nat) (grammar : PartialDocument) :
    List DocumentKey → Items → Except Refusal Document
  | _, .nil => grammar.toDocument
  | [], .cons .. => .error .malformed
  | key :: keys, .cons value tail => do
    let document ← readDocumentKey depth grammar.document key value
    readDocumentItems depth ⟨key :: grammar.seen, document⟩ keys tail
  | _, .fault fault => .error fault.refusal

def readDocument : Value → Except Refusal Document
  | .object members => do
    let depth ← Json.enter 0
    readDocumentMembers depth {} members
  | .array items => do
    let depth ← Json.enter 0
    readDocumentItems depth {} DocumentKey.order items
  | value => .error value.mismatch

def Document.parse (text : String) : Except Refusal Document :=
  (Json.read text.toList).decode readDocument

def RuleDocument.parse (text : String) : Except Refusal RuleDocument :=
  (Json.read text.toList).decode (readRule 0)

end LineScope.Grammar
