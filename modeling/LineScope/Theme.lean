import LineScope.Metadata
import LineScope.Selector.Match
import LineScope.Selector.Parser

set_option autoImplicit false

namespace LineScope

structure ThemeRule where
  scope : String
  foreground : Option UInt16 := none
  background : Option UInt8 := none
  fontStyle : List FontStyle := []
deriving DecidableEq, Repr, Inhabited

def ThemeRule.style (rule : ThemeRule) : TokenStyle :=
  ⟨rule.fontStyle.foldl FontStyle.union .empty, rule.foreground.getD 0, rule.background.getD 0⟩

structure Theme where
  rules : List (Selector × TokenStyle)
deriving Repr, Inhabited

namespace Theme

structure InvalidSelector where
  source : String
  error : Selector.ParseError
deriving DecidableEq, Repr, Inhabited

def InvalidSelector.message (invalid : InvalidSelector) : String :=
  "invalid theme selector `" ++ invalid.source ++ "`"

def ofRules : List ThemeRule → Except InvalidSelector Theme
  | [] => .ok ⟨[]⟩
  | rule :: rest =>
    match Selector.parse rule.scope with
    | .error error => .error ⟨rule.scope, error⟩
    | .ok selector => do
      let theme ← ofRules rest
      pure ⟨(selector, rule.style) :: theme.rules⟩

def style (theme : Theme) (scopes : ScopeList) : TokenStyle :=
  match Selector.bestMatch (theme.rules.map Prod.fst) scopes with
  | none => {}
  | some index => ((theme.rules.map Prod.snd)[index]?).getD {}

def styling (theme : Theme) : Styling := ⟨fun _ => 0, theme.style⟩

end Theme

end LineScope
