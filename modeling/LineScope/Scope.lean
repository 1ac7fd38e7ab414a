import LineScope.Text.CharClass

set_option autoImplicit false

namespace LineScope

abbrev Scope := String

abbrev ScopeList := List Scope

namespace ScopeList

def wordsFrom (reversed : List Char) : List Char → List (List Char)
  | [] => if reversed.isEmpty then [] else [reversed.reverse]
  | c :: rest =>
    if Text.isAsciiBlank c then
      if reversed.isEmpty then wordsFrom [] rest else reversed.reverse :: wordsFrom [] rest
    else wordsFrom (c :: reversed) rest

def ofName (name : String) : ScopeList := (wordsFrom [] name.toList).map String.ofList

def push (scopes : ScopeList) (scope : Scope) : ScopeList := scopes ++ [scope]

def pushName (scopes : ScopeList) (name : String) : ScopeList := scopes ++ ofName name

end ScopeList

end LineScope
