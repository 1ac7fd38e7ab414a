import LineScope.Text.Quoted

set_option autoImplicit false

namespace LineScope.Selector

inductive ParseError where
  | empty
  | unexpectedChar (char : Char) (offset : Nat)
  | unexpectedToken (text : String) (offset : Nat)
  | unexpectedEnd
  | unclosedGroup (offset : Nat)
deriving DecidableEq, Repr, Inhabited

def ParseError.message : ParseError → String
  | .empty => "empty selector"
  | .unexpectedChar char offset =>
    "unexpected character " ++ Text.quoteChar char ++ " at offset " ++ toString offset
  | .unexpectedToken text offset => "unexpected `" ++ text ++ "` at offset " ++ toString offset
  | .unexpectedEnd => "unexpected end of selector"
  | .unclosedGroup offset => "unclosed group opened at offset " ++ toString offset

end LineScope.Selector
