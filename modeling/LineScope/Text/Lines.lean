/-!
The lines of a text. A line ends at a line feed, which takes a carriage return before it along; a
last line that is empty does not count.
-/

set_option autoImplicit false

namespace LineScope.Text

def trimReturn : List Char → List Char
  | '\r' :: reversed => reversed
  | reversed => reversed

def linesFrom (reversed : List Char) : List Char → List (List Char)
  | [] => if reversed.isEmpty then [] else [reversed.reverse]
  | '\n' :: rest => (trimReturn reversed).reverse :: linesFrom [] rest
  | c :: rest => linesFrom (c :: reversed) rest

def lines (text : List Char) : List (List Char) := linesFrom [] text

end LineScope.Text
