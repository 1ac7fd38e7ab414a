set_option autoImplicit false

namespace LineScope.Path

def isAbsolute (path : String) : Bool := path.toList.head? == some '/'

-- Drops what adds nothing at the end of a path: slashes and the names of the same directory. The
-- path is given, and returned, last character first.
def trimEnd : List Char → List Char
  | ['/'] => ['/']
  | '/' :: rest => trimEnd rest
  | '.' :: '/' :: rest => trimEnd ('/' :: rest)
  | reversed => reversed

def parent (path : String) : String :=
  String.ofList (trimEnd (path.toList.reverse.dropWhile (· ≠ '/'))).reverse

def resolve (directory path : String) : String :=
  if isAbsolute path || directory.isEmpty then path
  else if directory.toList.getLast? == some '/' then directory ++ path
  else directory ++ "/" ++ path

def components (path : String) : List String :=
  (path.toList.splitOn '/').map String.ofList

-- The part of a name after its last dot; a dot that starts the name is not meant, and the name of
-- the directory above has no such part.
def extension? (path : String) : Option String :=
  let reversed := path.toList.reverse.takeWhile (· ≠ '/')
  if reversed = ['.', '.'] then none
  else
    match reversed.dropWhile (· ≠ '.') with
    | '.' :: _ :: _ => some (String.ofList (reversed.takeWhile (· ≠ '.')).reverse)
    | _ => none

end LineScope.Path
