import LineScope.Path

set_option autoImplicit false

namespace LineScope

structure FileTree where
  files : List (List String × String)
deriving Repr, Inhabited

namespace FileTree

def ofList (files : List (String × String)) : FileTree :=
  ⟨files.map fun (path, text) => (Path.components path, text)⟩

def isDirectory (tree : FileTree) (names : List String) : Bool :=
  names.isEmpty || tree.files.any fun (file, _) => names.isPrefixOf file && file ≠ names

-- Where a path leads, starting in a directory. Only directories can be gone through, and the
-- outermost one is not left.
def walk (tree : FileTree) (directory : List String) : List String → Option (List String)
  | [] => some directory
  | name :: rest =>
    if !tree.isDirectory directory then none
    else if name.isEmpty || name = "." then tree.walk directory rest
    else if name = ".." then
      if directory.isEmpty then none else tree.walk directory.dropLast rest
    else tree.walk (directory ++ [name]) rest

def read? (tree : FileTree) (path : String) : Option String :=
  if path.isEmpty || Path.isAbsolute path then none
  else (tree.walk [] (Path.components path)).bind fun names => tree.files.lookup names

end FileTree

end LineScope
