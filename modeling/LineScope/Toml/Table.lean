import LineScope.Json.Basic

/-!
The tables of a TOML document while it is read. Headers and dotted keys name tables, and the way a
table was first named decides what may still be added to it. Numbers, texts, arrays and tables end
up as JSON values, so that both formats are decoded alike.
-/

set_option autoImplicit false

namespace LineScope.Toml

inductive Origin where
  | header
  | implied
  | dotted
deriving DecidableEq, Repr, Inhabited

mutual
-- What stands under a key. A value is closed; of an array of tables the last one is open.
inductive Node where
  | value (content : Json.Value)
  | table (origin : Origin) (entries : Entries)
  | tables (earlier : List Json.Value) (last : Entries)

inductive Entries where
  | nil
  | cons (key : String) (node : Node) (tail : Entries)
end

mutual
def Node.toValue : Node → Json.Value
  | .value content => content
  | .table _ entries => .object entries.toMembers
  | .tables earlier last => .array (.ofList (earlier ++ [.object last.toMembers]))

def Entries.toMembers : Entries → Json.Members
  | .nil => .nil
  | .cons key node tail => .cons (some key) node.toValue tail.toMembers
end

namespace Entries

def update (key : String) (change : Option Node → Option Node) : Entries → Option Entries
  | .nil => (change none).map fun node => .cons key node .nil
  | .cons other node tail =>
    if other = key then (change (some node)).map fun node => .cons key node tail
    else (tail.update key change).map (.cons other node)

-- Changes the table at the end of a path of header keys. Tables that are missing on the way are
-- implied.
def descend (change : Entries → Option Entries) : List String → Entries → Option Entries
  | [], entries => change entries
  | key :: path, entries => entries.update key fun
    | none => (descend change path .nil).map (.table .implied)
    | some (.table origin inner) => (descend change path inner).map (.table origin)
    | some (.tables earlier last) => (descend change path last).map (.tables earlier)
    | some (.value _) => none

-- The header of a table. It may follow headers of tables inside it, and comes once.
def openTable : Option Node → Option Node
  | none => some (.table .header .nil)
  | some (.table .implied entries) => some (.table .header entries)
  | some _ => none

def openItem : Option Node → Option Node
  | none => some (.tables [] .nil)
  | some (.tables earlier last) => some (.tables (earlier ++ [.object last.toMembers]) .nil)
  | some _ => none

def put (key : String) (value : Json.Value) (entries : Entries) : Option Entries :=
  entries.update key fun
    | none => some (.value value)
    | some _ => none

-- Gives a key its value in a table named by dotted keys. The last of them names a table that only
-- dotted keys have named; those before it may also be implied by headers.
def putInside (key : String) (value : Json.Value) : List String → Entries → Option Entries
  | [], entries => entries.put key value
  | [last], entries => entries.update last fun
    | none => (put key value .nil).map (.table .dotted)
    | some (.table .dotted inner) => (put key value inner).map (.table .dotted)
    | some _ => none
  | first :: path, entries => entries.update first fun
    | none => (putInside key value path .nil).map (.table .dotted)
    | some (.table .header _) => none
    | some (.table origin inner) => (putInside key value path inner).map (.table origin)
    | some (.tables earlier last) => (putInside key value path last).map (.tables earlier)
    | some (.value _) => none

end Entries

end LineScope.Toml
