
set_option autoImplicit false

namespace LineScope.Selector

inductive Priority where
  | left
  | normal
  | right
deriving DecidableEq, Repr, Inhabited

def Priority.rank : Priority → Nat
  | .left => 0
  | .normal => 1
  | .right => 2

-- How a step of a path relates to the step before it: anywhere further in, or one level in.
inductive Combinator where
  | descendant
  | child
deriving DecidableEq, Repr, Inhabited

-- A scope whose leading segments are those of `stem`. The combinator of a first step is not used.
structure PathStep where
  combinator : Combinator
  stem : String
deriving DecidableEq, Repr, Inhabited

structure ScopePath where
  steps : List PathStep
deriving DecidableEq, Repr, Inhabited

mutual
inductive Expr where
  | path (path : ScopePath)
  | not (inner : Expr)
  | all (operands : Operands)
  | any (operands : Operands)
inductive Operands where
  | nil
  | cons (head : Expr) (tail : Operands)
end

deriving instance Repr for Expr, Operands
deriving instance DecidableEq for Expr, Operands

instance : Inhabited Expr := ⟨.path ⟨[]⟩⟩

def Operands.ofList : List Expr → Operands
  | [] => .nil
  | head :: tail => .cons head (ofList tail)

def Operands.toList : Operands → List Expr
  | .nil => []
  | .cons head tail => head :: tail.toList

structure Alternative where
  priority : Priority
  expr : Expr
deriving DecidableEq, Repr, Inhabited

end LineScope.Selector

namespace LineScope

structure Selector where
  source : String
  alternatives : List Selector.Alternative
deriving DecidableEq, Repr, Inhabited

end LineScope
