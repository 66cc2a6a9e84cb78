/-!
# Expr — well-formed expressions

What an expression is made of, as far as it decides which value it has, what it is called in a
message, and whether it may stand where a name is bound.

* `Expr`: an expression;
* `Expr.kind`: what it is called;
* `Expr.unassignable?`: the part of the target of a loop that cannot be assigned to.
-/

namespace PartitionKeys
namespace Literal

inductive Numeral where
  | whole (n : Nat)
  | real
  | imaginary
  deriving DecidableEq, Repr

inductive Expr where
  | number (n : Numeral)
  | text
  /-- A text with fields to be filled in. -/
  | formatted
  /-- One of the words for a value, or the ellipsis. -/
  | constant (word : String)
  | name (cs : List Char)
  | starred (e : Expr)
  | tuple (items : List Expr)
  | set (items : List Expr)
  /-- The entries of a record; one without a key stands for all entries of another record. -/
  | record (entries : List (Option Expr × Expr))
  /-- An expression with a plus or minus sign before it. -/
  | signed (e : Expr)
  /-- A sum or a difference. -/
  | sum (left right : Expr)
  /-- A chain of comparisons; `isIn` is set if the first one asks for a member. -/
  | comparison (left : Expr) (isIn : Bool)
  | attribute
  | call (function : Expr) (bare : Bool)
  | other (kind : String)
  deriving Repr

namespace Expr

def kind : Expr → String
  | .number _ | .text => "literal"
  | .formatted => "f-string expression"
  | .constant word => if word = "..." then "ellipsis" else word
  | .name _ => "name"
  | .starred _ => "starred"
  | .tuple _ => "tuple"
  | .set _ => "set display"
  | .record _ => "dict literal"
  | .signed _ | .sum .. => "expression"
  | .comparison .. => "comparison"
  | .attribute => "attribute"
  | .call .. => "function call"
  | .other kind => kind

mutual

/-- In a loop, what looks like a comparison may be the target with the word after it. -/
def unassignable? : Expr → Option Expr
  | .tuple items => firstUnassignable? items
  | .starred e => e.unassignable?
  | .comparison left isIn => if isIn then left.unassignable? else none
  | .name _ | .attribute => none
  | e => some e

def firstUnassignable? : List Expr → Option Expr
  | [] => none
  | e :: rest => e.unassignable?.or (firstUnassignable? rest)

end

end Expr
end Literal
end PartitionKeys
