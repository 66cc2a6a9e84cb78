import PartitionKeys.Failure
import PartitionKeys.Template.Render

/-!
# Check — templates that may serve as predicates

A template is checked by rendering it once for a sample alias and a sample type name; the sample
alias has to appear in the result.

* `Template.check`: the failure of a template that may not serve, if any;
* `Predicate`: a template for one type name;
* `Predicate.fragment`: the predicate for a query alias.
-/

namespace PartitionKeys
namespace Template

def default : String :=
  "TYPE(\x7balias\x7d) = \x7bname\x7d"

def sample : Placeholders where
  queryAlias := "__alias__"
  name := "Sample"

/-- `part` stands somewhere in `cs`. -/
def occursIn (part : List Char) : List Char → Bool
  | [] => part.isEmpty
  | c :: rest => part.isPrefixOf (c :: rest) || occursIn part rest

def check (template : String) : Except Failure Unit :=
  match render template sample with
  | .error e =>
      if e.isReported then .error (.unusableTemplate template e) else .error (.rendering e)
  | .ok rendered =>
      if occursIn sample.queryAlias.toList rendered.toList then .ok ()
      else .error (.aliasNotReferenced template)

end Template

/-! ## Predicates -/

structure Predicate where
  typeName : String
  template : String := Template.default
  deriving DecidableEq, Repr

namespace Predicate

def fragment (p : Predicate) (queryAlias : String) : Except Template.Fault String :=
  Template.render p.template ⟨queryAlias, p.typeName⟩

end Predicate
end PartitionKeys
