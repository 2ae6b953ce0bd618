/-!
# Directives

The elements of the directive namespace that have a meaning of their own. Every other element of
that namespace invokes the symbol of its name.
-/

namespace XmlTemplate.Expansion

/-- The directives. -/
inductive Directive where
  | ifTrue | ifDefined | ifUndefined | alternative
  | count | loop | each
  | define | eval | scope | inclusion | template
  | element | attr | instruction | ignore
deriving DecidableEq, Repr

namespace Directive

/-- The directives by the local names of their elements. -/
def table : List (String × Directive) :=
  [("if", ifTrue), ("ifdef", ifDefined), ("ifndef", ifUndefined), ("else", alternative),
    ("count", count), ("for", loop), ("for-each", each), ("define", define), ("eval", eval),
    ("scope", scope), ("include", inclusion), ("config-template", template), ("element", element),
    ("attribute", attr), ("processing-instruction", instruction), ("ignore", ignore)]

/-- The directive with a local name. -/
def ofName? (name : String) : Option Directive := table.lookup name

end Directive

end XmlTemplate.Expansion
