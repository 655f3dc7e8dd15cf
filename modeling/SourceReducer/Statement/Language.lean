import SourceReducer.Statement.Parse
import SourceReducer.Language

/-! The statement language and its variants. -/
namespace SourceReducer.Statement

def language : Language :=
  { name := "statements", parse, reformat }

/-- Statements laid out by lines only. -/
def plain : Language :=
  { name := "plain", parse }

/-- Statements whose layout adds a closing brace, so that it never parses. -/
def unbalanced : Language :=
  { name := "broken", parse, reformat := fun text => text ++ "\x7d" }

/-- Statements with dependences between their nodes. -/
def withDependence (d : Dependence) : Language :=
  { name := "with-deps", parse, reformat, dependents := d.dependents }

end SourceReducer.Statement
