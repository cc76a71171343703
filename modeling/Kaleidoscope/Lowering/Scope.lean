import Kaleidoscope.Text.Quoted

/-!
# Scopes

The variables visible at a place, innermost first. Entering a scope makes a larger list and leaves
the old one as it was, so leaving the scope brings back whatever was hidden.
-/
namespace Kaleidoscope

/-- Visible variables and what they stand for, innermost first. -/
structure Scope (α : Type) where
  /-- The bindings. -/
  bindings : List (String × α)

namespace Scope

variable {α : Type}

/-- The scope without variables. -/
def empty : Scope α := ⟨[]⟩

/-- The scope with one more variable, which hides another of the same name. -/
def bind (scope : Scope α) (name : String) (value : α) : Scope α := ⟨(name, value) :: scope.bindings⟩

/-- What the innermost variable of a name stands for. -/
def lookup? (scope : Scope α) (name : String) : Option α := scope.bindings.lookup name

/-- Whether no variable is visible. -/
def isEmpty (scope : Scope α) : Bool := scope.bindings.isEmpty

/-- The names of the variables, innermost first. -/
def names (scope : Scope α) : List String := scope.bindings.map (·.1)

/-- The names in words. -/
def describe (scope : Scope α) : String :=
  "Context([" ++ String.intercalate ", " (scope.names.map Text.quoted) ++ "])"

end Scope

end Kaleidoscope
