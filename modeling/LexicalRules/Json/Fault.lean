/-! # What is wrong with a JSON text

Three things can be: it is not JSON, it ends too early, or it is JSON as far as it was read but not
what was wanted.
-/

namespace LexicalRules.Json
set_option autoImplicit false

inductive Fault where
  /-- A character stands where JSON has no place for it. -/
  | malformed
  /-- The text ends within a value. -/
  | truncated
  /-- A value of another shape is wanted. -/
  | unexpected
  deriving DecidableEq, Repr

/-- A place where a text breaks off, with the fault for those who want to know the value there and the
fault for those who only pass over it. -/
structure Break where
  read : Fault
  skipped : Fault
  deriving DecidableEq, Repr

/-- A break that is the same for all. -/
def Break.same (f : Fault) : Break := ⟨f, f⟩

end LexicalRules.Json
