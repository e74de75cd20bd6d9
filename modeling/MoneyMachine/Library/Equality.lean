import Mathlib.Data.List.Basic

/-!
# Equality — one name for the equality of texts

Deciding membership in a list carries the proof that the equality test of its elements is lawful.  For
texts, which are what most lists hold, that proof has one name.
-/

namespace MoneyMachine
namespace Library

instance lawfulText : LawfulBEq (List Char) :=
  inferInstance

end Library
end MoneyMachine
