/-!
# Json — the JSON trees of payload and input columns
-/

namespace MoneyMachine
namespace Domain

/-- A JSON value; an object keeps its members in order. -/
inductive Json
  | null
  | bool (b : Bool)
  | int (n : Int)
  | str (s : String)
  | arr (items : List Json)
  | obj (members : List (String × Json))
  deriving Repr

/-- `mapping.get(name)` on an object; anything else has no members. -/
def Json.get? : Json → String → Option Json
  | .obj members, name => members.lookup name
  | _, _ => none

end Domain
end MoneyMachine
