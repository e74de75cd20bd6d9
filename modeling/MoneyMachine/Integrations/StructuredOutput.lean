import MoneyMachine.Domain.Basic
import Mathlib.Data.Set.Finite.List
import Mathlib.Logic.Relation
import Mathlib.Order.WellFounded

/-!
# StructuredOutput — the schema that a provider is sent

`pydantic_to_json_schema` inlines the definitions of a model and then tightens its objects.  The first
walk meets every dictionary; the second goes through the properties of objects and the items of arrays.

Both work in place.  Inlining copies a definition with `dict(resolved)`, which is shallow: below its top
the dictionaries of a definition are one object in all the places where it is inlined, and what tightening
does to it in one place shows in the others.  So a dictionary carries the `Object` it is, and tightening
is a list of objects that get defaults; every place of such an object shows them (`settle`).

A definition that refers to itself is inlined without end, so inlining takes fuel: `none` is a recursion
that goes on.  Where no reference leads back, some fuel is enough (`resolveRefs_ends`).
-/

namespace MoneyMachine
namespace Integrations
namespace Schemas

open MoneyMachine.Domain

/-! ## Schemas -/

/-- A dictionary, as the object it is: one that Pydantic made, the schema itself, or the copy of a
definition, which is known by where it is stored. -/
inductive Object
  | given (n : Nat)
  | top
  /-- `holder[key]`. -/
  | entry (holder : Object) (key : String)
  /-- `slot[i]`, of the list in a slot. -/
  | item (slot : Object) (i : Nat)
  deriving DecidableEq, Repr

/-- A JSON value.  A float is the text that `repr` gives. -/
inductive Schema
  | null
  | bool (b : Bool)
  | int (n : Int)
  | float (text : String)
  | str (s : String)
  | arr (items : List Schema)
  | obj (object : Object) (members : List (String × Schema))

abbrev Members := List (String × Schema)

def Schema.isDict : Schema → Bool
  | .obj _ _ => true
  | _ => false

mutual

/-- The dictionaries of a value, each with its members. -/
@[simp]
def dicts : Schema → List (Object × Members)
  | .obj object members => (object, members) :: memberDicts members
  | .arr items => itemDicts items
  | _ => []

@[simp]
def memberDicts : Members → List (Object × Members)
  | [] => []
  | (_, value) :: rest => dicts value ++ memberDicts rest

@[simp]
def itemDicts : List Schema → List (Object × Members)
  | [] => []
  | item :: rest => dicts item ++ itemDicts rest

end

/-- The dictionaries of a generated schema below its top, and below the tops of its definitions. -/
def allDicts (members : Members) (definitions : List (String × Members)) : List (Object × Members) :=
  memberDicts members ++ definitions.flatMap (fun entry => memberDicts entry.2)

/-- The members of all its dictionaries. -/
def allMembers (members : Members) (definitions : List (String × Members)) : List Members :=
  members :: definitions.map Prod.snd ++ (allDicts members definitions).map Prod.snd

/-- What `model_json_schema()` returns, with its `$defs` taken out.  Pydantic builds every dictionary
anew, so no two are one object. -/
structure ModelSchema where
  members : Members
  definitions : List (String × Members)
  fresh : ∃ numbers : List Nat, numbers.Nodup ∧
    (allDicts members definitions).map Prod.fst = numbers.map .given
  keys : ∀ found ∈ allMembers members definitions, (found.map Prod.fst).Nodup

/-- `ref_path.split("/")[-1]` of a path that starts with `#/$defs/`. -/
def refName (path : String) : Option String :=
  if startsWith path "#/$defs/" then
    some (String.ofList (path.toList.reverse.takeWhile (· ≠ '/')).reverse)
  else
    none

section Resolving

variable (definitions : List (String × Members))

/-- The name of the definition that a dictionary stands for, if there is that definition. -/
def reference (members : Members) : Option String :=
  match members.lookup "$ref" with
  | some (.str path) =>
    match refName path with
    | some name => if (definitions.lookup name).isSome then some name else none
    | none => none
  | _ => none

/-- The definition that a dictionary stands for. -/
def definition (members : Members) : Option Members :=
  (reference definitions members).bind (fun name => definitions.lookup name)

variable (inline : Object → Members → Option Schema)

mutual

/-- `resolve_refs` of the value in a slot, with what inlining a definition there gives.  A list keeps the
lists inside it. -/
def resolveTree (slot : Object) : Schema → Option Schema
  | .obj object members =>
    match definition definitions members with
    | some found => inline slot found
    | none => (resolveMembers object members).map (.obj object)
  | .arr items => (resolveItems slot 0 items).map .arr
  | value => some value

def resolveMembers (holder : Object) : Members → Option Members
  | [] => some []
  | (key, value) :: rest => do
      let value ← resolveTree (.entry holder key) value
      let rest ← resolveMembers holder rest
      some ((key, value) :: rest)

def resolveItems (slot : Object) (i : Nat) : List Schema → Option (List Schema)
  | [] => some []
  | item :: rest => do
      let item ← (if item.isDict then resolveTree (.item slot i) item else some item : Option Schema)
      let rest ← resolveItems slot (i + 1) rest
      some (item :: rest)

end

/-- `resolve_refs`, with as many inlined definitions inside one another as there is fuel.  The copy of a
definition is a new dictionary in the slot; what is below it is not copied. -/
def resolveRefs : Nat → Object → Schema → Option Schema
  | 0 => resolveTree definitions (fun _ _ => none)
  | fuel + 1 => resolveTree definitions (fun slot found => resolveRefs fuel slot (.obj slot found))

end Resolving

/-! ## Tightening -/

/-- `obj.get("type") == kind`. -/
def isType (kind : String) (members : Members) : Bool :=
  match members.lookup "type" with
  | some (.str found) => decide (found = kind)
  | _ => false

/-- `obj.setdefault(key, value)`. -/
def setdefault (key : String) (value : Schema) (members : Members) : Members :=
  if (members.lookup key).isSome then members else members ++ [(key, value)]

/-- The names, as a list of texts. -/
def nameList (names : List String) : Schema :=
  .arr (names.map .str)

/-- The two defaults of an object, with the names that it requires. -/
def closeObject (names : List String) (members : Members) : Members :=
  setdefault "additionalProperties" (.bool false) (setdefault "required" (nameList names) members)

/-- A call of the two `setdefault`s: for which dictionary, and what its `properties` are. -/
structure Closing where
  object : Object
  inner : Object
  properties : Members

/-- The dictionaries that have got their defaults, with the names that they were closed with. -/
abbrev Closed := List (Object × List String)

/-- The members of a dictionary, as they are by then. -/
def shown (closed : Closed) (object : Object) (members : Members) : Members :=
  match closed.lookup object with
  | some names => closeObject names members
  | none => members

/-- The two `setdefault`s.  A dictionary that has its defaults keeps them. -/
def close (closed : Closed) (closing : Closing) : Closed :=
  if (closed.lookup closing.object).isSome then closed
  else closed ++ [(closing.object, (shown closed closing.inner closing.properties).map Prod.fst)]

mutual

/-- `make_strict`, as the calls of the two `setdefault`s in their order: what it reads of a dictionary,
they do not change.  There is no result for an object whose `properties` have no keys. -/
def makeStrict : Schema → Option (List Closing)
  | .obj object members =>
    if isType "object" members then
      match members.lookup "properties" with
      | none => some []
      | some (.obj inner properties) =>
        (strictProperties members).map (fun closings => ⟨object, inner, properties⟩ :: closings)
      | some _ => none
    else if isType "array" members then
      strictItems members
    else
      some []
  | _ => some []

/-- The walk through the properties. -/
def strictProperties : Members → Option (List Closing)
  | [] => some []
  | (key, value) :: rest =>
    if key = "properties" then
      match value with
      | .obj _ properties => strictValues properties
      | _ => none
    else
      strictProperties rest

/-- Every property that is a dictionary. -/
def strictValues : Members → Option (List Closing)
  | [] => some []
  | (_, value) :: rest => do
      let first ← makeStrict value
      let rest ← strictValues rest
      some (first ++ rest)

/-- The items, where these are a dictionary. -/
def strictItems : Members → Option (List Closing)
  | [] => some []
  | (key, value) :: rest =>
    if key = "items" then
      makeStrict value
    else
      strictItems rest

end

mutual

/-- A value, with the defaults in every place of a dictionary that got them. -/
@[simp]
def settle (closed : Closed) : Schema → Schema
  | .obj object members => .obj object (shown closed object (settleMembers closed members))
  | .arr items => .arr (settleItems closed items)
  | value => value

@[simp]
def settleMembers (closed : Closed) : Members → Members
  | [] => []
  | (key, value) :: rest => (key, settle closed value) :: settleMembers closed rest

@[simp]
def settleItems (closed : Closed) : List Schema → List Schema
  | [] => []
  | item :: rest => settle closed item :: settleItems closed rest

end

/-- `pydantic_to_json_schema`. -/
def pydanticToJsonSchema (fuel : Nat) (schema : ModelSchema) : Option Schema := do
  let resolved ← resolveRefs schema.definitions fuel .top (.obj .top schema.members)
  let closings ← makeStrict resolved
  some (settle (closings.foldl close []) resolved)

/-! ## References -/

section References

variable (definitions : List (String × Members))

mutual

/-- The names that inlining a value meets first. -/
def references : Schema → List String
  | .obj _ members =>
    match reference definitions members with
    | some name => [name]
    | none => memberReferences members
  | .arr items => itemReferences items
  | _ => []

def memberReferences : Members → List String
  | [] => []
  | (_, value) :: rest => references value ++ memberReferences rest

def itemReferences : List Schema → List String
  | [] => []
  | item :: rest => (if item.isDict then references item else []) ++ itemReferences rest

end

/-- The definition of `b` refers to `a`. -/
def Refers (a b : String) : Prop :=
  ∃ found, definitions.lookup b = some found ∧ a ∈ references definitions (.obj .top found)

/-- No definition refers to itself, directly or through others. -/
def Acyclic : Prop :=
  ∀ name, ¬ Relation.TransGen (Refers definitions) name name

variable {definitions}

theorem reference_defined {members : Members} {name : String}
    (h : reference definitions members = some name) :
    ∃ found, definitions.lookup name = some found ∧ definition definitions members = some found := by
  have hdefined : (definitions.lookup name).isSome = true := by
    unfold reference at h
    split at h
    · split at h
      · split_ifs at h with hsome
        cases h
        exact hsome
      · cases h
    · cases h
  obtain ⟨found, hfound⟩ := Option.isSome_iff_exists.mp hdefined
  exact ⟨found, hfound, by rw [definition, h, Option.bind_some, hfound]⟩

theorem definition_none {members : Members} :
    definition definitions members = none ↔ reference definitions members = none := by
  constructor
  · intro h
    cases hname : reference definitions members with
    | none => rfl
    | some name =>
      obtain ⟨found, -, hdefinition⟩ := reference_defined hname
      rw [h] at hdefinition
      cases hdefinition
  · intro h
    rw [definition, h, Option.bind_none]

theorem definition_some {members found : Members}
    (h : definition definitions members = some found) :
    ∃ name, reference definitions members = some name ∧ definitions.lookup name = some found := by
  cases hname : reference definitions members with
  | none =>
    rw [definition, hname] at h
    cases h
  | some name =>
    rw [definition, hname] at h
    exact ⟨name, rfl, h⟩

mutual

theorem lookup_of_mem_references (value : Schema) :
    ∀ name ∈ references definitions value, ∃ found, definitions.lookup name = some found := by
  intro name hname
  cases value with
  | obj object members =>
    rw [references] at hname
    cases href : reference definitions members with
    | some other =>
      rw [href] at hname
      obtain ⟨found, hfound, -⟩ := reference_defined href
      rw [List.mem_singleton] at hname
      exact ⟨found, hname ▸ hfound⟩
    | none =>
      rw [href] at hname
      exact lookup_of_mem_memberReferences members name hname
  | arr items =>
    rw [references] at hname
    exact lookup_of_mem_itemReferences items name hname
  | _ => exact absurd hname (by simp [references])

theorem lookup_of_mem_memberReferences (members : Members) :
    ∀ name ∈ memberReferences definitions members, ∃ found, definitions.lookup name = some found := by
  intro name hname
  cases members with
  | nil => exact absurd hname (by simp [memberReferences])
  | cons member rest =>
    rw [memberReferences] at hname
    rcases List.mem_append.mp hname with hvalue | hrest
    · exact lookup_of_mem_references member.2 name hvalue
    · exact lookup_of_mem_memberReferences rest name hrest

theorem lookup_of_mem_itemReferences (items : List Schema) :
    ∀ name ∈ itemReferences definitions items, ∃ found, definitions.lookup name = some found := by
  intro name hname
  cases items with
  | nil => exact absurd hname (by simp [itemReferences])
  | cons item rest =>
    rw [itemReferences] at hname
    rcases List.mem_append.mp hname with hitem | hrest
    · split_ifs at hitem
      · exact lookup_of_mem_references item name hitem
      · exact absurd hitem List.not_mem_nil
    · exact lookup_of_mem_itemReferences rest name hrest

end

theorem mem_keys_of_lookup {name : String} {found : Members}
    (h : definitions.lookup name = some found) : name ∈ definitions.map Prod.fst := by
  rw [List.lookup_eq_some_iff] at h
  obtain ⟨before, after, rfl, -⟩ := h
  simp

/-- There are finitely many definitions, so a chain of references without a cycle ends. -/
theorem Acyclic.wellFounded (h : Acyclic definitions) : WellFounded (Refers definitions) := by
  let chain : {name // name ∈ definitions.map Prod.fst} →
      {name // name ∈ definitions.map Prod.fst} → Prop :=
    fun a b => Relation.TransGen (Refers definitions) a.1 b.1
  have hfinite : Finite {name // name ∈ definitions.map Prod.fst} :=
    (List.finite_toSet (definitions.map Prod.fst)).to_subtype
  have htrans : IsTrans _ chain := ⟨fun _ _ _ hab hbc => hab.trans hbc⟩
  have hirrefl : Std.Irrefl chain := ⟨fun a => h a.1⟩
  have hchain : WellFounded chain := Finite.wellFounded_of_trans_of_irrefl chain
  have hkeys : ∀ a : {name // name ∈ definitions.map Prod.fst}, Acc (Refers definitions) a.1 := by
    intro a
    induction a using hchain.induction with
    | h a ih =>
      constructor
      intro b hb
      obtain ⟨found, hfound, hmem⟩ := hb
      obtain ⟨other, hother⟩ := lookup_of_mem_references _ b hmem
      exact ih ⟨b, mem_keys_of_lookup hother⟩ (Relation.TransGen.single ⟨found, hfound, hmem⟩)
  constructor
  intro name
  constructor
  intro b hb
  obtain ⟨found, -, hmem⟩ := hb
  obtain ⟨other, hother⟩ := lookup_of_mem_references _ b hmem
  exact hkeys ⟨b, mem_keys_of_lookup hother⟩

end References

/-! ## Inlining ends -/

section Ending

variable {definitions : List (String × Members)} {inline inline' : Object → Members → Option Schema}

mutual

/-- A larger inlining gives the same results. -/
theorem resolveTree_mono
    (h : ∀ slot found result, inline slot found = some result → inline' slot found = some result)
    (slot : Object) (value : Schema) :
    ∀ result, resolveTree definitions inline slot value = some result →
      resolveTree definitions inline' slot value = some result := by
  intro result hresult
  cases value with
  | obj object members =>
    rw [resolveTree] at hresult ⊢
    cases hfound : definition definitions members with
    | some found =>
      rw [hfound] at hresult
      exact h slot found result hresult
    | none =>
      rw [hfound] at hresult
      obtain ⟨members', hmembers, rfl⟩ := Option.map_eq_some_iff.mp hresult
      exact Option.map_eq_some_iff.mpr ⟨members', resolveMembers_mono h object members _ hmembers, rfl⟩
  | arr items =>
    rw [resolveTree] at hresult ⊢
    obtain ⟨items', hitems, rfl⟩ := Option.map_eq_some_iff.mp hresult
    exact Option.map_eq_some_iff.mpr ⟨items', resolveItems_mono h slot 0 items _ hitems, rfl⟩
  | _ =>
    simp only [resolveTree] at hresult ⊢
    exact hresult

theorem resolveMembers_mono
    (h : ∀ slot found result, inline slot found = some result → inline' slot found = some result)
    (holder : Object) (members : Members) :
    ∀ result, resolveMembers definitions inline holder members = some result →
      resolveMembers definitions inline' holder members = some result := by
  intro result hresult
  cases members with
  | nil => exact hresult
  | cons member rest =>
    obtain ⟨key, value⟩ := member
    simp only [resolveMembers, Option.bind_eq_bind, Option.bind_eq_some_iff] at hresult ⊢
    obtain ⟨value', hvalue, rest', hrest, heq⟩ := hresult
    exact ⟨value', resolveTree_mono h _ value _ hvalue, rest',
      resolveMembers_mono h holder rest _ hrest, heq⟩

theorem resolveItems_mono
    (h : ∀ slot found result, inline slot found = some result → inline' slot found = some result)
    (slot : Object) (i : Nat) (items : List Schema) :
    ∀ result, resolveItems definitions inline slot i items = some result →
      resolveItems definitions inline' slot i items = some result := by
  intro result hresult
  cases items with
  | nil => exact hresult
  | cons item rest =>
    simp only [resolveItems, Option.bind_eq_bind, Option.bind_eq_some_iff] at hresult ⊢
    obtain ⟨item', hitem, rest', hrest, heq⟩ := hresult
    refine ⟨item', ?_, rest', resolveItems_mono h slot (i + 1) rest _ hrest, heq⟩
    split_ifs at hitem ⊢
    · exact resolveTree_mono h _ item _ hitem
    · exact hitem

end

theorem resolveRefs_succ {fuel : Nat} {slot : Object} {value result : Schema}
    (h : resolveRefs definitions fuel slot value = some result) :
    resolveRefs definitions (fuel + 1) slot value = some result := by
  induction fuel generalizing slot value result with
  | zero =>
    refine resolveTree_mono ?_ slot value result h
    intro slot' found result' hfound
    cases hfound
  | succ fuel ih =>
    refine resolveTree_mono ?_ slot value result h
    intro slot' found result' hfound
    exact ih hfound

theorem resolveRefs_mono {fuel more : Nat} (hle : fuel ≤ more) {slot : Object} {value result : Schema}
    (h : resolveRefs definitions fuel slot value = some result) :
    resolveRefs definitions more slot value = some result := by
  induction hle with
  | refl => exact h
  | step _ ih => exact resolveRefs_succ ih

mutual

/-- A value is resolved if everything it refers to is, in every slot. -/
theorem resolveTree_isSome (slot : Object) (value : Schema)
    (h : ∀ name ∈ references definitions value, ∀ found, definitions.lookup name = some found →
      ∀ slot, (inline slot found).isSome) :
    (resolveTree definitions inline slot value).isSome := by
  cases value with
  | obj object members =>
    rw [resolveTree]
    rw [references] at h
    cases hfound : definition definitions members with
    | some found =>
      obtain ⟨name, hname, hlookup⟩ := definition_some hfound
      rw [hname] at h
      exact h name (List.mem_singleton.mpr rfl) found hlookup slot
    | none =>
      rw [definition_none.mp hfound] at h
      simp only [Option.isSome_map]
      exact resolveMembers_isSome object members h
  | arr items =>
    rw [resolveTree, Option.isSome_map]
    rw [references] at h
    exact resolveItems_isSome slot 0 items h
  | _ => rfl

theorem resolveMembers_isSome (holder : Object) (members : Members)
    (h : ∀ name ∈ memberReferences definitions members, ∀ found,
      definitions.lookup name = some found → ∀ slot, (inline slot found).isSome) :
    (resolveMembers definitions inline holder members).isSome := by
  cases members with
  | nil => rfl
  | cons member rest =>
    obtain ⟨key, value⟩ := member
    rw [memberReferences] at h
    obtain ⟨value', hvalue⟩ := Option.isSome_iff_exists.mp
      (resolveTree_isSome (.entry holder key) value
        (fun name hname => h name (List.mem_append_left _ hname)))
    obtain ⟨rest', hrest⟩ := Option.isSome_iff_exists.mp
      (resolveMembers_isSome holder rest (fun name hname => h name (List.mem_append_right _ hname)))
    simp [resolveMembers, hvalue, hrest]

theorem resolveItems_isSome (slot : Object) (i : Nat) (items : List Schema)
    (h : ∀ name ∈ itemReferences definitions items, ∀ found,
      definitions.lookup name = some found → ∀ slot, (inline slot found).isSome) :
    (resolveItems definitions inline slot i items).isSome := by
  cases items with
  | nil => rfl
  | cons item rest =>
    rw [itemReferences] at h
    obtain ⟨rest', hrest⟩ := Option.isSome_iff_exists.mp
      (resolveItems_isSome slot (i + 1) rest
        (fun name hname => h name (List.mem_append_right _ hname)))
    by_cases hdict : item.isDict = true
    · rw [if_pos hdict] at h
      obtain ⟨item', hitem⟩ := Option.isSome_iff_exists.mp
        (resolveTree_isSome (.item slot i) item
          (fun name hname => h name (List.mem_append_left _ hname)))
      simp [resolveItems, hdict, hitem, hrest]
    · simp [resolveItems, hdict, hrest]

end

/-- With this fuel a definition is inlined wherever it stands. -/
def Enough (definitions : List (String × Members)) (fuel : Nat) (found : Members) : Prop :=
  ∀ slot, (resolveRefs definitions fuel slot (.obj slot found)).isSome

theorem Enough.mono {fuel more : Nat} {found : Members} (h : Enough definitions fuel found)
    (hle : fuel ≤ more) : Enough definitions more found := by
  intro slot
  obtain ⟨result, hresult⟩ := Option.isSome_iff_exists.mp (h slot)
  rw [resolveRefs_mono hle hresult]
  rfl

/-- One fuel is enough for all the names of a list. -/
theorem exists_fuel (names : List String)
    (h : ∀ name ∈ names, ∀ found, definitions.lookup name = some found →
      ∃ fuel, Enough definitions fuel found) :
    ∃ fuel, ∀ name ∈ names, ∀ found, definitions.lookup name = some found →
      Enough definitions fuel found := by
  induction names with
  | nil => exact ⟨0, fun name hname => absurd hname List.not_mem_nil⟩
  | cons first rest ih =>
    obtain ⟨fuel, hfuel⟩ := ih (fun name hname => h name (List.mem_cons_of_mem _ hname))
    cases hfirst : definitions.lookup first with
    | none =>
      refine ⟨fuel, ?_⟩
      intro name hname found hfound
      rcases List.mem_cons.mp hname with rfl | hrest
      · rw [hfirst] at hfound
        cases hfound
      · exact hfuel name hrest found hfound
    | some body =>
      obtain ⟨own, hown⟩ := h first List.mem_cons_self body hfirst
      refine ⟨max own fuel, ?_⟩
      intro name hname found hfound
      rcases List.mem_cons.mp hname with rfl | hrest
      · rw [hfirst] at hfound
        cases hfound
        exact hown.mono (Nat.le_max_left _ _)
      · exact (hfuel name hrest found hfound).mono (Nat.le_max_right _ _)

/-- Inlining ends where no reference leads back. -/
theorem resolveRefs_ends (h : Acyclic definitions) (slot : Object) (value : Schema) :
    ∃ fuel result, resolveRefs definitions fuel slot value = some result := by
  have hdefined : ∀ name found, definitions.lookup name = some found →
      ∃ fuel, Enough definitions fuel found := by
    intro name
    induction name using h.wellFounded.induction with
    | h name ih =>
      intro found hfound
      obtain ⟨fuel, hfuel⟩ := exists_fuel (references definitions (.obj .top found))
        (fun other hother body hbody => ih other ⟨found, hfound, hother⟩ body hbody)
      refine ⟨fuel + 1, ?_⟩
      intro slot
      exact resolveTree_isSome slot (.obj slot found) hfuel
  obtain ⟨fuel, hfuel⟩ := exists_fuel (references definitions value)
    (fun name _ found hfound => hdefined name found hfound)
  obtain ⟨result, hresult⟩ := Option.isSome_iff_exists.mp (resolveTree_isSome slot value hfuel)
  exact ⟨fuel + 1, result, hresult⟩

end Ending

end Schemas
end Integrations
end MoneyMachine
