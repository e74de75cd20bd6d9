import MoneyMachine.Integrations.StructuredOutput

/-!
# StrictSchemas — which schemas become strict everywhere

The condition is on the schema as the model gives it, with its references followed: `Place` says which
dictionaries stand where a schema stands, as which objects, and whether tightening walks there.  An object
that it walks to in some place may leave its two members open; one that it walks to nowhere has to have
them.

* `tightens_inlined` : the condition means the same before and after inlining;
* `refless_iff`      : no reference is left exactly if those that are met name definitions;
* `one_content`      : an object has the same members wherever it stands;
* `strictSchema_iff` : over all acyclic schemas.
-/

namespace MoneyMachine
namespace Integrations
namespace Schemas

/-! ## Members -/

theorem mem_of_lookup {α : Type} {entries : List (String × α)} {key : String} {found : α}
    (h : entries.lookup key = some found) : (key, found) ∈ entries := by
  obtain ⟨before, after, heq, -⟩ := List.lookup_eq_some_iff.mp h
  rw [heq]
  simp

theorem sizeOf_of_mem {object : Object} {members : Members} {key : String} {value : Schema}
    (h : (key, value) ∈ members) : sizeOf value < sizeOf (Schema.obj object members) := by
  have hsize := List.sizeOf_lt_of_mem h
  simp only [Prod.mk.sizeOf_spec, Schema.obj.sizeOf_spec] at hsize ⊢
  omega

theorem mem_memberDicts {members : Members} {dict : Object × Members} :
    dict ∈ memberDicts members ↔ ∃ key value, (key, value) ∈ members ∧ dict ∈ dicts value := by
  induction members with
  | nil => simp
  | cons member rest ih =>
    rw [memberDicts, List.mem_append, ih]
    simp only [List.mem_cons, or_and_right, exists_or]
    refine or_congr_left ⟨fun h => ⟨_, _, rfl, h⟩, ?_⟩
    rintro ⟨key, value, rfl, h⟩
    exact h

theorem mem_itemDicts {items : List Schema} {dict : Object × Members} :
    dict ∈ itemDicts items ↔ ∃ item ∈ items, dict ∈ dicts item := by
  induction items with
  | nil => simp
  | cons item rest ih => simp [ih]

/-- The text of a reference. -/
def textRef (members : Members) : Option String :=
  match members.lookup "$ref" with
  | some (.str path) => some path
  | _ => none

/-! ## What inlining keeps -/

section Inlining

variable {definitions : List (String × Members)} {inline : Object → Members → Option Schema}

/-- What is inlined for a dictionary is a dictionary. -/
def GivesDicts (inline : Object → Members → Option Schema) : Prop :=
  ∀ slot found result, inline slot found = some result → ∃ object members, result = .obj object members

theorem resolveTree_obj (hdicts : GivesDicts inline) {slot object : Object} {members : Members}
    {result : Schema} (h : resolveTree definitions inline slot (.obj object members) = some result) :
    ∃ object' members', result = .obj object' members' := by
  rw [resolveTree] at h
  cases hfound : definition definitions members with
  | some found =>
    rw [hfound] at h
    exact hdicts slot found result h
  | none =>
    rw [hfound] at h
    obtain ⟨members', -, rfl⟩ := Option.map_eq_some_iff.mp h
    exact ⟨object, members', rfl⟩

theorem resolveTree_arr {slot : Object} {items : List Schema} {result : Schema}
    (h : resolveTree definitions inline slot (.arr items) = some result) :
    ∃ items', resolveItems definitions inline slot 0 items = some items' ∧ result = .arr items' := by
  rw [resolveTree] at h
  obtain ⟨items', hitems, rfl⟩ := Option.map_eq_some_iff.mp h
  exact ⟨items', hitems, rfl⟩

theorem resolveTree_eq_arr (hdicts : GivesDicts inline) {slot : Object} {value : Schema}
    {items' : List Schema} (h : resolveTree definitions inline slot value = some (.arr items')) :
    ∃ items, value = .arr items ∧ resolveItems definitions inline slot 0 items = some items' := by
  cases value with
  | arr items =>
    obtain ⟨found, hitems, heq⟩ := resolveTree_arr h
    cases heq
    exact ⟨items, rfl, hitems⟩
  | obj object members =>
    obtain ⟨object', members', heq⟩ := resolveTree_obj hdicts h
    cases heq
  | _ => simp [resolveTree] at h

/-- The member of a name is there afterwards, inlined. -/
theorem lookup_resolveMembers {holder : Object} {members members' : Members}
    (h : resolveMembers definitions inline holder members = some members') (key : String) :
    (members.lookup key = none ∧ members'.lookup key = none) ∨
      ∃ value value', members.lookup key = some value ∧ members'.lookup key = some value' ∧
        resolveTree definitions inline (.entry holder key) value = some value' := by
  induction members generalizing members' with
  | nil =>
    cases h
    exact Or.inl ⟨rfl, rfl⟩
  | cons member rest ih =>
    obtain ⟨name, value⟩ := member
    simp only [resolveMembers, Option.bind_eq_bind, Option.bind_eq_some_iff] at h
    obtain ⟨value', hvalue, rest', hrest, heq⟩ := h
    cases heq
    by_cases hkey : key = name
    · subst hkey
      exact Or.inr ⟨value, value', by simp, by simp, hvalue⟩
    · have hne : (key == name) = false := by simpa using hkey
      simp only [List.lookup_cons, hne]
      exact ih hrest

theorem keys_resolveMembers {holder : Object} {members members' : Members}
    (h : resolveMembers definitions inline holder members = some members') :
    members'.map Prod.fst = members.map Prod.fst := by
  induction members generalizing members' with
  | nil =>
    cases h
    rfl
  | cons member rest ih =>
    obtain ⟨name, value⟩ := member
    simp only [resolveMembers, Option.bind_eq_bind, Option.bind_eq_some_iff] at h
    obtain ⟨value', hvalue, rest', hrest, heq⟩ := h
    cases heq
    rw [List.map_cons, List.map_cons, ih hrest]

/-- A value that is neither a dictionary nor a list stays, and nothing else becomes one. -/
theorem resolveTree_leaf (hdicts : GivesDicts inline) {slot : Object} {value value' leaf : Schema}
    (h : resolveTree definitions inline slot value = some value')
    (hobj : ∀ object members, leaf ≠ .obj object members) (harr : ∀ items, leaf ≠ .arr items) :
    value' = leaf ↔ value = leaf := by
  cases value with
  | obj object members =>
    obtain ⟨object', members', rfl⟩ := resolveTree_obj hdicts h
    exact iff_of_false (Ne.symm (hobj _ _)) (Ne.symm (hobj _ _))
  | arr items =>
    obtain ⟨items', -, rfl⟩ := resolveTree_arr h
    exact iff_of_false (Ne.symm (harr _)) (Ne.symm (harr _))
  | _ =>
    simp only [resolveTree, Option.some.injEq] at h
    rw [h]

theorem resolveTree_str (hdicts : GivesDicts inline) {slot : Object} {value value' : Schema}
    (h : resolveTree definitions inline slot value = some value') (s : String) :
    value' = .str s ↔ value = .str s :=
  resolveTree_leaf hdicts h (by simp) (by simp)

theorem lookup_str (hdicts : GivesDicts inline) {holder : Object} {members members' : Members}
    (h : resolveMembers definitions inline holder members = some members') (key s : String) :
    members'.lookup key = some (.str s) ↔ members.lookup key = some (.str s) := by
  rcases lookup_resolveMembers h key with ⟨hnone, hnone'⟩ | ⟨value, value', hv, hv', hresolve⟩
  · rw [hnone, hnone']
  · rw [hv, hv', Option.some.injEq, Option.some.injEq]
    exact resolveTree_str hdicts hresolve s

theorem textRef_eq_some {members : Members} {path : String} :
    textRef members = some path ↔ members.lookup "$ref" = some (.str path) := by
  unfold textRef
  split
  · next found h => rw [h]; simp
  · next h =>
      apply iff_of_false (by simp)
      intro hfound
      exact h path hfound

/-- The reference of a dictionary is its text under `$ref`. -/
theorem textRef_congr {members members' : Members}
    (h : ∀ path, members'.lookup "$ref" = some (.str path) ↔
      members.lookup "$ref" = some (.str path)) : textRef members' = textRef members := by
  apply Option.ext
  intro path
  rw [textRef_eq_some, textRef_eq_some]
  exact h path

theorem isType_iff {kind : String} {members : Members} :
    isType kind members = true ↔ members.lookup "type" = some (.str kind) := by
  unfold isType
  split
  · next found h => rw [h]; simp
  · next h =>
      apply iff_of_false (by simp)
      intro hfound
      exact h kind hfound

theorem isType_congr {kind : String} {members members' : Members}
    (h : members'.lookup "type" = some (.str kind) ↔ members.lookup "type" = some (.str kind)) :
    isType kind members' = isType kind members := by
  rw [Bool.eq_iff_iff, isType_iff, isType_iff]
  exact h

/-- `resolveRefs` is one walk with what the fuel below gives. -/
def inlineAt (definitions : List (String × Members)) : Nat → Object → Members → Option Schema
  | 0, _, _ => none
  | fuel + 1, slot, found => resolveRefs definitions fuel slot (.obj slot found)

theorem resolveRefs_eq (fuel : Nat) (slot : Object) (value : Schema) :
    resolveRefs definitions fuel slot value =
      resolveTree definitions (inlineAt definitions fuel) slot value := by
  cases fuel with
  | zero => rfl
  | succ fuel => rfl

theorem givesDicts_inlineAt (fuel : Nat) : GivesDicts (inlineAt definitions fuel) := by
  induction fuel with
  | zero =>
    intro slot found result h
    cases h
  | succ fuel ih =>
    intro slot found result h
    rw [inlineAt, resolveRefs_eq] at h
    exact resolveTree_obj ih h

end Inlining

/-! ## The condition -/

def Schema.text : Schema → Option String
  | .str s => some s
  | _ => none

/-- The texts of a list of texts. -/
def texts : Schema → Option (List String)
  | .arr items => items.mapM Schema.text
  | _ => none

/-- No dictionary of the value has a reference. -/
def Refless (value : Schema) : Prop :=
  ∀ dict ∈ dicts value, textRef dict.2 = none

section Condition

variable (definitions : List (String × Members))

/-- The dictionary that the value of a slot stands for, its references followed, and which object it
is: its own, or a copy that is stored in the slot. -/
inductive Denotes : Object → Schema → Object → Members → Prop
  | here {slot object : Object} {members : Members} : definition definitions members = none →
      Denotes slot (.obj object members) object members
  | there {slot object other : Object} {members found others : Members} :
      definition definitions members = some found →
        Denotes slot (.obj slot found) other others →
          Denotes slot (.obj object members) other others

/-- The dictionaries of a value, their references followed.  Inlining does not look into a list inside a
list. -/
inductive Met : Object → Schema → Members → Prop
  | here {slot object : Object} {value : Schema} {members : Members} :
      Denotes definitions slot value object members → Met slot value members
  | entry {slot object : Object} {value inner : Schema} {members found : Members} {key : String} :
      Denotes definitions slot value object members → (key, inner) ∈ members →
        Met (.entry object key) inner found → Met slot value found
  | item {slot : Object} {items : List Schema} {i : Nat} {item : Schema} {found : Members} :
      items[i]? = some item → item.isDict = true → Met (.item slot i) item found →
        Met slot (.arr items) found
  | kept {slot object : Object} {items : List Schema} {item : Schema} {found : Members} :
      item ∈ items → item.isDict = false → (object, found) ∈ dicts item → Met slot (.arr items) found

/-- Every reference that is met names a definition: none is left where it is followed. -/
def AllDefined (value : Schema) : Prop :=
  ∀ members, Met definitions .top value members → textRef members = none

/-- The properties of an object. -/
def PropertiesOf (object : Object) (members : Members) (inner : Object) (properties : Members) :
    Prop :=
  ∃ value, members.lookup "properties" = some value ∧
    Denotes definitions (.entry object "properties") value inner properties

/-- A list of the names, each of them and no other. -/
def ListsExactly (required : Option Schema) (names : List String) : Prop :=
  ∃ listed, required.bind texts = some listed ∧ ∀ name, name ∈ listed ↔ name ∈ names

/-- An object with properties requires them all and allows no others. -/
def StrictHere (object : Object) (members : Members) : Prop :=
  isType "object" members = true →
    ∀ inner properties, PropertiesOf definitions object members inner properties →
      ListsExactly (members.lookup "required") (properties.map Prod.fst) ∧
        members.lookup "additionalProperties" = some (.bool false)

/-- An object whose two members, where it has them, are those of a strict one. -/
def LooseHere (object : Object) (members : Members) : Prop :=
  isType "object" members = true →
    (members.lookup "properties" ≠ none →
      ∃ inner properties, PropertiesOf definitions object members inner properties) ∧
    ∀ inner properties, PropertiesOf definitions object members inner properties →
      (members.lookup "required" = none ∨
        ListsExactly (members.lookup "required") (properties.map Prod.fst)) ∧
      (members.lookup "additionalProperties" = none ∨
        members.lookup "additionalProperties" = some (.bool false))

/-- The subschemas of a schema with their slots, and whether tightening goes there. -/
inductive Child (object : Object) (members : Members) : Bool → Object → Schema → Prop
  | property {inner : Object} {properties : Members} {name : String} {value : Schema} :
      PropertiesOf definitions object members inner properties → (name, value) ∈ properties →
        Child object members (isType "object" members) (.entry inner name) value
  | items {value : Schema} : members.lookup "items" = some value →
      Child object members (isType "array" members) (.entry object "items") value
  | member {key : String} {values : List Schema} {i : Nat} {value : Schema} :
      key ∈ ["anyOf", "allOf", "oneOf", "prefixItems"] →
        members.lookup key = some (.arr values) → values[i]? = some value →
          Child object members false (.item (.entry object key) i) value

/-- A dictionary that stands where a schema stands, in the value of a slot: whether tightening walks to
this place, which object it is, and its members. -/
inductive Place : Object → Schema → Bool → Object → Members → Prop
  | here {slot object : Object} {value : Schema} {members : Members} :
      Denotes definitions slot value object members → Place slot value true object members
  | deeper {slot object slot' other : Object} {value value' : Schema} {members others : Members}
      {step walked : Bool} : Denotes definitions slot value object members →
        Child definitions object members step slot' value' → Place slot' value' walked other others →
          Place slot value (step && walked) other others

/-- Tightening walks to the object, in some place. -/
def Tightened (value : Schema) (object : Object) : Prop :=
  ∃ members, Place definitions .top value true object members

/-- Objects that tightening walks to are open to it, and the others are strict. -/
def Tightens (value : Schema) : Prop :=
  ∀ walked object members, Place definitions .top value walked object members →
    (Tightened definitions value object → LooseHere definitions object members) ∧
      (¬ Tightened definitions value object → StrictHere definitions object members)

end Condition

/-- Every subschema, at any depth, is strict. -/
def StrictEverywhere (value : Schema) : Prop :=
  ∀ walked object members, Place [] .top value walked object members → StrictHere [] object members

/-- There is a result, without references and strict everywhere. -/
def StrictSchema (schema : ModelSchema) : Prop :=
  ∃ fuel out, pydanticToJsonSchema fuel schema = some out ∧ Refless out ∧ StrictEverywhere out

/-- The schema itself, as a value. -/
def ModelSchema.root (schema : ModelSchema) : Schema :=
  .obj .top schema.members

def Schema.isSchema : Schema → Bool
  | .obj _ _ => true
  | .bool _ => true
  | _ => false

/-- JSON Schema's own rule: `properties` give a schema for every name. -/
def WellFormed (schema : ModelSchema) : Prop :=
  ∀ walked object members inner properties,
    Place schema.definitions .top schema.root walked object members →
      PropertiesOf schema.definitions object members inner properties →
        ∀ property ∈ properties, property.2.isSchema = true

/-! ## The condition, before and after inlining -/

section Inlined

variable {definitions : List (String × Members)}

theorem Denotes.unique {slot object object' : Object} {value : Schema} {members members' : Members}
    (h : Denotes definitions slot value object members)
    (h' : Denotes definitions slot value object' members') : object = object' ∧ members = members' := by
  induction h with
  | here hnone =>
    cases h' with
    | here => exact ⟨rfl, rfl⟩
    | there hfound =>
      rw [hnone] at hfound
      cases hfound
  | there hfound _ ih =>
    cases h' with
    | here hnone =>
      rw [hnone] at hfound
      cases hfound
    | there hfound' hother =>
      rw [hfound] at hfound'
      cases hfound'
      exact ih hother

theorem definition_nil (members : Members) : definition [] members = none := by
  rw [definition_none]
  unfold reference
  split
  · split
    · rfl
    · rfl
  · rfl

/-- Without definitions a dictionary stands for itself. -/
theorem denotes_nil {slot object : Object} {value : Schema} {members : Members} :
    Denotes [] slot value object members ↔ value = .obj object members := by
  constructor
  · intro h
    cases h with
    | here => rfl
    | there hfound =>
      rw [definition_nil] at hfound
      cases hfound
  · rintro rfl
    exact .here (definition_nil members)

theorem propertiesOf_nil {object inner : Object} {members properties : Members} :
    PropertiesOf [] object members inner properties ↔
      members.lookup "properties" = some (.obj inner properties) := by
  simp [PropertiesOf, denotes_nil]

/-- The members after inlining, at some fuel. -/
def ResolvedFrom (definitions : List (String × Members)) (object : Object)
    (members members' : Members) : Prop :=
  ∃ fuel, resolveMembers definitions (inlineAt definitions fuel) object members = some members'

/-- A value and what it is resolved to, at some fuel. -/
def ValueResolved (definitions : List (String × Members)) (slot : Object) (value value' : Schema) :
    Prop :=
  ∃ fuel, resolveTree definitions (inlineAt definitions fuel) slot value = some value'

theorem inlineAt_mono {fuel more : Nat} (hle : fuel ≤ more) (slot : Object) (found : Members)
    (result : Schema) (h : inlineAt definitions fuel slot found = some result) :
    inlineAt definitions more slot found = some result := by
  cases fuel with
  | zero => cases h
  | succ fuel =>
    cases more with
    | zero => exact absurd hle (Nat.not_succ_le_zero fuel)
    | succ more => exact resolveRefs_mono (Nat.le_of_succ_le_succ hle) h

/-- More fuel does not change the members. -/
theorem ResolvedFrom.unique {object : Object} {members first second : Members}
    (h : ResolvedFrom definitions object members first)
    (h' : ResolvedFrom definitions object members second) : first = second := by
  obtain ⟨fuel, hfirst⟩ := h
  obtain ⟨more, hsecond⟩ := h'
  have hfirst' := resolveMembers_mono (inlineAt_mono (Nat.le_max_left fuel more)) object members
    first hfirst
  have hsecond' := resolveMembers_mono (inlineAt_mono (Nat.le_max_right fuel more)) object members
    second hsecond
  exact Option.some.inj (hfirst'.symm.trans hsecond')

theorem denotes_resolved {slot object : Object} {value : Schema} {members : Members}
    (h : Denotes definitions slot value object members) :
    ∀ {value' : Schema}, ValueResolved definitions slot value value' →
      ∃ members', value' = .obj object members' ∧ ResolvedFrom definitions object members members' := by
  induction h with
  | here hnone =>
    rintro value' ⟨fuel, hresolve⟩
    rw [resolveTree, hnone] at hresolve
    obtain ⟨members', hmembers, rfl⟩ := Option.map_eq_some_iff.mp hresolve
    exact ⟨members', rfl, fuel, hmembers⟩
  | there hfound _ ih =>
    rintro value' ⟨fuel, hresolve⟩
    rw [resolveTree, hfound] at hresolve
    cases fuel with
    | zero => cases hresolve
    | succ fuel =>
      change resolveRefs definitions fuel _ (.obj _ _) = some _ at hresolve
      rw [resolveRefs_eq] at hresolve
      exact ih ⟨fuel, hresolve⟩

theorem resolved_denotes {slot object : Object} {value : Schema} {members' : Members}
    (h : ValueResolved definitions slot value (.obj object members')) :
    ∃ members, Denotes definitions slot value object members ∧
      ResolvedFrom definitions object members members' := by
  obtain ⟨fuel, hresolve⟩ := h
  induction fuel generalizing value with
  | zero =>
    cases value with
    | obj own members =>
      rw [resolveTree] at hresolve
      cases hfound : definition definitions members with
      | some found =>
        rw [hfound] at hresolve
        cases hresolve
      | none =>
        rw [hfound] at hresolve
        obtain ⟨other, hother, heq⟩ := Option.map_eq_some_iff.mp hresolve
        cases heq
        exact ⟨members, .here hfound, 0, hother⟩
    | arr items =>
      obtain ⟨items', -, heq⟩ := resolveTree_arr hresolve
      cases heq
    | _ => simp [resolveTree] at hresolve
  | succ fuel ih =>
    cases value with
    | obj own members =>
      rw [resolveTree] at hresolve
      cases hfound : definition definitions members with
      | some found =>
        rw [hfound] at hresolve
        change resolveRefs definitions fuel slot (.obj slot found) = some _ at hresolve
        rw [resolveRefs_eq] at hresolve
        obtain ⟨other, hdenotes, hresolved⟩ := ih hresolve
        exact ⟨other, .there hfound hdenotes, hresolved⟩
      | none =>
        rw [hfound] at hresolve
        obtain ⟨other, hother, heq⟩ := Option.map_eq_some_iff.mp hresolve
        cases heq
        exact ⟨members, .here hfound, fuel + 1, hother⟩
    | arr items =>
      obtain ⟨items', -, heq⟩ := resolveTree_arr hresolve
      cases heq
    | _ => simp [resolveTree] at hresolve

variable {object : Object} {members members' : Members}

theorem lookup_resolved (h : ResolvedFrom definitions object members members') (key : String) :
    (members.lookup key = none ∧ members'.lookup key = none) ∨
      ∃ value value', members.lookup key = some value ∧ members'.lookup key = some value' ∧
        ValueResolved definitions (.entry object key) value value' := by
  obtain ⟨fuel, hmembers⟩ := h
  rcases lookup_resolveMembers hmembers key with hnone | ⟨value, value', hv, hv', hresolve⟩
  · exact Or.inl hnone
  · exact Or.inr ⟨value, value', hv, hv', fuel, hresolve⟩

/-- A member there is, inlined. -/
theorem lookup_resolved_some
    (h : ResolvedFrom definitions object members members') {key : String} {value : Schema}
    (hvalue : members.lookup key = some value) :
    ∃ value', members'.lookup key = some value' ∧
      ValueResolved definitions (.entry object key) value value' := by
  rcases lookup_resolved h key with ⟨hnone, -⟩ | ⟨found, value', hv, hv', hresolved⟩
  · rw [hvalue] at hnone
    cases hnone
  · rw [hvalue] at hv
    cases hv
    exact ⟨value', hv', hresolved⟩

/-- A member of the inlined members comes from a member. -/
theorem resolved_lookup_some
    (h : ResolvedFrom definitions object members members') {key : String} {value' : Schema}
    (hvalue : members'.lookup key = some value') :
    ∃ value, members.lookup key = some value ∧
      ValueResolved definitions (.entry object key) value value' := by
  rcases lookup_resolved h key with ⟨-, hnone⟩ | ⟨value, found, hv, hv', hresolved⟩
  · rw [hvalue] at hnone
    cases hnone
  · rw [hvalue] at hv'
    cases hv'
    exact ⟨value, hv, hresolved⟩

/-- Properties of the inlined members come from properties of the members. -/
theorem propertiesOf_resolved {inner : Object}
    (h : ResolvedFrom definitions object members members') {properties : Members}
    (hproperties : PropertiesOf definitions object members inner properties) :
    ∃ properties', PropertiesOf [] object members' inner properties' ∧
      ResolvedFrom definitions inner properties properties' := by
  obtain ⟨value, hvalue, hdenotes⟩ := hproperties
  obtain ⟨value', hvalue', hresolved⟩ := lookup_resolved_some h hvalue
  obtain ⟨properties', rfl, hfrom⟩ := denotes_resolved hdenotes hresolved
  exact ⟨properties', propertiesOf_nil.mpr hvalue', hfrom⟩

theorem resolved_propertiesOf {inner : Object}
    (h : ResolvedFrom definitions object members members') {properties' : Members}
    (hproperties : PropertiesOf [] object members' inner properties') :
    ∃ properties, PropertiesOf definitions object members inner properties ∧
      ResolvedFrom definitions inner properties properties' := by
  rw [propertiesOf_nil] at hproperties
  obtain ⟨value, hvalue, hresolved⟩ := resolved_lookup_some h hproperties
  obtain ⟨properties, hdenotes, hfrom⟩ := resolved_denotes hresolved
  exact ⟨properties, ⟨value, hvalue, hdenotes⟩, hfrom⟩

theorem keys_resolved (h : ResolvedFrom definitions object members members') :
    members'.map Prod.fst = members.map Prod.fst := by
  obtain ⟨fuel, hmembers⟩ := h
  exact keys_resolveMembers hmembers

theorem isType_resolved (h : ResolvedFrom definitions object members members') (kind : String) :
    isType kind members' = isType kind members := by
  obtain ⟨fuel, hmembers⟩ := h
  exact isType_congr (lookup_str (givesDicts_inlineAt fuel) hmembers "type" kind)

/-- The item of a place is there afterwards: a dictionary inlined, anything else as it was. -/
theorem getElem?_resolveItems {inline : Object → Members → Option Schema} {slot : Object}
    {items items' : List Schema} {start : Nat}
    (h : resolveItems definitions inline slot start items = some items') (i : Nat) :
    (items[i]? = none ∧ items'[i]? = none) ∨
      ∃ item item', items[i]? = some item ∧ items'[i]? = some item' ∧
        (if item.isDict then
          resolveTree definitions inline (.item slot (start + i)) item = some item'
        else item' = item) := by
  induction items generalizing items' start i with
  | nil =>
    cases h
    exact Or.inl ⟨rfl, rfl⟩
  | cons item rest ih =>
    simp only [resolveItems, Option.bind_eq_bind, Option.bind_eq_some_iff] at h
    obtain ⟨item', hitem, rest', hrest, heq⟩ := h
    cases heq
    cases i with
    | zero =>
      right
      refine ⟨item, item', rfl, rfl, ?_⟩
      split_ifs at hitem ⊢
      · exact hitem
      · exact (Option.some.inj hitem).symm
    | succ i =>
      have hshift := ih hrest i
      rw [Nat.add_right_comm, Nat.add_assoc] at hshift
      exact hshift

/-- The texts of a list are what they were. -/
theorem texts_resolveItems {inline : Object → Members → Option Schema} {slot : Object}
    {items items' : List Schema} {start : Nat} (hdicts : GivesDicts inline)
    (h : resolveItems definitions inline slot start items = some items') :
    items'.mapM Schema.text = items.mapM Schema.text := by
  induction items generalizing items' start with
  | nil =>
    cases h
    rfl
  | cons item rest ih =>
    simp only [resolveItems, Option.bind_eq_bind, Option.bind_eq_some_iff] at h
    obtain ⟨item', hitem, rest', hrest, heq⟩ := h
    cases heq
    have htext : item'.text = item.text := by
      cases item with
      | obj object members =>
        obtain ⟨object', members', rfl⟩ := resolveTree_obj hdicts hitem
        rfl
      | _ =>
        cases hitem
        rfl
    rw [List.mapM_cons, List.mapM_cons, htext, ih hrest]

/-- The same names are required after inlining. -/
theorem listsExactly_resolved
    (h : ResolvedFrom definitions object members members') (names : List String) :
    ListsExactly (members'.lookup "required") names ↔
      ListsExactly (members.lookup "required") names := by
  unfold ListsExactly
  rcases lookup_resolved h "required" with
    ⟨hnone, hnone'⟩ | ⟨value, value', hv, hv', fuel, hresolve⟩
  · rw [hnone, hnone']
  · have hdicts : GivesDicts (inlineAt definitions fuel) := givesDicts_inlineAt fuel
    have htexts : texts value' = texts value := by
      cases value with
      | arr items =>
        obtain ⟨items', hitems, rfl⟩ := resolveTree_arr hresolve
        exact texts_resolveItems hdicts hitems
      | obj own inner =>
        obtain ⟨own', inner', rfl⟩ := resolveTree_obj hdicts hresolve
        rfl
      | _ =>
        cases hresolve
        rfl
    rw [hv, hv', Option.bind_some, Option.bind_some, htexts]

theorem closed_resolved (h : ResolvedFrom definitions object members members') :
    members'.lookup "additionalProperties" = some (.bool false) ↔
      members.lookup "additionalProperties" = some (.bool false) := by
  obtain ⟨fuel, hmembers⟩ := h
  rcases lookup_resolveMembers hmembers "additionalProperties" with
    ⟨hnone, hnone'⟩ | ⟨value, value', hv, hv', hresolve⟩
  · rw [hnone, hnone']
  · rw [hv, hv', Option.some.injEq, Option.some.injEq]
    exact resolveTree_leaf (givesDicts_inlineAt fuel) hresolve (by simp) (by simp)

theorem lookup_none_resolved (h : ResolvedFrom definitions object members members') (key : String) :
    members'.lookup key = none ↔ members.lookup key = none := by
  rcases lookup_resolved h key with ⟨hnone, hnone'⟩ | ⟨value, value', hv, hv', -⟩
  · rw [hnone, hnone']
  · rw [hv, hv']
    exact iff_of_false (Option.some_ne_none _) (Option.some_ne_none _)

/-- The properties have the same names after inlining. -/
theorem forall_properties_resolved
    (h : ResolvedFrom definitions object members members') {P : List String → Prop} :
    (∀ inner properties, PropertiesOf [] object members' inner properties →
        P (properties.map Prod.fst)) ↔
      ∀ inner properties, PropertiesOf definitions object members inner properties →
        P (properties.map Prod.fst) := by
  constructor
  · intro hall inner properties hproperties
    obtain ⟨properties', hproperties', hfrom⟩ := propertiesOf_resolved h hproperties
    rw [← keys_resolved hfrom]
    exact hall inner properties' hproperties'
  · intro hall inner properties' hproperties'
    obtain ⟨properties, hproperties, hfrom⟩ := resolved_propertiesOf h hproperties'
    rw [keys_resolved hfrom]
    exact hall inner properties hproperties

theorem strictHere_resolved (h : ResolvedFrom definitions object members members') :
    StrictHere [] object members' ↔ StrictHere definitions object members := by
  unfold StrictHere
  rw [isType_resolved h, closed_resolved h]
  simp only [listsExactly_resolved h]
  refine imp_congr_right fun _ => ?_
  exact forall_properties_resolved h (P := fun names => ListsExactly (members.lookup "required") names ∧
    members.lookup "additionalProperties" = some (.bool false))

theorem looseHere_resolved (h : ResolvedFrom definitions object members members') :
    LooseHere [] object members' ↔ LooseHere definitions object members := by
  unfold LooseHere
  rw [isType_resolved h, closed_resolved h, lookup_none_resolved h, lookup_none_resolved h, ne_eq,
    lookup_none_resolved h]
  simp only [listsExactly_resolved h]
  refine imp_congr_right fun _ => and_congr (imp_congr_right fun _ => ?_) ?_
  · have hnone := forall_properties_resolved h (P := fun _ => False)
    rw [← not_iff_not]
    simpa using hnone
  · exact forall_properties_resolved h (P := fun names => (members.lookup "required" = none ∨
      ListsExactly (members.lookup "required") names) ∧
        (members.lookup "additionalProperties" = none ∨
          members.lookup "additionalProperties" = some (.bool false)))

/-! ### Subschemas -/

theorem mem_resolveMembers (h : ResolvedFrom definitions object members members') :
    (∀ name value, (name, value) ∈ members →
      ∃ value', (name, value') ∈ members' ∧
        ValueResolved definitions (.entry object name) value value') ∧
    ∀ name value', (name, value') ∈ members' →
      ∃ value, (name, value) ∈ members ∧
        ValueResolved definitions (.entry object name) value value' := by
  obtain ⟨fuel, hmembers⟩ := h
  induction members generalizing members' with
  | nil =>
    cases hmembers
    simp
  | cons member rest ih =>
    obtain ⟨key, value⟩ := member
    simp only [resolveMembers, Option.bind_eq_bind, Option.bind_eq_some_iff] at hmembers
    obtain ⟨value', hvalue, rest', hrest, heq⟩ := hmembers
    cases heq
    obtain ⟨hforth, hback⟩ := ih hrest
    constructor
    · intro name other hother
      rcases List.mem_cons.mp hother with heq | hother
      · cases heq
        exact ⟨value', List.mem_cons_self, fuel, hvalue⟩
      · obtain ⟨other', hother', hresolved⟩ := hforth name other hother
        exact ⟨other', List.mem_cons_of_mem _ hother', hresolved⟩
    · intro name other' hother'
      rcases List.mem_cons.mp hother' with heq | hother'
      · cases heq
        exact ⟨value, List.mem_cons_self, fuel, hvalue⟩
      · obtain ⟨other, hother, hresolved⟩ := hback name other' hother'
        exact ⟨other, List.mem_cons_of_mem _ hother, hresolved⟩

/-- A subschema is a subschema of the inlined members in the same slot, inlined. -/
theorem child_resolved {slot other : Object} {others : Members}
    (h : ResolvedFrom definitions object members members') {step : Bool} {value : Schema}
    (hchild : Child definitions object members step slot value)
    (hother : Denotes definitions slot value other others) :
    ∃ value', Child [] object members' step slot value' ∧
      ValueResolved definitions slot value value' := by
  cases hchild with
  | property hproperties hmem =>
    obtain ⟨properties', hproperties', hfrom⟩ := propertiesOf_resolved h hproperties
    obtain ⟨value', hvalue', hresolved⟩ := (mem_resolveMembers hfrom).1 _ _ hmem
    rw [← isType_resolved h]
    exact ⟨value', .property hproperties' hvalue', hresolved⟩
  | items hitems =>
    obtain ⟨value', hvalue', hresolved⟩ := lookup_resolved_some h hitems
    rw [← isType_resolved h]
    exact ⟨value', .items hvalue', hresolved⟩
  | @member key values i _ hkey hvalues hmem =>
    obtain ⟨found, hfound, fuel, hresolved⟩ := lookup_resolved_some h hvalues
    obtain ⟨values', hitems, rfl⟩ := resolveTree_arr hresolved
    -- What denotes a dictionary is one, so it was inlined.
    have hdict : value.isDict = true := by
      cases hother <;> rfl
    rcases getElem?_resolveItems hitems i with ⟨hnone, -⟩ | ⟨item, item', hitem, hitem', hsame⟩
    · rw [hmem] at hnone
      cases hnone
    · rw [hmem] at hitem
      cases hitem
      rw [if_pos hdict, Nat.zero_add] at hsame
      exact ⟨item', .member hkey hfound hitem', fuel, hsame⟩

/-- A subschema of the inlined members comes from one of the members, in the same slot. -/
theorem resolved_child {slot other : Object} {others' : Members}
    (h : ResolvedFrom definitions object members members') {step : Bool}
    (hchild : Child [] object members' step slot (.obj other others')) :
    ∃ value, Child definitions object members step slot value ∧
      ValueResolved definitions slot value (.obj other others') := by
  cases hchild with
  | property hproperties hmem =>
    obtain ⟨properties, hproperties', hfrom⟩ := resolved_propertiesOf h hproperties
    obtain ⟨value, hvalue, hresolved⟩ := (mem_resolveMembers hfrom).2 _ _ hmem
    rw [isType_resolved h]
    exact ⟨value, .property hproperties' hvalue, hresolved⟩
  | items hitems =>
    obtain ⟨value, hvalue, hresolved⟩ := resolved_lookup_some h hitems
    rw [isType_resolved h]
    exact ⟨value, .items hvalue, hresolved⟩
  | @member key values i _ hkey hvalues hmem =>
    obtain ⟨found, hfound, fuel, hresolved⟩ := resolved_lookup_some h hvalues
    obtain ⟨items, rfl, hitems⟩ := resolveTree_eq_arr (givesDicts_inlineAt fuel) hresolved
    rcases getElem?_resolveItems hitems i with ⟨-, hnone⟩ | ⟨item, item', hitem, hitem', hsame⟩
    · rw [hmem] at hnone
      cases hnone
    · rw [hmem] at hitem'
      cases hitem'
      split_ifs at hsame with hdict
      · rw [Nat.zero_add] at hsame
        exact ⟨item, .member hkey hfound hitem, fuel, hsame⟩
      · rw [← hsame] at hdict
        exact absurd rfl hdict

/-- The places of a value are places of what it is resolved to. -/
theorem place_resolved {slot : Object} {value : Schema} {walked : Bool}
    (h : Place definitions slot value walked object members) :
    ∀ {value' : Schema}, ValueResolved definitions slot value value' →
      ∃ members', Place [] slot value' walked object members' ∧
        ResolvedFrom definitions object members members' := by
  induction h with
  | here hdenotes =>
    intro value' hresolved
    obtain ⟨members', rfl, hfrom⟩ := denotes_resolved hdenotes hresolved
    exact ⟨members', .here (denotes_nil.mpr rfl), hfrom⟩
  | deeper hdenotes hchild hplace ih =>
    intro value' hresolved
    obtain ⟨members', rfl, hfrom⟩ := denotes_resolved hdenotes hresolved
    obtain ⟨next, others, hnext⟩ : ∃ next others, Denotes definitions _ _ next others := by
      cases hplace with
      | here h => exact ⟨_, _, h⟩
      | deeper h => exact ⟨_, _, h⟩
    obtain ⟨other', hchild', hother⟩ := child_resolved hfrom hchild hnext
    obtain ⟨others', hplace', hfrom'⟩ := ih hother
    exact ⟨others', .deeper (denotes_nil.mpr rfl) hchild' hplace', hfrom'⟩

theorem resolved_place {slot : Object} {value' : Schema} {walked : Bool}
    (h : Place [] slot value' walked object members') :
    ∀ {value : Schema}, ValueResolved definitions slot value value' →
      ∃ members, Place definitions slot value walked object members ∧
        ResolvedFrom definitions object members members' := by
  induction h with
  | here hdenotes =>
    intro value hresolved
    rw [denotes_nil.mp hdenotes] at hresolved
    obtain ⟨members, hdenotes', hfrom⟩ := resolved_denotes hresolved
    exact ⟨members, .here hdenotes', hfrom⟩
  | deeper hdenotes hchild hplace ih =>
    intro value hresolved
    rw [denotes_nil.mp hdenotes] at hresolved
    obtain ⟨members, hdenotes', hfrom⟩ := resolved_denotes hresolved
    obtain ⟨next, others, hnext⟩ : ∃ next others, Denotes [] _ _ next others := by
      cases hplace with
      | here h => exact ⟨_, _, h⟩
      | deeper h => exact ⟨_, _, h⟩
    rw [denotes_nil] at hnext
    subst hnext
    obtain ⟨other, hchild', hother⟩ := resolved_child hfrom hchild
    obtain ⟨others', hplace', hfrom'⟩ := ih hother
    exact ⟨others', .deeper hdenotes' hchild' hplace', hfrom'⟩

theorem tightened_resolved {value value' : Schema} (h : ValueResolved definitions .top value value')
    (object : Object) : Tightened [] value' object ↔ Tightened definitions value object := by
  constructor
  · rintro ⟨members', hplace⟩
    obtain ⟨members, hplace', -⟩ := resolved_place hplace h
    exact ⟨members, hplace'⟩
  · rintro ⟨members, hplace⟩
    obtain ⟨members', hplace', -⟩ := place_resolved hplace h
    exact ⟨members', hplace'⟩

/-- The condition means the same before and after inlining. -/
theorem tightens_inlined {value value' : Schema} (h : ValueResolved definitions .top value value') :
    Tightens [] value' ↔ Tightens definitions value := by
  unfold Tightens
  simp only [tightened_resolved h]
  constructor
  · intro htightens walked object members hplace
    obtain ⟨members', hplace', hfrom⟩ := place_resolved hplace h
    have hhere := htightens walked object members' hplace'
    rwa [looseHere_resolved hfrom, strictHere_resolved hfrom] at hhere
  · intro htightens walked object members' hplace'
    obtain ⟨members, hplace, hfrom⟩ := resolved_place hplace' h
    rw [looseHere_resolved hfrom, strictHere_resolved hfrom]
    exact htightens walked object members hplace

/-! ### References -/

theorem textRef_resolved
    (h : ResolvedFrom definitions object members members') : textRef members' = textRef members := by
  obtain ⟨fuel, hmembers⟩ := h
  exact textRef_congr (lookup_str (givesDicts_inlineAt fuel) hmembers "$ref")

theorem Met.resolved {slot : Object} {value : Schema}
    (h : Met definitions slot value members) : ∀ {value' : Schema},
      ValueResolved definitions slot value value' → ∃ dict ∈ dicts value', textRef dict.2 = textRef members := by
  induction h with
  | here hdenotes =>
    intro value' hresolved
    obtain ⟨members', rfl, hfrom⟩ := denotes_resolved hdenotes hresolved
    exact ⟨_, by rw [dicts]; exact List.mem_cons_self, textRef_resolved hfrom⟩
  | entry hdenotes hmem _ ih =>
    intro value' hresolved
    obtain ⟨members', rfl, hfrom⟩ := denotes_resolved hdenotes hresolved
    obtain ⟨inner', hmem', hinner⟩ := (mem_resolveMembers hfrom).1 _ _ hmem
    obtain ⟨dict, hdict, href⟩ := ih hinner
    exact ⟨dict, List.mem_cons_of_mem _ (mem_memberDicts.mpr ⟨_, _, hmem', hdict⟩), href⟩
  | @item slot items i item found hitem hdict _ ih =>
    rintro value' ⟨fuel, hresolved⟩
    obtain ⟨items', hitems, rfl⟩ := resolveTree_arr hresolved
    rcases getElem?_resolveItems hitems i with ⟨hnone, -⟩ | ⟨item, item', hother, hitem', hsame⟩
    · rw [hitem] at hnone
      cases hnone
    · rw [hitem] at hother
      cases hother
      rw [if_pos hdict, Nat.zero_add] at hsame
      obtain ⟨dict, hmem, href⟩ := ih ⟨fuel, hsame⟩
      exact ⟨dict, mem_itemDicts.mpr ⟨item', List.mem_of_getElem? hitem', hmem⟩, href⟩
  | @kept slot object items item found hitem hdict hmem =>
    rintro value' ⟨fuel, hresolved⟩
    obtain ⟨items', hitems, rfl⟩ := resolveTree_arr hresolved
    obtain ⟨i, hi⟩ := List.mem_iff_getElem?.mp hitem
    rcases getElem?_resolveItems hitems i with ⟨hnone, -⟩ | ⟨item, item', hother, hitem', hsame⟩
    · rw [hi] at hnone
      cases hnone
    · rw [hi] at hother
      cases hother
      rw [hdict] at hsame
      cases hsame
      exact ⟨(object, found), mem_itemDicts.mpr ⟨_, List.mem_of_getElem? hitem', hmem⟩, rfl⟩

theorem resolved_met {value' : Schema} : ∀ {slot : Object} {value : Schema},
    ValueResolved definitions slot value value' → ∀ dict ∈ dicts value',
      ∃ members, Met definitions slot value members ∧ textRef dict.2 = textRef members := by
  induction hsize : sizeOf value' using Nat.strong_induction_on generalizing value' with
  | h size ih =>
    subst hsize
    intro slot value hresolved dict hdict
    cases value' with
    | obj object members' =>
      obtain ⟨members, hdenotes, hfrom⟩ := resolved_denotes hresolved
      rw [dicts] at hdict
      rcases List.mem_cons.mp hdict with rfl | hdict
      · exact ⟨members, .here hdenotes, textRef_resolved hfrom⟩
      · obtain ⟨key, inner', hmem, hdict⟩ := mem_memberDicts.mp hdict
        obtain ⟨inner, hinner, hresolved'⟩ := (mem_resolveMembers hfrom).2 key inner' hmem
        obtain ⟨found, hmet, href⟩ := ih _ (sizeOf_of_mem hmem) rfl hresolved' dict hdict
        exact ⟨found, .entry hdenotes hinner hmet, href⟩
    | arr items' =>
      obtain ⟨fuel, hresolve⟩ := hresolved
      obtain ⟨items, rfl, hitems⟩ := resolveTree_eq_arr (givesDicts_inlineAt fuel) hresolve
      rw [dicts] at hdict
      obtain ⟨item', hmem, hdict⟩ := mem_itemDicts.mp hdict
      obtain ⟨i, hi⟩ := List.mem_iff_getElem?.mp hmem
      rcases getElem?_resolveItems hitems i with ⟨-, hnone⟩ | ⟨item, other, hitem, hother, hsame⟩
      · rw [hi] at hnone
        cases hnone
      · rw [hi] at hother
        cases hother
        split_ifs at hsame with hisdict
        · rw [Nat.zero_add] at hsame
          have hsmaller : sizeOf item' < sizeOf (Schema.arr items') := by
            have hlt := List.sizeOf_lt_of_mem hmem
            simp only [Schema.arr.sizeOf_spec]
            omega
          obtain ⟨found, hmet, href⟩ := ih _ hsmaller rfl ⟨fuel, hsame⟩ dict hdict
          exact ⟨found, .item hitem hisdict hmet, href⟩
        · cases hsame
          exact ⟨dict.2, .kept (List.mem_of_getElem? hitem) (Bool.not_eq_true _ ▸ hisdict) hdict, rfl⟩
    | _ => exact absurd hdict List.not_mem_nil

/-- No reference is left exactly if all that are met name definitions. -/
theorem refless_iff {value value' : Schema} (h : ValueResolved definitions .top value value') :
    Refless value' ↔ AllDefined definitions value := by
  constructor
  · intro hrefless members hmet
    obtain ⟨dict, hdict, href⟩ := hmet.resolved h
    rw [← href]
    exact hrefless dict hdict
  · intro hdefined dict hdict
    obtain ⟨members, hmet, href⟩ := resolved_met h dict hdict
    rw [href]
    exact hdefined members hmet

end Inlined

/-! ## One object, one content -/

section Objects

variable {schema : ModelSchema} {object : Object} {members : Members}

/-- A value of the schema stands in a slot: in a dictionary of the result, or in a list of one. -/
inductive Stands (schema : ModelSchema) : Object → Schema → Prop
  | top : Stands schema .top schema.root
  | entry {slot holder : Object} {value found : Schema} {members : Members} {key : String} :
      Stands schema slot value → Denotes schema.definitions slot value holder members →
        (key, found) ∈ members → Stands schema (.entry holder key) found
  | item {slot : Object} {values : List Schema} {i : Nat} {found : Schema} :
      Stands schema slot (.arr values) → values[i]? = some found → Stands schema (.item slot i) found

/-- An object of the result and the members that it is made from. -/
def Source (schema : ModelSchema) (object : Object) (members : Members) : Prop :=
  ∃ slot value, Stands schema slot value ∧ Denotes schema.definitions slot value object members

/-- The dictionaries of the schema. -/
def ModelSchema.dicts (schema : ModelSchema) : List (Object × Members) :=
  allDicts schema.members schema.definitions

/-- A value of the schema, or a dictionary whose own object is the slot. -/
def Fits (schema : ModelSchema) (slot : Object) (value : Schema) : Prop :=
  dicts value ⊆ schema.dicts ∨ ∃ members, value = .obj slot members ∧
    memberDicts members ⊆ schema.dicts ∧ members ∈ allMembers schema.members schema.definitions

theorem fits_definition {found : Members} (slot : Object)
    (h : definition schema.definitions members = some found) : Fits schema slot (.obj slot found) := by
  obtain ⟨name, -, hlookup⟩ := definition_some h
  have hmem : (name, found) ∈ schema.definitions := mem_of_lookup hlookup
  refine Or.inr ⟨found, rfl, ?_, ?_⟩
  · intro dict hdict
    exact List.mem_append_right _ (List.mem_flatMap.mpr ⟨(name, found), hmem, hdict⟩)
  · exact List.mem_append_left _ (List.mem_cons_of_mem _ (List.mem_map_of_mem hmem))

/-- What a value stands for is a dictionary of the schema, or the object of the slot. -/
theorem Denotes.fits {slot : Object} {value : Schema}
    (h : Denotes schema.definitions slot value object members) (hfits : Fits schema slot value) :
    (object = slot ∨ (object, members) ∈ schema.dicts) ∧ memberDicts members ⊆ schema.dicts ∧
      members ∈ allMembers schema.members schema.definitions := by
  induction h with
  | here =>
    rcases hfits with hdicts | ⟨own, heq, hdicts, hmembers⟩
    · rw [Schemas.dicts, List.cons_subset] at hdicts
      exact ⟨Or.inr hdicts.1, hdicts.2,
        List.mem_append_right _ (List.mem_map.mpr ⟨_, hdicts.1, rfl⟩)⟩
    · cases heq
      exact ⟨Or.inl rfl, hdicts, hmembers⟩
  | there hfound _ ih => exact ih (fits_definition _ hfound)

theorem Stands.fits {slot : Object} {value : Schema} (h : Stands schema slot value) :
    Fits schema slot value := by
  induction h with
  | top =>
    exact Or.inr ⟨schema.members, rfl, List.subset_append_left _ _,
      List.mem_append_left _ List.mem_cons_self⟩
  | entry _ hdenotes hmem ih =>
    refine Or.inl ?_
    intro dict hdict
    exact (hdenotes.fits ih).2.1 (mem_memberDicts.mpr ⟨_, _, hmem, hdict⟩)
  | item _ hmem ih =>
    rcases ih with hdicts | ⟨members, heq, -⟩
    · refine Or.inl ?_
      intro dict hdict
      exact hdicts (mem_itemDicts.mpr ⟨_, List.mem_of_getElem? hmem, hdict⟩)
    · cases heq

theorem given_of_mem (h : (object, members) ∈ schema.dicts) :
    ∃ n, object = .given n := by
  obtain ⟨numbers, -, heq⟩ := schema.fresh
  have hmem : object ∈ schema.dicts.map Prod.fst := List.mem_map_of_mem h
  rw [ModelSchema.dicts, heq] at hmem
  obtain ⟨n, -, rfl⟩ := List.mem_map.mp hmem
  exact ⟨n, rfl⟩

/-- Pydantic's dictionaries are different objects. -/
theorem members_of_given {members' : Members}
    (h : (object, members) ∈ schema.dicts) (h' : (object, members') ∈ schema.dicts) :
    members = members' := by
  obtain ⟨numbers, hnodup, heq⟩ := schema.fresh
  have hobjects : (schema.dicts.map Prod.fst).Nodup := by
    rw [ModelSchema.dicts, heq]
    exact hnodup.map (fun a b hab => by cases hab; rfl)
  exact congrArg Prod.snd (List.inj_on_of_nodup_map hobjects h h' rfl)

/-- Objects of one slot with one value have one content. -/
theorem members_unique
    (hunique : ∀ value value', Stands schema object value → Stands schema object value' →
      value = value') {members' : Members} (h : Source schema object members)
    (h' : Source schema object members') : members = members' := by
  obtain ⟨slot, value, hstands, hdenotes⟩ := h
  obtain ⟨slot', value', hstands', hdenotes'⟩ := h'
  have hgiven : ∀ {n : Nat} {value : Schema}, ¬ Stands schema (.given n) value := by
    intro n value hfalse
    cases hfalse
  rcases (hdenotes.fits hstands.fits).1 with hslot | hdict <;>
    rcases (hdenotes'.fits hstands'.fits).1 with hslot' | hdict'
  · subst hslot hslot'
    cases hunique value value' hstands hstands'
    exact (hdenotes.unique hdenotes').2
  · obtain ⟨n, rfl⟩ := given_of_mem hdict'
    rw [← hslot] at hstands
    exact absurd hstands hgiven
  · obtain ⟨n, rfl⟩ := given_of_mem hdict
    rw [← hslot'] at hstands'
    exact absurd hstands' hgiven
  · exact members_of_given hdict hdict'

theorem Source.keys (h : Source schema object members) :
    (members.map Prod.fst).Nodup := by
  obtain ⟨slot, value, hstands, hdenotes⟩ := h
  exact schema.keys members (hdenotes.fits hstands.fits).2.2

/-- A slot has one value.  The induction is on the slot. -/
theorem Stands.unique {slot : Object} : ∀ {value value' : Schema}, Stands schema slot value →
    Stands schema slot value' → value = value' := by
  induction slot with
  | given n =>
    intro value value' h
    cases h
  | top =>
    intro value value' h h'
    cases h
    cases h'
    rfl
  | entry holder key ih =>
    intro value value' h h'
    cases h with
    | entry hstands hdenotes hmem =>
      cases h' with
      | entry hstands' hdenotes' hmem' =>
        have hsource : Source schema holder _ := ⟨_, _, hstands, hdenotes⟩
        cases members_unique (fun _ _ => ih) hsource ⟨_, _, hstands', hdenotes'⟩
        exact congrArg Prod.snd (List.inj_on_of_nodup_map hsource.keys hmem hmem' rfl)
  | item slot i ih =>
    intro value value' h h'
    cases h with
    | item hvalues hitem =>
      cases h' with
      | item hvalues' hitem' =>
        cases ih hvalues hvalues'
        exact Option.some.inj (hitem.symm.trans hitem')

/-- An object has the same members wherever it stands. -/
theorem one_content {members' : Members} (h : Source schema object members)
    (h' : Source schema object members') : members = members' :=
  members_unique (fun _ _ => Stands.unique) h h'

theorem Source.stands (h : Source schema object members)
    {key : String} {value : Schema} (hmem : (key, value) ∈ members) :
    Stands schema (.entry object key) value := by
  obtain ⟨slot, holder, hstands, hdenotes⟩ := h
  exact .entry hstands hdenotes hmem

theorem Source.properties {inner : Object} {properties : Members} (h : Source schema object members)
    (hproperties : PropertiesOf schema.definitions object members inner properties) :
    Source schema inner properties := by
  obtain ⟨value, hvalue, hdenotes⟩ := hproperties
  exact ⟨_, _, h.stands (mem_of_lookup hvalue), hdenotes⟩

theorem Source.child {slot : Object} (h : Source schema object members)
    {step : Bool} {value : Schema} (hchild : Child schema.definitions object members step slot value) :
    Stands schema slot value := by
  cases hchild with
  | property hproperties hmem => exact (h.properties hproperties).stands hmem
  | items hitems => exact h.stands (mem_of_lookup hitems)
  | member _ hvalues hmem => exact .item (h.stands (mem_of_lookup hvalues)) hmem

/-- What stands at a place is an object of the result. -/
theorem Place.source {slot : Object} {value : Schema} {walked : Bool}
    (h : Place schema.definitions slot value walked object members) (hstands : Stands schema slot value) :
    Source schema object members := by
  induction h with
  | here hdenotes => exact ⟨_, _, hstands, hdenotes⟩
  | deeper hdenotes hchild _ ih => exact ih (Source.child ⟨_, _, hstands, hdenotes⟩ hchild)

/-- Properties are no object of a schema, where the schema is well formed. -/
theorem WellFormed.not_object (hwell : WellFormed schema) {walked : Bool} {inner : Object}
    {properties : Members}
    (hplace : Place schema.definitions .top schema.root walked object members)
    (hproperties : PropertiesOf schema.definitions object members inner properties) :
    isType "object" properties = false := by
  rw [← Bool.not_eq_true, isType_iff]
  intro hobject
  have hschema := hwell walked object members inner properties hplace hproperties _
    (mem_of_lookup hobject)
  cases hschema

/-- A dictionary whose properties stand in it, all schemas. -/
def plainProperties (definitions : List (String × Members)) (members : Members) : Bool :=
  match members.lookup "properties" with
  | some (.obj _ properties) =>
    (reference definitions properties).isNone &&
      properties.all (fun property => property.2.isSchema)
  | _ => true

theorem wellFormed_of_plain
    (h : ∀ members ∈ allMembers schema.members schema.definitions,
      plainProperties schema.definitions members = true) : WellFormed schema := by
  rintro walked object members inner properties hplace ⟨value, hvalue, hdenotes⟩ property hmem
  obtain ⟨slot, holder, hstands, hholder⟩ := hplace.source .top
  have hplain := h members (hholder.fits hstands.fits).2.2
  unfold plainProperties at hplain
  rw [hvalue] at hplain
  cases hdenotes with
  | here =>
    rw [Bool.and_eq_true, List.all_eq_true] at hplain
    exact hplain.2 property hmem
  | there hfound _ =>
    obtain ⟨name, hname, -⟩ := definition_some hfound
    simp [hname] at hplain

end Objects

/-! ## Where tightening walks -/

section Walking

variable {object : Object} {members : Members}

theorem not_array_of_object (h : isType "object" members = true) :
    isType "array" members = false := by
  rw [isType_iff] at h
  simp [isType, h]

/-- The subschemas without definitions. -/
theorem child_nil {slot : Object} {step : Bool} {value : Schema} :
    Child [] object members step slot value ↔
      (∃ inner properties name, members.lookup "properties" = some (.obj inner properties) ∧
          (name, value) ∈ properties ∧ step = isType "object" members ∧ slot = .entry inner name) ∨
        (members.lookup "items" = some value ∧ step = isType "array" members ∧
            slot = .entry object "items") ∨
          ∃ key ∈ ["anyOf", "allOf", "oneOf", "prefixItems"], ∃ values, ∃ i : Nat,
            members.lookup key = some (.arr values) ∧ values[i]? = some value ∧ step = false ∧
              slot = .item (.entry object key) i := by
  constructor
  · intro h
    cases h with
    | property hproperties hmem =>
      exact Or.inl ⟨_, _, _, propertiesOf_nil.mp hproperties, hmem, rfl, rfl⟩
    | items hitems => exact Or.inr (Or.inl ⟨hitems, rfl, rfl⟩)
    | member hkey hvalues hmem =>
      exact Or.inr (Or.inr ⟨_, hkey, _, _, hvalues, hmem, rfl, rfl⟩)
  · rintro (⟨inner, properties, name, hproperties, hmem, rfl, rfl⟩ | ⟨hitems, rfl, rfl⟩ |
      ⟨key, hkey, values, i, hvalues, hmem, rfl, rfl⟩)
    · exact .property (propertiesOf_nil.mpr hproperties) hmem
    · exact .items hitems
    · exact .member hkey hvalues hmem

/-- The values that tightening goes to from a dictionary, with their slots. -/
def walkedTo (object : Object) (members : Members) : List (Object × Schema) :=
  if isType "object" members then
    match members.lookup "properties" with
    | some (.obj inner properties) =>
      properties.map (fun property => (.entry inner property.1, property.2))
    | _ => []
  else if isType "array" members then
    match members.lookup "items" with
    | some value => [(.entry object "items", value)]
    | none => []
  else
    []

theorem child_walked {slot : Object} {value : Schema} :
    Child [] object members true slot value ↔ (slot, value) ∈ walkedTo object members := by
  rw [child_nil, walkedTo]
  constructor
  · rintro (⟨inner, properties, name, hproperties, hmem, hobject, rfl⟩ | ⟨hitems, harray, rfl⟩ |
      ⟨key, -, values, i, -, -, hfalse, -⟩)
    · rw [← hobject, if_pos rfl, hproperties]
      exact List.mem_map.mpr ⟨(name, value), hmem, rfl⟩
    · have hobject : isType "object" members = false := by
        rw [← Bool.not_eq_true]
        intro hobject
        rw [not_array_of_object hobject] at harray
        cases harray
      rw [hobject, ← harray, if_neg Bool.false_ne_true, if_pos rfl, hitems]
      exact List.mem_singleton_self _
    · cases hfalse
  · intro hmem
    split_ifs at hmem with hobject harray
    · split at hmem
      · rename_i inner properties hproperties
        obtain ⟨⟨name, found⟩, hproperty, heq⟩ := List.mem_map.mp hmem
        cases heq
        exact Or.inl ⟨inner, properties, name, hproperties, hproperty, hobject.symm, rfl⟩
      · cases hmem
    · split at hmem
      · rename_i hitems
        cases List.mem_singleton.mp hmem
        exact Or.inr (Or.inl ⟨hitems, harray.symm, rfl⟩)
      · cases hmem
    · cases hmem

/-- The dictionary of a place. -/
theorem Place.dict {slot : Object} {value : Schema} {walked : Bool}
    (h : Place [] slot value walked object members) : ∃ own found, value = .obj own found := by
  cases h with
  | here hdenotes => exact ⟨_, _, denotes_nil.mp hdenotes⟩
  | deeper hdenotes => exact ⟨_, _, denotes_nil.mp hdenotes⟩

/-- A place that is walked to is the dictionary itself, or below a place that is walked to. -/
theorem place_walked {slot own : Object} {found : Members} :
    Place [] slot (.obj own found) true object members ↔
      (object = own ∧ members = found) ∨ ∃ slot' value',
        Child [] own found true slot' value' ∧ Place [] slot' value' true object members := by
  constructor
  · intro h
    generalize hwalked : true = walked at h
    cases h with
    | here hdenotes =>
      cases denotes_nil.mp hdenotes
      exact Or.inl ⟨rfl, rfl⟩
    | deeper hdenotes hchild hplace =>
      cases denotes_nil.mp hdenotes
      obtain ⟨rfl, rfl⟩ := Bool.and_eq_true_iff.mp hwalked.symm
      exact Or.inr ⟨_, _, hchild, hplace⟩
  · rintro (⟨rfl, rfl⟩ | ⟨slot', value', hchild, hplace⟩)
    · exact .here (denotes_nil.mpr rfl)
    · exact .deeper (denotes_nil.mpr rfl) hchild hplace

/-- The calls of the two `setdefault`s for a dictionary. -/
def ownClosing (object : Object) (members : Members) : List Closing :=
  if isType "object" members then
    match members.lookup "properties" with
    | some (.obj inner properties) => [⟨object, inner, properties⟩]
    | _ => []
  else
    []

theorem mem_ownClosing {closing : Closing} :
    closing ∈ ownClosing object members ↔ closing.object = object ∧ isType "object" members = true ∧
      members.lookup "properties" = some (.obj closing.inner closing.properties) := by
  obtain ⟨own, inner, properties⟩ := closing
  unfold ownClosing
  cases isType "object" members with
  | true =>
    cases members.lookup "properties" with
    | none => simp
    | some found => cases found <;> simp [eq_comm]
  | false => simp

/-- Tightening does not raise here: properties of an object have keys. -/
def Walkable (members : Members) : Prop :=
  isType "object" members = true → ∀ value, members.lookup "properties" = some value →
    value.isDict = true

/-- Tightening gives the two defaults in a place. -/
def Closes (slot : Object) (value : Schema) (closing : Closing) : Prop :=
  ∃ members, Place [] slot value true closing.object members ∧
    closing ∈ ownClosing closing.object members

/-- The calls for some values, in turn. -/
@[simp]
def callsOf : List (Object × Schema) → Option (List Closing)
  | [] => some []
  | (_, value) :: rest => do
      let first ← makeStrict value
      let rest ← callsOf rest
      some (first ++ rest)

theorem strictProperties_eq {properties : Members} {inner : Object}
    (h : members.lookup "properties" = some (.obj inner properties)) :
    strictProperties members = strictValues properties := by
  induction members with
  | nil => cases h
  | cons member rest ih =>
    obtain ⟨key, value⟩ := member
    by_cases hkey : key = "properties"
    · subst hkey
      simp only [List.lookup_cons, beq_self_eq_true, Option.some.injEq] at h
      rw [h]
      simp [strictProperties]
    · have hne : ("properties" == key) = false := by simpa using Ne.symm hkey
      rw [List.lookup_cons, hne] at h
      rw [strictProperties.eq_def]
      simp only [if_neg hkey]
      exact ih h

theorem strictItems_eq (members : Members) :
    strictItems members = ((members.lookup "items").map makeStrict).getD (some []) := by
  induction members with
  | nil => rfl
  | cons member rest ih =>
    obtain ⟨key, found⟩ := member
    by_cases hkey : key = "items"
    · subst hkey
      simp [strictItems]
    · have hne : ("items" == key) = false := by simpa using Ne.symm hkey
      rw [List.lookup_cons, hne, strictItems, if_neg hkey, ih]

theorem strictValues_eq (inner : Object) (properties : Members) :
    strictValues properties =
      callsOf (properties.map (fun property => (.entry inner property.1, property.2))) := by
  induction properties with
  | nil => rfl
  | cons property rest ih => rw [List.map_cons, callsOf, strictValues, ih]

/-- What `make_strict` does with a dictionary: the two defaults, and then the walk. -/
theorem makeStrict_walkable (h : Walkable members) :
    makeStrict (.obj object members) =
      (callsOf (walkedTo object members)).map (ownClosing object members ++ ·) := by
  rw [makeStrict, walkedTo, ownClosing]
  cases hobject : isType "object" members with
  | true =>
    cases hproperties : members.lookup "properties" with
    | none => simp
    | some found =>
      have hdict := h hobject found hproperties
      cases found with
      | obj inner properties =>
        simp [strictProperties_eq hproperties, strictValues_eq inner]
      | _ => cases hdict
  | false =>
    cases harray : isType "array" members with
    | true =>
      rw [strictItems_eq]
      cases hitems : members.lookup "items" with
      | none => simp
      | some value => cases hmake : makeStrict value <;> simp [hmake]
    | false => simp

theorem makeStrict_raises (h : ¬ Walkable members) :
    makeStrict (.obj object members) = none := by
  simp only [Walkable, not_forall] at h
  obtain ⟨hobject, value, hvalue, hdict⟩ := h
  rw [makeStrict, if_pos hobject, hvalue]
  cases value with
  | obj inner properties => exact absurd rfl hdict
  | _ => rfl

theorem mem_callsOf {values : List (Object × Schema)} {closings : List Closing}
    (h : callsOf values = some closings) (closing : Closing) :
    closing ∈ closings ↔ ∃ slot value found, (slot, value) ∈ values ∧
      makeStrict value = some found ∧ closing ∈ found := by
  induction values generalizing closings with
  | nil =>
    cases h
    simp
  | cons first rest ih =>
    obtain ⟨slot, value⟩ := first
    simp only [callsOf, Option.bind_eq_bind, Option.bind_eq_some_iff] at h
    obtain ⟨own, hown, others, hothers, heq⟩ := h
    cases heq
    rw [List.mem_append, ih hothers]
    constructor
    · rintro (hmem | ⟨slot', value', found, hmem, hfound, hclosing⟩)
      · exact ⟨slot, value, own, List.mem_cons_self, hown, hmem⟩
      · exact ⟨slot', value', found, List.mem_cons_of_mem _ hmem, hfound, hclosing⟩
    · rintro ⟨slot', value', found, hmem, hfound, hclosing⟩
      rcases List.mem_cons.mp hmem with heq | hmem
      · cases heq
        rw [hown] at hfound
        cases hfound
        exact Or.inl hclosing
      · exact Or.inr ⟨slot', value', found, hmem, hfound, hclosing⟩

theorem callsOf_eq_none {values : List (Object × Schema)} :
    callsOf values = none ↔ ∃ slot value, (slot, value) ∈ values ∧ makeStrict value = none := by
  induction values with
  | nil => simp
  | cons first rest ih =>
    obtain ⟨slot, value⟩ := first
    cases hown : makeStrict value with
    | none => simpa [hown] using ⟨slot, value, Or.inl ⟨rfl, rfl⟩, hown⟩
    | some own =>
      cases hothers : callsOf rest with
      | none =>
        obtain ⟨slot', value', hmem, hnone⟩ := ih.mp hothers
        simpa [hown, hothers] using ⟨slot', value', Or.inr hmem, hnone⟩
      | some others =>
        simp only [callsOf, hown, hothers, Option.bind_eq_bind, Option.bind_some,
          reduceCtorEq, false_iff, not_exists, not_and]
        intro slot' value' hmem hnone
        rcases List.mem_cons.mp hmem with heq | hmem
        · cases heq
          rw [hown] at hnone
          cases hnone
        · have hfalse := ih.mpr ⟨slot', value', hmem, hnone⟩
          rw [hothers] at hfalse
          cases hfalse

theorem sizeOf_walkedTo {slot : Object} {value : Schema}
    (h : (slot, value) ∈ walkedTo object members) :
    sizeOf value < sizeOf (Schema.obj object members) := by
  rcases child_nil.mp (child_walked.mpr h) with
    ⟨inner, properties, name, hproperties, hmem, -⟩ | ⟨hitems, -⟩ | ⟨key, -, values, i, -, -, hfalse, -⟩
  · exact (sizeOf_of_mem hmem).trans (sizeOf_of_mem (mem_of_lookup hproperties))
  · exact sizeOf_of_mem (mem_of_lookup hitems)
  · cases hfalse

theorem not_place {slot : Object} {value : Schema} {walked : Bool}
    (h : ∀ own found, value ≠ .obj own found) : ¬ Place [] slot value walked object members := by
  intro hplace
  obtain ⟨own, found, heq⟩ := hplace.dict
  exact h own found heq

/-- `make_strict` calls the `setdefault`s exactly where `Closes` says, and raised nowhere.  The induction
is on the size of the value. -/
theorem makeStrict_some {value : Schema} {closings : List Closing}
    (h : makeStrict value = some closings) (slot : Object) :
    (∀ closing, closing ∈ closings ↔ Closes slot value closing) ∧
      ∀ object members, Place [] slot value true object members → Walkable members := by
  induction hsize : sizeOf value using Nat.strong_induction_on generalizing value closings slot with
  | h size ih =>
    subst hsize
    cases value with
    | obj own found =>
      have hwalkable : Walkable found := by
        by_contra hraises
        rw [makeStrict_raises hraises] at h
        cases h
      rw [makeStrict_walkable hwalkable] at h
      obtain ⟨others, hothers, rfl⟩ := Option.map_eq_some_iff.mp h
      have hbelow : ∀ {slot' value'}, (slot', value') ∈ walkedTo own found →
          ∃ closings', makeStrict value' = some closings' ∧
            (∀ closing, closing ∈ closings' ↔ Closes slot' value' closing) ∧
              ∀ object members, Place [] slot' value' true object members → Walkable members := by
        intro slot' value' hmem
        cases hmake : makeStrict value' with
        | none =>
          rw [callsOf_eq_none.mpr ⟨slot', value', hmem, hmake⟩] at hothers
          cases hothers
        | some closings' => exact ⟨closings', rfl, ih _ (sizeOf_walkedTo hmem) hmake slot' rfl⟩
      constructor
      · intro closing
        rw [List.mem_append, mem_callsOf hothers]
        constructor
        · rintro (hown | ⟨slot', value', closings', hmem, hmake, hclosing⟩)
          · have heq := (mem_ownClosing.mp hown).1
            exact ⟨found, place_walked.mpr (Or.inl ⟨heq, rfl⟩), heq ▸ hown⟩
          · obtain ⟨found', hmake', hcloses, -⟩ := hbelow hmem
            rw [hmake] at hmake'
            cases hmake'
            obtain ⟨members, hplace, hrest⟩ := (hcloses closing).mp hclosing
            exact ⟨members, place_walked.mpr
              (Or.inr ⟨slot', value', child_walked.mpr hmem, hplace⟩), hrest⟩
        · rintro ⟨members, hplace, hrest⟩
          rcases place_walked.mp hplace with ⟨heq, rfl⟩ | ⟨slot', value', hchild, hplace'⟩
          · exact Or.inl (heq ▸ hrest)
          · have hmem := child_walked.mp hchild
            obtain ⟨closings', hmake, hcloses, -⟩ := hbelow hmem
            exact Or.inr ⟨slot', value', closings', hmem, hmake,
              (hcloses closing).mpr ⟨members, hplace', hrest⟩⟩
      · intro object members hplace
        rcases place_walked.mp hplace with ⟨-, rfl⟩ | ⟨slot', value', hchild, hplace'⟩
        · exact hwalkable
        · obtain ⟨-, -, -, hwalks⟩ := hbelow (child_walked.mp hchild)
          exact hwalks object members hplace'
    | _ =>
      cases h
      exact ⟨fun closing => iff_of_false List.not_mem_nil
        (fun ⟨members, hplace, _⟩ => not_place (by simp) hplace),
        fun object members hplace => absurd hplace (not_place (by simp))⟩

/-- Where `make_strict` raises, it walked to an object whose properties have no keys. -/
theorem makeStrict_none {value : Schema} (h : makeStrict value = none) (slot : Object) :
    ∃ object members, Place [] slot value true object members ∧ ¬ Walkable members := by
  induction hsize : sizeOf value using Nat.strong_induction_on generalizing value slot with
  | h size ih =>
    subst hsize
    cases value with
    | obj own found =>
      by_cases hwalkable : Walkable found
      · rw [makeStrict_walkable hwalkable, Option.map_eq_none_iff, callsOf_eq_none] at h
        obtain ⟨slot', value', hmem, hnone⟩ := h
        obtain ⟨object, members, hplace, hraises⟩ :=
          ih _ (sizeOf_walkedTo hmem) hnone slot' rfl
        exact ⟨object, members, place_walked.mpr
          (Or.inr ⟨slot', value', child_walked.mpr hmem, hplace⟩), hraises⟩
      · exact ⟨own, found, place_walked.mpr (Or.inl ⟨rfl, rfl⟩), hwalkable⟩
    | _ => cases h

end Walking

/-! ## What the defaults change -/

section Settling

variable {closed : Closed} {object : Object} {members : Members}

theorem lookup_setdefault (key : String) (value : Schema) (members : Members) (name : String) :
    (setdefault key value members).lookup name =
      if name = key then some ((members.lookup key).getD value) else members.lookup name := by
  unfold setdefault
  split_ifs with hthere hname hname
  · subst hname
    obtain ⟨old, hold⟩ := Option.isSome_iff_exists.mp hthere
    rw [hold, Option.getD_some]
  · rfl
  · subst hname
    rw [Option.not_isSome_iff_eq_none] at hthere
    simp [List.lookup_append, hthere]
  · have hne : (name == key) = false := by simpa using hname
    simp [List.lookup_append, List.lookup_cons, hne]

/-- A dictionary that is closed has its own two members, or the defaults. -/
theorem lookup_closeObject (names : List String) (members : Members) (key : String) :
    (closeObject names members).lookup key =
      if key = "additionalProperties" then
        some ((members.lookup "additionalProperties").getD (.bool false))
      else if key = "required" then
        some ((members.lookup "required").getD (nameList names))
      else
        members.lookup key := by
  unfold closeObject
  rw [lookup_setdefault, lookup_setdefault, lookup_setdefault]
  simp

/-- The members of a dictionary in the result. -/
def settled (closed : Closed) (object : Object) (members : Members) : Members :=
  shown closed object (settleMembers closed members)

/-- A dictionary without the defaults. -/
theorem settled_of_open (h : closed.lookup object = none) (members : Members) :
    settled closed object members = settleMembers closed members := by
  rw [settled, shown, h]

/-- A dictionary with the defaults. -/
theorem settled_of_closed {names : List String} (h : closed.lookup object = some names)
    (members : Members) :
    settled closed object members = closeObject names (settleMembers closed members) := by
  rw [settled, shown, h]

theorem settleMembers_eq (members : Members) :
    settleMembers closed members = members.map (fun member => (member.1, settle closed member.2)) := by
  induction members with
  | nil => rfl
  | cons member rest ih => rw [settleMembers, List.map_cons, ih]

theorem settleItems_eq (items : List Schema) : settleItems closed items = items.map (settle closed) := by
  induction items with
  | nil => rfl
  | cons item rest ih => rw [settleItems, List.map_cons, ih]

theorem lookup_settleMembers (members : Members) (key : String) :
    (settleMembers closed members).lookup key = (members.lookup key).map (settle closed) := by
  induction members with
  | nil => rfl
  | cons member rest ih =>
    obtain ⟨name, value⟩ := member
    by_cases hkey : key = name
    · subst hkey
      simp
    · have hne : (key == name) = false := by simpa using hkey
      rw [settleMembers, List.lookup_cons, List.lookup_cons, hne]
      exact ih

theorem keys_settleMembers (members : Members) :
    (settleMembers closed members).map Prod.fst = members.map Prod.fst := by
  rw [settleMembers_eq, List.map_map]
  rfl

/-- The two members that the defaults set apart, a dictionary has what it had. -/
theorem lookup_settled {key : String} (hrequired : key ≠ "required")
    (hadditional : key ≠ "additionalProperties") (object : Object) (members : Members) :
    (settled closed object members).lookup key = (members.lookup key).map (settle closed) := by
  rw [← lookup_settleMembers]
  cases hclosed : closed.lookup object with
  | none => rw [settled_of_open hclosed]
  | some names =>
    rw [settled_of_closed hclosed, lookup_closeObject, if_neg hadditional, if_neg hrequired]

/-- A value that is neither a dictionary nor a list is in the result what it was. -/
theorem settle_leaf {value leaf : Schema} (hobj : ∀ object members, leaf ≠ .obj object members)
    (harr : ∀ items, leaf ≠ .arr items) : settle closed value = leaf ↔ value = leaf := by
  cases value with
  | obj object members => exact iff_of_false (Ne.symm (hobj _ _)) (Ne.symm (hobj _ _))
  | arr items => exact iff_of_false (Ne.symm (harr _)) (Ne.symm (harr _))
  | _ => rfl

theorem settle_obj {value : Schema} {members' : Members} :
    settle closed value = .obj object members' ↔
      ∃ members, value = .obj object members ∧ members' = settled closed object members := by
  cases value with
  | obj own members =>
    rw [settle, Schema.obj.injEq]
    constructor
    · rintro ⟨rfl, rfl⟩
      exact ⟨members, rfl, rfl⟩
    · rintro ⟨found, heq, rfl⟩
      cases heq
      exact ⟨rfl, rfl⟩
  | _ => simp

theorem settle_arr {value : Schema} {items' : List Schema} :
    settle closed value = .arr items' ↔
      ∃ items, value = .arr items ∧ items' = items.map (settle closed) := by
  cases value with
  | arr items =>
    rw [settle, settleItems_eq, Schema.arr.injEq]
    constructor
    · rintro rfl
      exact ⟨items, rfl, rfl⟩
    · rintro ⟨found, heq, rfl⟩
      cases heq
      rfl
  | _ => simp

theorem isType_settled (kind : String) (object : Object) (members : Members) :
    isType kind (settled closed object members) = isType kind members := by
  refine isType_congr ?_
  rw [lookup_settled (by decide) (by decide), Option.map_eq_some_iff]
  constructor
  · rintro ⟨value, hvalue, heq⟩
    rw [hvalue, (settle_leaf (by simp) (by simp)).mp heq]
  · intro hvalue
    exact ⟨_, hvalue, rfl⟩

theorem propertiesOf_settled {inner : Object} {properties' : Members} :
    PropertiesOf [] object (settled closed object members) inner properties' ↔
      ∃ properties, PropertiesOf [] object members inner properties ∧
        properties' = settled closed inner properties := by
  rw [propertiesOf_nil, lookup_settled (by decide) (by decide), Option.map_eq_some_iff]
  simp only [settle_obj, propertiesOf_nil]
  constructor
  · rintro ⟨value, hvalue, properties, rfl, rfl⟩
    exact ⟨properties, hvalue, rfl⟩
  · rintro ⟨properties, hproperties, rfl⟩
    exact ⟨_, hproperties, properties, rfl, rfl⟩

/-- The defaults are no dictionaries. -/
theorem mem_settled {own : Object} {found' : Members} {name : String} :
    (name, Schema.obj own found') ∈ settled closed object members ↔
      ∃ value, (name, value) ∈ members ∧ settle closed value = .obj own found' := by
  have hdefault : ∀ {key : String} {value : Schema} {members : Members},
      value.isDict = false → ((name, Schema.obj own found') ∈ setdefault key value members ↔
        (name, Schema.obj own found') ∈ members) := by
    intro key value members hvalue
    unfold setdefault
    split_ifs
    · rfl
    · rw [List.mem_append, List.mem_singleton]
      refine or_iff_left ?_
      intro heq
      cases heq
      cases hvalue
  have hshown : (name, Schema.obj own found') ∈ settled closed object members ↔
      (name, Schema.obj own found') ∈ settleMembers closed members := by
    cases hclosed : closed.lookup object with
    | none => rw [settled_of_open hclosed]
    | some names => rw [settled_of_closed hclosed, closeObject, hdefault rfl, hdefault rfl]
  rw [hshown, settleMembers_eq, List.mem_map]
  constructor
  · rintro ⟨⟨key, value⟩, hmem, heq⟩
    simp only [Prod.mk.injEq] at heq
    obtain ⟨rfl, hvalue⟩ := heq
    exact ⟨value, hmem, hvalue⟩
  · rintro ⟨value, hmem, heq⟩
    exact ⟨(name, value), hmem, by rw [heq]⟩

/-- The subschemas of a dictionary in the result. -/
theorem child_settled {slot own : Object} {found' : Members} {step : Bool} :
    Child [] object (settled closed object members) step slot (.obj own found') ↔
      ∃ value, Child [] object members step slot value ∧ settle closed value = .obj own found' := by
  constructor
  · intro h
    rcases child_nil.mp h with ⟨inner, properties', name, hproperties, hmem, hstep, hslot⟩ |
      ⟨hitems, hstep, hslot⟩ | ⟨key, hkey, values', i, hvalues, hmem, hstep, hslot⟩
    · rw [isType_settled] at hstep
      obtain ⟨properties, hproperties', rfl⟩ :=
        propertiesOf_settled.mp (propertiesOf_nil.mpr hproperties)
      obtain ⟨value, hmem', heq⟩ := mem_settled.mp hmem
      exact ⟨value, child_nil.mpr (Or.inl ⟨inner, properties, name,
        propertiesOf_nil.mp hproperties', hmem', hstep, hslot⟩), heq⟩
    · rw [isType_settled] at hstep
      rw [lookup_settled (by decide) (by decide), Option.map_eq_some_iff] at hitems
      obtain ⟨value, hvalue, heq⟩ := hitems
      exact ⟨value, child_nil.mpr (Or.inr (Or.inl ⟨hvalue, hstep, hslot⟩)), heq⟩
    · rw [lookup_settled (by rintro rfl; simp at hkey) (by rintro rfl; simp at hkey),
        Option.map_eq_some_iff] at hvalues
      obtain ⟨found, hfound, heq⟩ := hvalues
      obtain ⟨values, rfl, rfl⟩ := settle_arr.mp heq
      rw [List.getElem?_map, Option.map_eq_some_iff] at hmem
      obtain ⟨value, hvalue, heq'⟩ := hmem
      exact ⟨value, child_nil.mpr
        (Or.inr (Or.inr ⟨key, hkey, values, i, hfound, hvalue, hstep, hslot⟩)), heq'⟩
  · rintro ⟨value, h, heq⟩
    rcases child_nil.mp h with ⟨inner, properties, name, hproperties, hmem, hstep, hslot⟩ |
      ⟨hitems, hstep, hslot⟩ | ⟨key, hkey, values, i, hvalues, hmem, hstep, hslot⟩
    · refine child_nil.mpr (Or.inl ⟨inner, settled closed inner properties, name, ?_,
        mem_settled.mpr ⟨value, hmem, heq⟩, by rw [isType_settled]; exact hstep, hslot⟩)
      exact propertiesOf_nil.mp
        (propertiesOf_settled.mpr ⟨properties, propertiesOf_nil.mpr hproperties, rfl⟩)
    · refine child_nil.mpr (Or.inr (Or.inl ⟨?_, by rw [isType_settled]; exact hstep, hslot⟩))
      rw [lookup_settled (by decide) (by decide), hitems, Option.map_some, heq]
    · refine child_nil.mpr (Or.inr (Or.inr
        ⟨key, hkey, values.map (settle closed), i, ?_, ?_, hstep, hslot⟩))
      · rw [lookup_settled (by rintro rfl; simp at hkey) (by rintro rfl; simp at hkey), hvalues,
          Option.map_some, settle_arr.mpr ⟨values, rfl, rfl⟩]
      · rw [List.getElem?_map, hmem, Option.map_some, heq]

/-- The places of the result are the places that it was made from, with the defaults. -/
theorem place_settled {slot : Object} {value : Schema} {walked : Bool} {members' : Members} :
    Place [] slot (settle closed value) walked object members' ↔
      ∃ members, Place [] slot value walked object members ∧
        members' = settled closed object members := by
  constructor
  · intro h
    generalize hvalue : settle closed value = value' at h
    induction h generalizing value with
    | here hdenotes =>
      rw [denotes_nil.mp hdenotes, settle_obj] at hvalue
      obtain ⟨members, rfl, rfl⟩ := hvalue
      exact ⟨members, .here (denotes_nil.mpr rfl), rfl⟩
    | deeper hdenotes hchild hplace ih =>
      rw [denotes_nil.mp hdenotes, settle_obj] at hvalue
      obtain ⟨members, rfl, rfl⟩ := hvalue
      obtain ⟨own, found, rfl⟩ := hplace.dict
      obtain ⟨next, hchild', heq⟩ := child_settled.mp hchild
      obtain ⟨others, hplace', heq'⟩ := ih heq
      exact ⟨others, .deeper (denotes_nil.mpr rfl) hchild' hplace', heq'⟩
  · rintro ⟨members, h, rfl⟩
    induction h with
    | here hdenotes =>
      rw [denotes_nil.mp hdenotes]
      exact .here (denotes_nil.mpr rfl)
    | deeper hdenotes hchild hplace ih =>
      rw [denotes_nil.mp hdenotes]
      obtain ⟨own, found, rfl⟩ := hplace.dict
      exact .deeper (denotes_nil.mpr rfl)
        (child_settled.mpr ⟨_, hchild, settle_obj.mpr ⟨found, rfl, rfl⟩⟩) ih

/-! ### The two members -/

theorem listsExactly_settled (required : Option Schema) (names : List String) :
    ListsExactly (required.map (settle closed)) names ↔ ListsExactly required names := by
  have htext : Schema.text ∘ settle closed = Schema.text := by
    funext value
    cases value <;> rfl
  have htexts : texts ∘ settle closed = texts := by
    funext value
    cases value with
    | arr items => simp only [Function.comp_apply, settle, settleItems_eq, texts, List.mapM_map, htext]
    | _ => rfl
  unfold ListsExactly
  rw [Option.bind_map, htexts]

/-- The names of the properties are what `required` is set to. -/
theorem listsExactly_nameList (names : List String) : ListsExactly (some (nameList names)) names := by
  have htexts : (names.map Schema.str).mapM Schema.text = some names := by
    induction names with
    | nil => rfl
    | cons name rest ih => simp [ih, Schema.text]
  exact ⟨names, htexts, fun _ => Iff.rfl⟩

theorem map_settle_false {found : Option Schema} :
    found.map (settle closed) = some (.bool false) ↔ found = some (.bool false) := by
  rw [Option.map_eq_some_iff]
  constructor
  · rintro ⟨value, rfl, heq⟩
    rw [(settle_leaf (by simp) (by simp)).mp heq]
  · rintro rfl
    exact ⟨_, rfl, rfl⟩

/-- Properties that are not closed keep their names. -/
theorem forall_properties_settled
    (hquiet : ∀ inner properties, PropertiesOf [] object members inner properties →
      closed.lookup inner = none) {P : List String → Prop} :
    (∀ inner properties, PropertiesOf [] object (settled closed object members) inner properties →
        P (properties.map Prod.fst)) ↔
      ∀ inner properties, PropertiesOf [] object members inner properties →
        P (properties.map Prod.fst) := by
  have hkeys : ∀ inner properties, PropertiesOf [] object members inner properties →
      (settled closed inner properties).map Prod.fst = properties.map Prod.fst := by
    intro inner properties hproperties
    rw [settled_of_open (hquiet inner properties hproperties)]
    exact keys_settleMembers properties
  constructor
  · intro hall inner properties hproperties
    rw [← hkeys inner properties hproperties]
    exact hall inner _ (propertiesOf_settled.mpr ⟨properties, hproperties, rfl⟩)
  · intro hall inner properties' hproperties'
    obtain ⟨properties, hproperties, rfl⟩ := propertiesOf_settled.mp hproperties'
    rw [hkeys inner properties hproperties]
    exact hall inner properties hproperties

/-- A dictionary without the defaults is strict exactly if it was. -/
theorem strictHere_open (hopen : closed.lookup object = none)
    (hquiet : ∀ inner properties, PropertiesOf [] object members inner properties →
      closed.lookup inner = none) :
    StrictHere [] object (settled closed object members) ↔ StrictHere [] object members := by
  have hlookup : ∀ key, (settled closed object members).lookup key =
      (members.lookup key).map (settle closed) := by
    intro key
    rw [settled_of_open hopen]
    exact lookup_settleMembers members key
  unfold StrictHere
  rw [isType_settled, hlookup, hlookup, map_settle_false]
  simp only [listsExactly_settled]
  refine imp_congr_right fun _ => ?_
  exact forall_properties_settled hquiet (P := fun names =>
    ListsExactly (members.lookup "required") names ∧
      members.lookup "additionalProperties" = some (.bool false))

/-- A closed object is strict exactly if its two members, where it had them, were. -/
theorem strictHere_closed {inner : Object} {properties : Members}
    (hobject : isType "object" members = true)
    (hproperties : members.lookup "properties" = some (.obj inner properties))
    (hclosed : closed.lookup object = some (properties.map Prod.fst))
    (hquiet : ∀ inner properties, PropertiesOf [] object members inner properties →
      closed.lookup inner = none) :
    StrictHere [] object (settled closed object members) ↔ LooseHere [] object members := by
  have hlookup : ∀ key, (settled closed object members).lookup key =
      (closeObject (properties.map Prod.fst) (settleMembers closed members)).lookup key := by
    intro key
    rw [settled_of_closed hclosed]
  have hrequired : ListsExactly (some (((members.lookup "required").map (settle closed)).getD
      (nameList (properties.map Prod.fst)))) (properties.map Prod.fst) ↔
        members.lookup "required" = none ∨
          ListsExactly (members.lookup "required") (properties.map Prod.fst) := by
    cases hfound : members.lookup "required" with
    | none => simpa using listsExactly_nameList (properties.map Prod.fst)
    | some value =>
      rw [Option.map_some, Option.getD_some, ← Option.map_some, listsExactly_settled]
      simp
  have hadditional : some (((members.lookup "additionalProperties").map (settle closed)).getD
      (.bool false)) = some (Schema.bool false) ↔
        members.lookup "additionalProperties" = none ∨
          members.lookup "additionalProperties" = some (.bool false) := by
    cases hfound : members.lookup "additionalProperties" with
    | none => simp
    | some value =>
      rw [Option.map_some, Option.getD_some, ← Option.map_some, map_settle_false]
      simp
  have honly : ∀ other others, PropertiesOf [] object members other others ↔
      other = inner ∧ others = properties := by
    intro other others
    rw [propertiesOf_nil, hproperties, Option.some.injEq, Schema.obj.injEq]
    exact ⟨fun h => ⟨h.1.symm, h.2.symm⟩, fun h => ⟨h.1.symm, h.2.symm⟩⟩
  unfold StrictHere LooseHere
  rw [isType_settled, hlookup, hlookup, lookup_closeObject, lookup_closeObject,
    lookup_settleMembers, lookup_settleMembers,
    forall_properties_settled hquiet (P := fun names => ListsExactly _ names ∧ _ = _)]
  simp [honly, hobject, hrequired, hadditional]

/-! ### References -/

theorem memberDicts_append (members more : Members) :
    memberDicts (members ++ more) = memberDicts members ++ memberDicts more := by
  induction members with
  | nil => rfl
  | cons member rest ih =>
    obtain ⟨key, value⟩ := member
    rw [List.cons_append, memberDicts, memberDicts, ih, List.append_assoc]

theorem memberDicts_setdefault {key : String} {value : Schema} (h : dicts value = [])
    (members : Members) : memberDicts (setdefault key value members) = memberDicts members := by
  unfold setdefault
  split_ifs
  · rfl
  · simp [memberDicts_append, h]

theorem dicts_nameList (names : List String) : dicts (nameList names) = [] := by
  have hitems : ∀ names : List String, itemDicts (names.map .str) = [] := by
    intro names
    induction names with
    | nil => rfl
    | cons name rest ih =>
      rw [List.map_cons, itemDicts, ih]
      rfl
  exact hitems names

/-- The defaults add no dictionary. -/
theorem memberDicts_shown (object : Object) (members : Members) :
    memberDicts (shown closed object members) = memberDicts members := by
  unfold shown
  cases closed.lookup object with
  | none => rfl
  | some names =>
    dsimp only
    rw [closeObject, memberDicts_setdefault rfl, memberDicts_setdefault (dicts_nameList names)]

theorem textRef_settled (object : Object) (members : Members) :
    textRef (settled closed object members) = textRef members := by
  refine textRef_congr ?_
  intro path
  rw [lookup_settled (by decide) (by decide), Option.map_eq_some_iff]
  constructor
  · rintro ⟨value, hvalue, heq⟩
    rw [hvalue, (settle_leaf (by simp) (by simp)).mp heq]
  · intro hvalue
    exact ⟨_, hvalue, rfl⟩

/-- A dictionary in the result. -/
def settleDict (closed : Closed) (dict : Object × Members) : Object × Members :=
  (dict.1, settled closed dict.1 dict.2)

mutual

theorem dicts_settle (value : Schema) :
    dicts (settle closed value) = (dicts value).map (settleDict closed) := by
  cases value with
  | obj object members =>
    rw [settle, dicts, dicts, memberDicts_shown, memberDicts_settle members, List.map_cons]
    rfl
  | arr items =>
    rw [settle, dicts, dicts]
    exact itemDicts_settle items
  | _ => rfl

theorem memberDicts_settle (members : Members) :
    memberDicts (settleMembers closed members) = (memberDicts members).map (settleDict closed) := by
  cases members with
  | nil => rfl
  | cons member rest =>
    rw [settleMembers, memberDicts, memberDicts, dicts_settle member.2, memberDicts_settle rest,
      List.map_append]

theorem itemDicts_settle (items : List Schema) :
    itemDicts (settleItems closed items) = (itemDicts items).map (settleDict closed) := by
  cases items with
  | nil => rfl
  | cons item rest =>
    rw [settleItems, itemDicts, itemDicts, dicts_settle item, itemDicts_settle rest, List.map_append]

end

/-- The defaults add no reference and take none away. -/
theorem refless_settle (value : Schema) : Refless (settle closed value) ↔ Refless value := by
  unfold Refless
  rw [dicts_settle, List.forall_mem_map]
  simp only [settleDict, textRef_settled]

end Settling

/-! ## The calls, in turn -/

/-- Properties are never closed themselves. -/
def Quiet (closings : List Closing) : Prop :=
  ∀ first ∈ closings, ∀ second ∈ closings, first.inner ≠ second.object

/-- A call of the defaults closes its object, if that is still open. -/
theorem lookup_close {closed : Closed} {closing : Closing} (hinner : closed.lookup closing.inner = none)
    (object : Object) : (close closed closing).lookup object = (closed.lookup object).or
      (if closing.object = object then some (closing.properties.map Prod.fst) else none) := by
  unfold close shown
  rw [hinner]
  split_ifs with hthere hobject hobject
  · subst hobject
    obtain ⟨names, hnames⟩ := Option.isSome_iff_exists.mp hthere
    rw [hnames, Option.some_or]
  · rw [Option.or_none]
  · rw [List.lookup_append, hobject, List.lookup_cons_self]
  · rw [List.lookup_append, List.lookup_cons, beq_false_of_ne (Ne.symm hobject), List.lookup_nil]

/-- The first call for an object decides. -/
theorem lookup_foldl {closings : List Closing} (h : Quiet closings) {closed : Closed}
    (hopen : ∀ closing ∈ closings, closed.lookup closing.inner = none) (object : Object) :
    (closings.foldl close closed).lookup object = (closed.lookup object).or
      ((closings.find? (fun closing => decide (closing.object = object))).map
        (fun closing => closing.properties.map Prod.fst)) := by
  induction closings generalizing closed with
  | nil => rw [List.foldl_nil, List.find?_nil, Option.map_none, Option.or_none]
  | cons first rest ih =>
    have hfirst := lookup_close (hopen first List.mem_cons_self)
    have hquiet : Quiet rest := fun other hother second hsecond =>
      h other (List.mem_cons_of_mem _ hother) second (List.mem_cons_of_mem _ hsecond)
    rw [List.foldl_cons, ih hquiet, hfirst, Option.or_assoc, List.find?_cons]
    · by_cases hobject : first.object = object <;> simp [hobject]
    · intro closing hclosing
      rw [hfirst, hopen closing (List.mem_cons_of_mem _ hclosing), Option.none_or,
        if_neg (Ne.symm (h closing (List.mem_cons_of_mem _ hclosing) first List.mem_cons_self))]

/-- The calls leave an object closed exactly if one is for it, with the names of its properties. -/
theorem closed_foldl {closings : List Closing} (h : Quiet closings) :
    (∀ object, (closings.foldl close []).lookup object = none ↔
      ∀ closing ∈ closings, closing.object ≠ object) ∧
    ∀ object names, (closings.foldl close []).lookup object = some names →
      ∃ closing ∈ closings, closing.object = object ∧
        names = closing.properties.map Prod.fst := by
  have hlookup := @lookup_foldl closings h [] (fun _ _ => rfl)
  constructor
  · intro object
    rw [hlookup, List.lookup_nil, Option.none_or, Option.map_eq_none_iff, List.find?_eq_none]
    simp
  · intro object names hnames
    rw [hlookup, List.lookup_nil, Option.none_or, Option.map_eq_some_iff] at hnames
    obtain ⟨closing, hfound, rfl⟩ := hnames
    exact ⟨closing, List.mem_of_find?_eq_some hfound, by simpa using List.find?_some hfound, rfl⟩

/-! ## All schemas -/

section Whole

/-- An object has the same members in all its places, and properties are no object of a schema. -/
structure Consistent (value : Schema) : Prop where
  one {walked walked' : Bool} {object : Object} {members members' : Members} :
    Place [] .top value walked object members → Place [] .top value walked' object members' →
      members = members'
  properties {walked walked' : Bool} {object inner : Object} {members properties others : Members} :
    Place [] .top value walked object members → PropertiesOf [] object members inner properties →
      Place [] .top value walked' inner others → isType "object" others = false

theorem Consistent.resolved {schema : ModelSchema} (hwell : WellFormed schema) {value : Schema}
    (h : ValueResolved schema.definitions .top schema.root value) : Consistent value where
  one hplace hplace' := by
    obtain ⟨source, hsource, hfrom⟩ := resolved_place hplace h
    obtain ⟨source', hsource', hfrom'⟩ := resolved_place hplace' h
    cases one_content (hsource.source .top) (hsource'.source .top)
    exact hfrom.unique hfrom'
  properties hplace hproperties hothers := by
    obtain ⟨source, hsource, hfrom⟩ := resolved_place hplace h
    obtain ⟨others, hothers, hfromOthers⟩ := resolved_place hothers h
    obtain ⟨own, hown, -⟩ := resolved_propertiesOf hfrom hproperties
    cases one_content (hothers.source .top) ((hsource.source .top).properties hown)
    rw [isType_resolved hfromOthers]
    exact hwell.not_object hsource hown

/-- After tightening the schema is strict everywhere exactly if it could be tightened. -/
theorem strictEverywhere_settle {value : Schema} (hconsistent : Consistent value)
    {closings : List Closing} (hmake : makeStrict value = some closings) :
    StrictEverywhere (settle (closings.foldl close []) value) ↔ Tightens [] value := by
  obtain ⟨hcloses, hwalks⟩ := makeStrict_some hmake .top
  have hinner : ∀ {walked object members inner properties}, Place [] .top value walked object members →
      PropertiesOf [] object members inner properties → ∀ closing ∈ closings, closing.object ≠ inner := by
    rintro walked object members inner properties hplace hproperties closing hclosing rfl
    obtain ⟨others, hothers, hown⟩ := (hcloses closing).mp hclosing
    have hfalse := hconsistent.properties hplace hproperties hothers
    rw [(mem_ownClosing.mp hown).2.1] at hfalse
    cases hfalse
  have hquiet : Quiet closings := by
    intro first hfirst second hsecond heq
    obtain ⟨members, hplace, hown⟩ := (hcloses first).mp hfirst
    exact hinner hplace (propertiesOf_nil.mpr (mem_ownClosing.mp hown).2.2) second hsecond heq.symm
  obtain ⟨hnone, hsome⟩ := closed_foldl hquiet
  generalize closings.foldl close [] = closed at hnone hsome ⊢
  have hhere : ∀ {walked object members}, Place [] .top value walked object members →
      (StrictHere [] object (settled closed object members) ↔
        (Tightened [] value object → LooseHere [] object members) ∧
          (¬ Tightened [] value object → StrictHere [] object members)) := by
    intro walked object members hplace
    cases hclosed : closed.lookup object with
    | none =>
      rw [strictHere_open hclosed
        (fun inner properties hproperties => (hnone inner).mpr (hinner hplace hproperties))]
      by_cases htightened : Tightened [] value object
      · -- It was walked to and is no object with properties.
        have hplain : isType "object" members = true → members.lookup "properties" = none := by
          intro hobject
          obtain ⟨others, hothers⟩ := htightened
          cases hconsistent.one hplace hothers
          cases hproperties : members.lookup "properties" with
          | none => rfl
          | some found =>
            have hdict := hwalks object members hothers hobject found hproperties
            cases found with
            | obj inner properties =>
              have hmem := (hcloses ⟨object, inner, properties⟩).mpr
                ⟨members, hothers, mem_ownClosing.mpr ⟨rfl, hobject, hproperties⟩⟩
              exact absurd rfl ((hnone object).mp hclosed _ hmem)
            | _ => cases hdict
        have hstrict : StrictHere [] object members := by
          intro hobject inner properties hproperties
          rw [propertiesOf_nil, hplain hobject] at hproperties
          cases hproperties
        have hloose : LooseHere [] object members := by
          intro hobject
          refine ⟨fun hne => absurd (hplain hobject) hne, ?_⟩
          intro inner properties hproperties
          rw [propertiesOf_nil, hplain hobject] at hproperties
          cases hproperties
        exact iff_of_true hstrict ⟨fun _ => hloose, fun _ => hstrict⟩
      · simp [htightened]
    | some names =>
      obtain ⟨closing, hmem, rfl, rfl⟩ := hsome object names hclosed
      obtain ⟨others, hothers, hown⟩ := (hcloses closing).mp hmem
      cases hconsistent.one hplace hothers
      obtain ⟨-, hobject, hproperties⟩ := mem_ownClosing.mp hown
      have htightened : Tightened [] value closing.object := ⟨members, hothers⟩
      rw [strictHere_closed hobject hproperties hclosed
        (fun inner properties hown => (hnone inner).mpr (hinner hplace hown))]
      simp [htightened]
  constructor
  · intro hstrict walked object members hplace
    exact (hhere hplace).mp
      (hstrict walked object _ (place_settled.mpr ⟨members, hplace, rfl⟩))
  · intro htightens walked object members' hplace'
    obtain ⟨members, hplace, rfl⟩ := place_settled.mp hplace'
    exact (hhere hplace).mpr (htightens walked object members hplace)

/-- Tightening does not raise where the objects that it walks to are open to it. -/
theorem Tightens.makeStrict_isSome {value : Schema} (h : Tightens [] value) :
    ∃ closings, makeStrict value = some closings := by
  cases hmake : makeStrict value with
  | some closings => exact ⟨closings, rfl⟩
  | none =>
    obtain ⟨object, members, hplace, hraises⟩ := makeStrict_none hmake .top
    refine absurd ?_ hraises
    intro hobject found hfound
    have hloose := (h true object members hplace).1 ⟨members, hplace⟩
    obtain ⟨inner, properties, hproperties⟩ := (hloose hobject).1 (by simp [hfound])
    rw [propertiesOf_nil, hfound] at hproperties
    cases hproperties
    rfl

/-- Over all acyclic schemas: the result has no reference and is strict everywhere exactly if every
reference met names a definition, the objects that tightening walks to in some place leave their two
members open or have them right, and all others have them. -/
theorem strictSchema_iff (schema : ModelSchema) (h : Acyclic schema.definitions)
    (hwell : WellFormed schema) :
    StrictSchema schema ↔
      AllDefined schema.definitions schema.root ∧ Tightens schema.definitions schema.root := by
  constructor
  · rintro ⟨fuel, out, hout, hrefless, hstrict⟩
    simp only [pydanticToJsonSchema, Option.bind_eq_bind, Option.bind_eq_some_iff,
      Option.some.injEq] at hout
    obtain ⟨resolved, hresolved, closings, hmake, rfl⟩ := hout
    have hvalue : ValueResolved schema.definitions .top schema.root resolved :=
      ⟨fuel, by rw [← resolveRefs_eq]; exact hresolved⟩
    constructor
    · exact (refless_iff hvalue).mp ((refless_settle resolved).mp hrefless)
    · rw [← tightens_inlined hvalue]
      exact (strictEverywhere_settle (.resolved hwell hvalue) hmake).mp hstrict
  · rintro ⟨hdefined, htightens⟩
    obtain ⟨fuel, resolved, hresolved⟩ := resolveRefs_ends h .top schema.root
    have hvalue : ValueResolved schema.definitions .top schema.root resolved :=
      ⟨fuel, by rw [← resolveRefs_eq]; exact hresolved⟩
    rw [← tightens_inlined hvalue] at htightens
    obtain ⟨closings, hmake⟩ := htightens.makeStrict_isSome
    refine ⟨fuel, settle (closings.foldl close []) resolved, ?_, ?_, ?_⟩
    · rw [ModelSchema.root] at hresolved
      simp [pydanticToJsonSchema, hresolved, hmake]
    · exact (refless_settle resolved).mpr ((refless_iff hvalue).mpr hdefined)
    · exact (strictEverywhere_settle (.resolved hwell hvalue) hmake).mpr htightens

end Whole

/-- No reference leads back where each definition refers to ones of a lower rank. -/
theorem acyclic_of_rank {definitions : List (String × Members)} (rank : String → Nat)
    (h : ∀ entry ∈ definitions, ∀ name ∈ references definitions (.obj .top entry.2),
      rank name < rank entry.1) : Acyclic definitions := by
  have hchain : ∀ a b, Relation.TransGen (Refers definitions) a b → rank a < rank b := by
    intro a b hab
    induction hab with
    | single hrefers =>
      obtain ⟨found, hfound, hname⟩ := hrefers
      exact h _ (mem_of_lookup hfound) a hname
    | tail _ hrefers ih =>
      obtain ⟨found, hfound, hname⟩ := hrefers
      exact ih.trans (h _ (mem_of_lookup hfound) _ hname)
  intro name hname
  exact lt_irrefl _ (hchain name name hname)

/-- A model with two fields of one other model, the second of them optional.  That model has a field of a
third one, whose dictionary stands below both. -/
def sharedModel : ModelSchema where
  members :=
    [("properties", .obj (.given 0)
        [("a1", .obj (.given 1) [("$ref", .str "#/$defs/A")]),
          ("a2", .obj (.given 2) [("anyOf", .arr
            [.obj (.given 3) [("$ref", .str "#/$defs/A")],
              .obj (.given 4) [("type", .str "null")]])])]),
      ("required", .arr [.str "a1", .str "a2"]), ("title", .str "Root"), ("type", .str "object")]
  definitions :=
    [("A",
        [("additionalProperties", .bool false),
          ("properties", .obj (.given 5) [("b", .obj (.given 6) [("$ref", .str "#/$defs/B")])]),
          ("required", .arr [.str "b"]), ("title", .str "A"), ("type", .str "object")]),
      ("B",
        [("properties", .obj (.given 7)
            [("x", .obj (.given 8) [("title", .str "X"), ("type", .str "integer")])]),
          ("required", .arr [.str "x"]), ("title", .str "B"), ("type", .str "object")])]
  fresh := ⟨List.range 9, by decide, rfl⟩
  keys := by decide

theorem sharedModel_acyclic : Acyclic sharedModel.definitions :=
  acyclic_of_rank (fun name => if name = "A" then 1 else 0) (by decide)

/-- Tightening walks to the dictionary of the third model below the first field, and it shows its
defaults below the second one too. -/
theorem strictSchema_nested :
    StrictSchema sharedModel ↔
      AllDefined sharedModel.definitions sharedModel.root ∧
        Tightens sharedModel.definitions sharedModel.root :=
  strictSchema_iff sharedModel sharedModel_acyclic (wellFormed_of_plain (by decide))

-- The two fields have copies of `A` of their own, and below them one dictionary of `B`.
example :
    let b : String × Schema := ("b", .obj (.entry (.given 5) "b")
      [("properties", .obj (.given 7)
          [("x", .obj (.given 8) [("title", .str "X"), ("type", .str "integer")])]),
        ("required", .arr [.str "x"]), ("title", .str "B"), ("type", .str "object"),
        ("additionalProperties", .bool false)])
    let a : Members :=
      [("additionalProperties", .bool false), ("properties", .obj (.given 5) [b]),
        ("required", .arr [.str "b"]), ("title", .str "A"), ("type", .str "object")]
    pydanticToJsonSchema 2 sharedModel = some (.obj .top
      [("properties", .obj (.given 0)
          [("a1", .obj (.entry (.given 0) "a1") a),
            ("a2", .obj (.given 2) [("anyOf", .arr
              [.obj (.item (.entry (.given 2) "anyOf") 0) a,
                .obj (.given 4) [("type", .str "null")]])])]),
        ("required", .arr [.str "a1", .str "a2"]), ("title", .str "Root"), ("type", .str "object"),
        ("additionalProperties", .bool false)]) := by
  rfl

/-! ## A field with a default -/

/-- A model with a required field and one with a default, as it is generated. -/
def defaultModel : ModelSchema where
  members :=
    [("properties", .obj (.given 0)
        [("name", .obj (.given 1) [("title", .str "Name"), ("type", .str "string")]),
          ("age", .obj (.given 2)
            [("default", .int 0), ("title", .str "Age"), ("type", .str "integer")])]),
      ("required", .arr [.str "name"]), ("title", .str "Person"), ("type", .str "object")]
  definitions := []
  fresh := ⟨List.range 3, by decide, rfl⟩
  keys := by decide

/-- The field with a default is not required: the list that was there is kept. -/
theorem default_not_required : ¬ StrictSchema defaultModel := by
  rintro ⟨fuel, out, hout, -, hstrict⟩
  have hresolved : resolveRefs [] fuel .top (.obj .top defaultModel.members) =
      some (.obj .top defaultModel.members) := by
    rw [resolveRefs_eq]
    simp [resolveTree, resolveMembers, resolveItems, definition_nil, defaultModel, Schema.isDict]
  rw [pydanticToJsonSchema, show defaultModel.definitions = [] from rfl, hresolved] at hout
  have hsettled : (do
      let closings ← makeStrict (.obj .top defaultModel.members)
      some (settle (closings.foldl close []) (.obj .top defaultModel.members)) : Option Schema) =
        some (.obj .top (defaultModel.members ++ [("additionalProperties", .bool false)])) := by
    rfl
  rw [Option.bind_eq_bind, Option.bind_some, hsettled] at hout
  cases hout
  have hhere := hstrict true .top _ (.here (denotes_nil.mpr rfl)) (by decide) _ _
    (propertiesOf_nil.mpr (by rw [defaultModel]; rfl))
  obtain ⟨names, hnames, hexact⟩ := hhere.1
  have hrequired : names = ["name"] := by
    cases hnames
    rfl
  have hage := (hexact "age").mpr (by decide)
  rw [hrequired] at hage
  simp at hage

end Schemas
end Integrations
end MoneyMachine
