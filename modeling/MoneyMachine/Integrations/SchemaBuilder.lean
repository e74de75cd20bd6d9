import MoneyMachine.Integrations.Formulas
import MoneyMachine.Library.DepthFirst

/-!
# SchemaBuilder — database schemas whose formulas can be evaluated

A schema is built from the caller's property mappings.  Its formulas may refer to any property, so that two
formulas can refer to one another; the depth-first check refuses these.

* `buildSchema`                  : the builder;
* `requireAcyclicFormulas`       : the check of the references between formulas;
* `requireAcyclicFormulas_exact` : it raises exactly when they contain a cycle, and accepts exactly when the
  formulas have an evaluation order;
* `schema_acyclic`               : so what the builder accepts can be evaluated.
-/

namespace MoneyMachine
namespace Integrations
namespace SchemaBuilder

open Relation
open MoneyMachine.Domain
open MoneyMachine.Library
open MoneyMachine.Integrations.Formulas

def minPropertyCount : Nat := 1
def maxPropertyCount : Nat := 12
def minOptionCount : Nat := 1
def maxOptionCount : Nat := 8

def allowedPropertyTypes : List Text :=
  [lit "title", lit "text", lit "number", lit "select", lit "multi_select", lit "date", lit "checkbox",
    lit "formula", lit "url", lit "email"]

def optionTypes : List Text := [lit "select", lit "multi_select"]

def propertyFields : List Text :=
  [lit "name", lit "type", lit "options", lit "formula_expression", lit "formula_result_type"]

def families : List Text := [lit "personal", lit "business"]

/-- What a caller can hand over; `other` is anything that is no text, sequence or mapping. -/
inductive Value where
  | none
  | text (text : Text)
  | sequence (items : List Value)
  | mapping (members : List (Text × Value))
  | other

structure SchemaProperty where
  name : Text
  type : Text
  options : List Text
  formulaExpression : Option Text
  formulaResultType : Option Text
deriving DecidableEq

structure DatabaseSchema where
  name : Text
  family : Text
  properties : List SchemaProperty
deriving DecidableEq

structure Draft where
  name : Value
  type : Value
  options : List Value
  formulaExpression : Value
  formulaResultType : Value

/-! ## Properties -/

/-- `validated_name` of anything. -/
def validatedValue (label : String) : Value → Except SchemaError Text
  | .text text => validatedName label text
  | _ => reject (label ++ " must be a string")

def copyOptions : Value → Except SchemaError (List Value)
  | .sequence items => .ok items
  | _ => reject "options must be a sequence of strings"

/-- `item.get(name)`. -/
def member (members : List (Text × Value)) (name : String) : Value :=
  (members.lookup (lit name)).getD .none

/-- One mapping of `_copy_properties`. -/
def copyProperty (unicode : Unicode) : Value → Except SchemaError Draft
  | .mapping members =>
    match sortedNames ((members.map Prod.fst).filter (fun name => decide (name ∉ propertyFields))) with
    | fieldName :: _ =>
      .error (.builder (lit "property field " ++ pyRepr unicode fieldName ++ lit " is not allowed"))
    | [] => do
        let options ← copyOptions ((members.lookup (lit "options")).getD (.sequence []))
        .ok { name := member members "name"
              type := member members "type"
              options := options
              formulaExpression := member members "formula_expression"
              formulaResultType := member members "formula_result_type" }
  | _ => reject "property must be a mapping"

def copyProperties (unicode : Unicode) : Value → Except SchemaError (List Draft)
  | .sequence items => items.mapM (copyProperty unicode)
  | _ => reject "properties must be a sequence of mappings"

def validateOptions (propertyType : Text) (rawOptions : List Value) : Except SchemaError (List Text) :=
  if propertyType ∈ optionTypes then
    if rawOptions.length < minOptionCount then reject "select options must not be empty"
    else if maxOptionCount < rawOptions.length then reject "more than 8 options is rejected"
    else do
      let options ← rawOptions.mapM (validatedValue "option name")
      if options.dedup.length ≠ options.length then reject "select options must be unique"
      else .ok options
  else if 0 < rawOptions.length then reject "options are only allowed on select and multi_select"
  else .ok []

def optionalText (label : String) : Value → Except SchemaError (Option Text)
  | .none => .ok none
  | .text text => .ok (some text)
  | _ => reject (label ++ " must be a string")

/-- `value is not None`. -/
def Value.given : Value → Bool
  | .none => false
  | _ => true

def formulaFields (propertyType : Text) (draft : Draft) :
    Except SchemaError (Option Text × Option Text) :=
  if propertyType = lit "formula" then do
    let expression ← optionalText "formula expression" draft.formulaExpression
    let resultType ← optionalText "formula result type" draft.formulaResultType
    .ok (expression, resultType)
  else if draft.formulaExpression.given then
    reject "formula expression is only allowed on formula properties"
  else if draft.formulaResultType.given then
    reject "formula result type is only allowed on formula properties"
  else .ok (none, none)

/-- `_build_property` with its type known to be a text. -/
def buildTyped (unicode : Unicode) (name propertyType : Text) (draft : Draft) :
    Except SchemaError SchemaProperty :=
  if propertyType ∉ allowedPropertyTypes then
    .error (.builder (lit "property type " ++ pyRepr unicode propertyType ++ lit " is not allowed"))
  else do
    let options ← validateOptions propertyType draft.options
    let (expression, resultType) ← formulaFields propertyType draft
    .ok { name := name
          type := propertyType
          options := options
          formulaExpression := expression
          formulaResultType := resultType }

def buildProperty (unicode : Unicode) (draft : Draft) : Except SchemaError SchemaProperty := do
  let name ← validatedValue "property name" draft.name
  match draft.type with
  | .text propertyType => buildTyped unicode name propertyType draft
  | _ => reject "property type must be a string"

/-- `_require_unique_names`, with the names seen so far. -/
def requireUniqueNames (unicode : Unicode) (seen : List Text) :
    List SchemaProperty → Except SchemaError Unit
  | [] => .ok ()
  | prop :: properties =>
    if prop.name ∈ seen then
      .error (.builder (lit "property name " ++ pyRepr unicode prop.name ++ lit " is duplicated"))
    else requireUniqueNames unicode (prop.name :: seen) properties

def requireOneTitle (properties : List SchemaProperty) : Except SchemaError Unit :=
  let titles := properties.countP (fun prop => decide (prop.type = lit "title"))
  if titles < 1 then reject "schema must contain a title property"
  else if 1 < titles then reject "schema must contain exactly one title property"
  else .ok ()

/-! ## Formulas -/

/-- The references of each formula, by its name. -/
abbrev References := List (Text × List Text)

def References.names (refs : References) : List Text := refs.map Prod.fst

/-- What a formula refers to, in the order of the search. -/
def References.targets (refs : References) (name : Text) : List Text :=
  sortedNames ((refs.lookup name).getD [])

/-- Names joined by arrows. -/
def cycleMessage (cycle : List Text) : Text := lit "formula cycle " ++ join (lit " -> ") cycle

def requireAcyclicFormulas (refs : References) : Except SchemaError Unit :=
  match DepthFirst.search refs.names refs.targets with
  | .error cycle => .error (.builder (cycleMessage cycle))
  | .ok _ => .ok ()

def rawType (prop : SchemaProperty) : Text :=
  if prop.type = lit "formula" then prop.formulaResultType.getD [] else prop.type

def rawTypes (properties : List SchemaProperty) : List (Text × Text) :=
  properties.map (fun prop => (prop.name, rawType prop))

/-- One round of `_compile_formulas`: the property, and the references of a formula. -/
def compileProperty (unicode : Unicode) (types : List (Text × Text)) (prop : SchemaProperty) :
    Except SchemaError (SchemaProperty × References) :=
  if prop.type ≠ lit "formula" then .ok (prop, [])
  else
    match prop.formulaExpression, prop.formulaResultType with
    | none, _ => reject "formula property requires an expression"
    | some _, none => reject "formula property requires a result type"
    | some expression, some resultType => do
        let formula ← compileFormula unicode expression types resultType
        .ok ({ name := prop.name
               type := prop.type
               options := prop.options
               formulaExpression := some formula.expression
               formulaResultType := some formula.resultType },
          [(prop.name, formula.referencedPropertyNames)])

def compileEach (unicode : Unicode) (types : List (Text × Text)) :
    List SchemaProperty → Except SchemaError (List SchemaProperty × References)
  | [] => .ok ([], [])
  | prop :: properties => do
      let (built, own) ← compileProperty unicode types prop
      let (compiled, refs) ← compileEach unicode types properties
      .ok (built :: compiled, own ++ refs)

def compileFormulas (unicode : Unicode) (properties : List SchemaProperty) :
    Except SchemaError (List SchemaProperty) := do
  let (compiled, formulaRefs) ← compileEach unicode (rawTypes properties) properties
  requireAcyclicFormulas formulaRefs
  .ok compiled

/-- The checks of the mappings before their formulas are compiled. -/
def buildProperties (unicode : Unicode) (drafts : List Draft) : Except SchemaError (List SchemaProperty) :=
  if drafts.length < minPropertyCount then reject "properties must not be empty"
  else if maxPropertyCount < drafts.length then reject "more than 12 properties is rejected"
  else do
    let built ← drafts.mapM (buildProperty unicode)
    requireUniqueNames unicode [] built
    requireOneTitle built
    .ok built

def requireFamily (unicode : Unicode) (family : Text) : Except SchemaError Unit :=
  if family ∉ families then
    .error (.builder (lit "schema family " ++ pyRepr unicode family ++ lit " is not allowed"))
  else .ok ()

/-- Build one database schema from caller-supplied property mappings. -/
def buildSchema (unicode : Unicode) (name properties : Value) (family : Text) :
    Except SchemaError DatabaseSchema := do
  let schemaName ← validatedValue "database name" name
  requireFamily unicode family
  let drafts ← copyProperties unicode properties
  let built ← buildProperties unicode drafts
  let compiled ← compileFormulas unicode built
  .ok { name := schemaName
        family := family
        properties := compiled }

/-! ## The check of the references -/

/-- The check follows the search. -/
theorem requireAcyclicFormulas_error_iff {refs : References} :
    (∃ message, requireAcyclicFormulas refs = .error (.builder message)) ↔
      ∃ cycle, DepthFirst.search refs.names refs.targets = .error cycle := by
  unfold requireAcyclicFormulas
  cases DepthFirst.search refs.names refs.targets with
  | error cycle => exact ⟨fun _ => ⟨cycle, rfl⟩, fun _ => ⟨cycleMessage cycle, rfl⟩⟩
  | ok done =>
    constructor
    · rintro ⟨_, h⟩
      cases h
    · rintro ⟨_, h⟩
      cases h

theorem requireAcyclicFormulas_ok_iff {refs : References} :
    requireAcyclicFormulas refs = .ok () ↔
      ∃ done, DepthFirst.search refs.names refs.targets = .ok done := by
  unfold requireAcyclicFormulas
  cases DepthFirst.search refs.names refs.targets with
  | error cycle =>
    constructor
    · intro h
      cases h
    · rintro ⟨_, h⟩
      cases h
  | ok done => exact ⟨fun _ => ⟨done, rfl⟩, fun _ => rfl⟩

/-! ## What the builder accepts -/

/-- The properties that a formula property names. -/
def formulaReferences (unicode : Unicode) (prop : SchemaProperty) : List Text :=
  match prop.formulaExpression with
  | none => []
  | some expression =>
    match parse unicode expression >>= referencedNames with
    | .ok names => names
    | .error _ => []

/-- An order in which the formulas of a schema can be evaluated. -/
structure FormulaOrder (unicode : Unicode) (properties : List SchemaProperty) (order : List Text) :
    Prop where
  nodup : order.Nodup
  covers : ∀ name, name ∈ order ↔ ∃ prop ∈ properties, prop.type = lit "formula" ∧ prop.name = name
  /-- A formula refers to earlier formulas and to properties that are no formulas. -/
  earlier : ∀ prop ∈ properties, prop.type = lit "formula" →
    ∀ before after, order = before ++ prop.name :: after →
      ∀ ref ∈ formulaReferences unicode prop, ref ∈ before ∨
        ∃ other ∈ properties, other.type ≠ lit "formula" ∧ other.name = ref

section Accepted

variable {unicode : Unicode} {types : List (Text × Text)}

/-- Whether a property is a formula. -/
def isFormula (prop : SchemaProperty) : Bool := decide (prop.type = lit "formula")

/-- The references of the formulas among some properties. -/
def referencesOf (unicode : Unicode) (properties : List SchemaProperty) : References :=
  (properties.filter isFormula).map (fun prop => (prop.name, formulaReferences unicode prop))

/-- The formulas among some properties name nothing but the given properties. -/
def NamesKnown (unicode : Unicode) (types : List (Text × Text)) (properties : List SchemaProperty) : Prop :=
  ∀ prop ∈ properties, prop.type = lit "formula" →
    ∀ ref ∈ formulaReferences unicode prop, ref ∈ types.map Prod.fst

theorem compileProperty_ok {prop built : SchemaProperty} {own : References}
    (h : compileProperty unicode types prop = .ok (built, own)) :
    built.name = prop.name ∧ built.type = prop.type ∧ own = referencesOf unicode [built] ∧
      NamesKnown unicode types [built] := by
  unfold compileProperty at h
  split at h
  · rename_i hplain
    cases h
    refine ⟨rfl, rfl, ?_, ?_⟩
    · simp [referencesOf, isFormula, hplain]
    · intro prop' hprop htype
      rw [List.mem_singleton.mp hprop] at htype
      exact absurd htype hplain
  · rename_i hformula
    split at h
    · cases h
    · cases h
    · obtain ⟨formula, hcompile, h⟩ := bind_eq_ok.mp h
      cases h
      obtain ⟨hexpression, -, ⟨node, hparse, hnames⟩, hknown⟩ := compileFormula_ok hcompile
      -- The compiled expression is the one that was read.
      have hrefs : ∀ built : SchemaProperty, built.formulaExpression = some formula.expression →
          formulaReferences unicode built = formula.referencedPropertyNames := by
        intro built hbuilt
        unfold formulaReferences
        rw [hbuilt, hexpression]
        simp only [hparse, bind, Except.bind, hnames]
      refine ⟨rfl, rfl, ?_, ?_⟩
      · simp only [referencesOf, List.filter_singleton, isFormula, not_not.mp hformula, decide_true,
          cond_true, List.map_cons, List.map_nil]
        rw [hrefs _ rfl]
      · intro prop' hprop _ ref href
        rw [List.mem_singleton.mp hprop, hrefs _ rfl] at href
        exact hknown ref href

theorem compileEach_ok {properties compiled : List SchemaProperty} {refs : References}
    (h : compileEach unicode types properties = .ok (compiled, refs)) :
    compiled.map SchemaProperty.name = properties.map SchemaProperty.name ∧
      refs = referencesOf unicode compiled ∧ NamesKnown unicode types compiled := by
  induction properties generalizing compiled refs with
  | nil =>
    cases h
    exact ⟨rfl, rfl, fun _ hprop => absurd hprop List.not_mem_nil⟩
  | cons prop properties ih =>
    obtain ⟨⟨built, own⟩, hfirst, h⟩ := bind_eq_ok.mp h
    obtain ⟨⟨others, otherRefs⟩, hrest, h⟩ := bind_eq_ok.mp h
    cases h
    obtain ⟨hname, -, rfl, hknown⟩ := compileProperty_ok hfirst
    obtain ⟨hnames, rfl, hknown'⟩ := ih hrest
    refine ⟨?_, ?_, ?_⟩
    · rw [List.map_cons, List.map_cons, hname, hnames]
    · rw [referencesOf, referencesOf, referencesOf, ← List.map_append, ← List.filter_append,
        List.singleton_append]
    · intro prop' hprop
      rcases List.mem_cons.mp hprop with rfl | hlater
      · exact hknown prop' (List.mem_singleton_self prop')
      · exact hknown' prop' hlater

theorem requireUniqueNames_ok {seen : List Text} {properties : List SchemaProperty}
    (h : requireUniqueNames unicode seen properties = .ok ()) :
    (properties.map SchemaProperty.name).Nodup ∧ ∀ prop ∈ properties, prop.name ∉ seen := by
  induction properties generalizing seen with
  | nil => exact ⟨List.nodup_nil, fun _ hprop => absurd hprop List.not_mem_nil⟩
  | cons first properties ih =>
    unfold requireUniqueNames at h
    split at h
    · cases h
    · rename_i hfirst
      obtain ⟨hnodup, hseen⟩ := ih h
      refine ⟨List.nodup_cons.mpr ⟨?_, hnodup⟩, ?_⟩
      · intro hmem
        obtain ⟨other, hother, hname⟩ := List.mem_map.mp hmem
        exact hseen other hother (hname ▸ List.mem_cons_self)
      · intro prop hprop
        rcases List.mem_cons.mp hprop with rfl | hlater
        · exact hfirst
        · exact fun hmem => hseen prop hlater (List.mem_cons_of_mem _ hmem)

theorem buildProperties_ok {drafts : List Draft} {built : List SchemaProperty}
    (h : buildProperties unicode drafts = .ok built) : (built.map SchemaProperty.name).Nodup := by
  unfold buildProperties at h
  split at h
  · cases h
  · split at h
    · cases h
    · obtain ⟨properties, -, h⟩ := bind_eq_ok.mp h
      obtain ⟨_, hunique, h⟩ := bind_eq_ok.mp h
      obtain ⟨_, -, h⟩ := bind_eq_ok.mp h
      cases h
      exact (requireUniqueNames_ok hunique).1

end Accepted

section Order

variable {unicode : Unicode} {properties : List SchemaProperty}

theorem mem_names_referencesOf {name : Text} :
    name ∈ (referencesOf unicode properties).names ↔
      ∃ prop ∈ properties, prop.type = lit "formula" ∧ prop.name = name := by
  simp only [References.names, referencesOf, List.map_map, List.mem_map, List.mem_filter, isFormula,
    decide_eq_true_eq, Function.comp_apply, and_assoc]

/-- With unique names, the references of a formula are found by its name. -/
theorem targets_referencesOf (hnodup : (properties.map SchemaProperty.name).Nodup) {prop : SchemaProperty}
    (hprop : prop ∈ properties) (htype : prop.type = lit "formula") :
    (referencesOf unicode properties).targets prop.name = sortedNames (formulaReferences unicode prop) := by
  suffices hlookup : (referencesOf unicode properties).lookup prop.name =
      some (formulaReferences unicode prop) by
    rw [References.targets, hlookup, Option.getD_some]
  induction properties with
  | nil => exact absurd hprop List.not_mem_nil
  | cons first properties ih =>
    obtain ⟨hfirst, hrest⟩ := List.nodup_cons.mp hnodup
    rcases List.mem_cons.mp hprop with rfl | hlater
    · simp [referencesOf, isFormula, htype]
    · have hne : prop.name ≠ first.name := by
        intro heq
        exact hfirst (List.mem_map.mpr ⟨prop, hlater, heq⟩)
      have hfound := ih hrest hlater
      unfold referencesOf at hfound ⊢
      rw [List.filter_cons]
      split
      · rw [List.map_cons, List.lookup_cons, beq_false_of_ne hne]
        exact hfound
      · exact hfound

/-- An evaluation order of the references is one of the formulas. -/
theorem formulaOrder_of_evaluationOrder (hnodup : (properties.map SchemaProperty.name).Nodup)
    (hknown : ∀ prop ∈ properties, prop.type = lit "formula" →
      ∀ ref ∈ formulaReferences unicode prop, ref ∈ properties.map SchemaProperty.name)
    {order : List Text}
    (h : DepthFirst.EvaluationOrder (referencesOf unicode properties).names
      (referencesOf unicode properties).targets order) : FormulaOrder unicode properties order where
  nodup := h.nodup
  covers := by
    intro name
    rw [h.covers, mem_names_referencesOf]
  earlier := by
    intro prop hprop htype before after hsplit ref href
    obtain ⟨other, hother, hname⟩ := List.mem_map.mp (hknown prop hprop htype ref href)
    by_cases hformula : other.type = lit "formula"
    · left
      apply h.earlier before prop.name after hsplit ref
      · rw [targets_referencesOf hnodup hprop htype, mem_sortedNames]
        exact href
      · exact mem_names_referencesOf.mpr ⟨other, hother, hformula, hname⟩
    · exact Or.inr ⟨other, hother, hformula, hname⟩

end Order

/-- The formulas of a schema that the builder accepts can be evaluated one after the other. -/
theorem schema_acyclic {unicode : Unicode} {name properties : Value} {family : Text}
    {schema : DatabaseSchema} (h : buildSchema unicode name properties family = .ok schema) :
    ∃ order, FormulaOrder unicode schema.properties order := by
  obtain ⟨schemaName, -, h⟩ := bind_eq_ok.mp h
  obtain ⟨_, -, h⟩ := bind_eq_ok.mp h
  obtain ⟨drafts, -, h⟩ := bind_eq_ok.mp h
  obtain ⟨built, hbuilt, h⟩ := bind_eq_ok.mp h
  obtain ⟨compiled, hcompiled, h⟩ := bind_eq_ok.mp h
  cases h
  obtain ⟨⟨each, refs⟩, heach, hcompiled⟩ := bind_eq_ok.mp hcompiled
  obtain ⟨_, hacyclic, hcompiled⟩ := bind_eq_ok.mp hcompiled
  cases hcompiled
  obtain ⟨hnames, rfl, hknown⟩ := compileEach_ok heach
  have hnodup := buildProperties_ok hbuilt
  have htypes : (rawTypes built).map Prod.fst = compiled.map SchemaProperty.name := by
    rw [hnames, rawTypes, List.map_map]
    rfl
  rw [← hnames] at hnodup
  obtain ⟨order, horder⟩ := DepthFirst.search_exact.2.mp (requireAcyclicFormulas_ok_iff.mp hacyclic)
  refine ⟨order, formulaOrder_of_evaluationOrder hnodup ?_ horder⟩
  rw [← htypes]
  exact hknown

/-- What the builder accepts has formulas that can be evaluated one after the other. -/
def AcceptsOnlyOrdered (unicode : Unicode) : Prop :=
  ∀ name properties family schema, buildSchema unicode name properties family = .ok schema →
    ∃ order, FormulaOrder unicode schema.properties order

/-- The check raises exactly when the references between formulas contain a cycle and accepts exactly when
the formulas have an evaluation order, and so does what the builder accepts. -/
theorem requireAcyclicFormulas_exact (unicode : Unicode) (refs : References) :
    ((∃ message, requireAcyclicFormulas refs = .error (.builder message)) ↔
        ∃ name, TransGen (DepthFirst.Edge refs.names refs.targets) name name) ∧
      (requireAcyclicFormulas refs = .ok () ↔
        ∃ order, DepthFirst.EvaluationOrder refs.names refs.targets order) ∧
      AcceptsOnlyOrdered unicode := by
  refine ⟨?_, ?_, ?_⟩
  · rw [requireAcyclicFormulas_error_iff]
    exact DepthFirst.search_exact.1
  · rw [requireAcyclicFormulas_ok_iff]
    exact DepthFirst.search_exact.2
  · intro name properties family schema h
    exact schema_acyclic h

end SchemaBuilder
end Integrations
end MoneyMachine
