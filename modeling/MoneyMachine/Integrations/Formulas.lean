import MoneyMachine.Domain.ClaimValidation
import MoneyMachine.Library.Runs
import Mathlib.Data.Char
import Mathlib.Data.List.Lex

/-!
# Formulas — the formula expressions of a database schema

An expression is call-shaped.  It is read into a tree, and is accepted when its nesting, the properties it
names and its inferred type fit the limits and the verified properties of the database.

* `parse`             : the reader;
* `referencedNames`   : the properties that a tree names;
* `compileFormula`    : all checks of one formula;
* `compileFormula_ok` : an accepted formula reads as a tree that names verified properties only.
-/

namespace MoneyMachine
namespace Integrations
namespace Formulas

open MoneyMachine.Domain
open MoneyMachine.Library

/-- What a builder raises. -/
inductive SchemaError where
  | builder (message : Text)
  /-- `UnverifiedPropertyNameError`, which is a builder error too. -/
  | unverifiedName (propertyName : Text)
  /-- A lookup that fails in the language itself. -/
  | lookup
  /-- The rounds given to the reader are used up. -/
  | unfinished
deriving DecidableEq

def reject {α : Type} (message : String) : Except SchemaError α := .error (.builder (lit message))

def minFormulaLength : Nat := 5
def maxFormulaLength : Nat := 128
def maxFormulaDepth : Nat := 4
def maxNameLength : Nat := 64

def allowedFormulaTypes : List Text := [lit "text", lit "number", lit "checkbox", lit "date"]

def exactArity : List (Text × Nat) :=
  [(lit "prop", 1), (lit "now", 0), (lit "not", 1), (lit "empty", 1), (lit "if", 3), (lit "formatDate", 2),
    (lit "equal", 2), (lit "subtract", 2)]

def atLeastTwo : List Text := [lit "and", lit "or"]

def propertyValueTypes : List (Text × Text) :=
  [(lit "title", lit "text"), (lit "text", lit "text"), (lit "select", lit "text"),
    (lit "multi_select", lit "text"), (lit "url", lit "text"), (lit "email", lit "text"),
    (lit "number", lit "number"), (lit "date", lit "date"), (lit "checkbox", lit "checkbox")]

inductive LiteralKind where
  | string
  | number
deriving DecidableEq

inductive Node where
  | literal (text : Text) (kind : LiteralKind)
  | call (name : Text) (args : List Node)

structure CompiledFormula where
  expression : Text
  resultType : Text
  referencedPropertyNames : List Text
  depth : Nat
deriving DecidableEq

def invisibleNameCharacters : List Char :=
  ['\u200b', '\ufeff', '\u200c', '\u200d', '\u2060', '\u00ad']

def isAsciiDigit (c : Char) : Bool := decide ('0' ≤ c ∧ c ≤ '9')

/-- `validated_name` of a text. -/
def validatedName (label : String) (value : Text) : Except SchemaError Text :=
  if invisibleNameCharacters.any (fun c => decide (c ∈ value)) then
    reject (label ++ " must not contain an invisible character")
  else if strip value = [] then reject (label ++ " must not be empty")
  else if value ≠ strip value then reject (label ++ " must not have surrounding whitespace")
  else if maxNameLength < value.length then reject (label ++ " longer than 64 characters is rejected")
  else .ok value

/-- A set of names in order. -/
def sortedNames (names : List Text) : List Text := names.dedup.insertionSort (· ≤ ·)

@[simp]
theorem mem_sortedNames {name : Text} {names : List Text} : name ∈ sortedNames names ↔ name ∈ names := by
  rw [sortedNames, List.mem_insertionSort, List.mem_dedup]

/-! ## The reader -/

/-- `_skip`. -/
def skip (rest : Text) : Text := rest.dropWhile isSpace

def checkArity (unicode : Unicode) (name : Text) (count : Nat) : Except SchemaError Unit :=
  if name ∈ atLeastTwo then
    if count < 2 then .error (.builder (name ++ lit "() requires at least 2 arguments")) else .ok ()
  else
    match exactArity.lookup name with
    | none => .error (.builder (lit "formula function " ++ pyRepr unicode name ++ lit " is not allowed"))
    | some expected =>
      if count ≠ expected then
        .error (.builder (name ++ lit "() requires " ++ decimal expected ++ lit " arguments"))
      else .ok ()

/-- `_parse_string`, after the opening quote: the text so far and what is left. -/
def parseString : Text → Text → Except SchemaError (Node × Text)
  | _, [] => reject "formula string is not closed"
  | text, c :: rest =>
    if c = '"' then .ok (.literal text .string, rest)
    else if c = '\\' then reject "formula strings cannot contain escapes"
    else parseString (text ++ [c]) rest

def parseNumber (rest : Text) : Node × Text :=
  (.literal (rest.takeWhile isAsciiDigit) .number, rest.dropWhile isAsciiDigit)

/-- The arguments of a call, separated by commas.  What was read goes with what is left of the text. -/
def parseArgs (expr : Text → Except SchemaError (Node × Text)) :
    Nat → Text → Except SchemaError (List Node × Text)
  | 0, _ => .error .unfinished
  | fuel + 1, rest => do
      let (arg, rest) ← expr rest
      match skip rest with
      | ',' :: rest =>
        let (args, rest) ← parseArgs expr fuel rest
        .ok (arg :: args, rest)
      | rest => .ok ([arg], rest)

def isWord (unicode : Unicode) (c : Char) : Bool := unicode.isAlnum c || decide (c = '_')

/-- `_parse_call`, from the opening bracket on. -/
def parseArguments (expr : Text → Except SchemaError (Node × Text)) (fuel : Nat) (rest : Text) :
    Except SchemaError (List Node × Text) :=
  if (skip rest).head? = some ')' then .ok ([], rest) else parseArgs expr fuel rest

def parseCall (unicode : Unicode) (expr : Text → Except SchemaError (Node × Text)) (fuel : Nat)
    (rest : Text) : Except SchemaError (Node × Text) :=
  match skip (rest.dropWhile (isWord unicode)) with
  | '(' :: opened => do
      let (args, rest') ← parseArguments expr fuel opened
      match skip rest' with
      | ')' :: closed =>
        checkArity unicode (rest.takeWhile (isWord unicode)) args.length
        .ok (.call (rest.takeWhile (isWord unicode)) args, closed)
      | _ => reject "formula call is not closed"
  | _ => reject "formula must be a function call"

/-- `_parse_expr`; each nested call takes one round. -/
def parseExpr (unicode : Unicode) : Nat → Text → Except SchemaError (Node × Text)
  | 0, _ => .error .unfinished
  | fuel + 1, rest =>
    match skip rest with
    | [] => reject "formula expression ended early"
    | c :: later =>
      if c = '"' then parseString [] later
      else if isAsciiDigit c then .ok (parseNumber (c :: later))
      else if unicode.isLetter c || decide (c = '_') then
        parseCall unicode (parseExpr unicode fuel) (fuel + 1) (c :: later)
      else reject "formula expression has an unexpected character"

def parse (unicode : Unicode) (text : Text) : Except SchemaError Node := do
  let (node, rest) ← parseExpr unicode (text.length + 1) text
  if skip rest ≠ [] then reject "formula has trailing input" else .ok node

/-! ## The tree -/

mutual

def callDepth : Node → Nat
  | .literal _ _ => 0
  | .call _ args => 1 + deepest args

/-- The depth of the deepest argument. -/
def deepest : List Node → Nat
  | [] => 0
  | arg :: args => max (callDepth arg) (deepest args)

end

/-- The property that a call of `prop` names. -/
def ownName (name : Text) (args : List Node) : Except SchemaError (List Text) :=
  if name = lit "prop" then
    match args with
    | [] => .error .lookup
    | .literal text .string :: _ => (validatedName "property name" text).map (fun own => [own])
    | _ => reject "prop() requires a string property name"
  else .ok []

mutual

def referencedNames : Node → Except SchemaError (List Text)
  | .literal _ _ => .ok []
  | .call name args => do
      let own ← ownName name args
      let inner ← referencedInAll args
      .ok (own ++ inner)

def referencedInAll : List Node → Except SchemaError (List Text)
  | [] => .ok []
  | arg :: args => do
      let names ← referencedNames arg
      let others ← referencedInAll args
      .ok (names ++ others)

end

def formulaValueType (unicode : Unicode) (propertyType : Text) : Except SchemaError Text :=
  match propertyValueTypes.lookup propertyType with
  | some mapped => .ok mapped
  | none =>
    if propertyType ∈ allowedFormulaTypes then .ok propertyType
    else .error (.builder
      (lit "property type " ++ pyRepr unicode propertyType ++ lit " has no formula value"))

/-- `_expect`. -/
def expectType (actual : Text) (expected label : String) : Except SchemaError Unit :=
  if actual ≠ lit expected then
    .error (.builder (lit label ++ lit " requires " ++ lit expected ++ lit ", not " ++ actual))
  else .ok ()

/-- `arg_types[i]`. -/
def argType (argTypes : List Text) (i : Nat) : Except SchemaError Text :=
  match argTypes[i]? with
  | some type => .ok type
  | none => .error .lookup

/-- The type of `prop`. -/
def inferProp (unicode : Unicode) (args : List Node) (types : List (Text × Text)) :
    Except SchemaError Text :=
  match args with
  | [] => .error .lookup
  | .literal text _ :: _ =>
    match types.lookup text with
    | some type => formulaValueType unicode type
    | none => .error .lookup
  | _ => reject "prop() requires a string property name"

def expectAll (argTypes : List Text) (expected label : String) : Except SchemaError Unit :=
  argTypes.forM (fun actual => expectType actual expected label)

/-- `_infer_call`, with the types of the arguments. -/
def inferCall (unicode : Unicode) (name : Text) (args : List Node) (argTypes : List Text)
    (types : List (Text × Text)) : Except SchemaError Text :=
  if name = lit "prop" then inferProp unicode args types
  else if name = lit "now" then .ok (lit "date")
  else if name = lit "formatDate" then do
    expectType (← argType argTypes 0) "date" "formatDate()"
    expectType (← argType argTypes 1) "text" "formatDate()"
    .ok (lit "text")
  else if name = lit "not" then do
    expectType (← argType argTypes 0) "checkbox" "not()"
    .ok (lit "checkbox")
  else if name = lit "empty" then .ok (lit "checkbox")
  else if name = lit "and" then do
    expectAll argTypes "checkbox" "and()"
    .ok (lit "checkbox")
  else if name = lit "or" then do
    expectAll argTypes "checkbox" "or()"
    .ok (lit "checkbox")
  else if name = lit "if" then do
    expectType (← argType argTypes 0) "checkbox" "if() condition"
    let yes ← argType argTypes 1
    let no ← argType argTypes 2
    if yes ≠ no then reject "if() branches must have the same type" else .ok yes
  else if name = lit "equal" then do
    let left ← argType argTypes 0
    let right ← argType argTypes 1
    if left ≠ right then reject "equal() arguments must have the same type" else .ok (lit "checkbox")
  else if name = lit "subtract" then do
    expectType (← argType argTypes 0) "number" "subtract()"
    expectType (← argType argTypes 1) "number" "subtract()"
    .ok (lit "number")
  else .error (.builder (lit "formula function " ++ pyRepr unicode name ++ lit " is not allowed"))

mutual

def inferType (unicode : Unicode) (types : List (Text × Text)) : Node → Except SchemaError Text
  | .literal _ .string => .ok (lit "text")
  | .literal _ .number => .ok (lit "number")
  | .call name args => do
      let argTypes ← inferTypes unicode types args
      inferCall unicode name args argTypes types

def inferTypes (unicode : Unicode) (types : List (Text × Text)) : List Node → Except SchemaError (List Text)
  | [] => .ok []
  | arg :: args => do
      let type ← inferType unicode types arg
      let others ← inferTypes unicode types args
      .ok (type :: others)

end

/-- Every referenced name is a verified property. -/
def requireVerified (verified : List (Text × Text)) (referenced : List Text) : Except SchemaError Unit :=
  (sortedNames referenced).forM (fun name =>
    if name ∉ verified.map Prod.fst then .error (.unverifiedName name) else .ok ())

/-- The checks of the text itself. -/
def requireExpression (unicode : Unicode) (expression resultType : Text) : Except SchemaError Unit :=
  if strip expression = [] then reject "formula expression must not be empty"
  else if expression ≠ strip expression then
    reject "formula expression must not have surrounding whitespace"
  else if expression.length < minFormulaLength then
    reject "formula expression shorter than 5 characters is rejected"
  else if maxFormulaLength < expression.length then
    reject "formula expression longer than 128 characters is rejected"
  else if resultType ∉ allowedFormulaTypes then
    .error (.builder (lit "formula type " ++ pyRepr unicode resultType ++ lit " is not allowed"))
  else .ok ()

def requireDepth (depth : Nat) : Except SchemaError Unit :=
  if depth < 1 then reject "formula must be a function call"
  else if maxFormulaDepth < depth then reject "formula nesting deeper than 4 is rejected"
  else .ok ()

def requireInferred (unicode : Unicode) (resultType inferred : Text) : Except SchemaError Unit :=
  if inferred ≠ resultType then
    .error (.builder (lit "formula result type " ++ pyRepr unicode resultType ++
      lit " does not match expression type " ++ pyRepr unicode inferred))
  else .ok ()

/-- Compile one formula; the names and types it uses are to be verified. -/
def compileFormula (unicode : Unicode) (expression : Text) (verified : List (Text × Text))
    (resultType : Text) : Except SchemaError CompiledFormula := do
  requireExpression unicode expression resultType
  let node ← parse unicode expression
  requireDepth (callDepth node)
  let referenced ← referencedNames node
  requireVerified verified referenced
  let inferred ← inferType unicode verified node
  requireInferred unicode resultType inferred
  .ok { expression := expression
        resultType := resultType
        referencedPropertyNames := referenced
        depth := callDepth node }

/-! ## An accepted formula -/

theorem requireVerified_ok {verified : List (Text × Text)} {referenced : List Text}
    (h : requireVerified verified referenced = .ok ()) :
    ∀ name ∈ referenced, name ∈ verified.map Prod.fst := by
  intro name hname
  have hsorted : name ∈ sortedNames referenced := mem_sortedNames.mpr hname
  unfold requireVerified at h
  revert h hsorted
  generalize sortedNames referenced = names
  induction names with
  | nil => exact fun _ hmem => absurd hmem List.not_mem_nil
  | cons first names ih =>
    intro h hmem
    obtain ⟨_, hfirst, hrest⟩ := bind_eq_ok.mp h
    rcases List.mem_cons.mp hmem with rfl | hlater
    · by_contra hnot
      simp [hnot] at hfirst
    · exact ih hrest hlater

/-- An accepted formula keeps its text, and is the reading of a tree that names verified properties only. -/
theorem compileFormula_ok {unicode : Unicode} {expression resultType : Text}
    {verified : List (Text × Text)} {formula : CompiledFormula}
    (h : compileFormula unicode expression verified resultType = .ok formula) :
    formula.expression = expression ∧ formula.resultType = resultType ∧
      (∃ node, parse unicode expression = .ok node ∧
        referencedNames node = .ok formula.referencedPropertyNames) ∧
      ∀ name ∈ formula.referencedPropertyNames, name ∈ verified.map Prod.fst := by
  obtain ⟨_, -, h⟩ := bind_eq_ok.mp h
  obtain ⟨node, hparse, h⟩ := bind_eq_ok.mp h
  obtain ⟨_, -, h⟩ := bind_eq_ok.mp h
  obtain ⟨referenced, hreferenced, h⟩ := bind_eq_ok.mp h
  obtain ⟨_, hverified, h⟩ := bind_eq_ok.mp h
  obtain ⟨inferred, -, h⟩ := bind_eq_ok.mp h
  obtain ⟨_, -, h⟩ := bind_eq_ok.mp h
  cases h
  exact ⟨rfl, rfl, ⟨node, hparse, hreferenced⟩, requireVerified_ok hverified⟩

end Formulas
end Integrations
end MoneyMachine
