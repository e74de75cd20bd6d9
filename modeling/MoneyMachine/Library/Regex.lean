import Mathlib.Data.List.Basic

/-!
# Regex — regular expressions as Python's `re` matches them

A pattern is parsed from its text and matched by backtracking: the first alternative that leads to a
match is taken, and a repetition takes as much as it can.

* `Re.parse`    : groups, alternatives, repetitions, classes, look-around and word boundaries;
* `Re.run`      : the matcher, with a continuation for what follows;
* `search`, `finditer`, `fullmatch`, `matchFrom`, `sub` : the functions of the module.

What a digit, a space and a word character are is given by an `Alphabet`.
-/

namespace MoneyMachine
namespace Library

/-! ## Syntax -/

inductive SetItem
  | range (low high : Char)
  | digit
  | space
  | word
  | notDigit
  | notSpace
  | notWord
  deriving DecidableEq, Repr

/-- `[...]` or `[^...]`. -/
structure CharSet where
  negated : Bool
  items : List SetItem
  deriving DecidableEq, Repr

inductive Re
  | empty
  | one (set : CharSet)
  | seq (first second : Re)
  | alt (first second : Re)
  /-- Greedy `*`. -/
  | star (body : Re)
  | group (index : Nat) (body : Re)
  /-- `(?=...)`, or `(?!...)`. -/
  | ahead (positive : Bool) (body : Re)
  /-- `(?<=...)`, or `(?<!...)`. -/
  | behind (positive : Bool) (body : Re)
  /-- `\b`. -/
  | boundary
  deriving DecidableEq, Repr

namespace Re

def lit (c : Char) : Re :=
  .one { negated := false, items := [.range c c] }

/-- No text matches. -/
def never : Re :=
  .one { negated := false, items := [] }

/-- The number of characters of a match, when it is always the same. -/
def width : Re → Option Nat
  | .empty => some 0
  | .one _ => some 1
  | .seq a b =>
    match a.width, b.width with
    | some n, some m => some (n + m)
    | _, _ => none
  | .alt a b =>
    match a.width, b.width with
    | some n, some m => if n = m then some n else none
    | _, _ => none
  | .star _ => none
  | .group _ a => a.width
  | .ahead _ _ => some 0
  | .behind _ _ => some 0
  | .boundary => some 0

/-! ### Parsing -/

def escapeItem (c : Char) : SetItem :=
  if c = 'd' then
    .digit
  else if c = 's' then
    .space
  else if c = 'w' then
    .word
  else if c = 'D' then
    .notDigit
  else if c = 'S' then
    .notSpace
  else if c = 'W' then
    .notWord
  else
    .range c c

/-- The items up to the closing bracket. -/
def parseItems : Nat → List Char → Option (List SetItem × List Char)
  | 0, _ => none
  | _, [] => none
  | _, ']' :: rest => some ([], rest)
  | fuel + 1, '\\' :: c :: rest => do
      let (items, rest) ← parseItems fuel rest
      some (escapeItem c :: items, rest)
  | fuel + 1, c :: rest =>
    match rest with
    | '-' :: d :: more =>
      if d = ']' then do
        let (items, rest) ← parseItems fuel rest
        some (.range c c :: items, rest)
      else do
        let (items, rest) ← parseItems fuel more
        some (.range c d :: items, rest)
    | _ => do
        let (items, rest) ← parseItems fuel rest
        some (.range c c :: items, rest)

def parseSet (pattern : List Char) : Option (Re × List Char) :=
  match pattern with
  | '^' :: rest => do
      let (items, rest) ← parseItems (rest.length + 1) rest
      some (.one { negated := true, items := items }, rest)
  | _ => do
      let (items, rest) ← parseItems (pattern.length + 1) pattern
      some (.one { negated := false, items := items }, rest)

/-- An atom with the repetition behind it. -/
def repeated (body : Re) : List Char → Re × List Char
  | '*' :: rest => (.star body, rest)
  | '+' :: rest => (.seq body (.star body), rest)
  | '?' :: rest => (.alt body .empty, rest)
  | rest => (body, rest)

mutual

/-- Alternatives.  The number is that of the next group. -/
def parseAlt : Nat → Nat → List Char → Option (Re × Nat × List Char)
  | 0, _, _ => none
  | fuel + 1, n, pattern => do
      let (a, n, rest) ← parseSeq fuel n pattern
      match rest with
      | '|' :: rest => do
          let (b, n, rest) ← parseAlt fuel n rest
          some (.alt a b, n, rest)
      | _ => some (a, n, rest)

def parseSeq : Nat → Nat → List Char → Option (Re × Nat × List Char)
  | 0, _, _ => none
  | _ + 1, n, [] => some (.empty, n, [])
  | fuel + 1, n, c :: pattern =>
    if c = ')' ∨ c = '|' then
      some (.empty, n, c :: pattern)
    else do
      let (a, n, rest) ← parseAtom fuel n c pattern
      let (a, rest) := repeated a rest
      let (b, n, rest) ← parseSeq fuel n rest
      some (.seq a b, n, rest)

/-- An atom that begins with a character. -/
def parseAtom : Nat → Nat → Char → List Char → Option (Re × Nat × List Char)
  | 0, _, _, _ => none
  | fuel + 1, n, '(', pattern =>
    match pattern with
    | '?' :: ':' :: rest => parseGroup fuel n id rest
    | '?' :: '=' :: rest => parseGroup fuel n (.ahead true) rest
    | '?' :: '!' :: rest => parseGroup fuel n (.ahead false) rest
    | '?' :: '<' :: '=' :: rest => parseGroup fuel n (.behind true) rest
    | '?' :: '<' :: '!' :: rest => parseGroup fuel n (.behind false) rest
    | rest => parseGroup fuel (n + 1) (.group n) rest
  | _ + 1, n, '[', pattern => do
      let (set, rest) ← parseSet pattern
      some (set, n, rest)
  | _ + 1, n, '\\', pattern =>
    match pattern with
    | [] => none
    | 'b' :: rest => some (.boundary, n, rest)
    | c :: rest => some (.one { negated := false, items := [escapeItem c] }, n, rest)
  | _ + 1, n, '.', pattern => some (.one { negated := true, items := [.range '\n' '\n'] }, n, pattern)
  | _ + 1, n, c, pattern => some (lit c, n, pattern)

/-- What a parenthesis holds, and the parenthesis that closes it. -/
def parseGroup : Nat → Nat → (Re → Re) → List Char → Option (Re × Nat × List Char)
  | 0, _, _, _ => none
  | fuel + 1, n, wrap, pattern => do
      let (body, n, rest) ← parseAlt fuel n pattern
      match rest with
      | ')' :: rest => some (wrap body, n, rest)
      | _ => none

end

def parse (pattern : List Char) : Option Re :=
  match parseAlt (4 * pattern.length + 4) 1 pattern with
  | some (re, _, []) => some re
  | _ => none

/-- `re.compile`, for a well-formed pattern that is given in pieces. -/
def compile (pieces : List String) : Re :=
  (parse (pieces.flatMap String.toList)).getD never

end Re

/-! ## Matching -/

/-- The characters a pattern names by class. -/
structure Alphabet where
  digit : Char → Bool
  space : Char → Bool
  word : Char → Bool

/-- Between two characters, by their code points. -/
def inRange (low high c : Char) : Bool :=
  low.toNat.ble c.toNat && c.toNat.ble high.toNat

/-- The other letters that are equal to a character when case is ignored, as far as a pattern of
ASCII letters can tell. -/
def otherCases (c : Char) : List Char :=
  if inRange 'a' 'z' c then
    [c.toUpper]
  else if inRange 'A' 'Z' c then
    [c.toLower]
  else if c = '\u0130' ∨ c = '\u0131' then
    ['i', 'I']
  else if c = '\u017F' then
    ['s', 'S']
  else if c = '\u212A' then
    ['k', 'K']
  else
    []

section Matching

variable (alphabet : Alphabet) (ignoreCase : Bool)

def SetItem.has (item : SetItem) (c : Char) : Bool :=
  match item with
  | .range low high =>
    inRange low high c || (ignoreCase && (otherCases c).any (inRange low high))
  | .digit => alphabet.digit c
  | .space => alphabet.space c
  | .word => alphabet.word c
  | .notDigit => !alphabet.digit c
  | .notSpace => !alphabet.space c
  | .notWord => !alphabet.word c

def CharSet.has (set : CharSet) (c : Char) : Bool :=
  set.items.any (fun item => item.has alphabet ignoreCase c) != set.negated

/-- A place in a text: what stands before it, the nearest first, and what stands after. -/
structure Cursor where
  before : List Char
  after : List Char
  deriving DecidableEq, Repr

def Cursor.start (text : List Char) : Cursor :=
  { before := [], after := text }

/-- The text from one place to a later one. -/
def Cursor.upTo (first last : Cursor) : List Char :=
  first.after.take (first.after.length - last.after.length)

/-- Some characters back. -/
def Cursor.back (place : Cursor) (n : Nat) : Cursor :=
  { before := place.before.drop n
    after := (place.before.take n).reverse ++ place.after }

/-- A word character on one side only. -/
def atBoundary (place : Cursor) : Bool :=
  place.before.head?.any alphabet.word != place.after.head?.any alphabet.word

abbrev Groups := List (Nat × List Char)

abbrev Continue (β : Type) := Cursor → Groups → Option β

/-- As many rounds as possible, each of which reads something. -/
def starRun {β : Type} (body : Cursor → Groups → Continue β → Option β) :
    Nat → Cursor → Groups → Continue β → Option β
  | 0, place, groups, next => next place groups
  | rounds + 1, place, groups, next =>
    let more := body place groups (fun place' groups' =>
      if place'.after.length < place.after.length then
        starRun body rounds place' groups' next
      else
        none)
    match more with
    | some result => some result
    | none => next place groups

def Re.run : Re → {β : Type} → Cursor → Groups → Continue β → Option β
  | .empty, _, place, groups, next => next place groups
  | .one set, _, place, groups, next =>
    match place.after with
    | [] => none
    | c :: rest =>
      if set.has alphabet ignoreCase c then
        next { before := c :: place.before, after := rest } groups
      else
        none
  | .seq a b, _, place, groups, next =>
    Re.run a place groups (fun place groups => Re.run b place groups next)
  | .alt a b, _, place, groups, next =>
    match Re.run a place groups next with
    | some result => some result
    | none => Re.run b place groups next
  | .star body, _, place, groups, next =>
    starRun (fun place groups next => Re.run body place groups next) place.after.length place
      groups next
  | .group n body, _, place, groups, next =>
    Re.run body place groups (fun last groups => next last ((n, place.upTo last) :: groups))
  | .ahead positive body, _, place, groups, next =>
    match Re.run body place groups (fun _ groups => some groups), positive with
    | some groups, true => next place groups
    | none, false => next place groups
    | _, _ => none
  | .behind positive body, _, place, groups, next =>
    let n := body.width.getD 0
    let found : Option Groups :=
      if place.before.length < n then
        none
      else
        Re.run body (place.back n) groups (fun last groups =>
          if last.after.length = place.after.length then some groups else none)
    match found, positive with
    | some groups, true => next place groups
    | none, false => next place groups
    | _, _ => none
  | .boundary, _, place, groups, next =>
    if atBoundary alphabet place then next place groups else none

/-- A match and its groups. -/
structure Match where
  first : Cursor
  last : Cursor
  groups : Groups
  deriving DecidableEq, Repr

/-- `match.group(0)`. -/
def Match.text (m : Match) : List Char :=
  m.first.upTo m.last

/-- `match.group(n)`. -/
def Match.group (m : Match) (n : Nat) : Option (List Char) :=
  m.groups.lookup n

/-- A match at a place.  After an empty match the next one at its place may not be empty. -/
def matchAt (re : Re) (mustAdvance : Bool) (place : Cursor) : Option Match :=
  re.run alphabet ignoreCase place [] (fun last groups =>
    if mustAdvance && decide (last.after.length = place.after.length) then
      none
    else
      some { first := place, last := last, groups := groups })

/-- `pattern.match(text, pos)`, at a place of the text. -/
def matchFrom (re : Re) (place : Cursor) : Option Match :=
  matchAt alphabet ignoreCase re false place

/-- The first match in what stands after a place. -/
def searchAfter (re : Re) : Bool → List Char → List Char → Option Match
  | mustAdvance, before, [] =>
    matchAt alphabet ignoreCase re mustAdvance { before := before, after := [] }
  | mustAdvance, before, c :: rest =>
    match matchAt alphabet ignoreCase re mustAdvance { before := before, after := c :: rest } with
    | some m => some m
    | none => searchAfter re false (c :: before) rest

/-- `pattern.search(text)`. -/
def search (re : Re) (text : List Char) : Option Match :=
  searchAfter alphabet ignoreCase re false [] text

/-- The matches from a place on, at most so many. -/
def matchesAfter (re : Re) : Nat → Bool → Cursor → List Match
  | 0, _, _ => []
  | count + 1, mustAdvance, place =>
    match searchAfter alphabet ignoreCase re mustAdvance place.before place.after with
    | none => []
    | some m => m :: matchesAfter re count (decide (m.text = [])) m.last

/-- `pattern.finditer(text)`. -/
def finditer (re : Re) (text : List Char) : List Match :=
  matchesAfter alphabet ignoreCase re (2 * text.length + 2) false (Cursor.start text)

/-- `pattern.fullmatch(text)`. -/
def fullmatch (re : Re) (text : List Char) : Option Match :=
  re.run alphabet ignoreCase (Cursor.start text) [] (fun last groups =>
    if last.after = [] then
      some { first := Cursor.start text, last := last, groups := groups }
    else
      none)

/-- The text with each of the matches replaced. -/
def replaceMatches (replacement : Match → List Char) : Cursor → List Match → List Char
  | place, [] => place.after
  | place, m :: rest =>
    place.upTo m.first ++ replacement m ++ replaceMatches replacement m.last rest

/-- `pattern.sub(replacement, text)`. -/
def sub (re : Re) (replacement : Match → List Char) (text : List Char) : List Char :=
  replaceMatches replacement (Cursor.start text) (finditer alphabet ignoreCase re text)

end Matching

end Library
end MoneyMachine
