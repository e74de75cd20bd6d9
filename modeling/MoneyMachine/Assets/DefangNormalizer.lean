import MoneyMachine.Assets.DefangTlds
import MoneyMachine.Library.Regex

/-!
# DefangNormalizer — undoing the spellings that hide a host

A text is folded to ASCII, candidates are found by three scans, and the defanged separators inside
the merged candidates are undone in six passes.

* `candidateSpans`              : the scans, merged;
* `replaceDots`, `replaceAts`   : one pass over a candidate;
* `undoSpan`, `undoDefanging`   : the passes in their order;
* `hostMatches`                 : an exact dotted host is left.

What `unicodedata` says is a parameter, and behind `foldConfusables` the text is taken to be ASCII.  A
position in a text is given by what stands behind it.
-/

namespace MoneyMachine
namespace Assets
namespace DefangNormalizer

open Library

abbrev Text := List Char

/-! ## Folding -/

/-- What `unicodedata` says. -/
structure UnicodeData where
  /-- `normalize("NFKC", text)`. -/
  nfkc : Text → Text
  /-- Category `Cf`. -/
  isFormat : Char → Bool

/-- `_LOOKALIKES`. -/
def lookalikes : List (Char × Char) :=
  [('\u0261', 'g'), ('\u03BF', 'o'), ('\u039F', 'O'), ('\u0430', 'a'), ('\u0410', 'A'),
    ('\u0435', 'e'), ('\u0415', 'E'), ('\u0456', 'i'), ('\u0406', 'I'), ('\u0455', 's'),
    ('\u0405', 'S'), ('\u043E', 'o'), ('\u041E', 'O'), ('\u0440', 'p'), ('\u0420', 'P'),
    ('\u0441', 'c'), ('\u0421', 'C'), ('\u043C', 'm'), ('\u041C', 'M'), ('\u0443', 'y'),
    ('\u0423', 'Y'), ('\u0445', 'x'), ('\u0425', 'X'), ('\u0458', 'j'), ('\u0408', 'J'),
    ('\u04BB', 'h'), ('\u04BA', 'H'), ('\u0501', 'd'), ('\u0500', 'D'), ('\u051B', 'q'),
    ('\u051A', 'Q'), ('\u051D', 'w'), ('\u051C', 'W'), ('\u3002', '.'), ('\uFF61', '.')]

/-- `_LUNATE_SIGMA`. -/
def lunateSigma : List (Char × Char) :=
  [('\u03F2', 'c')]

/-- `text.translate(table)`. -/
def translate (table : List (Char × Char)) (text : Text) : Text :=
  text.map (fun c => (table.lookup c).getD c)

def foldConfusables (unicode : UnicodeData) (text : Text) : Text :=
  let marked := translate lunateSigma text
  let folded := translate lookalikes (unicode.nfkc marked)
  folded.filter (fun c => !unicode.isFormat c)

/-! ## Patterns -/

/-- The classes of `re`, for ASCII. -/
def ascii : Alphabet where
  digit c := c.isDigit
  space c := decide (c = ' ') || inRange '\t' '\r' c || inRange '\x1c' '\x1f' c
  word c := c.isAlphanum || decide (c = '_')

def labelPattern : String :=
  "[A-Za-z0-9]+(?:-+[A-Za-z0-9]+)*"

/-- The repetition in `(?![A-Za-z0-9]{2})` is written out. -/
def spacedTldPattern : String :=
  "[A-Za-z0-9](?:[ \t]+(?![A-Za-z0-9][A-Za-z0-9])[A-Za-z0-9])+"

def tldPattern : List String :=
  ["(?:", spacedTldPattern, "|", labelPattern, ")"]

def bracketDotPattern : List String :=
  ["[ \t]*(?:", "\\[[ \t]*(?:\\.|dot)[ \t]*\\]", "|\\([ \t]*(?:\\.|dot)[ \t]*\\)",
    "|\\\x7b[ \t]*(?:\\.|dot)[ \t]*\\\x7d", ")[ \t]*"]

def bareDotPattern : String :=
  "[ \t]+dot[ \t]+"

def spacedDotPattern : String :=
  "(?:[ \t]+\\.[ \t]*|[ \t]*\\.[ \t]+)"

def anyDotPattern : List String :=
  ["(?:"] ++ bracketDotPattern ++ ["|", bareDotPattern, "|", spacedDotPattern, "|\\.)"]

def atPattern : List String :=
  ["(?:", "[ \t]*\\[[ \t]*at[ \t]*\\][ \t]*", "|[ \t]*\\([ \t]*at[ \t]*\\)[ \t]*",
    "|[ \t]*\\\x7b[ \t]*at[ \t]*\\\x7d[ \t]*", "|[ \t]+at[ \t]+", "|[ \t]*@[ \t]*", ")"]

def urlCandidate : Re :=
  Re.compile ["(?<![A-Za-z0-9])hxxps?(?:\\[:\\]|:)//\\S+"]

def emailCandidate : Re :=
  Re.compile (["(?<![A-Za-z0-9._%+-])[A-Za-z0-9._%+-]+"] ++ atPattern ++ [labelPattern, "(?:"] ++
    anyDotPattern ++ tldPattern ++ [")+"])

def hostCandidate : Re :=
  Re.compile (["(?<![A-Za-z0-9])", labelPattern, "(?:"] ++ bracketDotPattern ++
    ["|", bareDotPattern, "|", spacedDotPattern, ")"] ++ tldPattern)

def bracketDotRe : Re :=
  Re.compile bracketDotPattern

def bareDotRe : Re :=
  Re.compile [bareDotPattern]

def spacedDotRe : Re :=
  Re.compile [spacedDotPattern]

def bracketAtRe : Re :=
  Re.compile ["[ \t]*(?:\\[[ \t]*at[ \t]*\\]|\\([ \t]*at[ \t]*\\)|\\\x7b[ \t]*at[ \t]*\\\x7d)[ \t]*"]

def bareAtRe : Re :=
  Re.compile ["[ \t]+at[ \t]+"]

def spacedAtSign : Re :=
  Re.compile ["[ \t]+@[ \t]*|[ \t]*@[ \t]+"]

def hostTail : Re :=
  Re.compile ["[A-Za-z0-9]+(?:-[A-Za-z0-9]+)*(?:\\.[A-Za-z0-9]+(?:-[A-Za-z0-9]+)*)+"]

/-- The repetition in `[A-Za-z0-9]{2,}` is written out. -/
def exactHost : Re :=
  Re.compile ["(?<![A-Za-z0-9])", "(?:[A-Za-z0-9]|[A-Za-z0-9][A-Za-z0-9-]*[A-Za-z0-9])",
    "\\.[A-Za-z0-9][A-Za-z0-9][A-Za-z0-9]*(?![A-Za-z0-9])"]

def hxxp : Re :=
  Re.compile ["hxxp(s?)(?:\\[:\\]|:)(//)"]

/-! ## Top-level domains -/

def casefold (text : Text) : Text :=
  text.map Char.toLower

def isUpper (text : Text) : Bool :=
  text.any Char.isUpper && !text.any Char.isLower

def isLower (text : Text) : Bool :=
  text.any Char.isLower && !text.any Char.isUpper

/-- `token in tlds`. -/
def isOneOf (tlds : List String) (token : Text) : Bool :=
  tlds.contains (String.ofList token)

/-- `translate(_CURATED_DIGITS)`. -/
def mapDigits (text : Text) : Text :=
  text.map (fun c => if c = '0' then 'o' else if c = '1' then 'i' else if c = '3' then 'e' else c)

def spacedDotTlds : List String :=
  ["com", "c0m", "net", "org"]

def spacedDigitTargets : List String :=
  spacedDotTlds ++ ["io"]

def curatedTld (token : Text) : Bool :=
  let folded := casefold token
  isOneOf curatedTlds folded ||
    (decide (mapDigits folded ≠ folded) && isOneOf curatedTlds (mapDigits folded))

def bracketTld (token : Text) : Bool :=
  isOneOf ianaTlds (casefold token) || curatedTld token

def spacedDotTld (token : Text) : Bool :=
  let token := if isUpper token then casefold token else token
  if !isLower token then
    false
  else if isOneOf spacedDotTlds token then
    true
  else
    decide (mapDigits token ≠ token) && isOneOf spacedDigitTargets (mapDigits token)

def reliesOnDigitMap (token : Text) : Bool :=
  let folded := casefold token
  if isOneOf spacedDotTlds folded || isOneOf curatedTlds folded then
    false
  else
    decide (mapDigits folded ≠ folded) &&
      isOneOf (spacedDigitTargets ++ curatedTlds) (mapDigits folded)

/-! ## Reading a token -/

def blank (c : Char) : Bool :=
  decide (c = ' ') || decide (c = '\t')

def labelChar (c : Char) : Bool :=
  c.isAlphanum || decide (c = '-')

/-- The label in front of a separator, from what stands before the token, the nearest first. -/
def labelBefore (before : Text) : Text :=
  let index := before.dropWhile blank
  let index :=
    if casefold (index.take 3) = ['t', 'o', 'd'] then
      (index.drop 3).dropWhile blank
    else if index.head? = some '.' then
      index.tail.dropWhile blank
    else
      index
  (index.takeWhile labelChar).reverse

/-- A letter or digit that no other one and no hyphen follows, with what stands behind it. -/
def loneLetter : Text → Option (Char × Text)
  | [] => none
  | c :: rest => if c.isAlphanum && !rest.head?.any labelChar then some (c, rest) else none

/-- The lone letters that follow, each behind a space. -/
def moreLetters : Nat → Text → List (Char × Text)
  | 0, _ => []
  | count + 1, ' ' :: rest =>
    match loneLetter (rest.dropWhile (fun c => decide (c = ' '))) with
    | some (c, rest) => (c, rest) :: moreLetters count rest
    | none => []
  | _ + 1, _ => []

/-- The words that the letters spell, each with what stands behind it. -/
def spelled : Text → List (Char × Text) → List (Text × Text)
  | _, [] => []
  | acc, (c, rest) :: letters => (acc ++ [c], rest) :: spelled (acc ++ [c]) letters

/-- At most twelve letters, and at least two. -/
def spacedPrefixes (text : Text) : List (Text × Text) :=
  match loneLetter text with
  | none => []
  | some (c, rest) =>
    match moreLetters 11 rest with
    | [] => []
    | letters => spelled [] ((c, rest) :: letters)

/-- A token, what stands behind it, and whether its letters are spaced. -/
def readTld (text : Text) : Option (Text × Text × Bool) :=
  if text.head?.any Char.isAlphanum then
    match (spacedPrefixes text).getLast? with
    | some (token, rest) => some (token, rest, true)
    | none => some (text.takeWhile labelChar, text.dropWhile labelChar, false)
  else
    none

def followedByWord (text : Text) : Bool :=
  (text.dropWhile blank).head?.any Char.isAlphanum

def wordFollows (rest tail : Text) : Bool :=
  if rest ≠ [] then followedByWord rest else followedByWord tail

/-- The last of the spelled words that is accepted, when the letters are spaced. -/
def longestAccepted (text token rest : Text) (spaced : Bool) (accept : Text → Bool) :
    Option (Text × Text × Bool) :=
  if !spaced then
    if accept token then some (token, rest, false) else none
  else
    ((spacedPrefixes text).filter (fun w => decide (2 ≤ w.1.length) && accept w.1)).getLast?.map
      (fun w => (w.1, w.2, true))

def outsideCurated (place : Cursor) (token rest : Text) (boundary : Bool) (tail : Text) :
    Option (Text × Text) :=
  if !boundary || !wordFollows rest tail then
    none
  else if !isLower token || isOneOf spacedDotTlds token || !isOneOf curatedTlds token then
    none
  else if (labelBefore place.before).length ≠ 1 then
    none
  else
    some (token, rest)

def isDigits (label : Text) : Bool :=
  label ≠ [] && label.all Char.isDigit

/-- A single letter. -/
def oneLetter (label : Text) : Bool :=
  decide (label.length = 1) && label.all Char.isAlpha

/-- The token behind a separator that is put behind a dot, and what stands behind the token. -/
def chosenTld (place : Cursor) (accept : Text → Bool) (boundary : Bool) (tail : Text) :
    Option (Text × Text) :=
  match readTld place.after with
  | none => none
  | some (token, rest, spaced) =>
    match longestAccepted place.after token rest spaced accept with
    | none => outsideCurated place token rest boundary tail
    | some (token, rest, spaced) =>
      let label := labelBefore place.before
      if reliesOnDigitMap token && isDigits label then
        none
      else if (boundary && !spaced && wordFollows rest tail) && !oneLetter label then
        none
      else
        some (token, rest)

/-! ## Passes -/

/-- The loop of a pass.  A match that begins before the cursor is skipped, and so is one for which
nothing is chosen. -/
def replaceWhere (choose : Match → Option (Text × Text)) : Text → List Match → Text
  | cursor, [] => cursor
  | cursor, m :: rest =>
    if cursor.length < m.first.after.length then
      replaceWhere choose cursor rest
    else
      match choose m with
      | none => replaceWhere choose cursor rest
      | some (new, next) =>
        cursor.take (cursor.length - m.first.after.length) ++ new ++
          replaceWhere choose next rest

def replaceDots (chunk : Text) (pattern : Re) (ignoreCase : Bool) (accept : Text → Bool)
    (boundary : Bool) (tail : Text) : Text :=
  replaceWhere
    (fun m => (chosenTld m.last accept boundary tail).map (fun c => ('.' :: c.1, c.2)))
    chunk (finditer ascii ignoreCase pattern chunk)

/-- `rsplit(".", 1)[1]`. -/
def afterLastDot (text : Text) : Text :=
  (text.reverse.takeWhile (fun c => decide (c ≠ '.'))).reverse

def replaceAts (chunk : Text) (pattern : Re) (bracket : Bool) : Text :=
  replaceWhere
    (fun m =>
      match matchFrom ascii true hostTail m.last with
      | none => none
      | some host =>
        let tld := afterLastDot host.text
        let allowed := if bracket then bracketTld tld else curatedTld tld
        if allowed then some (['@'], m.last.after) else none)
    chunk (finditer ascii true pattern chunk)

/-- `r"http\1:\2"`. -/
def httpFor (m : Match) : Text :=
  "http".toList ++ (m.group 1).getD [] ++ [':'] ++ (m.group 2).getD []

def undoSpan (text : Text) (start stop : Nat) : Text :=
  let chunk := (text.take stop).drop start
  let tail := text.drop stop
  let restored := sub ascii true hxxp httpFor chunk
  let restored := replaceDots restored bracketDotRe true bracketTld false tail
  let restored := replaceDots restored bareDotRe true curatedTld false tail
  let restored := replaceDots restored spacedDotRe false spacedDotTld true tail
  let restored := replaceAts restored bracketAtRe true
  let restored := replaceAts restored bareAtRe false
  sub ascii false spacedAtSign (fun _ => ['@']) restored

/-! ## Candidates -/

abbrev Span := Nat × Nat

def Span.of (m : Match) : Span :=
  (m.first.before.length, m.last.before.length)

/-- The order of pairs. -/
def spanLe (a b : Span) : Bool :=
  decide (a.1 < b.1) || (decide (a.1 = b.1) && decide (a.2 ≤ b.2))

/-- The spans behind the last one that was merged. -/
def mergeInto (last : Span) : List Span → List Span
  | [] => [last]
  | span :: rest =>
    if span.1 ≤ last.2 then
      mergeInto (last.1, max last.2 span.2) rest
    else
      last :: mergeInto span rest

def merge (spans : List Span) : List Span :=
  match spans.mergeSort spanLe with
  | [] => []
  | first :: rest => mergeInto first rest

/-- The candidates of the three scans. -/
def candidates (text : Text) : List Match :=
  [urlCandidate, emailCandidate, hostCandidate].flatMap
    (fun pattern => finditer ascii true pattern text)

def candidateSpans (text : Text) : List Span :=
  merge ((candidates text).map Span.of)

/-- From a position on. -/
def undoFrom (text : Text) : Nat → List Span → Text
  | cursor, [] => text.drop cursor
  | cursor, (start, stop) :: spans =>
    (text.take start).drop cursor ++ undoSpan text start stop ++ undoFrom text stop spans

def undoDefanging (text : Text) (spans : List Span) : Text :=
  undoFrom text 0 spans

section Detectors

variable (unicode : UnicodeData)

def normalizeDefanged (text : Text) : Text :=
  let folded := foldConfusables unicode text
  undoDefanging folded (candidateSpans folded)

def hostMatches (text : Text) : Bool :=
  (search ascii true exactHost (normalizeDefanged unicode text)).isSome

end Detectors

end DefangNormalizer
end Assets
end MoneyMachine
