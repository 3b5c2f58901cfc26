import Pseudocode.Pattern.Flags
import Pseudocode.Text.Table.Category
import Pseudocode.Text.Table.Script

/-!
# Classes by property

A class can be named by a general category, by a script, or by one of the properties that tell
letters, cased letters and white space apart. Names are compared loosely: case, spaces, hyphens and
low lines do not count, and neither does an `is` in front. Ages, breaks between words or lines and
properties of symbols are not among the names; they are refused as unknown names are.
-/

namespace Pseudocode.Pattern.Property

/-- Code points that follow one another and share a name. -/
structure Run where
  name : Text
  first : Nat
  last : Nat

/-- Reads runs, each a name and the number of its code points, from the code point `start` on;
`name` and `count` are what has been read of the first one. -/
def readRuns (start : Nat) (name : Text) (count : Nat) : Text → List Run
  | [] => [⟨name, start, start + count - 1⟩]
  | c :: rest =>
    if Text.isAsciiDigit c then readRuns start name (10 * count + (c.toNat - '0'.toNat)) rest
    else if count = 0 then readRuns start (name ++ [c]) 0 rest
    else ⟨name, start, start + count - 1⟩ :: readRuns (start + count) [c] 0 rest

def runs (table : List String) : List Run := readRuns 0 [] 0 (table.flatMap String.toList)

def categories : List Run := runs Text.Table.categories

def scripts : List Run := runs Text.Table.scripts

def sharedScripts : List Run := runs Text.Table.sharedScripts

/-- Puts a run in front of ranges, joined to the first where that goes on. -/
def extend (run : Run) : List (Nat × Nat) → List (Nat × Nat)
  | [] => [(run.first, run.last)]
  | (lo, hi) :: rest =>
    if run.last + 1 = lo then (run.first, hi) :: rest else (run.first, run.last) :: (lo, hi) :: rest

/-- The characters of the runs whose names satisfy `p`. -/
def named (p : Text → Bool) (runs : List Run) : CharSet :=
  .ranges ((runs.filter (p ·.name)).foldr extend [])

/-- A name without what does not count in it. A lone `c` after `is` keeps it: it is the name of
comments. -/
def loose (t : Text) : Text :=
  let (is, t) := match t with
    | a :: b :: rest => if Text.sameWord [a, b] ['i', 's'] then (true, rest) else (false, t)
    | _ => (false, t)
  let counts := fun c : Char => c.toNat < 128 && c != '_' && c != '-' && c != ' '
  let name := (t.filter counts).map Text.asciiLower
  if is && name = ['c'] then ['i', 's', 'c'] else name

/-- The code of a loose name in a table of codes and long names. -/
def code? (names : List (String × String)) (name : Text) : Option Text :=
  (names.find? fun entry => loose entry.1.toList = name || entry.2.toList = name).map (·.1.toList)

/-- Whether a general category belongs to the category or the group of categories with a code. -/
def isWithin (code category : Text) : Bool :=
  if code = ['L', 'C'] then [['L', 'u'], ['L', 'l'], ['L', 't']].contains category
  else code.isPrefixOf category

def category? (name : Text) : Option CharSet :=
  match String.ofList name with
  | "any" => some .all
  | "assigned" => some (named (· ≠ ['C', 'n']) categories)
  | "ascii" => some .ascii
  | _ => (code? Text.Table.categoryNames name).map fun code => named (isWithin code) categories

def script? (name : Text) : Option CharSet :=
  (code? Text.Table.scriptNames name).map fun code => named (· = code) scripts

/-- Whether a script is among those whose codes are written one after the other. -/
def isShared (code : Text) : Text → Bool
  | a :: b :: c :: d :: rest => [a, b, c, d] == code || isShared code rest
  | _ => false

/-- The characters that are used in a script, in it alone or in others as well. -/
def scriptExtension? (name : Text) : Option CharSet :=
  (code? Text.Table.scriptNames name).map fun code =>
    .union (.diff (named (· = code) scripts) (named (· ≠ ['.']) sharedScripts))
      (named (isShared code) sharedScripts)

def property? (name : Text) : Option CharSet :=
  match String.ofList name with
  | "alphabetic" | "alpha" => some (.ranges Text.Table.alphabetic)
  | "asciihexdigit" | "ahex" => CharSet.named? "xdigit".toList
  | "caseignorable" | "ci" => some (.ranges Text.Table.caseIgnorable)
  | "cased" => some (.ranges Text.Table.cased)
  | "joincontrol" | "joinc" => some (.range '\u200c' '\u200d')
  | "lowercase" | "lower" =>
    some (.union (named (· = ['L', 'l']) categories) (.ranges Text.Table.otherLowercase))
  | "uppercase" | "upper" =>
    some (.union (named (· = ['L', 'u']) categories) (.ranges Text.Table.otherUppercase))
  | "whitespace" | "wspace" | "space" => some .white
  | _ => none

def byName? (name : Text) : Option CharSet := property? name <|> category? name <|> script? name

/-- The class of a value of a property, both by their loose names. -/
def byValue? (property value : Text) : Option CharSet :=
  match String.ofList property with
  | "generalcategory" | "gc" => category? value
  | "script" | "sc" => script? value
  | "scriptextensions" | "scx" => scriptExtension? value
  | _ => none

/-- The texts before and after the first `sign`. -/
def cut? (sign t : Text) : Option (Text × Text) :=
  if Text.occursIn sign t then
    let front := Text.before sign t
    some (front, t.drop (front.length + sign.length))
  else none

/-- The class that a text in braces names: a name on its own, or a property and its value. -/
def braced? (t : Text) : Option CharSet :=
  match cut? "!=".toList t <|> cut? ":".toList t <|> cut? "=".toList t with
  | some (property, value) => byValue? (loose property) (loose value)
  | none => byName? (loose t)

/-- Reads a name up to the brace that closes it. -/
def name? (flags : Flags) (inComment : Bool) : Text → Option (Text × Text)
  | [] => none
  | c :: rest =>
    match flags.skips? inComment c with
    | some inComment => name? flags inComment rest
    | none =>
      if c = '}' then some ([], rest)
      else (name? flags false rest).map fun (name, rest) => (c :: name, rest)

/-- Reads the name of a class, which is one letter or stands in braces. -/
def read? (flags : Flags) (t : Text) : Option (CharSet × Text) :=
  if !flags.unicode then none
  else match flags.skip t with
    | [] => none
    | '{' :: rest => do
      let (name, rest) ← name? flags false rest
      return (flags.caseOf (← braced? name), rest)
    | c :: rest => do return (flags.caseOf (← byName? (loose [c])), rest)

end Pseudocode.Pattern.Property
