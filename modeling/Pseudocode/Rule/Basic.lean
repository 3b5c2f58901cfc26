import Pseudocode.Pattern.Reader
import Pseudocode.Pattern.Search
import Pseudocode.Rule.Template
import Pseudocode.Text.Ascii

/-!
# Conversion rules

A rule turns the lines that one of its patterns matches as a whole into a statement, by filling its
template with what the pattern captured. A rule is checked once, when it is compiled, so that
applying it never fails. A rulebook is a list of rules in order of precedence: the first rule that
applies to a line decides, however specific a later one may be.
-/

namespace Pseudocode

/-- A rule as it is written in a rule document. -/
structure WrittenRule where
  keyword : Text
  patterns : List Text
  template : Text
deriving DecidableEq

/-- How captured texts are put into the slots of a template. -/
inductive Filling where
  /-- The groups fill the slots in order. -/
  | inOrder
  /-- The variable, start and end of a counting loop fill the five slots of its header, the
  variable being repeated. -/
  | countedLoop
deriving DecidableEq

/-- Why a written rule is refused. -/
inductive RuleFault where
  | noPatterns (keyword : Text)
  | badPattern (keyword pattern : Text)
  | slotMismatch (keyword : Text) (slots captures : Nat)
deriving DecidableEq

/-- The sentence that reports a refused rule. What is wrong within a pattern is for its reader to
say, after the last words. -/
def RuleFault.message : RuleFault → Text
  | noPatterns keyword => "Rule '".toList ++ keyword ++ "' declares no patterns".toList
  | badPattern keyword pattern =>
    "Rule '".toList ++ keyword ++ "' has an invalid pattern '".toList ++ pattern ++ "': ".toList
  | slotMismatch keyword slots captures =>
    "Rule '".toList ++ keyword ++ "' has ".toList ++ Text.ofNat slots
      ++ " placeholder(s) but its patterns capture ".toList ++ Text.ofNat captures
      ++ " group(s)".toList

/-- A rule whose patterns have been read and whose template fits them. -/
structure Rule where
  written : WrittenRule
  patterns : List Pattern
  filling : Filling

namespace Rule

/-- The keywords of counting loops. -/
def loopKeywords : List Text := ["for loop".toList, "for".toList]

def fillingFor (keyword : Text) : Filling :=
  if loopKeywords.any (Text.sameWord · keyword) then .countedLoop else .inOrder

/-- The text whose pattern is to match: the pattern as written, between the start and the end of
the line. -/
def wholeLine (pattern : Text) : Text := "^(?:".toList ++ pattern ++ ")$".toList

/-- The patterns of a rule, each to match a whole line, or the first that cannot be read. -/
def readPatterns (read? : Text → Option Pattern) : List Text → Except Text (List Pattern)
  | [] => .ok []
  | written :: rest =>
    match read? (wholeLine written) with
    | none => .error written
    | some p => (readPatterns read? rest).map (p :: ·)

def mostGroups (patterns : List Pattern) : Nat := (patterns.map Pattern.groupCount).foldl max 0

def fewestGroups (patterns : List Pattern) : Nat := ((patterns.map Pattern.groupCount).min?).getD 0

/-- The number of groups that the template may rely on. -/
def usableGroups (filling : Filling) (patterns : List Pattern) : Nat :=
  match filling with
  | .countedLoop => fewestGroups patterns
  | .inOrder => mostGroups patterns

/-- Whether a template with `slots` slots can be filled from `groups` groups. -/
def fits (filling : Filling) (slots groups : Nat) : Bool :=
  match filling with
  | .countedLoop => slots == 5 && 3 ≤ groups
  | .inOrder => slots ≤ groups

/-- Reads the patterns of a rule with `read?` and checks its template against them. -/
def compileWith (read? : Text → Option Pattern) (written : WrittenRule) : Except RuleFault Rule :=
  if written.patterns.isEmpty then .error (.noPatterns written.keyword)
  else match readPatterns read? written.patterns with
    | .error pattern => .error (.badPattern written.keyword pattern)
    | .ok patterns =>
      let filling := fillingFor written.keyword
      let slots := Template.slotCount written.template
      let groups := usableGroups filling patterns
      if fits filling slots groups then .ok ⟨written, patterns, filling⟩
      else .error (.slotMismatch written.keyword slots groups)

def compile (written : WrittenRule) : Except RuleFault Rule := compileWith Pattern.read? written

/-- The arguments that captured groups make for a template. -/
def arguments (filling : Filling) (groups : List Text) : List Text :=
  match filling with
  | .inOrder => groups
  | .countedLoop =>
    let counter := groups.getD 0 []
    [counter, groups.getD 1 [], counter, groups.getD 2 [], counter]

/-- The statement for a line, if one of the rule's patterns matches it; the first that does is
used. -/
def statement? (rule : Rule) (line : Text) : Option Text :=
  rule.patterns.findSome? fun p =>
    (p.captures? line).map fun groups =>
      Template.fill rule.written.template (arguments rule.filling groups)

end Rule

/-- Rules in order of precedence. -/
structure Rulebook where
  rules : List Rule

namespace Rulebook

def empty : Rulebook := ⟨[]⟩

/-- The rulebook of the given rules, whose patterns are read with `read?`, or what is wrong with the
first that is refused. -/
def ofWrittenWith (read? : Text → Option Pattern) (written : List WrittenRule) :
    Except RuleFault Rulebook :=
  (written.mapM (Rule.compileWith read?)).map Rulebook.mk

def ofWritten (written : List WrittenRule) : Except RuleFault Rulebook :=
  ofWrittenWith Pattern.read? written

/-- The statement that the first applicable rule makes of a line. -/
def statement? (book : Rulebook) (line : Text) : Option Text :=
  book.rules.findSome? (·.statement? line)

end Rulebook

def Rule.listing (r : Rule) : List Text :=
  let note := match r.filling with
    | .countedLoop => " (counted loop)".toList
    | .inOrder => []
  ("  ".toList ++ r.written.keyword ++ note)
    :: r.written.patterns.map (fun pattern => "    /".toList ++ pattern ++ ['/'])
    ++ ["    -> ".toList ++ r.written.template]

/-- The lines that list a rulebook. -/
def Rulebook.listing (book : Rulebook) : List Text :=
  "Loaded conversion rules (first match wins):".toList :: []
    :: book.rules.flatMap (·.listing)

end Pseudocode
