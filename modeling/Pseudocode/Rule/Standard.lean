import Pseudocode.Rule.Basic

/-!
# The standard rulebook

The rules that apply when no others are given: comments, branches, loops, declarations,
assignments and calls.
-/

namespace Pseudocode.Rulebook

/-- A written rule from literal texts. -/
def rule (keyword : String) (patterns : List String) (template : String) : WrittenRule :=
  ⟨keyword.toList, patterns.map String.toList, template.toList⟩

/-- The standard rules as written. -/
def standardRules : List WrittenRule := [
  rule "comment" ["(?://|#)\\s*(.*)"] "// %s",
  rule "else if" ["else\\s+if\\s+(.+?)\\s+then", "else\\s+if\\s+(.+)"] "\x7d else if (%s) \x7b",
  rule "if" ["if\\s+(.+?)\\s+then", "if\\s+(.+)"] "if (%s) \x7b",
  rule "else" ["else"] "\x7d else \x7b",
  rule "end block" ["end\\s*if", "end\\s*while", "end\\s*for", "next(?:\\s+\\w+)?"] "\x7d",
  rule "while" ["while\\s+(.+?)\\s+do", "while\\s+(.+)"] "while (%s) \x7b",
  rule "for loop" ["for\\s+(\\w+)\\s*=\\s*(.+?)\\s+to\\s+(.+?)(?:\\s+do)?"]
    "for (int %s = %s; %s <= %s; %s++) \x7b",
  rule "declare string" ["declare\\s+string\\s+(\\w+)\\s*=\\s*(.+)"] "String %s = %s;",
  rule "declare" ["declare\\s+(\\w+)\\s+(\\w+)\\s*=\\s*(.+)"] "%s %s = %s;",
  rule "set" ["set\\s+(\\w+)\\s*=\\s*(.+)", "set\\s+(\\w+)\\s+to\\s+(.+)"] "%s = %s;",
  rule "increment" ["increment\\s+(\\w+)"] "%s++;",
  rule "decrement" ["decrement\\s+(\\w+)"] "%s--;",
  rule "return" ["return\\s+(.+)"] "return %s;",
  rule "call" ["call\\s+(\\w+)\\s*\\((.*)\\)", "call\\s+(\\w+)"] "%s(%s);"]

/-- The standard rulebook. -/
def standard : Rulebook :=
  match ofWritten standardRules with
  | .ok book => book
  | .error _ => empty

end Pseudocode.Rulebook
