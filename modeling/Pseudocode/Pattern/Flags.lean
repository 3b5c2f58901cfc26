import Pseudocode.Pattern.Basic

/-!
# Flags

The settings under which a part of a pattern is read, and what the signs whose meaning they change
stand for.
-/

namespace Pseudocode.Pattern

/-- The settings in force at a place of a written pattern. -/
structure Flags where
  /-- `i`: letters match in either case. -/
  ignoreCase : Bool
  /-- `m`: `^` and `$` match at every line. -/
  multiLine : Bool
  /-- `s`: `.` matches line ends too. -/
  dotAll : Bool
  /-- `U`: repetitions prefer few rounds, and many where a `?` follows. -/
  swapGreed : Bool
  /-- `R`: carriage returns end lines as well. -/
  anyLine : Bool
  /-- `x`: white space and comments are skipped. -/
  verbose : Bool
  /-- `u`: classes reach over all scripts. -/
  unicode : Bool
deriving DecidableEq

namespace Flags

/-- The flags of a pattern that says nothing else: letters match in either case. -/
def standard : Flags := ⟨true, false, false, false, false, false, true⟩

def set? (flags : Flags) (letter : Char) (on : Bool) : Option Flags :=
  match letter with
  | 'i' => some { flags with ignoreCase := on }
  | 'm' => some { flags with multiLine := on }
  | 's' => some { flags with dotAll := on }
  | 'U' => some { flags with swapGreed := on }
  | 'R' => some { flags with anyLine := on }
  | 'x' => some { flags with verbose := on }
  | 'u' => some { flags with unicode := on }
  | _ => none

/-- Reads flag letters up to the colon or parenthesis that ends them. A minus sign turns the rest
off; it stands once, not last, and no letter stands twice. The result says which sign came and
whether any letter did. -/
def read? (flags : Flags) (minus last : Bool) (seen : List Char) :
    Text → Option (Flags × Bool × Bool × Text)
  | [] => none
  | ':' :: rest => if last then none else some (flags, true, !seen.isEmpty, rest)
  | ')' :: rest => if last then none else some (flags, false, !seen.isEmpty, rest)
  | '-' :: rest => if minus then none else flags.read? true true seen rest
  | c :: rest =>
    if seen.contains c then none
    else match flags.set? c !minus with
      | none => none
      | some flags => flags.read? minus false (c :: seen) rest

/-- The set with everything that agrees with it up to case, where case does not matter. -/
def caseOf (flags : Flags) (s : CharSet) : CharSet :=
  if flags.ignoreCase then .anyCase s else s

/-- A complement; without the flag `u` it could match half a character and is refused. -/
def compl? (flags : Flags) (s : CharSet) : Option CharSet :=
  if flags.unicode then some (.compl s) else none

def digit (flags : Flags) : CharSet := if flags.unicode then .digit else .asciiDigit

def white (flags : Flags) : CharSet := if flags.unicode then .white else .asciiWhite

def word (flags : Flags) : CharSet := if flags.unicode then .word else .asciiWord

def dot? (flags : Flags) : Option CharSet :=
  flags.compl? <|
    if flags.dotAll then .empty
    else if flags.anyLine then .ofList ['\n', '\r']
    else .single '\n'

def caret (flags : Flags) : Anchor :=
  if !flags.multiLine then .textStart else if flags.anyLine then .anyLineStart else .lineStart

def dollar (flags : Flags) : Anchor :=
  if !flags.multiLine then .textEnd else if flags.anyLine then .anyLineEnd else .lineEnd

/-- Drops white space and comments, from a `#` to the end of the line. -/
def dropComments (inComment : Bool) : Text → Text
  | [] => []
  | c :: rest =>
    if inComment then dropComments (c != '\n') rest
    else if Text.isWhite c then dropComments false rest
    else if c = '#' then dropComments true rest
    else c :: rest

/-- Whether the flags skip a sign, and if so whether a comment goes on after it. -/
def skips? (flags : Flags) (inComment : Bool) (c : Char) : Option Bool :=
  if inComment then some (c != '\n')
  else if flags.verbose && Text.isWhite c then some false
  else if flags.verbose && c = '#' then some true
  else none

/-- Drops what the flags say is to be skipped. -/
def skip (flags : Flags) (t : Text) : Text := if flags.verbose then dropComments false t else t

end Flags
end Pseudocode.Pattern
