/-!
# Text

A text is a list of characters. Lines, names and statements are texts; `String` appears only where
texts enter and leave the library.
-/

namespace Pseudocode

/-- A finite sequence of Unicode characters. -/
abbrev Text := List Char

namespace Text

/-- The texts `parts` with `separator` between neighbours. -/
def joinWith (separator : Text) : List Text → Text
  | [] => []
  | [part] => part
  | part :: rest => part ++ separator ++ joinWith separator rest

/-- The pieces of `t` between the characters that satisfy `isCut`, always at least one. -/
def splitAt (isCut : Char → Bool) : Text → List Text
  | [] => [[]]
  | c :: rest =>
    if isCut c then [] :: splitAt isCut rest
    else match splitAt isCut rest with
      | [] => [[c]]
      | piece :: pieces => (c :: piece) :: pieces

/-- The rest of `t` after `start`, if `t` begins with it. -/
def dropStart? : (start t : Text) → Option Text
  | [], t => some t
  | _ :: _, [] => none
  | a :: start, b :: t => if a = b then dropStart? start t else none

/-- `t` without its longest ending of characters that satisfy `p`. -/
def dropEndWhile (p : Char → Bool) (t : Text) : Text :=
  (t.reverse.dropWhile p).reverse

/-- Whether `a` is `b` or stands before it in the order of code points. -/
def notAfter : (a b : Text) → Bool
  | [], _ => true
  | _ :: _, [] => false
  | a :: as, b :: bs => if a = b then notAfter as bs else a.toNat < b.toNat

def occursIn (part : Text) : Text → Bool
  | [] => part.isEmpty
  | c :: rest => part.isPrefixOf (c :: rest) || occursIn part rest

/-- The text before the first occurrence of `part`, and all of `t` where there is none. -/
def before (part : Text) : Text → Text
  | [] => []
  | c :: rest => if part.isPrefixOf (c :: rest) then [] else c :: before part rest

/-- The decimal digits of `n`. -/
def ofNat (n : Nat) : Text := (Nat.repr n).toList

end Text
end Pseudocode
