import Pseudocode.Outline.Basic
import Pseudocode.Statement.Convert

/-!
# Method headers

A header is a name with parameters in parentheses, with or without a return type before it. The
name of the class itself makes a constructor, whatever type is written.
-/

namespace Pseudocode

/-- The parts of a header as written. -/
structure HeaderParts where
  returnType : Option Text
  name : Text
  parameters : Text
deriving DecidableEq

namespace HeaderParts

/-- The text between a parenthesis just opened and one that closes the text; it holds no line
feed. -/
def untilClose? (t : Text) : Option Text :=
  match t.getLast? with
  | some ')' => if t.dropLast.contains '\n' then none else some t.dropLast
  | _ => none

/-- The parameters in a text of white space and a text in parentheses. -/
def parameters? (t : Text) : Option Text :=
  match Text.trimStart t with
  | '(' :: rest => untilClose? rest
  | _ => none

/-- Reads a trimmed header: with a return type where two words stand before the parameters, without
one where a single word does. -/
def ofText? (t : Text) : Option HeaderParts :=
  match Text.spanWord t with
  | ([], _) => none
  | (first, rest) =>
    match parameters? rest with
    | some parameters => some ⟨none, first, parameters⟩
    | none =>
      if rest.head?.any Text.isWhite then
        match Text.spanWord (Text.trimStart rest) with
        | ([], _) => none
        | (second, rest) => (parameters? rest).map fun parameters => ⟨some first, second, parameters⟩
      else none

end HeaderParts

namespace Parameter

/-- Reads one parameter: two words are a type and a name. -/
def ofText (t : Text) : Parameter :=
  match Text.words t with
  | [ty, name] => .typed (Statement.typeName ty) name
  | _ => .raw (Text.trim t)

/-- Reads parameters between commas; a blank text has none. -/
def listOfText (t : Text) : List Parameter :=
  if Text.isBlank t then [] else (Text.splitAt (· == ',') (Text.trim t)).map ofText

def render : Parameter → Text
  | typed ty name => ty ++ ' ' :: name
  | raw text => text

end Parameter

namespace Signature

/-- The return type where none is written. -/
def noValue : Text := "void".toList

/-- The signature of a header in the class `owner`, if it can be read. -/
def ofHeader? (owner header : Text) : Option Signature :=
  (HeaderParts.ofText? (Text.trim header)).map fun parts =>
    let parameters := Parameter.listOfText parts.parameters
    if parts.name = owner then ⟨owner, .constructor, parts.name, none, parameters, none⟩
    else
      let returnType := (parts.returnType.map Statement.typeName).getD noValue
      ⟨owner, .method, parts.name, some returnType, parameters, none⟩

/-- What stands in for a header that cannot be read. -/
def unreadable (owner header : Text) : Signature where
  owner
  kind := .method
  name := "unknownMethod".toList
  returnType := some noValue
  parameters := []
  diagnostic := some ("ERROR Parsing function signature: ".toList ++ header)

def ofHeader (owner header : Text) : Signature :=
  (ofHeader? owner header).getD (unreadable owner header)

/-- The signature of a line that is a header without the keyword of methods. A line led by a word
of statements is none. -/
def ofLine? (owner line : Text) : Option Signature :=
  if Keyword.startsStatement line then none else ofHeader? owner line

/-- The declaration in source, without the opening brace. -/
def declaration (s : Signature) : Text :=
  let parameters := '(' :: Text.joinWith ", ".toList (s.parameters.map Parameter.render) ++ [')']
  match s.kind, s.returnType with
  | .method, some ty => "public ".toList ++ ty ++ ' ' :: s.name ++ parameters
  | _, _ => "public ".toList ++ s.name ++ parameters

end Signature
end Pseudocode
