import Pseudocode.Json.Value
import Pseudocode.Outline.Basic

/-!
# Listings of outlines

An outline as a JSON value: an object with a member for each class, under its name, which says all
that the outline holds about the class.
-/

namespace Pseudocode

/-- An object whose members have the given names. -/
def Json.record (members : List (String × Json)) : Json :=
  .object (members.map fun (name, value) => (name.toList, value))

/-- A text that may be missing. -/
def Json.ofOption : Option Text → Json
  | some t => .string t
  | none => .null

def FieldEntry.toJson : FieldEntry → Json
  | declared field => .record [
    ("kind", .string "declaration".toList), ("visibility", .string field.visibility.word),
    ("ty", .string field.ty), ("name", .string field.name)]
  | unreadable line => .record [("kind", .string "invalid".toList), ("line", .string line)]

def Parameter.toJson : Parameter → Json
  | typed ty name => .record [("ty", .string ty), ("name", .string name)]
  | raw text => .string text

/-- The name of what a header introduces. -/
def MethodKind.word : MethodKind → Text
  | constructor => "constructor".toList
  | method => "method".toList

def Signature.toJson (s : Signature) : Json :=
  .record <| [
    ("owner", .string s.owner), ("kind", .string s.kind.word), ("name", .string s.name),
    ("return_type", .ofOption s.returnType), ("parameters", .array (s.parameters.map (·.toJson)))]
    ++ match s.diagnostic with
      | some text => [("diagnostic", .string text)]
      | none => []

def Method.toJson (m : Method) : Json :=
  .record [("signature", m.signature.toJson), ("body", .array (m.body.map .string))]

def ClassOutline.toJson (c : ClassOutline) : Json :=
  .record [
    ("name", .string c.name), ("parent", .ofOption c.parent),
    ("fields", .array (c.fields.map (·.toJson))), ("methods", .array (c.methods.map (·.toJson))),
    ("entry_statements", .array (c.statements.map .string))]

def Outline.toJson (o : Outline) : Json := .object (o.classes.map fun c => (c.name, c.toJson))

/-- The listing of an outline as a text over several lines. -/
def Outline.listing (o : Outline) : Text := o.toJson.write 0

end Pseudocode
