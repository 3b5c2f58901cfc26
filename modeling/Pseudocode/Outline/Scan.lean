import Pseudocode.Outline.Field
import Pseudocode.Outline.Header
import Pseudocode.Outline.Signature
import Pseudocode.Statement.Convert

/-!
# Scanning

A text of classes and methods is read line by line into an outline. Blank lines count for nothing,
and a class header opens a class wherever it stands. A method that is still open when a class header,
another method header or the end of the text comes is dropped.
-/

namespace Pseudocode

/-- Where a scan stands between two lines. -/
inductive Place where
  /-- Before the first line that is not blank. -/
  | outside
  | inClass (name : Text)
  | inMethod (name : Text) (signature : Signature) (body : List Text)
deriving DecidableEq

/-- An outline in the making. -/
structure Scan where
  outline : Outline
  place : Place
deriving DecidableEq

namespace Scan

def start : Scan := ⟨.empty, .outside⟩

/-- A trimmed line that is no class header, in the class `name` and outside its methods: a header
opens a method, a field is added, and anything else is a statement of the entry point. -/
def inClass (book : Rulebook) (outline : Outline) (name line : Text) : Scan :=
  match Line.methodHeader? line with
  | some header => ⟨outline, .inMethod name (.ofHeader name header) []⟩
  | none =>
    match Signature.ofLine? name line with
    | some signature => ⟨outline, .inMethod name signature []⟩
    | none =>
      let change (c : ClassOutline) : ClassOutline :=
        if Line.isField line then c.addField (.ofLine line) else c.addStatement (book.convert line)
      ⟨outline.update name change, .inClass name⟩

/-- A trimmed line that is no class header, in a method of the class `name`: a header drops the
method for another, the closing line adds it to its class, and anything else is a statement of its
body. -/
def inMethod (book : Rulebook) (outline : Outline) (name : Text) (signature : Signature)
    (body : List Text) (line : Text) : Scan :=
  match Line.methodHeader? line with
  | some header => ⟨outline, .inMethod name (.ofHeader name header) []⟩
  | none =>
    if Line.closesMethod line then
      ⟨outline.update name (·.addMethod ⟨signature, body⟩), .inClass name⟩
    else ⟨outline, .inMethod name signature (body ++ [book.convert line])⟩

/-- The scan after one more trimmed line. Lines before any header belong to the class
`defaultClass`. -/
def step (book : Rulebook) (defaultClass : Text) (scan : Scan) (line : Text) : Scan :=
  if line.isEmpty then scan
  else match ClassHeader.ofLine? line with
    | some header =>
      ⟨scan.outline.declare header.name header.parent, .inClass header.name⟩
    | none =>
      match scan.place with
      | .outside => inClass book (scan.outline.declare defaultClass none) defaultClass line
      | .inClass name => inClass book scan.outline name line
      | .inMethod name signature body => inMethod book scan.outline name signature body line

/-- The scan after the given lines. -/
def after (book : Rulebook) (defaultClass : Text) (lines : List Text) : Scan :=
  lines.foldl (fun scan line => scan.step book defaultClass (Text.trim line)) start

end Scan

/-- The outline of the given lines. -/
def Outline.ofLines (book : Rulebook) (defaultClass : Text) (lines : List Text) : Outline :=
  (Scan.after book defaultClass lines).outline

end Pseudocode
