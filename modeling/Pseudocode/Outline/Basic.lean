import Pseudocode.Text.Ascii

/-!
# Outlines

An outline is what a program's text says about its classes: for each class its parent, its fields,
its methods and the statements of its entry point. Classes stand in the order in which they are
first mentioned.
-/

namespace Pseudocode

/-- Who may use a field. -/
inductive Visibility where
  | everyone
  | heirs
  | owner
deriving DecidableEq

namespace Visibility

/-- The word for a visibility. -/
def word : Visibility → Text
  | everyone => "public".toList
  | heirs => "protected".toList
  | owner => "private".toList

/-- The visibilities in the order in which their words are looked for. -/
def list : List Visibility := [everyone, owner, heirs]

/-- The visibility that a word names, up to the case of ASCII letters. -/
def ofWord? (word : Text) : Option Visibility := list.find? (Text.sameWord word ·.word)

end Visibility

structure Field where
  visibility : Visibility
  ty : Text
  name : Text
deriving DecidableEq

/-- A line of a class that declares a field, or has the shape of one and cannot be read. -/
inductive FieldEntry where
  | declared (field : Field)
  | unreadable (line : Text)
deriving DecidableEq

/-- A parameter of a method; one that is not a type and a name is kept as written. -/
inductive Parameter where
  | typed (ty name : Text)
  | raw (text : Text)
deriving DecidableEq

/-- What a header introduces. -/
inductive MethodKind where
  | constructor
  | method
deriving DecidableEq

/-- The header of a method in the class `owner`. -/
structure Signature where
  owner : Text
  kind : MethodKind
  name : Text
  /-- Absent for constructors. -/
  returnType : Option Text
  parameters : List Parameter
  /-- What was wrong with the header, if it could not be read. -/
  diagnostic : Option Text
deriving DecidableEq

/-- A method with the statements of its body. -/
structure Method where
  signature : Signature
  body : List Text
deriving DecidableEq

/-- What is known of one class. -/
structure ClassOutline where
  name : Text
  parent : Option Text
  fields : List FieldEntry
  methods : List Method
  /-- The statements of its entry point. -/
  statements : List Text
deriving DecidableEq

namespace ClassOutline

/-- A class of which nothing but the name and perhaps the parent is known. -/
def bare (name : Text) (parent : Option Text) : ClassOutline := ⟨name, parent, [], [], []⟩

def withParent (c : ClassOutline) (parent : Option Text) : ClassOutline :=
  { c with parent := c.parent.or parent }

/-- The class with one more field, unless it has the same one. -/
def addField (c : ClassOutline) (entry : FieldEntry) : ClassOutline :=
  if entry ∈ c.fields then c else { c with fields := c.fields ++ [entry] }

/-- The class after a field has been offered to it, and whether the field was added. -/
def offerField (c : ClassOutline) (entry : FieldEntry) : ClassOutline × Bool :=
  if entry ∈ c.fields then (c, false) else ({ c with fields := c.fields ++ [entry] }, true)

@[simp] theorem offerField_fst (c : ClassOutline) (entry : FieldEntry) :
    (c.offerField entry).1 = c.addField entry := by
  unfold offerField addField
  split <;> rfl

@[simp] theorem offerField_snd (c : ClassOutline) (entry : FieldEntry) :
    (c.offerField entry).2 = decide (entry ∉ c.fields) := by
  unfold offerField
  split <;> simp_all

def addMethod (c : ClassOutline) (m : Method) : ClassOutline :=
  { c with methods := c.methods ++ [m] }

/-- The class with one more statement in its entry point. -/
def addStatement (c : ClassOutline) (statement : Text) : ClassOutline :=
  { c with statements := c.statements ++ [statement] }

/-- Whether the class has an entry point of its own. -/
def hasEntry (c : ClassOutline) : Bool := !c.statements.isEmpty

end ClassOutline

/-- Classes in the order of their first mention. -/
structure Outline where
  classes : List ClassOutline
deriving DecidableEq

namespace Outline

def empty : Outline := ⟨[]⟩

def names (o : Outline) : List Text := o.classes.map (·.name)

def find? (o : Outline) (name : Text) : Option ClassOutline := o.classes.find? (·.name = name)

/-- The classes with the one of the given name changed by `f`; a new one, from a bare class, comes
last. -/
def updateIn (name : Text) (f : ClassOutline → ClassOutline) : List ClassOutline → List ClassOutline
  | [] => [f (.bare name none)]
  | c :: rest => if c.name = name then f c :: rest else c :: updateIn name f rest

/-- The outline with the class of the given name changed by `f`, after creating it if need be. -/
def update (o : Outline) (name : Text) (f : ClassOutline → ClassOutline) : Outline :=
  ⟨updateIn name f o.classes⟩

/-- The outline after a mention of a class: it is created if it is new, and takes the parent if it
has none. -/
def declare (o : Outline) (name : Text) (parent : Option Text) : Outline :=
  o.update name (·.withParent parent)

/-- The outline after a field has been offered to a class, which is mentioned first, and whether the
field was added. -/
def offerField (o : Outline) (name : Text) (entry : FieldEntry) : Outline × Bool :=
  let o := o.declare name none
  let c := (o.find? name).getD (.bare name none)
  (o.update name fun c => (c.offerField entry).1, (c.offerField entry).2)

/-- The class to launch: the preferred one if there is such a class, else the first. -/
def entryClass? (o : Outline) (preferred : Text) : Option Text :=
  if preferred ∈ o.names then some preferred else o.names.head?

end Outline
end Pseudocode
