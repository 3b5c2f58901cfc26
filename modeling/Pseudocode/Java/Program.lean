import Pseudocode.Java.Source

/-!
# Java programs

The source files of an outline and the class to launch.
-/

namespace Pseudocode.Java

structure SourceFile where
  className : Text
  source : Text
deriving DecidableEq

/-- The name of a source file: that of its class, with the extension of Java sources. -/
def SourceFile.fileName (u : SourceFile) : Text := u.className ++ ".java".toList

/-- Source files and the name of the class to launch. -/
structure Program where
  entryClass : Text
  units : List SourceFile
deriving DecidableEq

/-- When the entry class gets an entry point. -/
inductive EntryPoint where
  | whenNeeded
  | always
deriving DecidableEq

/-- How programs are written: the text of one level of indentation and the class to launch if there
is such a class. -/
structure Style where
  indent : Text
  preferredEntry : Text
deriving DecidableEq

namespace Style

/-- Four spaces and the class `Main`. -/
def standard : Style := ⟨"    ".toList, "Main".toList⟩

end Style

namespace Program

/-- The program of an outline, with one unit for each class, in order. -/
def ofOutline (style : Style) (entryPoint : EntryPoint) (o : Outline) : Program :=
  let entry := (o.entryClass? style.preferredEntry).getD style.preferredEntry
  { entryClass := entry
    units := o.classes.map fun c =>
      let isEntry := c.name == entry
      ⟨c.name, source style.indent c isEntry (isEntry && entryPoint == .always)⟩ }

/-- All sources one after the other, with an empty line between two. -/
def display (p : Program) : Text := Text.joinWith ['\n'] (p.units.map (·.source))

def unit? (p : Program) (className : Text) : Option SourceFile := p.units.find? (·.className = className)

def entryUnit? (p : Program) : Option SourceFile := p.unit? p.entryClass

end Program
end Pseudocode.Java
