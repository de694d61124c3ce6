import StubSource.Metadata.Graph

/-!
# A small class

A class with most kinds of members, to try a dialect on.
-/

namespace StubSource.Sample
set_option autoImplicit false

def int32 : TypeRef := .system "Int32"

def text : TypeRef := .system "String"

def methods : List Method := [
  .constructor,
  ((Method.ofName "Add").returning int32).withParameter { name := "a", type := int32 }
    |>.withParameter { name := "b", type := int32 },
  .ofName "Reset",
  (((Method.ofName "TryParse").asStatic).returning (.system "Boolean")).withParameter
    { name := "text", type := text } |>.withParameter (.out "value" int32),
  ((Method.ofName "History").withVisibility .family).returning
    (.generic "System.Collections.Generic" "List`1" [int32]),
  ((Method.ofName "ToString").asOverride).returning text]

def fields : List Field := [
  { name := "total", type := int32 },
  { name := "Name", type := text, visibility := .everyone, isReadOnly := true },
  { name := "instances", type := int32, isStatic := true }]

def references : List AssemblyRef := [
  { name := "mscorlib", version := { major := 4 } },
  { name := "System.Core", version := { major := 4 } }]

/-- The graph of the class `Calculator` in a namespace. -/
def calculator (ns : String) : Graph :=
  let g : Graph := {}
  let owner := g.nextType
  let g := g.addType (.ofClass ns "Calculator")
  let g := methods.foldl (fun g m => g.addMethod owner m) g
  let g := fields.foldl (fun g f => g.addField owner f) g
  references.foldl Graph.addReference g

end StubSource.Sample
