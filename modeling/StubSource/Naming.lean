import StubSource.Alias

/-!
# Shown names

How a type name appears in the source: in its alias form, and without the namespace of the type
itself unless names are to be shown in full.
-/

namespace StubSource
set_option autoImplicit false

structure Naming where
  aliases : AliasTable := .empty
  /-- Names are shown with their namespaces. -/
  inFull : Bool := false
  deriving Inhabited

namespace Naming

/-- A name without `ns` and the full stop behind it, where names are not shown in full. -/
def shorten (naming : Naming) (name ns : String) : String :=
  if naming.inFull || ns.isEmpty then name
  else match Text.after? (ns.toList ++ ['.']) name.toList with
    | some rest => String.ofList rest
    | none => name

/-- The shown form of the name of a type in the namespace `ns`. -/
def resolve (naming : Naming) (name ns : String) : String :=
  naming.shorten (naming.aliases.substitute name) ns

/-- Adds an alias, or gives a known one a new form. -/
def withAlias (naming : Naming) (key shown : String) : Naming :=
  { naming with aliases := naming.aliases.insert key shown }

end Naming
end StubSource
