import StubSource.Version

/-!
# Referenced assemblies
-/

namespace StubSource
set_option autoImplicit false

structure AssemblyRef where
  name : String
  version : Version := {}
  deriving DecidableEq, Repr, Inhabited

def AssemblyRef.display (r : AssemblyRef) : String := r.name ++ " v" ++ r.version.toString

instance : ToString AssemblyRef := ⟨AssemblyRef.display⟩

end StubSource
