import StubSource.Proofs.Nesting

/-!
# The nesting chain

The chain of types around a type is the walk outward from it, read backwards. Where the walk never
comes back to a type, the chain is complete: it starts at a type that stands in no known type, and
no other list of types has its properties. In a cycle the walk goes on until its bound stops it, and
the bound lies one type past the number of types.
-/

namespace StubSource.Graph
set_option autoImplicit false

variable {g : Graph} {id outer : TypeId}

theorem type?_eq_none_iff : g.type? id = none ↔ g.types.length ≤ id.index :=
  List.getElem?_eq_none_iff

theorem type?_eq_none_of_outward_eq_nil {steps : Nat} (positive : 0 < steps)
    (nothing : g.outward steps id = []) : g.type? id = none := by
  obtain ⟨steps, rfl⟩ := Nat.exists_eq_add_one.2 positive
  rcases g.outward_cases id with ⟨unknown, -⟩ | ⟨-, walk⟩ | ⟨outer, -, walk⟩
  · exact unknown
  · exact absurd ((walk steps).symm.trans nothing) (List.cons_ne_nil _ _)
  · exact absurd ((walk steps).symm.trans nothing) (List.cons_ne_nil _ _)

theorem exists_outward_eq_cons (known : id.index < g.types.length) (steps : Nat) :
    ∃ rest, g.outward (steps + 1) id = id :: rest := by
  rcases g.outward_cases id with ⟨unknown, -⟩ | ⟨-, walk⟩ | ⟨outer, -, walk⟩
  · exact absurd (type?_eq_none_iff.1 unknown) (Nat.not_le_of_lt known)
  · exact ⟨[], walk steps⟩
  · exact ⟨_, walk steps⟩

/-- Where a walk stops short of its bound, no known type is left around its last type. -/
theorem unknown_beyond_outward {steps : Nat} {last : TypeId}
    (short : (g.outward steps id).length < steps) (ends : last ∈ (g.outward steps id).getLast?)
    (inside : g.Inside last outer) : g.type? outer = none := by
  induction steps generalizing id with
  | zero => cases short
  | succ steps ih =>
    rcases g.outward_cases id with ⟨-, walk⟩ | ⟨outermost, walk⟩ | ⟨next, first, walk⟩ <;>
      rw [walk] at ends
    · cases ends
    · cases ends
      exact absurd inside (outermost outer)
    · -- The walk ends here if it finds nothing at the type around, or else further out.
      rw [walk, List.length_cons, Nat.succ_lt_succ_iff] at short
      cases rest : g.outward steps next with
      | nil =>
        rw [rest] at ends short
        cases ends
        rw [← first.outer_eq inside]
        exact type?_eq_none_of_outward_eq_nil short rest
      | cons b tail =>
        rw [rest, List.getLast?_cons_cons, ← rest] at ends
        exact ih short ends

/-- The types from an outermost one to `id`, each standing directly in the one before it. -/
structure FullChain (g : Graph) (id : TypeId) (chain : List TypeId) : Prop where
  last : chain.getLast? = some id
  links : chain.IsChain fun outer inner => g.Inside inner outer
  known : ∀ outer ∈ chain, outer.index < g.types.length
  distinct : chain.Nodup
  /-- The first type stands in none, or in one that is not there. -/
  outermost : ∀ first ∈ chain.head?, ∀ outer, g.Inside first outer → g.types.length ≤ outer.index

theorem Grounded.fullChain (grounded : g.Grounded id) (known : id.index < g.types.length) :
    g.FullChain id (g.nestingChain id) where
  last := by
    obtain ⟨rest, walk⟩ := exists_outward_eq_cons known g.types.length
    rw [nestingChain, walk, List.getLast?_reverse, List.head?_cons]
  links := List.isChain_reverse.2 (isChain_outward _ id)
  known := fun _ passed => lt_of_mem_outward (List.mem_reverse.1 passed)
  distinct := List.nodup_reverse.2 (grounded.nodup_outward _)
  outermost := by
    intro first head outer inside
    rw [nestingChain, List.head?_reverse] at head
    have short := Nat.lt_succ_of_le (grounded.length_outward_le (g.types.length + 1))
    exact type?_eq_none_iff.1 (unknown_beyond_outward short head inside)

/-- A list of types that stand in each other is the walk from its first type, if no known type is
left around its last type and the bound lets the walk go as far. -/
theorem outward_eq_of_isChain {steps : Nat} {path : List TypeId}
    (links : (id :: path).IsChain g.Inside) (known : ∀ outer ∈ id :: path, g.type? outer ≠ none)
    (ended : ∀ last ∈ (id :: path).getLast?, ∀ outer, g.Inside last outer → g.type? outer = none) :
    path.length < steps → g.outward steps id = id :: path := by
  induction path generalizing id steps with
  | nil =>
    intro fits
    obtain ⟨steps, rfl⟩ := Nat.exists_eq_add_one.2 fits
    rcases g.outward_cases id with ⟨unknown, -⟩ | ⟨-, walk⟩ | ⟨outer, inside, walk⟩
    · exact absurd unknown (known id List.mem_cons_self)
    · exact walk steps
    · rw [walk, outward_of_unknown (ended id rfl outer inside)]
  | cons next path ih =>
    intro fits
    obtain ⟨steps, rfl⟩ := Nat.exists_eq_add_one.2 (Nat.zero_lt_of_lt fits)
    obtain ⟨inside, links⟩ := List.isChain_cons_cons.1 links
    have beyond : g.outward steps next = next :: path := by
      apply ih links
      · exact fun outer mem => known outer (List.mem_cons_of_mem id mem)
      · rwa [List.getLast?_cons_cons] at ended
      · simp only [List.length_cons] at fits
        omega
    rw [inside.outward_succ, beyond]

theorem FullChain.exists_first {chain : List TypeId} (full : g.FullChain id chain) :
    ∃ first t, chain.head? = some first ∧ g.type? first = some t := by
  cases chain with
  | nil => cases full.last
  | cons first rest =>
    have known := full.known first List.mem_cons_self
    exact ⟨first, g.types[first.index], rfl, List.getElem?_eq_getElem known⟩

/-- There is only one full chain. -/
theorem FullChain.eq_nestingChain {chain : List TypeId} (full : g.FullChain id chain) :
    chain = g.nestingChain id := by
  obtain ⟨front, rfl⟩ := List.getLast?_eq_some_iff.1 full.last
  have turned : (front ++ [id]).reverse = id :: front.reverse := List.reverse_concat
  have fits := length_le_of_distinct full.distinct full.known
  rw [List.length_append, List.length_singleton] at fits
  -- Read from its end, a full chain is a walk that no bound cuts short.
  have walk : g.outward (g.types.length + 1) id = id :: front.reverse := by
    apply outward_eq_of_isChain
    · rw [← turned, List.isChain_reverse]
      exact full.links
    · intro outer mem unknown
      rw [← turned, List.mem_reverse] at mem
      exact absurd (type?_eq_none_iff.1 unknown) (Nat.not_le_of_lt (full.known outer mem))
    · intro last ends outer inside
      rw [← turned, List.getLast?_reverse] at ends
      exact type?_eq_none_iff.2 (full.outermost last ends outer inside)
    · rw [List.length_reverse]
      omega
  rw [nestingChain, walk, List.reverse_cons, List.reverse_reverse]

theorem effectiveNs_of_head? {first : TypeId} {t : TypeDef}
    (head : (g.nestingChain id).head? = some first) (found : g.type? first = some t) :
    g.effectiveNs id = t.ns := by
  rw [effectiveNs, head, Option.bind_some, found]

/-- The chain around a known type from which no walk comes back to a type is the full chain, bounded
or not, and its first type gives the namespace. An unknown type has no chain and no namespace. -/
theorem nestingChain_is_the_full_chain (g : Graph) (id : TypeId) :
    (id.index < g.types.length → g.Grounded id →
      g.FullChain id (g.nestingChain id) ∧
        (∀ chain, g.FullChain id chain → chain = g.nestingChain id) ∧
        (∀ steps, g.types.length ≤ steps → g.nestingChain id = (g.outward steps id).reverse) ∧
        ∃ first t, (g.nestingChain id).head? = some first ∧ g.type? first = some t ∧
          g.effectiveNs id = t.ns) ∧
      (g.types.length ≤ id.index → g.nestingChain id = [] ∧ g.effectiveNs id = "") := by
  constructor
  · intro known grounded
    have full := grounded.fullChain known
    refine ⟨full, fun _ => FullChain.eq_nestingChain, ?_, ?_⟩
    · intro steps enough
      rw [nestingChain, grounded.outward_eq (Nat.le_succ _), grounded.outward_eq enough]
    · obtain ⟨first, t, head, found⟩ := full.exists_first
      exact ⟨first, t, head, found, effectiveNs_of_head? head found⟩
  · intro beyond
    have nothing : g.nestingChain id = [] := by
      rw [nestingChain, outward_of_unknown (type?_eq_none_iff.2 beyond), List.reverse_nil]
    refine ⟨nothing, ?_⟩
    rw [effectiveNs, nothing]
    rfl

/-- Three types in each other, the outermost in one that is not there, beside a type in itself. -/
def nestedBesideRing : Graph where
  types := [
    { ns := "App", name := "Outer", declaringType := some ⟨9⟩ },
    { name := "Inner", declaringType := some ⟨0⟩ },
    { name := "Deep", declaringType := some ⟨1⟩ },
    { name := "Ring", declaringType := some ⟨3⟩ }]

theorem nestingChain_is_the_full_chain_besideRing :
    nestedBesideRing.Grounded ⟨2⟩ ∧
      nestedBesideRing.FullChain ⟨2⟩ (nestedBesideRing.nestingChain ⟨2⟩) ∧
      nestedBesideRing.nestingChain ⟨2⟩ = [⟨0⟩, ⟨1⟩, ⟨2⟩] ∧
      nestedBesideRing.effectiveNs ⟨2⟩ = "App" ∧ nestedBesideRing.nestingChain ⟨4⟩ = [] := by
  have short : (nestedBesideRing.outward 4 ⟨2⟩).length < 4 := by decide
  have grounded := grounded_of_length_outward_lt short
  obtain ⟨full, -, free, first, t, head, found, ns⟩ :=
    (nestingChain_is_the_full_chain nestedBesideRing ⟨2⟩).1 (by decide) grounded
  have chain : nestedBesideRing.nestingChain ⟨2⟩ = [⟨0⟩, ⟨1⟩, ⟨2⟩] := free 4 (by decide)
  refine ⟨grounded, full, chain, ?_, ?_⟩
  · rw [chain] at head
    cases head
    cases found
    exact ns
  · exact ((nestingChain_is_the_full_chain nestedBesideRing ⟨4⟩).2 (by decide)).1

/-- A chain has no more entries than there are types if and only if the walk never comes back to a
type. In a cycle it has one entry more than there are types. -/
theorem length_nestingChain_le_types_iff (g : Graph) (id : TypeId) :
    ((g.nestingChain id).length ≤ g.types.length ↔ g.Grounded id) ∧
      ((g.nestingChain id).length = g.types.length + 1 ↔ ¬ g.Grounded id) := by
  have bound : (g.outward (g.types.length + 1) id).length ≤ g.types.length + 1 :=
    length_outward_le_steps _ id
  have short : (g.nestingChain id).length ≤ g.types.length ↔ g.Grounded id := by
    rw [nestingChain, List.length_reverse]
    constructor
    · exact fun few => grounded_of_length_outward_lt (Nat.lt_succ_of_le few)
    · exact fun grounded => grounded.length_outward_le _
  refine ⟨short, ?_⟩
  rw [← short, nestingChain, List.length_reverse]
  omega

/-- A type in itself. -/
def ring : Graph where
  types := [{ name := "Ring", declaringType := some ⟨0⟩ }]

theorem nestingChain_passes_number_of_types :
    ring.nestingChain ⟨0⟩ = [⟨0⟩, ⟨0⟩] ∧
      ¬ ∀ (g : Graph) (id : TypeId), (g.nestingChain id).length ≤ g.types.length := by
  refine ⟨by decide, ?_⟩
  intro bound
  exact absurd (bound ring ⟨0⟩) (by decide)

end StubSource.Graph
