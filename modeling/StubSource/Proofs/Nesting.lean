import Mathlib.Data.List.Chain
import Mathlib.Data.List.Nodup
import Mathlib.Logic.Relation
import StubSource.Proofs.SourceLayout

/-!
# Types around types

The walk outward from a type follows the types around it for a bounded number of steps. Where it
never comes back to a type it passes every type at most once, so it ends before the bound does: with
more steps, in a graph with more types, it is the same walk. Conversely, a walk that stops short of
its bound never came back to a type.
-/

namespace StubSource.Graph
set_option autoImplicit false

/-- The type at `id` stands directly in the one at `outer`. -/
def Inside (g : Graph) (id outer : TypeId) : Prop :=
  ∃ t, g.type? id = some t ∧ t.declaringType = some outer

/-- No type stands in itself, at whatever depth. -/
def Acyclic (g : Graph) : Prop := ∀ id, ¬ Relation.TransGen g.Inside id id

/-- Going outward from `id` never comes back to a type. -/
def Grounded (g : Graph) (id : TypeId) : Prop :=
  ∀ outer, Relation.ReflTransGen g.Inside id outer → ¬ Relation.TransGen g.Inside outer outer

variable {g g' : Graph} {id outer : TypeId}

theorem acyclic_of_outer_lt (less : ∀ id outer, g.Inside id outer → outer.index < id.index) :
    g.Acyclic := by
  have shrinks {id outer : TypeId} (path : Relation.TransGen g.Inside id outer) :
      outer.index < id.index := by
    induction path with
    | single step => exact less _ _ step
    | tail _ step ih => exact Nat.lt_trans (less _ _ step) ih
  intro id path
  exact Nat.lt_irrefl _ (shrinks path)

theorem Acyclic.grounded (acyclic : g.Acyclic) (id : TypeId) : g.Grounded id :=
  fun outer _ => acyclic outer

theorem Inside.outer_eq {other : TypeId} (inside : g.Inside id outer) (again : g.Inside id other) :
    outer = other := by
  obtain ⟨t, found, stands⟩ := inside
  obtain ⟨t', found', stands'⟩ := again
  rw [found] at found'
  cases found'
  exact Option.some.inj (stands.symm.trans stands')

theorem not_inside_of_unknown (unknown : g.type? id = none) : ¬ g.Inside id outer := by
  rintro ⟨t, found, -⟩
  rw [unknown] at found
  cases found

theorem grounded_of_outermost (outermost : ∀ outer, ¬ g.Inside id outer) : g.Grounded id := by
  intro outer path
  rcases path.cases_head with rfl | ⟨next, inside, -⟩
  · intro cycle
    obtain ⟨next, inside, -⟩ := Relation.TransGen.head'_iff.1 cycle
    exact outermost next inside
  · exact absurd inside (outermost next)

theorem Inside.grounded_iff (inside : g.Inside id outer) : g.Grounded id ↔ g.Grounded outer := by
  constructor
  · intro grounded beyond path
    exact grounded beyond (.head inside path)
  · intro grounded beyond path
    rcases path.cases_head with rfl | ⟨next, first, rest⟩
    · -- A way back to the type itself leads through the type around it.
      intro cycle
      obtain ⟨next, first, back⟩ := Relation.TransGen.head'_iff.1 cycle
      exact grounded id (inside.outer_eq first ▸ back) cycle
    · exact grounded beyond (inside.outer_eq first ▸ rest)

theorem outward_of_unknown (unknown : g.type? id = none) (steps : Nat) :
    g.outward steps id = [] := by
  cases steps with
  | zero => rfl
  | succ steps => rw [outward, unknown]

theorem Inside.outward_succ (inside : g.Inside id outer) (steps : Nat) :
    g.outward (steps + 1) id = id :: g.outward steps outer := by
  obtain ⟨t, found, stands⟩ := inside
  simp only [outward, found, stands]

/-- A walk finds nothing at its start, or the start is all there is, or it goes on from the type
around the start with one step less. -/
theorem outward_cases (g : Graph) (id : TypeId) :
    (g.type? id = none ∧ ∀ steps, g.outward steps id = []) ∨
      ((∀ outer, ¬ g.Inside id outer) ∧ ∀ steps, g.outward (steps + 1) id = [id]) ∨
      ∃ outer, g.Inside id outer ∧
        ∀ steps, g.outward (steps + 1) id = id :: g.outward steps outer := by
  cases found : g.type? id with
  | none => exact .inl ⟨rfl, outward_of_unknown found⟩
  | some t =>
    cases stands : t.declaringType with
    | none =>
      refine .inr (.inl ⟨?_, ?_⟩)
      · rintro outer ⟨t', found', stands'⟩
        cases found.symm.trans found'
        rw [stands] at stands'
        cases stands'
      · intro steps
        simp only [outward, found, stands]
    | some outer =>
      have inside : g.Inside id outer := ⟨t, found, stands⟩
      exact .inr (.inr ⟨outer, inside, inside.outward_succ⟩)

theorem eq_of_mem_head?_outward {steps : Nat} {first : TypeId}
    (head : first ∈ (g.outward steps id).head?) : first = id := by
  cases steps with
  | zero => cases head
  | succ steps =>
    rcases g.outward_cases id with ⟨-, walk⟩ | ⟨-, walk⟩ | ⟨outer, -, walk⟩ <;> rw [walk] at head
    · cases head
    · exact (Option.some.inj head).symm
    · exact (Option.some.inj head).symm

theorem isChain_outward (steps : Nat) (id : TypeId) : (g.outward steps id).IsChain g.Inside := by
  induction steps generalizing id with
  | zero => exact .nil
  | succ steps ih =>
    rcases g.outward_cases id with ⟨-, walk⟩ | ⟨-, walk⟩ | ⟨outer, inside, walk⟩ <;> rw [walk]
    · exact .nil
    · exact .singleton id
    · rw [List.isChain_cons]
      refine ⟨?_, ih outer⟩
      intro first head
      rw [eq_of_mem_head?_outward head]
      exact inside

theorem length_outward_le_steps (steps : Nat) (id : TypeId) :
    (g.outward steps id).length ≤ steps := by
  induction steps generalizing id with
  | zero => exact Nat.le_refl 0
  | succ steps ih =>
    rcases g.outward_cases id with ⟨-, walk⟩ | ⟨-, walk⟩ | ⟨outer, -, walk⟩ <;> rw [walk]
    · exact Nat.zero_le _
    · exact Nat.succ_le_succ (Nat.zero_le steps)
    · exact Nat.succ_le_succ (ih outer)

/-- A walk with fewer steps is the beginning of the walk with more. -/
theorem take_outward (steps more : Nat) (id : TypeId) :
    (g.outward (steps + more) id).take steps = g.outward steps id := by
  induction steps generalizing id with
  | zero => rfl
  | succ steps ih =>
    rw [Nat.add_right_comm]
    rcases g.outward_cases id with ⟨-, walk⟩ | ⟨-, walk⟩ | ⟨outer, -, walk⟩ <;> rw [walk, walk]
    · exact List.take_nil
    · rw [List.take_succ_cons, List.take_nil]
    · rw [List.take_succ_cons, ih]

theorem reaches_of_mem_outward {steps : Nat} (passed : outer ∈ g.outward steps id) :
    Relation.ReflTransGen g.Inside id outer := by
  induction steps generalizing id with
  | zero => cases passed
  | succ steps ih =>
    rcases g.outward_cases id with ⟨-, walk⟩ | ⟨-, walk⟩ | ⟨next, inside, walk⟩ <;>
      rw [walk] at passed
    · cases passed
    · rw [List.mem_singleton.1 passed]
    · rcases List.mem_cons.1 passed with rfl | beyond
      · exact .refl
      · exact .head inside (ih beyond)

theorem lt_of_mem_outward {steps : Nat} (passed : outer ∈ g.outward steps id) :
    outer.index < g.types.length := by
  obtain ⟨t, found⟩ := Option.isSome_iff_exists.1 (isSome_type?_of_mem_outward passed)
  exact (List.getElem?_eq_some_iff.1 found).1

theorem length_le_of_distinct {ids : List TypeId} (distinct : ids.Nodup)
    (known : ∀ id ∈ ids, id.index < g.types.length) : ids.length ≤ g.types.length := by
  have injective : Function.Injective TypeId.index := by
    rintro ⟨i⟩ ⟨j⟩ same
    exact congrArg TypeId.mk same
  have inside : ids.map TypeId.index ⊆ List.range g.types.length := by
    intro i mem
    obtain ⟨id, listed, rfl⟩ := List.mem_map.1 mem
    exact List.mem_range.2 (known id listed)
  have bound := (distinct.map injective).length_le_of_subset inside
  rwa [List.length_map, List.length_range] at bound

theorem grounded_of_length_outward_lt {steps : Nat} (short : (g.outward steps id).length < steps) :
    g.Grounded id := by
  induction steps generalizing id with
  | zero => cases short
  | succ steps ih =>
    rcases g.outward_cases id with ⟨unknown, -⟩ | ⟨outermost, -⟩ | ⟨outer, inside, walk⟩
    · exact grounded_of_outermost fun _ => not_inside_of_unknown unknown
    · exact grounded_of_outermost outermost
    · rw [walk, List.length_cons] at short
      exact inside.grounded_iff.2 (ih (by omega))

theorem Grounded.nodup_outward (grounded : g.Grounded id) (steps : Nat) :
    (g.outward steps id).Nodup := by
  induction steps generalizing id with
  | zero => exact .nil
  | succ steps ih =>
    rcases g.outward_cases id with ⟨-, walk⟩ | ⟨-, walk⟩ | ⟨outer, inside, walk⟩ <;> rw [walk]
    · exact .nil
    · exact List.nodup_singleton id
    · rw [List.nodup_cons]
      refine ⟨?_, ih (inside.grounded_iff.1 grounded)⟩
      intro again
      exact grounded id .refl (.head' inside (reaches_of_mem_outward again))

theorem Grounded.length_outward_le (grounded : g.Grounded id) (steps : Nat) :
    (g.outward steps id).length ≤ g.types.length :=
  length_le_of_distinct (grounded.nodup_outward steps) fun _ => lt_of_mem_outward

theorem Grounded.outward_eq (grounded : g.Grounded id) {steps : Nat}
    (enough : g.types.length ≤ steps) : g.outward steps id = g.outward g.types.length id := by
  -- The longer walk has no more types than the shorter one may take.
  obtain ⟨more, rfl⟩ := Nat.exists_eq_add_of_le enough
  rw [← take_outward g.types.length more, List.take_of_length_le (grounded.length_outward_le _)]

/-- Walks through two graphs are the same as long as both lead to the same types. -/
theorem outward_congr {known : TypeId → Prop}
    (same : ∀ id, known id →
      (g.type? id).map (·.declaringType) = (g'.type? id).map (·.declaringType))
    (closed : ∀ id outer, known id → g.Inside id outer → known outer) (steps : Nat) {id : TypeId}
    (there : known id) : g.outward steps id = g'.outward steps id := by
  induction steps generalizing id with
  | zero => rfl
  | succ steps ih =>
    have here := same id there
    rw [outward, outward]
    cases found : g.type? id with
    | none =>
      rw [found] at here
      rw [Option.map_eq_none_iff.1 here.symm]
    | some t =>
      rw [found, Option.map_some] at here
      obtain ⟨t', found', inside⟩ := Option.map_eq_some_iff.1 here.symm
      simp only [found', inside]
      cases stands : t.declaringType with
      | none => rfl
      | some outer => exact congrArg (id :: ·) (ih (closed id outer there ⟨t, found, stands⟩))

end StubSource.Graph
