import Mathlib.Data.List.Perm.Basic
import Mathlib.Data.List.Nodup
import StubSource.Dialect.Document
import StubSource.Proofs.Agreement
import StubSource.Proofs.NamePieces

/-!
# The order of aliases

Of all keys that start a text, at most one has a given length, since it is the beginning of the text
of that length. So the longest match is found in whatever order the entries are searched, and tables
with the same entries show all names alike. An order of entering aliases matters only through the
last form that each key was given, and sorting by key keeps that form.
-/

namespace StubSource
set_option autoImplicit false

section Entries

variable {entries entries' : List (String × String)} {key shown : String}

theorem lookup_cons_ite (entry : String × String) (entries : List (String × String))
    (key : String) :
    (entry :: entries).lookup key = if key = entry.1 then some entry.2 else entries.lookup key := by
  obtain ⟨first, shown⟩ := entry
  by_cases here : key = first
  · simp [here]
  · rw [List.lookup_cons, beq_eq_false_iff_ne.2 here, if_neg here]

theorem lookup_eq_some_iff_mem (unique : (entries.map Prod.fst).Nodup) :
    entries.lookup key = some shown ↔ (key, shown) ∈ entries := by
  induction entries with
  | nil => simp
  | cons entry entries ih =>
    obtain ⟨first, form⟩ := entry
    rw [List.map_cons, List.nodup_cons] at unique
    rw [lookup_cons_ite, List.mem_cons, Prod.mk.injEq]
    by_cases here : key = first
    · subst here
      have later : (key, shown) ∉ entries := fun mem =>
        unique.1 (List.mem_map.2 ⟨(key, shown), mem, rfl⟩)
      simp [later, eq_comm]
    · simp [here, ih unique.2]

theorem lookup_eq_of_perm (same : entries.Perm entries') (unique : (entries.map Prod.fst).Nodup)
    (key : String) : entries.lookup key = entries'.lookup key := by
  have unique' : (entries'.map Prod.fst).Nodup := (same.map Prod.fst).nodup_iff.1 unique
  ext shown
  rw [lookup_eq_some_iff_mem unique, lookup_eq_some_iff_mem unique', same.mem_iff]

theorem perm_of_lookup_eq (unique : (entries.map Prod.fst).Nodup)
    (unique' : (entries'.map Prod.fst).Nodup)
    (same : ∀ key, entries.lookup key = entries'.lookup key) : entries.Perm entries' := by
  rw [List.perm_ext_iff_of_nodup unique.of_map unique'.of_map]
  rintro ⟨key, shown⟩
  rw [← lookup_eq_some_iff_mem unique, ← lookup_eq_some_iff_mem unique', same]

theorem lookup_putEntry (key shown : String) (entries : List (String × String)) (k : String) :
    (putEntry key shown entries).lookup k = if k = key then some shown else entries.lookup k := by
  induction entries with
  | nil => rw [putEntry, lookup_cons_ite]
  | cons entry entries ih =>
    rw [putEntry]
    split
    · rename_i found
      rw [lookup_cons_ite, lookup_cons_ite, found]
      split <;> rfl
    · rename_i other
      rw [lookup_cons_ite, lookup_cons_ite, ih]
      by_cases here : k = entry.1
      · simp [here, other]
      · simp [here]

theorem lookup_filter_key (key : String) (entries : List (String × String)) :
    (entries.filter fun entry => entry.1 == key).lookup key = entries.lookup key := by
  induction entries with
  | nil => rfl
  | cons entry entries ih =>
    by_cases here : entry.1 = key
    · rw [List.filter_cons_of_pos (by simpa using here), lookup_cons_ite, lookup_cons_ite, ih]
    · rw [List.filter_cons_of_neg (by simpa using here), lookup_cons_ite, if_neg (Ne.symm here), ih]

end Entries

namespace AliasTable

/-- What is entered last for a key holds; a key that is not entered keeps its form. -/
theorem lookup_insertAll (table : AliasTable) (entries : List (String × String)) (key : String) :
    (table.insertAll entries).entries.lookup key =
      (entries.reverse.lookup key).or (table.entries.lookup key) := by
  induction entries generalizing table with
  | nil => rfl
  | cons entry entries ih =>
    have step := ih (table.insert entry.1 entry.2)
    rw [List.reverse_cons, List.lookup_append, Option.or_assoc]
    have first : (table.insert entry.1 entry.2).entries.lookup key =
        ([entry].lookup key).or (table.entries.lookup key) := by
      rw [insert, lookup_putEntry, lookup_cons_ite]
      split <;> rfl
    rw [first] at step
    exact step

theorem insertAll_perm (table : AliasTable) {entries entries' : List (String × String)}
    (same : entries.Perm entries') (distinct : (entries.map Prod.fst).Nodup) :
    (table.insertAll entries).entries.Perm (table.insertAll entries').entries := by
  apply perm_of_lookup_eq (table.insertAll entries).unique (table.insertAll entries').unique
  intro key
  have distinct' : (entries.reverse.map Prod.fst).Nodup := by
    rw [List.map_reverse]
    exact List.nodup_reverse.2 distinct
  have reversed : entries.reverse.Perm entries'.reverse :=
    (entries.reverse_perm.trans same).trans entries'.reverse_perm.symm
  rw [lookup_insertAll, lookup_insertAll, lookup_eq_of_perm reversed distinct']

/-- The order in which a document enters its aliases. -/
def keyLE (a b : String × String) : Bool := (compare a.1 b.1).isLE

theorem keyLE_trans (a b c : String × String) (hab : keyLE a b) (hbc : keyLE b c) : keyLE a c :=
  Std.TransCmp.isLE_trans hab hbc

theorem keyLE_total (a b : String × String) : keyLE a b || keyLE b a := by
  have swapped : compare b.1 a.1 = (compare a.1 b.1).swap := Std.OrientedCmp.eq_swap
  rw [keyLE, keyLE, swapped]
  cases compare a.1 b.1 <;> rfl

/-- Entries with the same key stay in their order when the entries are sorted. -/
theorem filter_mergeSort (entries : List (String × String)) (key : String) :
    ((entries.mergeSort keyLE).filter fun entry => entry.1 == key) =
      entries.filter fun entry => entry.1 == key := by
  have alike : (entries.filter fun entry => entry.1 == key).Pairwise fun a b => keyLE a b := by
    rw [List.pairwise_iff_forall_sublist]
    intro a b sub
    have keyA := List.mem_filter.1 (sub.subset (List.mem_cons_self))
    have keyB := List.mem_filter.1 (sub.subset (List.mem_cons_of_mem a List.mem_cons_self))
    rw [keyLE, eq_of_beq keyA.2, eq_of_beq keyB.2]
    exact Std.ReflCmp.isLE_rfl
  have kept := (List.sublist_mergeSort keyLE_trans keyLE_total alike List.filter_sublist).filter
    fun entry => entry.1 == key
  simp only [List.filter_filter, Bool.and_self] at kept
  exact (kept.eq_of_length ((List.mergeSort_perm entries keyLE).filter _).length_eq.symm).symm

theorem ofEntries_mergeSort_perm (entries : List (String × String)) :
    (ofEntries (entries.mergeSort keyLE)).entries.Perm (ofEntries entries).entries := by
  apply perm_of_lookup_eq (ofEntries _).unique (ofEntries entries).unique
  intro key
  have last : (entries.mergeSort keyLE).reverse.lookup key = entries.reverse.lookup key := by
    rw [← lookup_filter_key, ← lookup_filter_key key entries.reverse, List.filter_reverse,
      List.filter_reverse, filter_mergeSort]
  rw [ofEntries, ofEntries, lookup_insertAll, lookup_insertAll, last]

theorem ofValue?_eq {v : Value} {fields : Fields} {entries : List (String × String)}
    (tabled : v.fields? = some fields)
    (read : fields.mapM (fun field => field.2.text?.map (field.1, ·)) = some entries) :
    ofValue? v = some (ofEntries (entries.mergeSort keyLE)) := by
  rw [ofValue?, tabled, Option.bind_eq_bind, Option.bind_some, read]
  rfl

/-- A key that may be replaced at the beginning of a text. -/
def Starts (text : List Char) (entry : String × String) : Prop :=
  entry.1.isEmpty = false ∧ startsWithName entry.1.toList text = true

structure IsLongest (text : List Char) (entries : List (String × String))
    (entry : String × String) : Prop where
  mem : entry ∈ entries
  starts : Starts text entry
  longest : ∀ other ∈ entries, Starts text other → other.1.length ≤ entry.1.length

theorem longest?_cons_of_not_starts {text : List Char} {entry : String × String}
    (apart : ¬ Starts text entry) (entries : List (String × String)) :
    longest? text (entry :: entries) = longest? text entries := by
  have passed : (entry.1.isEmpty || !startsWithName entry.1.toList text) = true := by
    cases empty : entry.1.isEmpty with
    | true => rfl
    | false =>
      cases starts : startsWithName entry.1.toList text with
      | true => exact absurd ⟨empty, starts⟩ apart
      | false => rfl
  rw [longest?, if_pos passed]

theorem longest?_cons_of_starts {text : List Char} {entry : String × String}
    (starts : Starts text entry) (entries : List (String × String)) :
    longest? text (entry :: entries) =
      match longest? text entries with
      | none => some entry
      | some other => if other.1.length ≤ entry.1.length then some entry else some other := by
  rw [longest?, starts.1, starts.2]
  rfl

theorem longest?_eq_none_iff {text : List Char} {entries : List (String × String)} :
    longest? text entries = none ↔ ∀ entry ∈ entries, ¬ Starts text entry := by
  induction entries with
  | nil => simp [longest?]
  | cons entry entries ih =>
    rw [List.forall_mem_cons, ← ih]
    by_cases starts : Starts text entry
    · rw [longest?_cons_of_starts starts]
      cases longest? text entries with
      | none => simp [starts]
      | some other => by_cases less : other.1.length ≤ entry.1.length <;> simp [starts, less]
    · simp [longest?_cons_of_not_starts starts, starts]

theorem isLongest_of_longest? {text : List Char} {entries : List (String × String)}
    {entry : String × String} (found : longest? text entries = some entry) :
    IsLongest text entries entry := by
  induction entries generalizing entry with
  | nil => cases found
  | cons first entries ih =>
    by_cases starts : Starts text first
    · rw [longest?_cons_of_starts starts] at found
      cases below : longest? text entries with
      | none =>
        rw [below] at found
        obtain rfl := Option.some.inj found
        refine ⟨List.mem_cons_self, starts, List.forall_mem_cons.2 ⟨fun _ => Nat.le_refl _, ?_⟩⟩
        exact fun other mem here => absurd here (longest?_eq_none_iff.1 below other mem)
      | some best =>
        have inner := ih below
        rw [below] at found
        dsimp only at found
        split at found
        · rename_i less
          obtain rfl := Option.some.inj found
          refine ⟨List.mem_cons_self, starts, List.forall_mem_cons.2 ⟨fun _ => Nat.le_refl _, ?_⟩⟩
          exact fun other mem here => Nat.le_trans (inner.longest other mem here) less
        · rename_i more
          obtain rfl := Option.some.inj found
          refine ⟨List.mem_cons_of_mem first inner.mem, inner.starts,
            List.forall_mem_cons.2 ⟨fun _ => by omega, inner.longest⟩⟩
    · rw [longest?_cons_of_not_starts starts] at found
      have inner := ih found
      exact ⟨List.mem_cons_of_mem first inner.mem, inner.starts,
        List.forall_mem_cons.2 ⟨fun here => absurd here starts, inner.longest⟩⟩

/-- Two keys of the same length that start a text are the same. -/
theorem Starts.key_eq {text : List Char} {entry other : String × String}
    (starts : Starts text entry) (starts' : Starts text other)
    (length : entry.1.length = other.1.length) : entry.1 = other.1 := by
  obtain ⟨after, whole, -⟩ := startsWithName_iff.1 starts.2
  obtain ⟨after', whole', -⟩ := startsWithName_iff.1 starts'.2
  rw [whole] at whole'
  rw [← String.length_toList, ← String.length_toList] at length
  exact String.toList_inj.1 (List.append_inj_left whole' length)

theorem IsLongest.eq {text : List Char} {entries : List (String × String)}
    {entry other : String × String} (unique : (entries.map Prod.fst).Nodup)
    (best : IsLongest text entries entry) (best' : IsLongest text entries other) :
    entry = other := by
  have length : entry.1.length = other.1.length :=
    Nat.le_antisymm (best'.longest entry best.mem best.starts)
      (best.longest other best'.mem best'.starts)
  exact List.inj_on_of_nodup_map unique best.mem best'.mem
    (best.starts.key_eq best'.starts length)

theorem IsLongest.of_perm {text : List Char} {entries entries' : List (String × String)}
    {entry : String × String} (same : entries.Perm entries') (best : IsLongest text entries entry) :
    IsLongest text entries' entry :=
  ⟨same.mem_iff.1 best.mem, best.starts,
    fun other mem => best.longest other (same.mem_iff.2 mem)⟩

theorem longest?_perm {entries entries' : List (String × String)} (same : entries.Perm entries')
    (unique : (entries.map Prod.fst).Nodup) (text : List Char) :
    longest? text entries = longest? text entries' := by
  have unique' : (entries'.map Prod.fst).Nodup := (same.map Prod.fst).nodup_iff.1 unique
  cases found : longest? text entries with
  | none =>
    symm
    rw [longest?_eq_none_iff]
    exact fun entry mem => longest?_eq_none_iff.1 found entry (same.mem_iff.2 mem)
  | some entry =>
    have best := (isLongest_of_longest? found).of_perm same
    cases found' : longest? text entries' with
    | none => exact absurd best.starts (longest?_eq_none_iff.1 found' entry best.mem)
    | some other => rw [best.eq unique' (isLongest_of_longest? found')]

theorem substituteFrom_congr {entries entries' : List (String × String)}
    (same : ∀ text, longest? text entries = longest? text entries') (fresh : Bool) (skip : Nat)
    (text : List Char) :
    substituteFrom entries fresh skip text = substituteFrom entries' fresh skip text := by
  induction text generalizing fresh skip with
  | nil => cases skip <;> rfl
  | cons c text ih =>
    cases skip with
    | zero => simp only [substituteFrom, same, ih]
    | succ skip => simp only [substituteFrom, ih]

theorem substitute_perm {table table' : AliasTable} (same : table.entries.Perm table'.entries)
    (text : String) : table.substitute text = table'.substitute text := by
  rw [substitute, substitute, substituteFrom_congr (longest?_perm same table.unique)]

end AliasTable

theorem Naming.resolve_perm {naming naming' : Naming} (inFull : naming.inFull = naming'.inFull)
    (same : naming.aliases.entries.Perm naming'.aliases.entries) (name ns : String) :
    naming.resolve name ns = naming'.resolve name ns := by
  rw [resolve, resolve, AliasTable.substitute_perm same, shorten, shorten, inFull]

namespace Renderer

/-- Every request has the same text or the same fault. -/
structure SameResults (r r' : Renderer) : Prop where
  methodSignature : ∀ id, (r.methodSignature id).result = (r'.methodSignature id).result
  method : ∀ id, (r.method id).result = (r'.method id).result
  field : ∀ id, (r.field id).result = (r'.field id).result
  typeSignature : ∀ id, (r.typeSignature id).result = (r'.typeSignature id).result
  source : ∀ target references,
    (r.source target references).result = (r'.source target references).result

theorem sameResults_of_resolve_eq (g : Graph) (d : Dialect) (aliases : AliasTable)
    {naming naming' : Naming}
    (same : ∀ name ns, naming.resolve name ns = naming'.resolve name ns) :
    SameResults ⟨⟨g, d, naming⟩, Scope.stubBody⟩
      ⟨⟨g, { d with aliases }, naming'⟩, Scope.stubBody⟩ := by
  have agrees : Scope.AgreesOn ⟨g, d, naming⟩ ⟨g, { d with aliases }, naming'⟩ fun _ => True :=
    ⟨⟨aliases, rfl⟩, same, fun _ _ => rfl⟩
  have around (owner : TypeId) :
      Scope.AgreesInside ⟨g, d, naming⟩ ⟨g, { d with aliases }, naming'⟩ (fun _ => True) owner :=
    { agrees with
      chain := rfl, chain_known := fun _ _ => trivial
      methods := rfl, methods_known := fun _ _ _ _ => trivial
      fields := rfl, fields_known := fun _ _ _ _ => trivial }
  exact {
    methodSignature := fun id =>
      result_methodSignature_congr agrees rfl (fun _ _ _ _ => trivial) _
    method := fun id => result_method_congr agrees rfl fun _ _ _ _ => trivial
    field := fun id => result_field_congr agrees rfl (fun _ _ _ _ => trivial) _
    typeSignature := fun id => result_typeSignature_congr agrees trivial _
    source := fun target references => result_source_congr agrees rfl (fun _ _ _ _ => trivial)
      (fun _ owner _ _ => around owner) references }

theorem foldl_withAlias (r : Renderer) (entries : List (String × String)) :
    entries.foldl (fun r entry => r.withAlias entry.1 entry.2) r =
      { r with scope := { r.scope with naming :=
        { r.scope.naming with aliases := r.scope.naming.aliases.insertAll entries } } } := by
  induction entries generalizing r with
  | nil => rfl
  | cons entry entries ih =>
    rw [List.foldl_cons, ih]
    rfl

/-- The order of aliases never shows. Namings whose tables have the same entries resolve every name
alike, and renderers that use them give the same answers. So a document gives the same answers as
its aliases in their own order would, though it enters them sorted, and aliases for different names
may be added in any order. -/
theorem alias_order_never_shows :
    (∀ naming naming' : Naming, naming.inFull = naming'.inFull →
      naming.aliases.entries.Perm naming'.aliases.entries →
      (∀ name ns, naming.resolve name ns = naming'.resolve name ns) ∧
      ∀ g d, SameResults ⟨⟨g, d, naming⟩, Scope.stubBody⟩ ⟨⟨g, d, naming'⟩, Scope.stubBody⟩) ∧
    (∀ (v : Value) (fields : Fields) (entries : List (String × String)),
      v.fields? = some fields →
      fields.mapM (fun field => field.2.text?.map (field.1, ·)) = some entries →
      ∃ sorted, AliasTable.ofValue? v = some sorted ∧
        ∀ (g : Graph) (d : Dialect), SameResults (.ofDialect g { d with aliases := sorted })
          (.ofDialect g { d with aliases := .ofEntries entries })) ∧
    ∀ (r : Renderer) (entries entries' : List (String × String)), r.body = Scope.stubBody →
      entries.Perm entries' → (entries.map Prod.fst).Nodup →
      SameResults (entries.foldl (fun r entry => r.withAlias entry.1 entry.2) r)
        (entries'.foldl (fun r entry => r.withAlias entry.1 entry.2) r) := by
  refine ⟨?_, ?_, ?_⟩
  · intro naming naming' inFull same
    have resolved := Naming.resolve_perm inFull same
    exact ⟨resolved, fun g d => sameResults_of_resolve_eq g d d.aliases resolved⟩
  · intro v fields entries tabled read
    refine ⟨_, AliasTable.ofValue?_eq tabled read, ?_⟩
    intro g d
    exact sameResults_of_resolve_eq g _ _
      (Naming.resolve_perm rfl (AliasTable.ofEntries_mergeSort_perm entries))
  · rintro ⟨⟨g, d, naming⟩, body⟩ entries entries' rfl same distinct
    rw [foldl_withAlias, foldl_withAlias]
    exact sameResults_of_resolve_eq g d d.aliases
      (Naming.resolve_perm rfl (AliasTable.insertAll_perm naming.aliases same distinct))

theorem alias_order_never_shows_nestedKeys :
    let entries := [("System.Int", "short"), ("", "nothing"), ("System.Int.Big", "long")]
    let forth : Naming := ⟨.ofEntries entries, false⟩
    let back : Naming := ⟨.ofEntries entries.reverse, false⟩
    let g := Sample.calculator "App"
    let r := Renderer.ofDialect g .csharp
    (forth.aliases.entries.Perm back.aliases.entries ∧ forth.aliases ≠ back.aliases ∧
      forth.resolve "System.Int.Big<System.Int>" "System" = "long<short>" ∧
      back.resolve "System.Int.Big<System.Int>" "System" = "long<short>") ∧
    (∃ sorted, AliasTable.ofValue? (.table [("B", .text "b"), ("A", .text "a")]) = some sorted ∧
      SameResults (.ofDialect g { Dialect.csharp with aliases := sorted })
        (.ofDialect g { Dialect.csharp with aliases := .ofEntries [("B", "b"), ("A", "a")] })) ∧
    SameResults ((r.withAlias "App.A" "a").withAlias "System.Int32" "number")
      ((r.withAlias "System.Int32" "number").withAlias "App.A" "a") := by
  intro entries forth back g r
  have same : forth.aliases.entries.Perm back.aliases.entries := by decide +kernel
  have resolved := (alias_order_never_shows.1 forth back rfl same).1
    "System.Int.Big<System.Int>" "System"
  have shown : forth.resolve "System.Int.Big<System.Int>" "System" = "long<short>" := by
    decide +kernel
  obtain ⟨sorted, read, answers⟩ := alias_order_never_shows.2.1
    (.table [("B", .text "b"), ("A", .text "a")]) _ [("B", "b"), ("A", "a")] rfl rfl
  exact ⟨⟨same, by decide +kernel, shown, resolved.symm.trans shown⟩,
    ⟨sorted, read, answers g .csharp⟩,
    alias_order_never_shows.2.2 r [("App.A", "a"), ("System.Int32", "number")] _ rfl
      (List.Perm.swap _ _ _) (by decide)⟩

end Renderer
end StubSource
