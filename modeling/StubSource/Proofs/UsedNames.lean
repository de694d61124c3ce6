import StubSource.Proofs.LineTexts
import StubSource.Proofs.Resolution

/-!
# Names where they are used

Without aliases a type is shown under its own name, up to the first arity mark in it. Nothing is
escaped there, so the name of a type is used as it is declared only if it is not reserved. In the
name of a nested type the mark of an outer type comes first, and what is nested in that type is cut
off with it.
-/

namespace StubSource
set_option autoImplicit false

namespace AliasTable

theorem substituteFrom_nil (fresh : Bool) (text : List Char) :
    substituteFrom [] fresh 0 text = text := by
  induction text generalizing fresh with
  | nil => rfl
  | cons c text ih => cases fresh <;> simp [substituteFrom, longest?, ih]

theorem substitute_empty (text : String) : empty.substitute text = text := by
  rw [substitute, empty, substituteFrom_nil, String.ofList_toList]

end AliasTable

namespace Scope

variable {s : Scope}

theorem shownName_of_no_aliases (noAliases : s.naming.aliases = .empty) (ns name : String) :
    s.shownName ns name =
      if s.naming.inFull then Name.qualify ns (Name.dropArity name) else Name.dropArity name := by
  rw [shownName, Naming.resolve, noAliases, AliasTable.substitute_empty, Naming.shorten_qualify]

theorem typeRef_plain (ns name : String) (definition : Option TypeId) :
    s.typeRef (.named ns name [] definition) = s.shownName ns name := by
  rw [typeRef, typeArguments, Brackets.enclose]
  exact String.append_empty

end Scope

/-! ## Declarations and uses -/

theorem Frame.around_eq_self_iff {frame : Frame} {text : String} :
    frame.around text = text ↔ frame = ⟨"", ""⟩ := by
  constructor
  · intro same
    obtain ⟨before, after⟩ := frame
    have sizes := congrArg String.length same
    simp only [around, String.length_append] at sizes
    have none : before.length = 0 ∧ after.length = 0 := by omega
    rw [String.length_eq_zero_iff.1 none.1, String.length_eq_zero_iff.1 none.2]
  · rintro rfl
    simp [around]

theorem IdentifierRules.safeName_eq_self_iff {rules : IdentifierRules} {name : String} :
    rules.safeName name = name ↔ rules.isReserved name = false ∨ rules.escape = ⟨"", ""⟩ := by
  unfold safeName
  cases rules.isReserved name with
  | true => simp [Frame.around_eq_self_iff]
  | false => simp

namespace Scope

open Write

/-- A type outside of namespaces is declared under its escaped name and used under its plain one.
The two are the same exactly if the name is not reserved or escaping adds nothing. -/
theorem used_as_declared_iff_not_reserved (s : Scope) (noAliases : s.naming.aliases = .empty)
    (t : TypeDef) (outside : t.ns = "") (definition : Option TypeId) (sheet : Sheet) :
    let used := Name.dropArity t.name
    let declared := s.safeName used
    (s.visitItem (.typeDefinition t)).runOn sheet =
        (.ok (), { sheet with draft := sheet.draft.push used }) ∧
      (s.visit (.typeReference (.named t.ns t.name [] definition))).runOn sheet =
        (.ok (), { sheet with draft := sheet.draft.push used }) ∧
      (s.visit (.typeDefinition t)).runOn sheet =
        (.ok (), { sheet with
          draft := sheet.draft.push (declared ++ s.genericParameters t.genericParameters) }) ∧
      (used = declared ↔ s.dialect.identifiers.isReserved used = false ∨
        s.dialect.identifiers.escape = ⟨"", ""⟩) := by
  intro used declared
  have shown : s.shownName t.ns t.name = used := by
    rw [shownName_of_no_aliases noAliases, outside, Name.qualify]
    simp [used]
  refine ⟨?_, ?_, ?_, ?_⟩
  · rw [visitItem, writeTypeName, runOn_push, typeName, shown]
  · rw [visit, writeTypeRef_eq, runOn_push, typeRef_plain, shown]
  · rw [visit, writeTypeSignature_eq, runOn_push, typeSignature]
  · rw [eq_comm]
    exact IdentifierRules.safeName_eq_self_iff

/-- A dialect in which a word is reserved that may well name a type elsewhere. -/
def eventReserved : Dialect := { identifiers := { reserved := ["event"] } }

theorem used_as_declared_iff_not_reserved_event :
    let s : Scope := ⟨{}, eventReserved, eventReserved.naming⟩
    let sheet : Sheet := ⟨⟨"", 0, .tab⟩, []⟩
    s.naming.aliases = .empty ∧
      ((s.visitItem (.typeDefinition { name := "Event" })).runOn sheet).2.draft.text =
        s.safeName "Event" ∧
      ((s.visitItem (.typeDefinition { name := "event\x601" })).runOn sheet).2.draft.text =
        "event" ∧
      "event" ≠ s.safeName "event" := by
  intro s sheet
  obtain ⟨used, -, -, same⟩ := s.used_as_declared_iff_not_reserved rfl { name := "Event" } rfl none
    sheet
  obtain ⟨used', -, -, differ⟩ := s.used_as_declared_iff_not_reserved rfl { name := "event\x601" }
    rfl none sheet
  have plain : "Event" = s.safeName "Event" := same.2 (.inl (by decide +kernel))
  refine ⟨rfl, ?_, ?_, mt differ.1 (by decide +kernel)⟩
  · rw [used]
    exact plain
  · rw [used']
    decide +kernel

/-- A type is declared as `@event` and used as `event`. -/
theorem reserved_name_used_unescaped :
    let s : Scope := ⟨{}, eventReserved, eventReserved.naming⟩
    let t : TypeDef := .ofClass "" "event"
    let written (w : Write Unit) : String := (w.runOn ⟨⟨"", 0, .tab⟩, []⟩).2.draft.text
    written (s.writeTypeSignature t) = "@event" ∧ written (s.writeTypeName t) = "event" ∧
      written (s.writeTypeRef (.plain "" "event")) = "event" ∧
      ¬ ∀ (s : Scope) (t : TypeDef), s.naming.aliases = .empty → t.ns = "" →
        s.typeName t = s.safeName (Name.dropArity t.name) := by
  intro s t written
  refine ⟨by decide +kernel, by decide +kernel, by decide +kernel, ?_⟩
  intro agree
  exact absurd (agree s t rfl rfl) (by decide +kernel)

end Scope

/-! ## Nested names -/

namespace Name

/-- One type in the name of a nested type: its own name and, if it is generic, the digits behind the
arity mark. -/
structure Segment where
  base : String
  arity : Option String
  plain : ∀ c ∈ base.toList, c ≠ arityMark ∧ c ≠ '/'
  digits : ∀ tag ∈ arity, tag ≠ "" ∧ ∀ c ∈ tag.toList, c.isDigit

namespace Segment

def tag (segment : Segment) : String :=
  match segment.arity with
  | none => ""
  | some digits => "\x60" ++ digits

def text (segment : Segment) : String := segment.base ++ segment.tag

end Segment

/-- The name of a nested type, from the outermost type inward. -/
def pathText (path : List Segment) : String := "/".intercalate (path.map Segment.text)

/-- The same without arity marks. -/
def barePath (path : List Segment) : String := "/".intercalate (path.map Segment.base)

/-- The types of a path up to the first that is marked as generic. -/
def upToGeneric : List Segment → List Segment
  | [] => []
  | segment :: path =>
    if segment.arity = none then segment :: upToGeneric path else [segment]

theorem upToGeneric_ne_nil {path : List Segment} (nonempty : path ≠ []) :
    upToGeneric path ≠ [] := by
  cases path with
  | nil => exact absurd rfl nonempty
  | cons segment path =>
    unfold upToGeneric
    split <;> simp

theorem isPrefix_upToGeneric (path : List Segment) : upToGeneric path <+: path := by
  induction path with
  | nil => exact List.prefix_rfl
  | cons segment path ih =>
    unfold upToGeneric
    split
    · exact List.cons_prefix_cons.2 ⟨rfl, ih⟩
    · exact List.cons_prefix_cons.2 ⟨rfl, List.nil_prefix⟩

theorem upToGeneric_eq_self_iff {path : List Segment} :
    upToGeneric path = path ↔ ∀ segment ∈ path.dropLast, segment.arity = none := by
  induction path with
  | nil => simp [upToGeneric]
  | cons segment path ih =>
    unfold upToGeneric
    cases path with
    | nil => split <;> simp [upToGeneric]
    | cons next path =>
      rw [List.dropLast_cons_cons, List.forall_mem_cons, ← ih]
      split <;> simp_all

theorem dropArity_append {a : String} (free : arityMark ∉ a.toList) (b : String) :
    dropArity (a ++ b) = a ++ dropArity b := by
  have passed : ∀ c ∈ a.toList, (c != arityMark) = true := by
    intro c mem
    rw [bne_iff_ne]
    rintro rfl
    exact free mem
  rw [dropArity, String.toList_append, List.takeWhile_append_of_pos passed, String.ofList_append,
    String.ofList_toList, ← dropArity]

theorem dropArity_mark (b : String) : dropArity ("\x60" ++ b) = "" := by
  rw [dropArity, String.toList_append]
  rfl

theorem dropArity_segment_append (segment : Segment) (b : String) :
    dropArity (segment.text ++ b) =
      segment.base ++ if segment.arity = none then dropArity b else "" := by
  have free : arityMark ∉ segment.base.toList := fun mem => (segment.plain _ mem).1 rfl
  rw [Segment.text, String.append_assoc, dropArity_append free, Segment.tag]
  cases segment.arity with
  | none => simp
  | some digits => simp [String.append_assoc, dropArity_mark]

theorem dropArity_pathText (path : List Segment) :
    dropArity (pathText path) = barePath (upToGeneric path) := by
  induction path with
  | nil => rfl
  | cons segment path ih =>
    cases path with
    | nil =>
      have alone := dropArity_segment_append segment ""
      rw [String.append_empty] at alone
      rw [pathText, List.map_singleton, String.intercalate_singleton, alone, upToGeneric]
      split <;> simp [barePath, upToGeneric, dropArity]
    | cons next path =>
      have joined : pathText (segment :: next :: path) =
          segment.text ++ ("/" ++ pathText (next :: path)) := by
        rw [pathText, List.map_cons, List.map_cons, String.intercalate_cons_cons,
          String.append_assoc]
        rfl
      have stroke : dropArity ("/" ++ pathText (next :: path)) =
          "/" ++ barePath (upToGeneric (next :: path)) := by
        rw [dropArity_append (by decide), ih]
      have below : (upToGeneric (next :: path)).map Segment.base ≠ [] := by
        simpa using upToGeneric_ne_nil (List.cons_ne_nil next path)
      have cut : upToGeneric (segment :: next :: path) =
          if segment.arity = none then segment :: upToGeneric (next :: path) else [segment] := rfl
      rw [joined, dropArity_segment_append, stroke, cut]
      split
      · rw [barePath, barePath, List.map_cons, String.intercalate_cons_of_ne_nil below,
          String.append_assoc]
      · simp [barePath]

theorem barePath_inj {path other : List Segment} (nonempty : path ≠ []) (nonempty' : other ≠ []) :
    barePath path = barePath other ↔ path.map Segment.base = other.map Segment.base := by
  have split {path : List Segment} (nonempty : path ≠ []) :
      (barePath path).toList.splitOn '/' = path.map fun segment => segment.base.toList := by
    rw [barePath, String.toList_intercalate, List.map_map]
    refine List.splitOn_intercalate '/' ?_ (by simpa using nonempty)
    intro part mem
    obtain ⟨segment, -, rfl⟩ := List.mem_map.1 mem
    exact fun stroke => (segment.plain '/' stroke).2 rfl
  constructor
  · intro same
    have parts := split nonempty
    rw [same, split nonempty'] at parts
    apply List.map_injective_iff.2 fun _ _ => String.toList_inj.1
    rw [List.map_map, List.map_map]
    exact parts.symm
  · intro same
    rw [barePath, same, barePath]

theorem barePath_upToGeneric_eq_iff {path : List Segment} (nonempty : path ≠ []) :
    barePath (upToGeneric path) = barePath path ↔
      ∀ segment ∈ path.dropLast, segment.arity = none := by
  rw [← upToGeneric_eq_self_iff, barePath_inj (upToGeneric_ne_nil nonempty) nonempty]
  constructor
  · intro same
    have sizes := congrArg List.length same
    rw [List.length_map, List.length_map] at sizes
    exact (isPrefix_upToGeneric path).eq_of_length sizes
  · intro same
    rw [same]

theorem qualify_inj {ns a b : String} : qualify ns a = qualify ns b ↔ a = b := by
  unfold qualify
  split
  · exact Iff.rfl
  · exact String.append_right_inj _

def Segment.cart : Segment := ⟨"Cart", none, by simp [arityMark], by simp⟩

def Segment.genericCart : Segment := ⟨"Cart", some "1", by simp [arityMark], by simp⟩

def Segment.line : Segment := ⟨"Line", none, by simp [arityMark], by simp⟩

def Segment.genericLine : Segment := ⟨"Line", some "12", by simp [arityMark], by simp⟩

def Segment.total : Segment := ⟨"Total", none, by simp [arityMark], by simp⟩

end Name

namespace Scope

open Write

/-- The name of a nested type is written up to the first type in it that is marked as generic, so
arity marks are all that is lost exactly if no type but the innermost has one. Two names read the
same exactly if they agree up to there. -/
theorem nested_name_written_up_to_first_mark (s : Scope) (noAliases : s.naming.aliases = .empty)
    (inFull : s.naming.inFull = true) (ns : String) (path : List Name.Segment)
    (nonempty : path ≠ []) :
    let written := Name.qualify ns (Name.barePath (Name.upToGeneric path))
    (∀ definition sheet,
      (s.visit (.typeReference (.named ns (Name.pathText path) [] definition))).runOn sheet =
        (.ok (), { sheet with draft := sheet.draft.push written })) ∧
    (∀ (t : TypeDef) sheet, t.ns = ns → t.name = Name.pathText path →
      (s.visitItem (.typeDefinition t)).runOn sheet =
        (.ok (), { sheet with draft := sheet.draft.push written })) ∧
    (written = Name.qualify ns (Name.barePath path) ↔
      ∀ segment ∈ path.dropLast, segment.arity = none) ∧
    ∀ other ≠ [],
      s.typeRef (.plain ns (Name.pathText path)) = s.typeRef (.plain ns (Name.pathText other)) ↔
        (Name.upToGeneric path).map (·.base) = (Name.upToGeneric other).map (·.base) := by
  intro written
  have shown (path : List Name.Segment) : s.shownName ns (Name.pathText path) =
      Name.qualify ns (Name.barePath (Name.upToGeneric path)) := by
    rw [shownName_of_no_aliases noAliases, inFull, if_pos rfl, Name.dropArity_pathText]
  refine ⟨?_, ?_, ?_, ?_⟩
  · intro definition sheet
    rw [visit, writeTypeRef_eq, runOn_push, typeRef_plain, shown]
  · intro t sheet inside named
    rw [visitItem, writeTypeName, runOn_push, typeName, inside, named, shown]
  · rw [Name.qualify_inj, Name.barePath_upToGeneric_eq_iff nonempty]
  · intro other nonempty'
    rw [TypeRef.plain, TypeRef.plain, typeRef_plain, typeRef_plain, shown, shown, Name.qualify_inj,
      Name.barePath_inj (Name.upToGeneric_ne_nil nonempty) (Name.upToGeneric_ne_nil nonempty')]

theorem nested_name_written_up_to_first_mark_carts :
    let s : Scope := ⟨{}, .braces, Dialect.braces.naming⟩
    let sheet : Sheet := ⟨⟨"", 0, .tab⟩, []⟩
    let written (name : String) : String :=
      ((s.visit (.typeReference (.named "Shop" name [] none))).runOn sheet).2.draft.text
    s.naming.aliases = .empty ∧ s.naming.inFull = true ∧
      Name.pathText [.cart, .genericLine] = "Cart/Line\x6012" ∧
      written (Name.pathText [.cart, .genericLine]) =
        Name.qualify "Shop" (Name.barePath [.cart, .genericLine]) ∧
      Name.pathText [.genericCart, .line] = "Cart\x601/Line" ∧
      written (Name.pathText [.genericCart, .line]) = "Shop.Cart" := by
  intro s sheet written
  obtain ⟨plain, -, kept, -⟩ := s.nested_name_written_up_to_first_mark rfl rfl "Shop"
    [.cart, .genericLine] (List.cons_ne_nil _ _)
  obtain ⟨generic, -⟩ := s.nested_name_written_up_to_first_mark rfl rfl "Shop" [.genericCart, .line]
    (List.cons_ne_nil _ _)
  refine ⟨rfl, rfl, by decide +kernel, ?_, by decide +kernel, ?_⟩
  · rw [← kept.2 (by simp [Name.Segment.cart])]
    simp [written, plain, sheet]
  · simp only [written, generic]
    decide +kernel

/-- Two types that are nested in one generic type read the same. -/
theorem nested_types_of_generic_type_collapse :
    let s : Scope := ⟨{}, .braces, Dialect.braces.naming⟩
    let written (w : Write Unit) : String := (w.runOn ⟨⟨"", 0, .tab⟩, []⟩).2.draft.text
    Name.pathText [.genericCart, .line] = "Cart\x601/Line" ∧
      Name.pathText [.genericCart, .total] = "Cart\x601/Total" ∧
      written (s.writeTypeRef (.plain "Shop" "Cart\x601/Line")) = "Shop.Cart" ∧
      written (s.writeTypeRef (.plain "Shop" "Cart\x601/Total")) = "Shop.Cart" ∧
      written (s.writeTypeName (.ofClass "Shop" "Cart\x601/Total")) = "Shop.Cart" ∧
      ¬ ∀ (s : Scope) (ns : String) (path : List Name.Segment), s.naming.aliases = .empty →
        s.naming.inFull = true → path ≠ [] →
          s.writeTypeRef (.plain ns (Name.pathText path)) =
            push (Name.qualify ns (Name.barePath path)) := by
  intro s written
  refine ⟨by decide +kernel, by decide +kernel, by decide +kernel, by decide +kernel,
    by decide +kernel, ?_⟩
  intro lossless
  have same := lossless s "Shop" [.genericCart, .line] rfl rfl (List.cons_ne_nil _ _)
  exact absurd (congrArg written same) (by decide +kernel)

end Scope
end StubSource
