import StubSource.Proofs.Confirmed
import StubSource.Proofs.Resolution

/-!
# Metadata names read back

A metadata name can be read from its end. The last character tells by-reference forms, pointers,
arrays and generic types from each other and from plain names, and what stands before it is again a
metadata name. Only the arguments of a generic type have to be told apart by their commas, and these
are the commas that no bracket encloses.
-/

namespace StubSource
set_option autoImplicit false

namespace Text

theorem append_inj_of_run {p : Char → Bool} {x y r s : List Char} (inX : ∀ c ∈ x, p c)
    (inY : ∀ c ∈ y, p c) (endX : ∀ c ∈ r.head?, p c = false) (endY : ∀ c ∈ s.head?, p c = false)
    (same : x ++ r = y ++ s) : x = y ∧ r = s := by
  have front : x = y := by
    rw [← takeWhile_append_run inX endX, same, takeWhile_append_run inY endY]
  subst front
  exact ⟨rfl, List.append_cancel_left same⟩

theorem append_inj_of_run_behind {p : Char → Bool} {x y r s : List Char} (inX : ∀ c ∈ x, p c)
    (inY : ∀ c ∈ y, p c) (endX : ∀ c ∈ r.getLast?, p c = false)
    (endY : ∀ c ∈ s.getLast?, p c = false) (same : r ++ x = s ++ y) : r = s ∧ x = y := by
  have mirrored := congrArg List.reverse same
  rw [List.reverse_append, List.reverse_append] at mirrored
  have parts := append_inj_of_run (p := p) (by simpa using inX) (by simpa using inY)
    (by simpa using endX) (by simpa using endY) mirrored
  exact ⟨List.reverse_inj.1 parts.2, List.reverse_inj.1 parts.1⟩

/-- The depth of brackets behind a text that begins at some depth, if no comma in it lies outside of
all brackets. -/
def depthAfter : Nat → List Char → Option Nat
  | depth, [] => some depth
  | depth, c :: text =>
    if c = '<' ∨ c = '[' then depthAfter (depth + 1) text
    else if c = '>' ∨ c = ']' then depthAfter (depth - 1) text
    else if c = ',' ∧ depth = 0 then none
    else depthAfter depth text

theorem depthAfter_append (depth : Nat) (x y : List Char) :
    depthAfter depth (x ++ y) = (depthAfter depth x).bind fun depth => depthAfter depth y := by
  induction x generalizing depth with
  | nil => rfl
  | cons c x ih =>
    simp only [List.cons_append, depthAfter, ih]
    split
    · rfl
    · split
      · rfl
      · split <;> rfl

theorem depthAfter_of_isNameChar {text : List Char} (named : ∀ c ∈ text, Name.isNameChar c)
    (depth : Nat) : depthAfter depth text = some depth := by
  induction text with
  | nil => rfl
  | cons c text ih =>
    rw [List.forall_mem_cons] at named
    have other {d : Char} (mark : Name.isNameChar d = false) : c ≠ d := by
      rintro rfl
      rw [named.1] at mark
      cases mark
    have marks : c ≠ '<' ∧ c ≠ '[' ∧ c ≠ '>' ∧ c ≠ ']' ∧ c ≠ ',' :=
      ⟨other (by decide), other (by decide), other (by decide), other (by decide),
        other (by decide)⟩
    simp [depthAfter, marks, ih named.2]

theorem depthAfter_commas (depth count : Nat) :
    depthAfter (depth + 1) (List.replicate count ',') = some (depth + 1) := by
  induction count with
  | zero => rfl
  | succ count ih => simp [List.replicate_succ, depthAfter, ih]

theorem eq_nil_of_depthAfter {x z : List Char} (closed : depthAfter 0 x = some 0)
    (closed' : depthAfter 0 (x ++ z) = some 0) (comma : ∀ c ∈ z.head?, c = ',') : z = [] := by
  cases z with
  | nil => rfl
  | cons c z =>
    have first := comma c rfl
    subst first
    rw [depthAfter_append, closed] at closed'
    cases closed'

/-- A text without commas outside of brackets ends before the next such comma. -/
theorem append_inj_of_depthAfter {x y r s : List Char} (closedX : depthAfter 0 x = some 0)
    (closedY : depthAfter 0 y = some 0) (commaX : ∀ c ∈ r.head?, c = ',')
    (commaY : ∀ c ∈ s.head?, c = ',') (same : x ++ r = y ++ s) : x = y ∧ r = s := by
  have front : x = y := by
    rcases List.append_eq_append_iff.1 same with ⟨z, rfl, rfl⟩ | ⟨z, rfl, rfl⟩
    · have none := eq_nil_of_depthAfter closedX closedY
        fun c first => commaX c (by rw [List.head?_append, first]; rfl)
      rw [none, List.append_nil]
    · have none := eq_nil_of_depthAfter closedY closedX
        fun c first => commaY c (by rw [List.head?_append, first]; rfl)
      rw [none, List.append_nil]
  subst front
  exact ⟨rfl, List.append_cancel_left same⟩

end Text

namespace Name

/-- A name without a namespace: identifier characters and arity marks, and at least one of them. -/
def IsSimple (name : String) : Prop :=
  name ≠ "" ∧ ∀ c ∈ name.toList, isIdentifierChar c ∨ c = arityMark

instance (name : String) : Decidable (IsSimple name) :=
  decidable_of_iff (name ≠ "" ∧
    (name.toList.all fun c => isIdentifierChar c || c == arityMark) = true) (by simp [IsSimple])

theorem IsSimple.isRun {name : String} (simple : IsSimple name) : IsRun name.toList := by
  refine ⟨fun empty => simple.1 (String.toList_eq_nil_iff.1 empty), ?_⟩
  intro c mem
  rcases simple.2 c mem with identifier | rfl
  · exact isNameChar_of_isIdentifierChar identifier
  · rfl

/-- The last full stop of a qualified name is the one before the simple name. -/
theorem qualify_inj_of_isSimple {ns ns' name name' : String} (simple : IsSimple name)
    (simple' : IsSimple name') (same : qualify ns name = qualify ns' name') :
    ns = ns' ∧ name = name' := by
  let lead (ns : String) : String := if ns.isEmpty then "" else ns ++ "."
  have parts (ns name : String) : (qualify ns name).toList = (lead ns).toList ++ name.toList := by
    unfold qualify lead
    split <;> simp
  have noStop {name : String} (simple : IsSimple name) : ∀ c ∈ name.toList, (c != '.') = true := by
    intro c mem
    rw [bne_iff_ne]
    rintro rfl
    exact absurd (simple.2 '.' mem) (by decide)
  have ends (ns : String) : ∀ c ∈ (lead ns).toList.getLast?, (c != '.') = false := by
    unfold lead
    split <;> simp
  have texts := congrArg String.toList same
  rw [parts, parts] at texts
  obtain ⟨leads, names⟩ := Text.append_inj_of_run_behind (noStop simple) (noStop simple') (ends ns)
    (ends ns') texts
  refine ⟨?_, String.toList_inj.1 names⟩
  rw [String.toList_inj] at leads
  unfold lead at leads
  split at leads <;> split at leads <;> simp_all

end Name

namespace TypeRef

/-! ## Names that can be read back -/

/-- The reference itself, whatever its parts are, has a simple name in a namespace. -/
def ProperlyNamed : TypeRef → Prop
  | .named ns name _ _ => (∀ c ∈ ns.toList, Name.isNameChar c) ∧ Name.IsSimple name
  | .parameter name => Name.IsSimple name
  | .array _ _ | .byRef _ | .pointer _ => True

instance : DecidablePred ProperlyNamed
  | .named ns name _ _ =>
    decidable_of_iff (ns.toList.all Name.isNameChar = true ∧ Name.IsSimple name)
      (by simp [ProperlyNamed])
  | .parameter name => inferInstanceAs (Decidable (Name.IsSimple name))
  | .array _ _ | .byRef _ | .pointer _ => .isTrue trivial

/-- All names in the reference, at any depth, are proper. -/
def Readable (ref : TypeRef) : Prop := ∀ part ∈ ref.parts, part.ProperlyNamed

instance (ref : TypeRef) : Decidable ref.Readable :=
  inferInstanceAs (Decidable (∀ part ∈ ref.parts, _))

theorem mem_partsOfAll {part : TypeRef} {refs : List TypeRef} :
    part ∈ partsOfAll refs ↔ ∃ ref ∈ refs, part ∈ ref.parts := by
  induction refs with
  | nil => simp [partsOfAll]
  | cons ref refs ih => simp [partsOfAll, ih]

theorem readable_named_iff {ns name : String} {arguments : List TypeRef}
    {definition : Option TypeId} :
    Readable (.named ns name arguments definition) ↔
      ((∀ c ∈ ns.toList, Name.isNameChar c) ∧ Name.IsSimple name) ∧
        ∀ ref ∈ arguments, ref.Readable := by
  simp only [Readable, parts, List.forall_mem_cons, mem_partsOfAll]
  constructor
  · rintro ⟨proper, inner⟩
    exact ⟨proper, fun ref mem part inside => inner part ⟨ref, mem, inside⟩⟩
  · rintro ⟨proper, inner⟩
    refine ⟨proper, ?_⟩
    rintro part ⟨ref, mem, inside⟩
    exact inner ref mem part inside

@[simp] theorem readable_array_iff {element : TypeRef} {rank : UInt32} :
    Readable (.array element rank) ↔ element.Readable := by
  simp [Readable, parts, ProperlyNamed]

@[simp] theorem readable_byRef_iff {element : TypeRef} :
    Readable (.byRef element) ↔ element.Readable := by
  simp [Readable, parts, ProperlyNamed]

@[simp] theorem readable_pointer_iff {element : TypeRef} :
    Readable (.pointer element) ↔ element.Readable := by
  simp [Readable, parts, ProperlyNamed]

@[simp] theorem readable_parameter_iff {name : String} :
    Readable (.parameter name) ↔ Name.IsSimple name := by
  simp [Readable, parts, ProperlyNamed]

mutual

/-- What is left of a reference in its metadata name: no definitions, at least one dimension in each
array, and a plain type in place of a type parameter. -/
def canonical : TypeRef → TypeRef
  | .named ns name arguments _ => .generic ns name (canonicalAll arguments)
  | .array element rank => .grid (canonical element) rank
  | .byRef element => .byRef (canonical element)
  | .pointer element => .pointer (canonical element)
  | .parameter name => .plain "" name

def canonicalAll : List TypeRef → List TypeRef
  | [] => []
  | ref :: refs => canonical ref :: canonicalAll refs

end

mutual

theorem display_canonical : ∀ ref : TypeRef, ref.canonical.display = ref.display
  | .named ns name [] _ => rfl
  | .named ns name (first :: rest) _ => by
    rw [canonical, generic, canonicalAll, display, display_canonical first,
      displayAll_canonicalAll rest, display]
  | .array element rank => by
    have dimensions : commas (if rank = 0 then 1 else rank) = commas rank := by
      split
      · rename_i none
        rw [none]
        rfl
      · rfl
    rw [canonical, grid, display, display_canonical element, dimensions, display]
  | .byRef element => by rw [canonical, display, display_canonical element, display]
  | .pointer element => by rw [canonical, display, display_canonical element, display]
  | .parameter _ => rfl

theorem displayAll_canonicalAll : ∀ refs : List TypeRef,
    displayAll (canonicalAll refs) = displayAll refs
  | [] => rfl
  | ref :: refs => by
    rw [canonicalAll, displayAll, display_canonical ref, displayAll_canonicalAll refs, displayAll]

end

/-! ## Reading from the end -/

/-- The arguments of a generic type, each behind a comma. -/
def argumentChars (refs : List TypeRef) : List Char :=
  refs.flatMap fun ref => ',' :: ref.display.toList

theorem argumentChars_cons (ref : TypeRef) (refs : List TypeRef) :
    argumentChars (ref :: refs) = ',' :: (ref.display.toList ++ argumentChars refs) := rfl

theorem eq_comma_of_mem_head?_argumentChars {refs : List TypeRef} :
    ∀ c ∈ (argumentChars refs).head?, c = ',' := by
  cases refs <;> simp [argumentChars]

theorem toList_intercalate_displayAll (first : String) (rest : List TypeRef) :
    (String.intercalate "," (first :: displayAll rest)).toList =
      first.toList ++ argumentChars rest := by
  induction rest generalizing first with
  | nil => simp [displayAll, argumentChars]
  | cons ref rest ih =>
    rw [displayAll, String.intercalate_cons_cons, String.toList_append, String.toList_append, ih]
    simp [argumentChars]

theorem toList_display_generic (ns name : String) (first : TypeRef) (rest : List TypeRef)
    (definition : Option TypeId) :
    (display (.named ns name (first :: rest) definition)).toList =
      (Name.qualify ns name).toList ++
        '<' :: (first.display.toList ++ argumentChars rest) ++ ['>'] := by
  rw [display, String.toList_append, String.toList_append, String.toList_append,
    toList_intercalate_displayAll]
  simp

theorem toList_display_array (element : TypeRef) (rank : UInt32) :
    (display (.array element rank)).toList =
      element.display.toList ++ '[' :: List.replicate (rank.toNat - 1) ',' ++ [']'] := by
  simp [display, commas]

theorem toList_display_byRef (element : TypeRef) :
    (display (.byRef element)).toList = element.display.toList ++ ['&'] := by
  rw [display, String.toList_append]
  rfl

theorem toList_display_pointer (element : TypeRef) :
    (display (.pointer element)).toList = element.display.toList ++ ['*'] := by
  rw [display, String.toList_append]
  rfl

mutual

/-- A metadata name has no comma outside of brackets and closes the brackets that it opens. -/
theorem depthAfter_display : ∀ ref : TypeRef, ref.Readable →
    ∀ depth, Text.depthAfter depth ref.display.toList = some depth
  | .named ns name arguments _, readable, depth => by
    obtain ⟨⟨inNs, simple⟩, inner⟩ := readable_named_iff.1 readable
    have plain : Text.depthAfter depth (Name.qualify ns name).toList = some depth :=
      Text.depthAfter_of_isNameChar (Name.isRun_qualify_of_isRun inNs simple.isRun).2 depth
    cases arguments with
    | nil => exact plain
    | cons first rest =>
      rw [List.forall_mem_cons] at inner
      have within := depthAfter_display first inner.1 (depth + 1)
      have further := depthAfter_argumentChars rest inner.2 depth
      simp [toList_display_generic, Text.depthAfter_append, plain, Text.depthAfter, within, further]
  | .array element rank, readable, depth => by
    have before := depthAfter_display element (readable_array_iff.1 readable)
    simp [toList_display_array, Text.depthAfter_append, before, Text.depthAfter,
      Text.depthAfter_commas]
  | .byRef element, readable, depth => by
    have before := depthAfter_display element (readable_byRef_iff.1 readable)
    simp [toList_display_byRef, Text.depthAfter_append, before, Text.depthAfter]
  | .pointer element, readable, depth => by
    have before := depthAfter_display element (readable_pointer_iff.1 readable)
    simp [toList_display_pointer, Text.depthAfter_append, before, Text.depthAfter]
  | .parameter name, readable, depth =>
    Text.depthAfter_of_isNameChar (readable_parameter_iff.1 readable).isRun.2 depth

theorem depthAfter_argumentChars : ∀ refs : List TypeRef, (∀ ref ∈ refs, ref.Readable) →
    ∀ depth, Text.depthAfter (depth + 1) (argumentChars refs) = some (depth + 1)
  | [], _, _ => rfl
  | ref :: refs, readable, depth => by
    rw [List.forall_mem_cons] at readable
    have within := depthAfter_display ref readable.1 (depth + 1)
    have further := depthAfter_argumentChars refs readable.2 depth
    rw [argumentChars] at further
    simp [argumentChars, Text.depthAfter, Text.depthAfter_append, within, further]

end

/-- A reference by nothing but a name, with that name. -/
def simple? : TypeRef → Option (String × String)
  | .named ns name [] _ => some (ns, name)
  | .parameter name => some ("", name)
  | _ => none

theorem canonical_of_simple? {ref : TypeRef} {ns name : String}
    (simple : ref.simple? = some (ns, name)) : ref.canonical = .plain ns name := by
  unfold simple? at simple
  split at simple
  · cases simple
    rfl
  · cases simple
    rfl
  · cases simple

/-- The character by which a metadata name shows what its last step is. A plain name has none. -/
def ending : TypeRef → Option Char
  | .named _ _ [] _ | .parameter _ => none
  | .named _ _ (_ :: _) _ => some '>'
  | .array _ _ => some ']'
  | .byRef _ => some '&'
  | .pointer _ => some '*'

theorem filter_getLast?_display {ref : TypeRef} (readable : ref.Readable) :
    (ref.display.toList.getLast?.filter fun c => !Name.isNameChar c) = ref.ending := by
  have ofRun {text : List Char} (isRun : Name.IsRun text) :
      (text.getLast?.filter fun c => !Name.isNameChar c) = none := by
    rw [Option.filter_eq_none_iff]
    intro c last
    simp [isRun.2 c (List.mem_of_getLast? last)]
  have ofMark (text : List Char) {mark : Char} (other : Name.isNameChar mark = false) :
      ((text ++ [mark]).getLast?.filter fun c => !Name.isNameChar c) = some mark := by
    rw [List.getLast?_concat, Option.filter_some, other]
    rfl
  cases ref with
  | named ns name arguments definition =>
    obtain ⟨⟨inNs, simple⟩, -⟩ := readable_named_iff.1 readable
    cases arguments with
    | nil => exact ofRun (Name.isRun_qualify_of_isRun inNs simple.isRun)
    | cons first rest =>
      rw [toList_display_generic]
      exact ofMark _ (by decide)
  | array element rank =>
    rw [toList_display_array]
    exact ofMark _ (by decide)
  | byRef element =>
    rw [toList_display_byRef]
    exact ofMark _ (by decide)
  | pointer element =>
    rw [toList_display_pointer]
    exact ofMark _ (by decide)
  | parameter name => exact ofRun (readable_parameter_iff.1 readable).isRun

/-- Two references with the same last step behind equal texts. -/
inductive Alike : TypeRef → TypeRef → Prop
  | simple {a b : TypeRef} {ns name : String} (hereA : a.simple? = some (ns, name))
      (hereB : b.simple? = some (ns, name)) : Alike a b
  | generic {ns name : String} {arguments arguments' : List TypeRef}
      {definition definition' : Option TypeId}
      (within : argumentChars arguments = argumentChars arguments') :
      Alike (.named ns name arguments definition) (.named ns name arguments' definition')
  | array {element element' : TypeRef} {rank rank' : UInt32}
      (before : element.display = element'.display)
      (dimensions : rank.toNat - 1 = rank'.toNat - 1) :
      Alike (.array element rank) (.array element' rank')
  | byRef {element element' : TypeRef} (before : element.display = element'.display) :
      Alike (.byRef element) (.byRef element')
  | pointer {element element' : TypeRef} (before : element.display = element'.display) :
      Alike (.pointer element) (.pointer element')

theorem alike_generic {ns ns' name name' : String} {first first' : TypeRef}
    {rest rest' : List TypeRef} {definition definition' : Option TypeId}
    (readable : Readable (.named ns name (first :: rest) definition))
    (readable' : Readable (.named ns' name' (first' :: rest') definition'))
    (same : display (.named ns name (first :: rest) definition) =
      display (.named ns' name' (first' :: rest') definition')) :
    Alike (.named ns name (first :: rest) definition)
      (.named ns' name' (first' :: rest') definition') := by
  obtain ⟨⟨inNs, simple⟩, -⟩ := readable_named_iff.1 readable
  obtain ⟨⟨inNs', simple'⟩, -⟩ := readable_named_iff.1 readable'
  rw [← String.toList_inj, toList_display_generic, toList_display_generic] at same
  have opening (text : List Char) : ∀ c ∈ ('<' :: text).head?, Name.isNameChar c = false := by
    rintro c ⟨⟩
    decide
  obtain ⟨names, within⟩ := Text.append_inj_of_run
    (Name.isRun_qualify_of_isRun inNs simple.isRun).2
    (Name.isRun_qualify_of_isRun inNs' simple'.isRun).2 (opening _) (opening _)
    (List.append_cancel_right same)
  obtain ⟨rfl, rfl⟩ := Name.qualify_inj_of_isSimple simple simple' (String.toList_inj.1 names)
  apply Alike.generic
  rw [argumentChars_cons, argumentChars_cons, (List.cons.inj within).2]

theorem alike_array {element element' : TypeRef} {rank rank' : UInt32}
    (same : display (.array element rank) = display (.array element' rank')) :
    Alike (.array element rank) (.array element' rank') := by
  rw [← String.toList_inj, toList_display_array, toList_display_array] at same
  have inner := List.append_cancel_right same
  rw [List.append_cons, List.append_cons element'.display.toList] at inner
  have commas (count : Nat) : ∀ c ∈ List.replicate count ',', (c == ',') = true := by
    intro c mem
    rw [List.eq_of_mem_replicate mem]
    rfl
  have opening (text : List Char) : ∀ c ∈ (text ++ ['[']).getLast?, (c == ',') = false := by
    simp
  obtain ⟨before, dimensions⟩ := Text.append_inj_of_run_behind (commas _) (commas _) (opening _)
    (opening _) inner
  refine .array (String.toList_inj.1 (List.append_cancel_right before)) ?_
  simpa using congrArg List.length dimensions

theorem exists_simple?_of_ending {ref : TypeRef} (readable : ref.Readable)
    (plain : ref.ending = none) :
    ∃ ns name, ref.simple? = some (ns, name) ∧ Name.IsSimple name ∧
      ref.display = Name.qualify ns name := by
  unfold ending at plain
  split at plain
  · exact ⟨_, _, rfl, (readable_named_iff.1 readable).1.2, rfl⟩
  · exact ⟨_, _, rfl, readable_parameter_iff.1 readable, rfl⟩
  all_goals cases plain

theorem alike_simple {a b : TypeRef} (readableA : a.Readable) (readableB : b.Readable)
    (plainA : a.ending = none) (plainB : b.ending = none) (same : a.display = b.display) :
    Alike a b := by
  obtain ⟨ns, name, hereA, simple, shownA⟩ := exists_simple?_of_ending readableA plainA
  obtain ⟨ns', name', hereB, simple', shownB⟩ := exists_simple?_of_ending readableB plainB
  rw [shownA, shownB] at same
  obtain ⟨rfl, rfl⟩ := Name.qualify_inj_of_isSimple simple simple' same
  exact .simple hereA hereB

/-- The same metadata name has the same last step. -/
theorem alike_of_display_eq {a b : TypeRef} (readableA : a.Readable) (readableB : b.Readable)
    (same : a.display = b.display) : Alike a b := by
  have endings : a.ending = b.ending := by
    rw [← filter_getLast?_display readableA, same, filter_getLast?_display readableB]
  cases a with
  | named ns name arguments definition =>
    cases arguments with
    | nil => exact alike_simple readableA readableB rfl endings.symm same
    | cons first rest =>
      cases b with
      | named ns' name' arguments' definition' =>
        cases arguments' with
        | nil => simp [ending] at endings
        | cons first' rest' => exact alike_generic readableA readableB same
      | _ => simp [ending] at endings
  | array element rank =>
    cases b with
    | array element' rank' => exact alike_array same
    | named _ _ arguments _ => cases arguments <;> simp [ending] at endings
    | _ => simp [ending] at endings
  | byRef element =>
    cases b with
    | byRef element' =>
      rw [← String.toList_inj, toList_display_byRef, toList_display_byRef] at same
      exact .byRef (String.toList_inj.1 (List.append_cancel_right same))
    | named _ _ arguments _ => cases arguments <;> simp [ending] at endings
    | _ => simp [ending] at endings
  | pointer element =>
    cases b with
    | pointer element' =>
      rw [← String.toList_inj, toList_display_pointer, toList_display_pointer] at same
      exact .pointer (String.toList_inj.1 (List.append_cancel_right same))
    | named _ _ arguments _ => cases arguments <;> simp [ending] at endings
    | _ => simp [ending] at endings
  | parameter name => exact alike_simple readableA readableB rfl endings.symm same

theorem grid_eq_grid {rank rank' : UInt32} (same : rank.toNat - 1 = rank'.toNat - 1)
    (element : TypeRef) : grid element rank = grid element rank' := by
  have dimensions (rank : UInt32) : (if rank = 0 then 1 else rank).toNat = rank.toNat - 1 + 1 := by
    split
    · rename_i none
      rw [none]
      rfl
    · rename_i some
      have positive : rank.toNat ≠ 0 := fun zero => some (UInt32.toNat_inj.1 zero)
      omega
  rw [grid, grid, array.injEq]
  refine ⟨rfl, UInt32.toNat_inj.1 ?_⟩
  rw [dimensions, dimensions, same]

mutual

-- The induction follows the one reference, and a step of it is a step of the other.
theorem canonical_eq_of_display_eq : ∀ a b : TypeRef, a.Readable → b.Readable →
    a.display = b.display → a.canonical = b.canonical
  | .named ns name arguments definition, b, readableA, readableB, same => by
    cases alike_of_display_eq readableA readableB same with
    | simple hereA hereB => rw [canonical_of_simple? hereA, canonical_of_simple? hereB]
    | @generic _ _ _ arguments' _ _ within =>
      rw [canonical, canonical, canonicalAll_eq_of_argumentChars_eq arguments arguments'
        (readable_named_iff.1 readableA).2 (readable_named_iff.1 readableB).2 within]
  | .array element rank, b, readableA, readableB, same => by
    cases alike_of_display_eq readableA readableB same with
    | simple hereA => cases hereA
    | @array _ element' _ rank' before dimensions =>
      rw [canonical, canonical, grid_eq_grid dimensions, canonical_eq_of_display_eq element element'
        (readable_array_iff.1 readableA) (readable_array_iff.1 readableB) before]
  | .byRef element, b, readableA, readableB, same => by
    cases alike_of_display_eq readableA readableB same with
    | simple hereA => cases hereA
    | @byRef _ element' before =>
      rw [canonical, canonical, canonical_eq_of_display_eq element element'
        (readable_byRef_iff.1 readableA) (readable_byRef_iff.1 readableB) before]
  | .pointer element, b, readableA, readableB, same => by
    cases alike_of_display_eq readableA readableB same with
    | simple hereA => cases hereA
    | @pointer _ element' before =>
      rw [canonical, canonical, canonical_eq_of_display_eq element element'
        (readable_pointer_iff.1 readableA) (readable_pointer_iff.1 readableB) before]
  | .parameter name, b, readableA, readableB, same => by
    cases alike_of_display_eq readableA readableB same with
    | simple hereA hereB => rw [canonical_of_simple? hereA, canonical_of_simple? hereB]

theorem canonicalAll_eq_of_argumentChars_eq : ∀ as bs : List TypeRef, (∀ a ∈ as, a.Readable) →
    (∀ b ∈ bs, b.Readable) → argumentChars as = argumentChars bs → canonicalAll as = canonicalAll bs
  | [], [], _, _, _ => rfl
  | [], _ :: _, _, _, same => by cases same
  | _ :: _, [], _, _, same => by cases same
  | a :: as, b :: bs, readableA, readableB, same => by
    rw [List.forall_mem_cons] at readableA readableB
    rw [argumentChars_cons, argumentChars_cons, List.cons.injEq] at same
    obtain ⟨firsts, rests⟩ := Text.append_inj_of_depthAfter (depthAfter_display a readableA.1 0)
      (depthAfter_display b readableB.1 0) eq_comma_of_mem_head?_argumentChars
      eq_comma_of_mem_head?_argumentChars same.2
    rw [canonicalAll, canonicalAll,
      canonical_eq_of_display_eq a b readableA.1 readableB.1 (String.toList_inj.1 firsts),
      canonicalAll_eq_of_argumentChars_eq as bs readableA.2 readableB.2 rests]

end

/-- References with proper names have the same metadata name exactly if they differ in nothing but
their definitions, in whether an array without dimensions has one, and in whether a name without a
namespace is that of a type or of a type parameter. -/
theorem metadata_name_eq_iff_canonical_eq (a b : TypeRef) (readableA : a.Readable)
    (readableB : b.Readable) : toString a = toString b ↔ a.canonical = b.canonical := by
  constructor
  · exact canonical_eq_of_display_eq a b readableA readableB
  · intro same
    calc a.display = a.canonical.display := (display_canonical a).symm
      _ = b.canonical.display := by rw [same]
      _ = b.display := display_canonical b

/-- Boxes in a map, with the parts open that a metadata name need not show. -/
def boxes (definition : Option TypeId) (item : TypeRef) (rank : UInt32) : TypeRef :=
  .byRef (.named "System.Collections" "Map\x602"
    [.array (.named "" "Box\x601" [item, .array (.parameter "T") 2] definition) rank,
      .pointer (.array (.plain "System" "Byte") 3)] none)

theorem metadata_name_eq_iff_canonical_eq_boxes :
    let a := boxes (some ⟨4⟩) (.parameter "T") 0
    let b := boxes none (.plain "" "T") 1
    let c := boxes none (.array (.plain "" "T") 1) 1
    a.Readable ∧ b.Readable ∧ c.Readable ∧
      toString a = "System.Collections.Map\x602<Box\x601<T,T[,]>[],System.Byte[,,]*>&" ∧
      toString a = toString b ∧ toString a ≠ toString c := by
  intro a b c
  have readableA : a.Readable := by decide +kernel
  have readableB : b.Readable := by decide +kernel
  have readableC : c.Readable := by decide +kernel
  refine ⟨readableA, readableB, readableC, by decide +kernel, ?_, ?_⟩
  · rw [metadata_name_eq_iff_canonical_eq a b readableA readableB]
    rfl
  · rw [ne_eq, metadata_name_eq_iff_canonical_eq a c readableA readableC]
    simp [a, c, boxes, canonical, canonicalAll, generic, plain, grid]

end TypeRef
end StubSource
