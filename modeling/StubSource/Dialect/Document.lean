import StubSource.Dialect.Basic
import StubSource.Document.Value

/-!
# Dialects in documents

A document gives a dialect field by field and may leave out any field at any depth. What is left
out of the document is taken from the default dialect, but what is left out of a table that is
there comes from the defaults of that kind of table. Aliases are entered in the order of their
names, since tables of a document have no order.
-/

namespace StubSource
set_option autoImplicit false

mutual

/-- Whether nothing in a value is unusable. -/
def Value.isUsable : Value → Bool
  | .unusable _ => false
  | .list items => Value.areUsable items
  | .table fields => Value.fieldsAreUsable fields
  | _ => true

def Value.areUsable : List Value → Bool
  | [] => true
  | v :: vs => v.isUsable && Value.areUsable vs

def Value.fieldsAreUsable : List (String × Value) → Bool
  | [] => true
  | (_, v) :: fields => v.isUsable && Value.fieldsAreUsable fields

end

/-- The name of the field in which a moment has its text. -/
def momentKey : String := "$__toml_private_datetime"

/-- The fields of a table. A moment is a table with its text as the only field. -/
def Value.fields? : Value → Option Fields
  | .table fields => some fields
  | .moment s => some [(momentKey, .text s)]
  | _ => none

/-- The fields of a record with the given keys. A list gives them in the order of the keys, and
what it has beyond them is not looked at. A table may have other fields too, but nothing
unusable in them. -/
def Value.record? (keys : List String) : Value → Option Fields
  | .list items => some (keys.zip items)
  | v => v.fields?.filter fun fields =>
    fields.all fun field => keys.contains field.1 || field.2.isUsable

/-- A text that may be left out. -/
def Fields.text? (fields : Fields) (key fallback : String) : Option String :=
  fields.field? key Value.text? fallback

namespace IndentUnit

def ofValue? (format : Format) : Value → Option IndentUnit
  | .table [("spaces", width)] => width.uint8?.map .spaces
  | v => match v.choice? format with
    | some "tab" => some .tab
    | _ => none

def toValue : IndentUnit → Value
  | .spaces width => .table [("spaces", .ofNat width.toNat)]
  | .tab => .text "tab"

end IndentUnit

namespace Frame

def ofValue? (v : Value) : Option Frame := do
  let fields ← v.record? ["prefix", "suffix"]
  return { before := ← fields.text? "prefix" "", after := ← fields.text? "suffix" "" }

def toValue (f : Frame) : Value := .table [("prefix", .text f.before), ("suffix", .text f.after)]

end Frame

namespace Brackets

def ofValue? (v : Value) : Option Brackets := do
  let fields ← v.record? ["open", "close"]
  return { opening := ← fields.text? "open" "", closing := ← fields.text? "close" "" }

def toValue (b : Brackets) : Value := .table [
  ("open", .text b.opening), ("close", .text b.closing)]

end Brackets

namespace BlockWords

def ofValue? (v : Value) : Option BlockWords := do
  let fallback : BlockWords := {}
  let fields ← v.record? ["open", "start", "end"]
  return {
    header := ← fields.text? "open" fallback.header
    start := ← fields.text? "start" fallback.start
    finish := ← fields.text? "end" fallback.finish }

def toValue (b : BlockWords) : Value := .table [
  ("open", .text b.header), ("start", .text b.start), ("end", .text b.finish)]

end BlockWords

namespace KindWords

def ofValue? (v : Value) : Option KindWords := do
  let fields ← v.record? ["open", "end"]
  return { header := ← fields.text? "open" "", finish := ← fields.text? "end" "" }

def toValue (k : KindWords) : Value := .table [("open", .text k.header), ("end", .text k.finish)]

end KindWords

namespace TypeWords

def ofValue? (v : Value) : Option TypeWords := do
  let fallback : TypeWords := {}
  let fields ← v.record? ["class", "struct", "interface", "enum", "start", "abstract_modifier",
    "sealed_modifier", "static_modifier"]
  return {
    classType := ← fields.field? "class" KindWords.ofValue? fallback.classType
    structType := ← fields.field? "struct" KindWords.ofValue? fallback.structType
    interfaceType := ← fields.field? "interface" KindWords.ofValue? fallback.interfaceType
    enumType := ← fields.field? "enum" KindWords.ofValue? fallback.enumType
    start := ← fields.text? "start" fallback.start
    abstractWord := ← fields.text? "abstract_modifier" fallback.abstractWord
    sealedWord := ← fields.text? "sealed_modifier" fallback.sealedWord
    staticWord := ← fields.text? "static_modifier" fallback.staticWord }

def toValue (t : TypeWords) : Value := .table [
  ("class", t.classType.toValue), ("struct", t.structType.toValue),
  ("interface", t.interfaceType.toValue), ("enum", t.enumType.toValue),
  ("start", .text t.start), ("abstract_modifier", .text t.abstractWord),
  ("sealed_modifier", .text t.sealedWord), ("static_modifier", .text t.staticWord)]

end TypeWords

namespace TypePlacement

def ofValue? (format : Format) (v : Value) : Option TypePlacement :=
  match v.choice? format with
  | some "type_first" => some .beforeName
  | some "type_last" => some .afterName
  | _ => none

def toValue : TypePlacement → Value
  | .beforeName => .text "type_first"
  | .afterName => .text "type_last"

end TypePlacement

namespace DeclarationWords

def ofValue? (format : Format) (v : Value) : Option DeclarationWords := do
  let fallback : DeclarationWords := {}
  let fields ← v.record? ["style", "type_annotation", "by_ref", "by_val", "out",
    "field_terminator"]
  return {
    placement := ← fields.field? "style" (TypePlacement.ofValue? format) fallback.placement
    annotation := ← fields.text? "type_annotation" fallback.annotation
    byRef := ← fields.text? "by_ref" fallback.byRef
    byValue := ← fields.text? "by_val" fallback.byValue
    out := ← fields.text? "out" fallback.out
    fieldEnd := ← fields.text? "field_terminator" fallback.fieldEnd }

def toValue (d : DeclarationWords) : Value := .table [
  ("style", d.placement.toValue), ("type_annotation", .text d.annotation),
  ("by_ref", .text d.byRef), ("by_val", .text d.byValue), ("out", .text d.out),
  ("field_terminator", .text d.fieldEnd)]

end DeclarationWords

namespace ModifierWords

def ofValue? (v : Value) : Option ModifierWords := do
  let fallback : ModifierWords := {}
  let fields ← v.record? ["public", "private", "family", "assembly", "family_or_assembly",
    "family_and_assembly", "static", "abstract", "virtual", "override", "sealed", "readonly"]
  return {
    everyone := ← fields.text? "public" fallback.everyone
    ownType := ← fields.text? "private" fallback.ownType
    family := ← fields.text? "family" fallback.family
    assembly := ← fields.text? "assembly" fallback.assembly
    familyOrAssembly := ← fields.text? "family_or_assembly" fallback.familyOrAssembly
    familyAndAssembly := ← fields.text? "family_and_assembly" fallback.familyAndAssembly
    staticWord := ← fields.text? "static" fallback.staticWord
    abstractWord := ← fields.text? "abstract" fallback.abstractWord
    virtualWord := ← fields.text? "virtual" fallback.virtualWord
    overrideWord := ← fields.text? "override" fallback.overrideWord
    sealedWord := ← fields.text? "sealed" fallback.sealedWord
    readOnlyWord := ← fields.text? "readonly" fallback.readOnlyWord }

def toValue (m : ModifierWords) : Value := .table [
  ("public", .text m.everyone), ("private", .text m.ownType), ("family", .text m.family),
  ("assembly", .text m.assembly), ("family_or_assembly", .text m.familyOrAssembly),
  ("family_and_assembly", .text m.familyAndAssembly), ("static", .text m.staticWord),
  ("abstract", .text m.abstractWord), ("virtual", .text m.virtualWord),
  ("override", .text m.overrideWord), ("sealed", .text m.sealedWord),
  ("readonly", .text m.readOnlyWord)]

end ModifierWords

namespace MethodWords

def ofValue? (v : Value) : Option MethodWords := do
  let fallback : MethodWords := {}
  let fields ← v.record? ["procedure_keyword", "function_keyword", "constructor_name", "void_type",
    "block_start", "procedure_end", "function_end", "return_default", "abstract_terminator"]
  return {
    procedureWord := ← fields.text? "procedure_keyword" fallback.procedureWord
    functionWord := ← fields.text? "function_keyword" fallback.functionWord
    constructorName :=
      ← fields.field? "constructor_name" (Value.optional? Value.text?) fallback.constructorName
    voidType := ← fields.text? "void_type" fallback.voidType
    start := ← fields.text? "block_start" fallback.start
    procedureFinish := ← fields.text? "procedure_end" fallback.procedureFinish
    functionFinish := ← fields.text? "function_end" fallback.functionFinish
    returnDefault := ← fields.text? "return_default" fallback.returnDefault
    abstractEnd := ← fields.text? "abstract_terminator" fallback.abstractEnd }

def toValue (m : MethodWords) : Value := .table [
  ("procedure_keyword", .text m.procedureWord), ("function_keyword", .text m.functionWord),
  ("constructor_name", .ofOption .text m.constructorName), ("void_type", .text m.voidType),
  ("block_start", .text m.start), ("procedure_end", .text m.procedureFinish),
  ("function_end", .text m.functionFinish), ("return_default", .text m.returnDefault),
  ("abstract_terminator", .text m.abstractEnd)]

end MethodWords

namespace IdentifierRules

def ofValue? (v : Value) : Option IdentifierRules := do
  let fallback : IdentifierRules := {}
  let fields ← v.record? ["reserved_words", "case_sensitive", "escape"]
  return {
    reserved := ← fields.field? "reserved_words" (Value.list? Value.text?) fallback.reserved
    caseSensitive := ← fields.field? "case_sensitive" Value.bool? fallback.caseSensitive
    escape := ← fields.field? "escape" Frame.ofValue? fallback.escape }

def toValue (r : IdentifierRules) : Value := .table [
  ("reserved_words", .ofList .text r.reserved), ("case_sensitive", .bool r.caseSensitive),
  ("escape", r.escape.toValue)]

end IdentifierRules

namespace AliasTable

/-- A table of texts, entered in the order of the names. -/
def ofValue? (v : Value) : Option AliasTable := do
  let fields ← v.fields?
  let entries ← fields.mapM fun field => field.2.text?.map (field.1, ·)
  return ofEntries (entries.mergeSort fun a b => (compare a.1 b.1).isLE)

/-- The entries as pairs, in their own order. -/
def toValue (t : AliasTable) : Value :=
  .list (t.entries.map fun entry => .list [.text entry.1, .text entry.2])

end AliasTable

namespace Dialect

def ofValue? (format : Format) (v : Value) : Option Dialect := do
  let fields ← v.record? ["name", "indent", "comment_prefix", "import", "default_imports",
    "aliases", "full_namespaces", "namespace", "types", "region", "region_end", "generics",
    "parameters", "arrays", "separator", "rank_separator", "pointer_suffix", "signature",
    "modifiers", "methods", "identifiers"]
  return {
    name := ← fields.text? "name" braces.name
    indent := ← fields.field? "indent" (IndentUnit.ofValue? format) braces.indent
    commentMark := ← fields.text? "comment_prefix" braces.commentMark
    importLine := ← fields.field? "import" Frame.ofValue? braces.importLine
    defaultImports :=
      ← fields.field? "default_imports" (Value.list? Value.text?) braces.defaultImports
    aliases := ← fields.field? "aliases" AliasTable.ofValue? braces.aliases
    inFull := ← fields.field? "full_namespaces" Value.bool? braces.inFull
    namespaceBlock := ← fields.field? "namespace" BlockWords.ofValue? braces.namespaceBlock
    types := ← fields.field? "types" TypeWords.ofValue? braces.types
    region := ← fields.field? "region" Frame.ofValue? braces.region
    regionEnd := ← fields.text? "region_end" braces.regionEnd
    generics := ← fields.field? "generics" Brackets.ofValue? braces.generics
    parameters := ← fields.field? "parameters" Brackets.ofValue? braces.parameters
    arrays := ← fields.field? "arrays" Brackets.ofValue? braces.arrays
    separator := ← fields.text? "separator" braces.separator
    rankSeparator := ← fields.text? "rank_separator" braces.rankSeparator
    pointerMark := ← fields.text? "pointer_suffix" braces.pointerMark
    declarations :=
      ← fields.field? "signature" (DeclarationWords.ofValue? format) braces.declarations
    modifiers := ← fields.field? "modifiers" ModifierWords.ofValue? braces.modifiers
    methods := ← fields.field? "methods" MethodWords.ofValue? braces.methods
    identifiers := ← fields.field? "identifiers" IdentifierRules.ofValue? braces.identifiers }

def toValue (d : Dialect) : Value := .table [
  ("name", .text d.name),
  ("indent", d.indent.toValue),
  ("comment_prefix", .text d.commentMark),
  ("import", d.importLine.toValue),
  ("default_imports", .ofList .text d.defaultImports),
  ("aliases", d.aliases.toValue),
  ("full_namespaces", .bool d.inFull),
  ("namespace", d.namespaceBlock.toValue),
  ("types", d.types.toValue),
  ("region", d.region.toValue),
  ("region_end", .text d.regionEnd),
  ("generics", d.generics.toValue),
  ("parameters", d.parameters.toValue),
  ("arrays", d.arrays.toValue),
  ("separator", .text d.separator),
  ("rank_separator", .text d.rankSeparator),
  ("pointer_suffix", .text d.pointerMark),
  ("signature", d.declarations.toValue),
  ("modifiers", d.modifiers.toValue),
  ("methods", d.methods.toValue),
  ("identifiers", d.identifiers.toValue)]

end Dialect
end StubSource
