import Outline.Model
import Outline.ParseTree
import Outline.Proofs.Model.Essentials
import Outline.Proofs.Value.Line
import Outline.Proofs.Value.Reading

/-!
Outlines as plain data.
-/

set_option autoImplicit false

/-! ## Which outlines can be written

The names and types of an outline are decoded from the source and have no surrogates; only an escape
in a literal, or the path of the file, can bring one in. So the line of an outline that was built
from a parse tree can be encoded exactly if neither the path nor the value of an enum member has
one.
-/

namespace Outline.Model

open Declaration (Node Kind)
open Value (isTextual areTextual areTextualFields areTextual_eq_all fieldsHaveSurrogate
  haveSurrogate_eq_any)

/-- Whether neither the path of an outline nor the value of an enum member has a surrogate. -/
def Source.isWritable (s : Source) : Bool :=
  !s.path.hasSurrogate && s.enums.all fun e => e.values.all fun v => !v.value.hasSurrogate

/-! ### Outlines as plain data -/

private theorem isTextual_nameValue (name : Option Text) : (nameValue name).isTextual = true := by
  cases name <;> rw [nameValue, isTextual]

private theorem areTextual_map {α : Type} {f : α → Value} (textual : ∀ a, (f a).isTextual = true)
    (items : List α) : areTextual (items.map f) = true := by
  rw [areTextual_eq_all, List.all_map, List.all_eq_true]
  exact fun a _ => textual a

private theorem Parameter.isTextual_toValue (p : Parameter) : p.toValue.isTextual = true := by
  simp [Parameter.toValue, isTextual, areTextualFields]

private theorem Property.isTextual_toValue (p : Property) : p.toValue.isTextual = true := by
  simp [Property.toValue, modifierValue, isTextual, areTextualFields]

private theorem Method.isTextual_toValue (m : Method) : m.toValue.isTextual = true := by
  simp [Method.toValue, modifierValue, parametersValue, isTextual, areTextualFields,
    areTextual_map Parameter.isTextual_toValue]

private theorem Constructor.isTextual_toValue (c : Constructor) : c.toValue.isTextual = true := by
  simp [Constructor.toValue, modifierValue, parametersValue, isTextual, areTextualFields,
    areTextual_map Parameter.isTextual_toValue]

private theorem EnumValue.isTextual_toValue (v : EnumValue) : v.toValue.isTextual = true := by
  simp [EnumValue.toValue, isTextual, areTextualFields]

private theorem ClassType.isTextual_toValue (c : ClassType) : c.toValue.isTextual = true := by
  simp [ClassType.toValue, modifierValue, isTextual, areTextualFields, isTextual_nameValue,
    areTextual_map Property.isTextual_toValue, areTextual_map Method.isTextual_toValue,
    areTextual_map Constructor.isTextual_toValue]

private theorem InterfaceType.isTextual_toValue (i : InterfaceType) :
    i.toValue.isTextual = true := by
  simp [InterfaceType.toValue, modifierValue, isTextual, areTextualFields, isTextual_nameValue,
    areTextual_map Property.isTextual_toValue, areTextual_map Method.isTextual_toValue]

private theorem EnumType.isTextual_toValue (e : EnumType) : e.toValue.isTextual = true := by
  simp [EnumType.toValue, modifierValue, isTextual, areTextualFields, isTextual_nameValue,
    areTextual_map EnumValue.isTextual_toValue]

theorem Source.isTextual_toValue (s : Source) : s.toValue.isTextual = true := by
  simp [Source.toValue, isTextual, areTextualFields, areTextual_map ClassType.isTextual_toValue,
    areTextual_map InterfaceType.isTextual_toValue, areTextual_map EnumType.isTextual_toValue]

/-! ### What a parse tree shows -/

def IsView (node : Node) : Prop := ∃ shown : Tree ParseTree, node = shown.map ParseTree.declaration

theorem isView_view (tree : ParseTree) (bodies : Bool) : IsView (tree.view bodies) := ⟨_, rfl⟩

namespace IsView

variable {node container : Node} {kind : Kind} {legacy : Bool}

private theorem clean_nonEmpty {t? : Option Text}
    (clean : ∀ t, t? = some t → t.hasSurrogate = false) (t : Text)
    (found : Text.nonEmpty t? = some t) : t.hasSurrogate = false := by
  unfold Text.nonEmpty at found
  split at found
  · next c s =>
    obtain rfl := Option.some.inj found
    exact clean _ rfl
  · exact absurd found (by simp)

private theorem clean_text (tree : ParseTree) (t : Text) (found : tree.text? = some t) :
    t.hasSurrogate = false := by
  obtain ⟨bytes, -, rfl⟩ := Option.map_eq_some_iff.mp found
  exact Utf8.hasSurrogate_decodeLenient bytes

private theorem clean_bind_text (tree? : Option ParseTree) (t : Text)
    (found : (tree? >>= ParseTree.text?) = some t) : t.hasSurrogate = false := by
  obtain ⟨tree, -, spelled⟩ := Option.bind_eq_some_iff.mp found
  exact clean_text tree t spelled

private theorem hasSurrogate_name (view : IsView node) (name : Text)
    (found : node.value.name = some name) :
    name.hasSurrogate = false := by
  obtain ⟨shown, rfl⟩ := view
  rw [Tree.value_map] at found
  change ParseTree.nameOf shown.value = some name at found
  rw [ParseTree.nameOf] at found
  split_ifs at found
  · exact clean_nonEmpty (clean_text _) name found
  · exact clean_nonEmpty (clean_bind_text _) name found

private theorem hasSurrogate_nameOf (view : IsView node) : (nameOf node).hasSurrogate = false := by
  rw [nameOf]
  cases found : node.value.name with
  | none => rfl
  | some name => exact view.hasSurrogate_name name found

private theorem hasSurrogate_nameValue (view : IsView node) :
    (nameValue node.value.name).hasSurrogate = false := by
  cases found : node.value.name with
  | none => simp [nameValue, Value.hasSurrogate]
  | some name => rw [nameValue, Value.hasSurrogate, view.hasSurrogate_name name found]

private theorem hasSurrogate_typeOf (view : IsView node) : (typeOf node).hasSurrogate = false := by
  obtain ⟨shown, rfl⟩ := view
  rw [typeOf, Tree.value_map]
  unfold orElse
  split
  · next c s spelled => exact clean_bind_text _ _ spelled
  · exact Text.hasSurrogate_ofString "any"

private theorem of_mem_descendants (view : IsView container)
    (member : node ∈ container.descendants) :
    IsView node := by
  obtain ⟨shown, rfl⟩ := view
  rw [Tree.descendants_map] at member
  obtain ⟨below, -, rfl⟩ := List.mem_map.mp member
  exact ⟨below, rfl⟩

private theorem of_mem_declarations (view : IsView container)
    (member : node ∈ named (declarations container kind)) : IsView node :=
  view.of_mem_descendants (List.mem_of_mem_filter (List.mem_of_mem_filter member))

private theorem of_mem_members (view : IsView container)
    (member : node ∈ named (members container kind legacy)) : IsView node :=
  view.of_mem_descendants (mem_descendants_of_mem_members (List.mem_of_mem_filter member))

private theorem of_mem_eligible (view : IsView container)
    (member : node ∈ eligible container kind legacy) : IsView node :=
  view.of_mem_members (List.mem_of_mem_filter member)

end IsView

/-! ### Surrogates of an outline -/

private theorem hasSurrogate_list {α : Type} {f : α → Value} {test : α → Bool} {items : List α}
    (same : ∀ a ∈ items, (f a).hasSurrogate = test a) :
    (Value.list (items.map f)).hasSurrogate = items.any test := by
  rw [Value.hasSurrogate, haveSurrogate_eq_any, List.any_map, Bool.eq_iff_iff, List.any_eq_true,
    List.any_eq_true]
  refine exists_congr fun a => and_congr_right fun member => ?_
  rw [Function.comp_apply, same a member]

private theorem hasSurrogate_list_eq_false {α : Type} {f : α → Value} {items : List α}
    (clean : ∀ a ∈ items, (f a).hasSurrogate = false) :
    (Value.list (items.map f)).hasSurrogate = false := by
  rw [hasSurrogate_list clean, List.any_eq_false]
  exact fun _ _ => Bool.false_ne_true

private theorem hasSurrogate_modifierValue (m : Modifier) :
    (modifierValue m).hasSurrogate = false := by
  rw [modifierValue, Value.hasSurrogate, Text.hasSurrogate_ofString]

private theorem hasSurrogate_language : (Value.text languageTag).hasSurrogate = false := by
  rw [Value.hasSurrogate, languageTag, Text.hasSurrogate_ofString]

section

variable {node : Node} (view : IsView node) (legacy : Bool)

include view

private theorem hasSurrogate_parameters :
    (parametersValue (parameters node)).hasSurrogate = false := by
  refine hasSurrogate_list_eq_false fun p member => ?_
  obtain ⟨found, foundIn, rfl⟩ := List.mem_map.mp member
  have shown := view.of_mem_declarations foundIn
  simp [Parameter.toValue, Value.hasSurrogate, fieldsHaveSurrogate, Text.hasSurrogate_ofString,
    shown.hasSurrogate_nameOf, shown.hasSurrogate_typeOf]

private theorem hasSurrogate_properties :
    (Value.list ((properties node legacy).map Property.toValue)).hasSurrogate = false := by
  refine hasSurrogate_list_eq_false fun p member => ?_
  obtain ⟨found, foundIn, rfl⟩ := List.mem_map.mp member
  have shown := view.of_mem_eligible foundIn
  simp [Property.toValue, Value.hasSurrogate, fieldsHaveSurrogate, Text.hasSurrogate_ofString,
    shown.hasSurrogate_nameOf, shown.hasSurrogate_typeOf, hasSurrogate_modifierValue]

private theorem hasSurrogate_methods :
    (Value.list ((methods node legacy).map Method.toValue)).hasSurrogate = false := by
  refine hasSurrogate_list_eq_false fun m member => ?_
  obtain ⟨found, foundIn, rfl⟩ := List.mem_map.mp member
  have shown := view.of_mem_eligible foundIn
  have listed : (parametersValue (parameters (if legacy then node else found))).hasSurrogate =
      false := by
    split_ifs
    · exact hasSurrogate_parameters view
    · exact hasSurrogate_parameters shown
  simp [Method.toValue, Value.hasSurrogate, fieldsHaveSurrogate, Text.hasSurrogate_ofString,
    shown.hasSurrogate_nameOf, shown.hasSurrogate_typeOf, hasSurrogate_modifierValue, listed]

private theorem hasSurrogate_constructors :
    (Value.list ((constructors node legacy).map Constructor.toValue)).hasSurrogate = false := by
  refine hasSurrogate_list_eq_false fun c member => ?_
  obtain ⟨found, foundIn, rfl⟩ := List.mem_map.mp member
  have shown := view.of_mem_eligible foundIn
  simp [Constructor.toValue, Value.hasSurrogate, fieldsHaveSurrogate, Text.hasSurrogate_ofString,
    shown.hasSurrogate_nameOf, hasSurrogate_modifierValue, hasSurrogate_parameters shown]

private theorem hasSurrogate_buildClass :
    (buildClass node legacy).toValue.hasSurrogate = false := by
  rw [ClassType.toValue, Value.hasSurrogate, buildClass]
  simp only [fieldsHaveSurrogate, Text.hasSurrogate_ofString, view.hasSurrogate_nameValue,
    hasSurrogate_modifierValue, hasSurrogate_properties view, hasSurrogate_methods view,
    hasSurrogate_constructors view, hasSurrogate_language, Bool.or_false]

private theorem hasSurrogate_buildInterface :
    (buildInterface node legacy).toValue.hasSurrogate = false := by
  rw [InterfaceType.toValue, Value.hasSurrogate, buildInterface]
  simp only [fieldsHaveSurrogate, Text.hasSurrogate_ofString, view.hasSurrogate_nameValue,
    hasSurrogate_modifierValue, hasSurrogate_properties view, hasSurrogate_methods view,
    hasSurrogate_language, Bool.or_false]

private theorem hasSurrogate_buildEnum : (buildEnum node).toValue.hasSurrogate =
    (buildEnum node).values.any fun v => v.value.hasSurrogate := by
  have values : (Value.list ((enumValues node).map EnumValue.toValue)).hasSurrogate =
      (enumValues node).any fun v => v.value.hasSurrogate := by
    refine hasSurrogate_list fun v member => ?_
    obtain ⟨found, foundIn, rfl⟩ := List.mem_map.mp member
    have shown := view.of_mem_members foundIn
    simp [EnumValue.toValue, Value.hasSurrogate, fieldsHaveSurrogate, Text.hasSurrogate_ofString,
      shown.hasSurrogate_nameOf]
  rw [EnumType.toValue, Value.hasSurrogate, buildEnum]
  simp only [fieldsHaveSurrogate, Text.hasSurrogate_ofString, view.hasSurrogate_nameValue,
    hasSurrogate_modifierValue, values, hasSurrogate_language, Bool.or_false, Bool.false_or]

end

theorem hasSurrogate_build {root : Node} (view : IsView root) (path : Text) (legacy : Bool) :
    (build root path legacy).toValue.hasSurrogate = !(build root path legacy).isWritable := by
  have classes : (Value.list (((named (declarations root .classType)).map
      (buildClass · legacy)).map ClassType.toValue)).hasSurrogate = false := by
    refine hasSurrogate_list_eq_false fun c member => ?_
    obtain ⟨found, foundIn, rfl⟩ := List.mem_map.mp member
    exact hasSurrogate_buildClass (view.of_mem_declarations foundIn) legacy
  have interfaces : (Value.list (((named (declarations root .interfaceType)).map
      (buildInterface · legacy)).map InterfaceType.toValue)).hasSurrogate = false := by
    refine hasSurrogate_list_eq_false fun i member => ?_
    obtain ⟨found, foundIn, rfl⟩ := List.mem_map.mp member
    exact hasSurrogate_buildInterface (view.of_mem_declarations foundIn) legacy
  have enums : (Value.list (((named (declarations root .enumType)).map
      buildEnum).map EnumType.toValue)).hasSurrogate =
      ((named (declarations root .enumType)).map buildEnum).any fun e =>
        e.values.any fun v => v.value.hasSurrogate := by
    refine hasSurrogate_list fun e member => ?_
    obtain ⟨found, foundIn, rfl⟩ := List.mem_map.mp member
    exact hasSurrogate_buildEnum (view.of_mem_declarations foundIn)
  have spelled : (Value.text path).hasSurrogate = path.hasSurrogate := by rw [Value.hasSurrogate]
  rw [Source.toValue, Value.hasSurrogate, build]
  simp only [fieldsHaveSurrogate, Text.hasSurrogate_ofString, spelled, classes, interfaces, enums,
    Source.isWritable, Bool.or_false, Bool.false_or, Bool.not_and, Bool.not_not,
    List.not_all_eq_any_not]

end Outline.Model

/-! ## Outlines read back from plain data

Reading the fields of a record by name undoes writing it as plain data, and the plain data of an
outline has no key twice, so an outline is read back from its line. Nothing of an outline is lost
there.
-/

namespace Outline.Model

open Value (isDistinct areDistinct areDistinctFields areDistinct_eq_all)

/-! ### Fields -/

section Fields

variable {key : Text} {v : Value}

private theorem textAt?_of {t : Text} (found : v.get? key = some (.text t)) :
    textAt? key v = some t := by
  rw [textAt?, found]
  rfl

private theorem nameAt?_of {name : Option Text} (found : v.get? key = some (nameValue name)) :
    nameAt? key v = some name := by
  rw [nameAt?, found]
  cases name <;> rfl

private theorem ofName?_name (m : Modifier) : Modifier.ofName? m.name = some m := by
  cases m <;> decide

private theorem modifierAt?_of {m : Modifier} (found : v.get? key = some (modifierValue m)) :
    modifierAt? key v = some m := by
  rw [modifierAt?, textAt?_of found]
  exact ofName?_name m

theorem mapM_map_write {α β : Type} {read : β → Option α} {write : α → β}
    (back : ∀ a, read (write a) = some a) (items : List α) :
    (items.map write).mapM read = some items := by
  induction items with
  | nil => rfl
  | cons a items ih =>
    rw [List.map_cons, List.mapM_cons, back, ih]
    rfl

private theorem listAt?_of {α : Type} {read : Value → Option α} {write : α → Value} {items : List α}
    (back : ∀ a, read (write a) = some a) (found : v.get? key = some (.list (items.map write))) :
    listAt? read key v = some items := by
  rw [listAt?, found]
  exact mapM_map_write back items

private theorem languageAt?_of {t : Text} (found : v.get? "language" = some (.text t)) :
    languageAt? v = some t := by
  rw [languageAt?, found]
  rfl

end Fields

/-! ### Records -/

private theorem Parameter.ofValue?_toValue (p : Parameter) :
    Parameter.ofValue? p.toValue = some p := rfl

private theorem Property.ofValue?_toValue (p : Property) :
    Property.ofValue? p.toValue = some p := by
  have name : textAt? "name" p.toValue = some p.name := textAt?_of rfl
  have type : textAt? "type" p.toValue = some p.type := textAt?_of rfl
  have modifier : modifierAt? "modifier" p.toValue = some p.modifier := modifierAt?_of rfl
  rw [Property.ofValue?, name, type, modifier]
  rfl

private theorem Method.ofValue?_toValue (m : Method) : Method.ofValue? m.toValue = some m := by
  have name : textAt? "name" m.toValue = some m.name := textAt?_of rfl
  have type : textAt? "return_type" m.toValue = some m.returnType := textAt?_of rfl
  have modifier : modifierAt? "modifier" m.toValue = some m.modifier := modifierAt?_of rfl
  have parameters : listAt? Parameter.ofValue? "parameters" m.toValue = some m.parameters :=
    listAt?_of Parameter.ofValue?_toValue rfl
  rw [Method.ofValue?, name, type, modifier, parameters]
  rfl

private theorem Constructor.ofValue?_toValue (c : Constructor) :
    Constructor.ofValue? c.toValue = some c := by
  have name : textAt? "name" c.toValue = some c.name := textAt?_of rfl
  have modifier : modifierAt? "modifier" c.toValue = some c.modifier := modifierAt?_of rfl
  have parameters : listAt? Parameter.ofValue? "parameters" c.toValue = some c.parameters :=
    listAt?_of Parameter.ofValue?_toValue rfl
  rw [Constructor.ofValue?, name, modifier, parameters]
  rfl

private theorem EnumValue.ofValue?_toValue (v : EnumValue) :
    EnumValue.ofValue? v.toValue = some v := rfl

private theorem ClassType.ofValue?_toValue (c : ClassType) :
    ClassType.ofValue? c.toValue = some c := by
  have name : nameAt? "name" c.toValue = some c.name := nameAt?_of rfl
  have modifier : modifierAt? "modifier" c.toValue = some c.modifier := modifierAt?_of rfl
  have properties : listAt? Property.ofValue? "properties" c.toValue = some c.properties :=
    listAt?_of Property.ofValue?_toValue rfl
  have methods : listAt? Method.ofValue? "methods" c.toValue = some c.methods :=
    listAt?_of Method.ofValue?_toValue rfl
  have constructors : listAt? Constructor.ofValue? "constructors" c.toValue = some c.constructors :=
    listAt?_of Constructor.ofValue?_toValue rfl
  have language : languageAt? c.toValue = some c.language := languageAt?_of rfl
  rw [ClassType.ofValue?, name, modifier, properties, methods, constructors, language]
  rfl

private theorem InterfaceType.ofValue?_toValue (i : InterfaceType) :
    InterfaceType.ofValue? i.toValue = some i := by
  have name : nameAt? "name" i.toValue = some i.name := nameAt?_of rfl
  have modifier : modifierAt? "modifier" i.toValue = some i.modifier := modifierAt?_of rfl
  have properties : listAt? Property.ofValue? "properties" i.toValue = some i.properties :=
    listAt?_of Property.ofValue?_toValue rfl
  have methods : listAt? Method.ofValue? "methods" i.toValue = some i.methods :=
    listAt?_of Method.ofValue?_toValue rfl
  have language : languageAt? i.toValue = some i.language := languageAt?_of rfl
  rw [InterfaceType.ofValue?, name, modifier, properties, methods, language]
  rfl

private theorem EnumType.ofValue?_toValue (e : EnumType) :
    EnumType.ofValue? e.toValue = some e := by
  have name : nameAt? "name" e.toValue = some e.name := nameAt?_of rfl
  have modifier : modifierAt? "modifier" e.toValue = some e.modifier := modifierAt?_of rfl
  have values : listAt? EnumValue.ofValue? "values" e.toValue = some e.values :=
    listAt?_of EnumValue.ofValue?_toValue rfl
  have language : languageAt? e.toValue = some e.language := languageAt?_of rfl
  rw [EnumType.ofValue?, name, modifier, values, language]
  rfl

private theorem Source.ofValue?_toValue (s : Source) : Source.ofValue? s.toValue = some s := by
  have path : textAt? "path" s.toValue = some s.path := textAt?_of rfl
  have classes : listAt? ClassType.ofValue? "classes" s.toValue = some s.classes :=
    listAt?_of ClassType.ofValue?_toValue rfl
  have interfaces : listAt? InterfaceType.ofValue? "interfaces" s.toValue = some s.interfaces :=
    listAt?_of InterfaceType.ofValue?_toValue rfl
  have enums : listAt? EnumType.ofValue? "enums" s.toValue = some s.enums :=
    listAt?_of EnumType.ofValue?_toValue rfl
  rw [Source.ofValue?, path, classes, interfaces, enums]
  rfl

/-! ### Keys -/

private theorem isDistinct_record {fields : List (Text × Value)}
    (keys : (fields.map Prod.fst).Nodup)
    (inside : areDistinctFields fields = true) : (Value.record fields).isDistinct = true := by
  rw [isDistinct, decide_eq_true keys, inside]
  rfl

private theorem areDistinct_map {α : Type} {f : α → Value} (distinct : ∀ a, (f a).isDistinct = true)
    (items : List α) : areDistinct (items.map f) = true := by
  rw [areDistinct_eq_all, List.all_map, List.all_eq_true]
  exact fun a _ => distinct a

private theorem isDistinct_nameValue (name : Option Text) : (nameValue name).isDistinct = true := by
  cases name <;> simp [nameValue, isDistinct]

private theorem Parameter.isDistinct_toValue (p : Parameter) : p.toValue.isDistinct = true := by
  have keys : List.Nodup (["name", "type"] : List Text) := by decide
  exact isDistinct_record keys (by simp [isDistinct, areDistinctFields])

private theorem Property.isDistinct_toValue (p : Property) : p.toValue.isDistinct = true := by
  have keys : List.Nodup (["name", "type", "modifier"] : List Text) := by decide
  exact isDistinct_record keys (by simp [isDistinct, areDistinctFields, modifierValue])

private theorem Method.isDistinct_toValue (m : Method) : m.toValue.isDistinct = true := by
  have keys : List.Nodup (["name", "return_type", "modifier", "parameters"] : List Text) := by
    decide
  exact isDistinct_record keys (by simp [isDistinct, areDistinctFields, modifierValue,
    parametersValue, areDistinct_map Parameter.isDistinct_toValue])

private theorem Constructor.isDistinct_toValue (c : Constructor) : c.toValue.isDistinct = true := by
  have keys : List.Nodup (["name", "modifier", "parameters"] : List Text) := by decide
  exact isDistinct_record keys (by simp [isDistinct, areDistinctFields, modifierValue,
    parametersValue, areDistinct_map Parameter.isDistinct_toValue])

private theorem EnumValue.isDistinct_toValue (v : EnumValue) : v.toValue.isDistinct = true := by
  have keys : List.Nodup (["name", "value"] : List Text) := by decide
  exact isDistinct_record keys (by simp [isDistinct, areDistinctFields])

private theorem ClassType.isDistinct_toValue (c : ClassType) : c.toValue.isDistinct = true := by
  have keys : List.Nodup (["name", "modifier", "properties", "methods", "constructors",
    "language"] : List Text) := by decide
  exact isDistinct_record keys (by simp [isDistinct, areDistinctFields, modifierValue,
    isDistinct_nameValue, areDistinct_map Property.isDistinct_toValue,
    areDistinct_map Method.isDistinct_toValue, areDistinct_map Constructor.isDistinct_toValue])

private theorem InterfaceType.isDistinct_toValue (i : InterfaceType) :
    i.toValue.isDistinct = true := by
  have keys :
    List.Nodup (["name", "modifier", "properties", "methods", "language"] : List Text) := by
    decide
  exact isDistinct_record keys (by simp [isDistinct, areDistinctFields, modifierValue,
    isDistinct_nameValue, areDistinct_map Property.isDistinct_toValue,
    areDistinct_map Method.isDistinct_toValue])

private theorem EnumType.isDistinct_toValue (e : EnumType) : e.toValue.isDistinct = true := by
  have keys : List.Nodup (["name", "modifier", "values", "language"] : List Text) := by decide
  exact isDistinct_record keys (by simp [isDistinct, areDistinctFields, modifierValue,
    isDistinct_nameValue, areDistinct_map EnumValue.isDistinct_toValue])

private theorem Source.isDistinct_toValue (s : Source) : s.toValue.isDistinct = true := by
  have keys : List.Nodup (["path", "classes", "interfaces", "enums"] : List Text) := by decide
  exact isDistinct_record keys (by simp [isDistinct, areDistinctFields,
    areDistinct_map ClassType.isDistinct_toValue, areDistinct_map InterfaceType.isDistinct_toValue,
    areDistinct_map EnumType.isDistinct_toValue])

/-- An outline from the line of JSON that it is written on. -/
def Source.ofLine? (t : Text) : Option Source := Value.Json.read? t >>= Source.ofValue?

theorem Source.ofLine?_line (s : Source) : Source.ofLine? (Value.Json.line s.toValue) = some s := by
  rw [Source.ofLine?, Value.Json.read?_line s.isTextual_toValue s.isDistinct_toValue]
  exact s.ofValue?_toValue

end Outline.Model
