import Mathlib.Data.List.Forall2
import PlatformGate.Item
import PlatformGate.Proofs.Item.Assertion
import PlatformGate.Proofs.Text.Word

/-! The parameter lists of what is generated for a struct. An alias declares the parameters of the
struct without bounds and hands them on by name; the assertion declares all but the lifetimes, with
their bounds, and checks the struct with every parameter in its place. -/

namespace PlatformGate

open Text

def DeprecationText (text : List Char) : Prop :=
  ∃ w rest, AllBlank w ∧ text = '#' :: '[' :: (w ++ ("deprecated".toList ++ rest)) ∧
    ∀ c ∈ rest.head?, isWordChar c = false

def OpensDeprecation (attr : String) : Prop := DeprecationText (skipBlank attr.toList)

theorem beginsOutsideWord_iff {text : List Char} :
    beginsOutsideWord text = true ↔ ∀ c ∈ text.head?, isWordChar c = false := by
  cases text <;> simp [beginsOutsideWord]

theorem deprecationText_iff {text : List Char} : DeprecationText text ↔
    ∃ rest, text = '#' :: '[' :: rest ∧ "deprecated".toList <+: skipBlank rest ∧
      beginsOutsideWord ((skipBlank rest).drop "deprecated".length) = true := by
  constructor
  · rintro ⟨w, rest, hw, rfl, outside⟩
    have word : skipBlank (w ++ ("deprecated".toList ++ rest)) = "deprecated".toList ++ rest :=
      skipBlank_append_cons hw rfl _
    refine ⟨_, rfl, ?_⟩
    rw [word, ← String.length_toList, List.drop_left]
    exact ⟨List.prefix_append _ _, beginsOutsideWord_iff.mpr outside⟩
  · rintro ⟨inner, rfl, ⟨rest, word⟩, outside⟩
    obtain ⟨w, hw, split⟩ := exists_blank_append inner
    rw [← word, ← String.length_toList, List.drop_left, beginsOutsideWord_iff] at outside
    exact ⟨w, rest, hw, by rw [word, ← split], outside⟩

theorem isDeprecation_iff_trimmed {attr : String} :
    isDeprecation attr = true ↔ DeprecationText (trimmed attr.toList) := by
  rw [isDeprecation, deprecationText_iff]
  split
  next rest opening =>
    rw [opening, Bool.and_eq_true, List.isPrefixOf_iff_prefix]
    constructor
    · exact fun h => ⟨rest, rfl, h⟩
    · rintro ⟨_, ⟨⟩, h⟩
      exact h
  next other => exact iff_of_false Bool.false_ne_true fun ⟨rest, opening, _⟩ => other rest opening

theorem exists_append_of_endsSolid {s w part rest : List Char} (hw : AllBlank w)
    (ends : EndsSolid part) (split : s ++ w = part ++ rest) :
    ∃ inner, s = part ++ inner ∧ rest = inner ++ w := by
  rcases List.append_eq_append_iff.mp split with ⟨front, whole, cut⟩ | found
  · rcases List.eq_nil_or_concat front with rfl | ⟨front, c, rfl⟩
    · exact ⟨[], by simpa using whole.symm, by simpa using cut.symm⟩
    · obtain ⟨d, last, solid⟩ := ends
      rw [whole, List.concat_eq_append, ← List.append_assoc, List.getLast?_concat] at last
      cases last
      rw [hw c (by simp [cut])] at solid
      cases solid
  · exact found

theorem deprecationText_append {s w : List Char} (hw : AllBlank w) :
    DeprecationText (s ++ w) ↔ DeprecationText s := by
  constructor
  · rintro ⟨v, rest, hv, split, outside⟩
    have ends : EndsSolid ('#' :: '[' :: (v ++ "deprecated".toList)) :=
      EndsSolid.append ('#' :: '[' :: v) ⟨'d', rfl, rfl⟩
    have parts : s ++ w = '#' :: '[' :: (v ++ "deprecated".toList) ++ rest := by
      rw [split, List.cons_append, List.cons_append, List.append_assoc]
    obtain ⟨inner, rfl, rfl⟩ := exists_append_of_endsSolid hw ends parts
    refine ⟨v, inner, hv, by simp, fun c mem => outside c ?_⟩
    rw [Option.mem_def] at mem ⊢
    rw [List.head?_append, mem]
    rfl
  · rintro ⟨v, rest, hv, rfl, outside⟩
    refine ⟨v, rest ++ w, hv, by simp, fun c mem => ?_⟩
    cases rest with
    | nil => exact isWordChar_of_isBlank (hw c (List.mem_of_mem_head? mem))
    | cons d rest => exact outside c mem

theorem isDeprecation_iff {attr : String} : isDeprecation attr = true ↔ OpensDeprecation attr := by
  rw [isDeprecation_iff_trimmed, OpensDeprecation]
  by_cases empty : skipBlank attr.toList = []
  · rw [trimmed, empty]
    rfl
  · obtain ⟨s, w, starts, ends, hw, split⟩ := exists_append_blank (startsSolid_skipBlank empty)
    rw [trimmed, split, dropEndWhile_append ends hw, deprecationText_append hw]

instance : DecidablePred OpensDeprecation := fun _ => decidable_of_iff _ isDeprecation_iff

theorem deprecations_eq (attributes : List String) :
    deprecations attributes = attributes.filter fun attr => OpensDeprecation attr := by
  refine List.filter_congr fun attr _ => ?_
  rw [Bool.eq_iff_iff, isDeprecation_iff, decide_eq_true_iff]

/-- White space in front of an attribute makes no difference, although it does not begin with its
bracket then, and a parameter may have the name of the placeholder without being a lifetime. -/
theorem deprecation_behind_blank :
    (TypeAlias.ofStruct ⟨"A", "", [" #[deprecated]"], ⟨[⟨.type, "'_", [], none, none⟩], []⟩, ";",
      ⟨0, 0⟩⟩ .linux).attributes = [" #[deprecated]"] ∧
    ¬DeprecationText " #[deprecated]".toList ∧
    (TraitAssertion.ofStruct ⟨"A", "", [" #[deprecated]"], ⟨[⟨.type, "'_", [], none, none⟩], []⟩,
      ";", ⟨0, 0⟩⟩ ["Send"] "any()").map (·.checkedType) = some "A<'_>" := by
  refine ⟨by decide +kernel, ?_, by decide⟩
  rintro ⟨w, rest, -, opening, -⟩
  cases opening

inductive GenericParam.Declared (bounds : List String) (param : GenericParam) : String → Prop
  | const (isConst : param.kind = .const) :
      Declared bounds param ("const " ++ param.name ++ ": " ++ param.constType.getD "")
  | unbounded (other : param.kind ≠ .const) (none : bounds = []) : Declared bounds param param.name
  | bounded (other : param.kind ≠ .const) (some : bounds ≠ []) :
      Declared bounds param (param.name ++ ": " ++ " + ".intercalate bounds)

/-- A list in angle brackets with an element for each of the parameters in their order. Without
parameters there is no list. -/
inductive ListsParams (Element : GenericParam → String → Prop) : List GenericParam → String → Prop
  | absent : ListsParams Element [] ""
  | listed {params : List GenericParam} {elements : List String} (nonempty : params ≠ [])
      (each : List.Forall₂ Element params elements) :
      ListsParams Element params ("<" ++ ", ".intercalate elements ++ ">")

theorem GenericParam.declared_head (param : GenericParam) :
    param.Declared param.bounds (param.head true) := by
  unfold GenericParam.head
  split
  next isConst => exact .const isConst
  next other =>
    split
    next some => exact .bounded other some.2
    next none => exact .unbounded other (by simpa using none)

theorem GenericParam.declared_plain (param : GenericParam) :
    param.Declared [] (param.plain.render false false) := by
  have head : param.plain.render false false =
      if param.kind = .const then "const " ++ param.name ++ ": " ++ param.constType.getD ""
      else param.name := by
    simp [render, plain, GenericParam.head]
  rw [head]
  split
  next isConst => exact .const isConst
  next other => exact .unbounded other rfl

theorem GenericParam.render_without_default (param : GenericParam) (withBounds : Bool) :
    param.render withBounds false = param.head withBounds := by
  unfold render
  split <;> rfl

theorem listsParams_angleList {Element : GenericParam → String → Prop}
    {element : GenericParam → String} (each : ∀ param, Element param (element param))
    (params : List GenericParam) : ListsParams Element params (angleList (params.map element)) := by
  cases params with
  | nil => exact .absent
  | cons first others =>
    exact .listed (List.cons_ne_nil _ _)
      (List.forall₂_map_right_iff.mpr (List.forall₂_same.mpr fun param _ => each param))

structure IsAliasOf (decl : StructDecl) (platform : Platform) (item : TypeAlias) : Prop where
  attributes : item.attributes = decl.attributes.filter fun attr => OpensDeprecation attr
  lines : ∃ params args,
    ListsParams (fun param text => param.Declared [] text) decl.generics.params params ∧
    ListsParams (fun param text => text = param.name) decl.generics.params args ∧
    item.lines = renderCfg (renderGuard [platform]) :: item.attributes ++
      [(if decl.visibility = "" then "" else decl.visibility ++ " ") ++ "type " ++
        decl.name ++ platform.aliasSuffix ++ params ++ " = " ++ decl.name ++ args ++ ";"]

structure IsAssertionOf (decl : StructDecl) (item : TraitAssertion) : Prop where
  checkedType : ∃ args,
    ListsParams (fun param text => text = if param.kind = .lifetime then "'_" else param.name)
      decl.generics.params args ∧
    item.checkedType = decl.name ++ args
  checkParams :
    List.Forall₂ (fun param text => param.Declared param.bounds text) decl.generics.kept
      item.checkParams

theorem joinWords_type (visibility : String) {name : String} (named : name ≠ "") :
    joinWords [visibility, "type", name] =
      (if visibility = "" then "" else visibility ++ " ") ++ "type " ++ name := by
  have words (visibility : String) : [visibility, "type", name].filter (· ≠ "") =
      if visibility = "" then ["type", name] else [visibility, "type", name] := by
    by_cases empty : visibility = "" <;> simp [empty, named]
  have behind : " " ++ ("type " ++ name) = " type " ++ name := (String.append_assoc ..).symm
  rw [joinWords, words]
  split <;> simp [String.intercalate_cons_cons, String.append_assoc, behind]

theorem isAliasOf (decl : StructDecl) (platform : Platform) :
    IsAliasOf decl platform (TypeAlias.ofStruct decl platform) where
  attributes := deprecations_eq decl.attributes
  lines := by
    have named : decl.name ++ platform.aliasSuffix ≠ "" := by
      cases platform <;> simp [Platform.aliasSuffix]
    refine ⟨angleList (decl.generics.params.map fun param => param.plain.render false false),
      angleList (decl.generics.params.map GenericParam.name),
      listsParams_angleList GenericParam.declared_plain _, ?_, ?_⟩
    · exact listsParams_angleList (fun _ => by rfl) _
    · simp only [TypeAlias.lines, TypeAlias.ofStruct, joinWords_type _ named, renderParams,
        Generics.usage, Bool.and_false, Bool.false_eq_true, if_false, List.map_map,
        Function.comp_def, String.append_assoc]

theorem isAssertionOf {decl : StructDecl} {traits : List String} {guard : String}
    {item : TraitAssertion} (made : TraitAssertion.ofStruct decl traits guard = some item) :
    IsAssertionOf decl item := by
  obtain ⟨-, rfl⟩ := TraitAssertion.ofStruct_eq_some.mp made
  constructor
  · refine ⟨angleList (decl.generics.params.map fun param =>
      if param.kind = .lifetime then "'_" else param.name), ?_, ?_⟩
    · exact listsParams_angleList (fun _ => by rfl) _
    · simp only [Generics.usage, GenericParam.isLifetime, Bool.and_true, beq_iff_eq]
  · simp only [GenericParam.render_without_default]
    exact List.forall₂_map_right_iff.mpr (List.forall₂_same.mpr fun p _ => p.declared_head)

/-- A struct comes with an alias for each platform and, if traits are asked for, an assertion. Their
parameter lists have the parameters of the struct in their order. -/
theorem params_in_step (decl : StructDecl) (traits : List String) (resolution : Resolution) :
    ∃ (aliases : List TypeAlias) (assertion? : Option TraitAssertion),
      Item.ofStruct decl traits resolution = .struct ⟨resolution.guard, decl⟩ ::
        aliases.map .typeAlias ++ (assertion?.map .assertion).toList ∧
      List.Forall₂ (IsAliasOf decl) resolution.platforms aliases ∧
      (assertion? = none ↔ traits = []) ∧
      ∀ assertion ∈ assertion?, IsAssertionOf decl assertion := by
  refine ⟨resolution.platforms.map (TypeAlias.ofStruct decl),
    TraitAssertion.ofStruct decl traits resolution.guard, ?_, ?_, ?_, ?_⟩
  · rw [List.map_map]
    rfl
  · exact List.forall₂_map_right_iff.mpr
      (List.forall₂_same.mpr fun platform _ => isAliasOf decl platform)
  · simp [TraitAssertion.ofStruct]
  · exact fun assertion made => isAssertionOf made

end PlatformGate
