import PlatformGate.Item.Struct
import PlatformGate.Proofs.Options.Block
import PlatformGate.Proofs.Text.Lexeme

/-! Scopes of a trait assertion. The bounds of the asserting helper are read below its own parameter
`T`, so a trait that has a `T` of its own is asked for with the checked type in its place. The check
has no lifetime parameters, so a lifetime that is left anywhere in it stands for nothing. -/

namespace PlatformGate

open Text

theorem lifetimes_commaList (elements : List String) :
    lifetimes (", ".intercalate elements) = elements.flatMap lifetimes :=
  collect_intercalate _ ⟨',', rfl, rfl⟩ ⟨' ', rfl, rfl⟩ rfl elements

theorem lifetimes_append_angleList (left : String) (elements : List String) :
    lifetimes (left ++ angleList elements) = lifetimes left ++ elements.flatMap lifetimes := by
  by_cases empty : elements = []
  · simp [empty, angleList]
  · have list : angleList elements = "<" ++ ", ".intercalate elements ++ ">" := by
      simp [angleList, empty]
    have starts : StartsApart (angleList elements).toList := ⟨'<', by simp [list], rfl⟩
    have inner : lifetimes (angleList elements) = elements.flatMap lifetimes := by
      rw [list, lifetimes, collect_append _ (.inr ⟨'>', rfl, rfl⟩),
        collect_append _ (.inl ⟨'<', rfl, rfl⟩), ← lifetimes, lifetimes_commaList]
      exact List.append_nil _
    rw [lifetimes, collect_append _ (.inr starts), ← lifetimes, inner]

theorem lifetimes_append_renderWhere (left : String) (predicates : List String) :
    lifetimes (left ++ renderWhere predicates) =
      lifetimes left ++ predicates.flatMap lifetimes := by
  cases predicates with
  | nil => simp [renderWhere]
  | cons first others =>
    have clause : renderWhere (first :: others) =
        " where " ++ ", ".intercalate (first :: others) := rfl
    rw [clause, ← String.append_assoc, lifetimes,
      collect_between _ ⟨' ', rfl, rfl⟩ ⟨' ', rfl, rfl⟩ rfl, ← lifetimes, lifetimes_commaList]

namespace GenericParam

def constraints (param : GenericParam) : List String :=
  if param.kind = .const then [param.constType.getD ""] else param.bounds

theorem lifetimes_render (param : GenericParam) :
    lifetimes (param.render true false) =
      lifetimes param.name ++ param.constraints.flatMap lifetimes := by
  have head : param.render true false = param.head true := by
    unfold render
    split <;> rfl
  have behindColon (left right : String) :
      lifetimes (left ++ ": " ++ right) = lifetimes left ++ lifetimes right :=
    collect_between _ ⟨':', rfl, rfl⟩ ⟨' ', rfl, rfl⟩ rfl left right
  rw [head]
  unfold GenericParam.head constraints
  split
  · rw [behindColon, lifetimes, collect_append _ (.inl ⟨' ', rfl, rfl⟩), List.flatMap_singleton]
    rfl
  · split
    · rw [behindColon]
      exact congrArg _ (collect_intercalate _ ⟨' ', rfl, rfl⟩ ⟨' ', rfl, rfl⟩ rfl param.bounds)
    next unbounded =>
      have none : param.bounds = [] := by simpa using unbounded
      rw [none, List.flatMap_nil, List.append_nil]

end GenericParam

theorem Generics.mem_lifetimes_usage {generics : Generics} {name lifetime : String} :
    lifetime ∈ lifetimes (generics.usage name true) ↔ lifetime ∈ lifetimes name ∨
      ∃ param ∈ generics.params,
        if param.isLifetime then lifetime = "'_" else lifetime ∈ lifetimes param.name := by
  have argument (param : GenericParam) :
      lifetime ∈ lifetimes (if param.isLifetime && true then "'_" else param.name) ↔
        if param.isLifetime then lifetime = "'_" else lifetime ∈ lifetimes param.name := by
    have placeholder : lifetimes "'_" = ["'_"] := by decide
    cases param.isLifetime <;> simp [placeholder]
  rw [usage, lifetimes_append_angleList, List.mem_append, List.flatMap_map, List.mem_flatMap]
  simp only [argument]

/-- The parameters that a trait assertion is generic in. -/
def Generics.kept (generics : Generics) : List GenericParam :=
  generics.params.filter (!·.isLifetime)

theorem Generics.mem_kept {generics : Generics} {param : GenericParam} :
    param ∈ generics.kept ↔ param ∈ generics.params ∧ param.isLifetime = false := by
  rw [kept, List.mem_filter, Bool.not_eq_true']

def StructDecl.carried (decl : StructDecl) : List String :=
  decl.name :: decl.generics.kept.flatMap (fun param => param.name :: param.constraints) ++
    decl.generics.wherePredicates

theorem StructDecl.mem_carried {decl : StructDecl} {text : String} :
    text ∈ decl.carried ↔ text = decl.name ∨
      (∃ param ∈ decl.generics.kept, text ∈ param.name :: param.constraints) ∨
      text ∈ decl.generics.wherePredicates := by
  rw [carried, List.cons_append, List.mem_cons, List.mem_append, List.mem_flatMap]

namespace TraitAssertion

def binder? (text : String) : Option String :=
  match (lexemes text.toList).dropWhile (· != .mark '<') with
  | _ :: .word letters :: _ => some (String.ofList letters)
  | _ => none

theorem ofStruct_eq_some {decl : StructDecl} {traits : List String} {guard : String}
    {assertion : TraitAssertion} :
    ofStruct decl traits guard = some assertion ↔ traits ≠ [] ∧ assertion =
      { guard
        traits
        checkParams := decl.generics.kept.map (·.render true false)
        wherePredicates := decl.generics.wherePredicates
        checkedType := decl.generics.usage decl.name true } := by
  cases traits <;> simp [ofStruct, Generics.kept, eq_comm]

theorem binder?_helper (bounds : String) :
    binder? ("    fn _assert_traits<T: " ++ bounds ++ ">() \x7b\x7d") = some "T" := by
  have parts : lexemes ("    fn _assert_traits<T: " ++ bounds ++ ">() \x7b\x7d").toList =
      lexemes "    fn _assert_traits<T: ".toList ++
        lexemes (bounds ++ ">() \x7b\x7d").toList := by
    rw [String.append_assoc, String.toList_append, lexemes_append (.inl ⟨' ', rfl, rfl⟩)]
  rw [binder?, parts]
  rfl

theorem words_helper (traits : List String) :
    words ("    fn _assert_traits<T: " ++ " + ".intercalate (traits ++ ["?Sized"]) ++
      ">() \x7b\x7d") = ["fn", "_assert_traits", "T"] ++ traits.flatMap words ++ ["Sized"] := by
  rw [words, collect_append _ (.inr ⟨'>', rfl, rfl⟩), collect_append _ (.inl ⟨' ', rfl, rfl⟩),
    collect_intercalate _ ⟨' ', rfl, rfl⟩ ⟨' ', rfl, rfl⟩ rfl, List.flatMap_append]
  exact (List.append_nil _).trans (List.append_assoc _ _ _).symm

/-- The helper reads the traits below its own parameter `T`. What it asks for is what the traits say
unless one of them has a `T` that is looked up in the scopes around it. -/
theorem captured_by_helper {decl : StructDecl} {traits : List String} {guard : String}
    {assertion : TraitAssertion} (made : ofStruct decl traits guard = some assertion) :
    ∃ helper, assertion.lines[2]? = some helper ∧ binder? helper = some "T" ∧
      words helper = ["fn", "_assert_traits", "T"] ++ traits.flatMap words ++ ["Sized"] ∧
      (traits.map (replaceFree "T" assertion.checkedType) = traits ↔
        (∀ trait ∈ traits, "T" ∉ freeWords trait) ∨ assertion.checkedType = "T") := by
  obtain ⟨-, rfl⟩ := ofStruct_eq_some.mp made
  exact ⟨_, rfl, binder?_helper _, words_helper traits, map_replaceFree_eq_self_iff⟩

/-- A conversion from a type `T` is asked for as one of the struct to itself. -/
theorem captured_by_helper_of_conversion :
    ∃ assertion helper,
      OptionBlock.parse "traits(From<T>)" true ⟨1, 1⟩ = .ok ⟨[.all], [], ["From<T>"], ⟨1, 1⟩⟩ ∧
      ofStruct ⟨"Meters", "pub", [], ⟨[], []⟩, "(pub f64);", ⟨0, 0⟩⟩ ["From<T>"] "any()" =
        some assertion ∧
      assertion.lines[2]? = some helper ∧ binder? helper = some "T" ∧
      words helper = ["fn", "_assert_traits", "T", "From", "T", "Sized"] ∧
      ["From<T>"].map (replaceFree "T" assertion.checkedType) = ["From<Meters>"] ∧
      ["From<T>"].map (replaceFree "T" assertion.checkedType) ≠ ["From<T>"] := by
  have parsed : OptionBlock.parse "traits(From<T>)" true ⟨1, 1⟩ =
      .ok ⟨[.all], [], ["From<T>"], ⟨1, 1⟩⟩ := eq_ok_of_toOption (by decide +kernel)
  have made : ofStruct ⟨"Meters", "pub", [], ⟨[], []⟩, "(pub f64);", ⟨0, 0⟩⟩ ["From<T>"] "any()" =
      some ⟨"any()", ["From<T>"], [], [], "Meters"⟩ := by decide
  obtain ⟨helper, line, binder, names, same⟩ := captured_by_helper made
  refine ⟨_, helper, parsed, made, line, binder, names, by decide, fun kept => ?_⟩
  rcases same.mp kept with absent | itself
  · exact absent "From<T>" List.mem_cons_self (by decide)
  · exact absurd itself (by decide)

theorem lifetimes_check (params predicates : List String) (checked : String) :
    lifetimes ("    fn _check" ++ angleList params ++ "()" ++ renderWhere predicates ++
      " \x7b _assert_traits::<" ++ checked ++ ">(); \x7d") =
        params.flatMap lifetimes ++ predicates.flatMap lifetimes ++ lifetimes checked := by
  rw [lifetimes, collect_append _ (.inr ⟨'>', rfl, rfl⟩),
    collect_between _ ⟨' ', rfl, rfl⟩ ⟨'<', rfl, rfl⟩ rfl, ← lifetimes,
    lifetimes_append_renderWhere, lifetimes, collect_append _ (.inr ⟨'(', rfl, rfl⟩), ← lifetimes,
    lifetimes_append_angleList]
  change [] ++ params.flatMap lifetimes ++ [] ++ predicates.flatMap lifetimes ++
    lifetimes checked ++ [] = _
  simp only [List.nil_append, List.append_nil]

theorem mem_lifetimes_kept {generics : Generics} {lifetime : String} :
    lifetime ∈ (generics.kept.map (·.render true false)).flatMap lifetimes ↔
      ∃ param ∈ generics.kept, ∃ text ∈ param.name :: param.constraints,
        lifetime ∈ lifetimes text := by
  simp only [List.flatMap_map, List.mem_flatMap, GenericParam.lifetimes_render, List.mem_append,
    List.exists_mem_cons_iff]

/-- The check declares no lifetimes. Those of the struct are left in it wherever a text that it
carries over names them. -/
theorem undeclared_in_check {decl : StructDecl} {traits : List String} {guard : String}
    {assertion : TraitAssertion} (made : ofStruct decl traits guard = some assertion) :
    ∃ check, assertion.lines[3]? = some check ∧
      lifetimes check = assertion.checkParams.flatMap lifetimes ++
        assertion.wherePredicates.flatMap lifetimes ++ lifetimes assertion.checkedType ∧
      ∀ param ∈ decl.generics.params, param.isLifetime = true →
        (param.name ∈ lifetimes check ↔
          param.name = "'_" ∨ ∃ text ∈ decl.carried, param.name ∈ lifetimes text) := by
  obtain ⟨-, rfl⟩ := ofStruct_eq_some.mp made
  have whole := lifetimes_check (decl.generics.kept.map (·.render true false))
    decl.generics.wherePredicates (decl.generics.usage decl.name true)
  refine ⟨_, rfl, whole, fun param mem isLifetime => ?_⟩
  rw [whole, List.mem_append, List.mem_append, mem_lifetimes_kept, List.mem_flatMap,
    Generics.mem_lifetimes_usage]
  constructor
  -- parameters, predicates, and the name and the arguments of the checked type
  · rintro ((⟨other, kept, text, part, found⟩ | ⟨text, predicate, found⟩) | found |
      ⟨other, listed, found⟩)
    · exact .inr ⟨text, StructDecl.mem_carried.mpr (.inr (.inl ⟨other, kept, part⟩)), found⟩
    · exact .inr ⟨text, StructDecl.mem_carried.mpr (.inr (.inr predicate)), found⟩
    · exact .inr ⟨decl.name, StructDecl.mem_carried.mpr (.inl rfl), found⟩
    · split at found
      next => exact .inl found
      next noLifetime =>
        have kept := Generics.mem_kept.mpr ⟨listed, eq_false_of_ne_true noLifetime⟩
        exact .inr ⟨other.name, StructDecl.mem_carried.mpr
          (.inr (.inl ⟨other, kept, List.mem_cons_self⟩)), found⟩
  · rintro (placeholder | ⟨text, carried, found⟩)
    · exact .inr (.inr ⟨param, mem, by rw [if_pos isLifetime]; exact placeholder⟩)
    · rcases StructDecl.mem_carried.mp carried with rfl | ⟨other, kept, part⟩ | predicate
      · exact .inr (.inl found)
      · exact .inl (.inl ⟨other, kept, text, part, found⟩)
      · exact .inl (.inr ⟨text, predicate, found⟩)

theorem undeclared_in_check_of_bound :
    ∃ assertion check,
      ofStruct ⟨"Ref", "pub", [], ⟨[⟨.lifetime, "'a", [], none, none⟩,
        ⟨.type, "T", ["'a"], none, none⟩], []⟩, "(&'a T);", ⟨0, 0⟩⟩ ["Send"] "any()" =
          some assertion ∧
      assertion.lines[3]? = some check ∧ lifetimes check = ["'a", "'_"] ∧
      "'a" ∈ lifetimes check := by
  have made : ofStruct ⟨"Ref", "pub", [], ⟨[⟨.lifetime, "'a", [], none, none⟩,
      ⟨.type, "T", ["'a"], none, none⟩], []⟩, "(&'a T);", ⟨0, 0⟩⟩ ["Send"] "any()" =
        some ⟨"any()", ["Send"], ["T: 'a"], [], "Ref<'_, T>"⟩ := by decide
  obtain ⟨check, line, whole, occurs⟩ := undeclared_in_check made
  exact ⟨_, check, made, line, whole.trans (by decide),
    (occurs _ List.mem_cons_self rfl).mpr (.inr ⟨"'a", by decide, by decide⟩)⟩

end TraitAssertion

end PlatformGate
