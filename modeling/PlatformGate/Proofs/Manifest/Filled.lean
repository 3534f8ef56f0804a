import PlatformGate.Proofs.Manifest.Reading
import PlatformGate.Proofs.Options.Block
import PlatformGate.Proofs.UseTree

/-! No blank parts. The texts of a loaded declaration are trimmed and not empty, and an element that
lacks a required one is refused. Patterns of parameters are the exception: one that is all white
space is taken for given, and is empty once it is trimmed. -/

namespace PlatformGate

open Text

def GenericParam.texts (param : GenericParam) : List String :=
  param.name :: param.bounds ++ if param.kind = .const then [param.constType.getD ""] else []

def Generics.texts (generics : Generics) : List String :=
  generics.params.flatMap GenericParam.texts ++ generics.wherePredicates

def Signature.texts (signature : Signature) : List String :=
  signature.name :: signature.generics.texts ++ signature.params.map (·.type) ++
    signature.output.toList

def Declaration.texts : Declaration → List String
  | callable decl => decl.attributes ++ decl.signature.texts ++ decl.body.toList
  | struct decl => decl.name :: decl.attributes ++ decl.generics.texts ++ [decl.body]
  | module decl => decl.name :: decl.attributes ++ decl.inlineBody.toList
  | use decl => decl.tree.text :: decl.attributes

def Declaration.parameters : Declaration → List Parameter
  | callable decl => decl.signature.params
  | _ => []

section

variable {texts others : List String}

theorem AllFilled.append (h : AllFilled texts) (h' : AllFilled others) :
    AllFilled (texts ++ others) := List.forall_mem_append.mpr ⟨h, h'⟩

theorem AllFilled.cons {text : String} (h : Filled text) (h' : AllFilled texts) :
    AllFilled (text :: texts) := List.forall_mem_cons.mpr ⟨h, h'⟩

theorem allFilled_toList {text : Option String} (h : ∀ stated ∈ text, Filled stated) :
    AllFilled text.toList := fun stated mem => h stated (Option.mem_toList.mp mem)

end

theorem GenericParam.Loaded.allFilled {param : GenericParam} (loaded : param.Loaded) :
    AllFilled param.texts := by
  refine (AllFilled.cons loaded.name fun bound mem => (loaded.bounds bound mem).1).append ?_
  split_ifs with const
  · obtain ⟨type, stated⟩ := Option.isSome_iff_exists.mp (loaded.typed.mp const)
    rw [stated, Option.getD_some]
    exact List.forall_mem_singleton.mpr (loaded.constType type stated)
  · exact List.forall_mem_nil _

theorem Generics.Loaded.allFilled {generics : Generics} (loaded : generics.Loaded) :
    AllFilled generics.texts := by
  refine AllFilled.append (fun text mem => ?_) loaded.wherePredicates
  obtain ⟨param, declared, mem⟩ := List.mem_flatMap.mp mem
  exact (loaded.params param declared).allFilled text mem

theorem Signature.Loaded.allFilled {signature : Signature} (loaded : signature.Loaded) :
    AllFilled signature.texts := by
  have types : AllFilled (signature.params.map (·.type)) :=
    List.forall_mem_map.mpr fun param mem => (loaded.params param mem).type
  exact ((AllFilled.cons loaded.name loaded.generics.allFilled).append types).append
    (allFilled_toList loaded.output)

theorem Declaration.Loaded.allFilled {declaration : Declaration} (loaded : declaration.Loaded) :
    AllFilled declaration.texts := by
  cases declaration with
  | callable decl =>
    exact (loaded.head.attributes.append loaded.signature.allFilled).append
      (allFilled_toList loaded.body)
  | struct decl =>
    exact ((AllFilled.cons loaded.name loaded.head.attributes).append
      loaded.generics.allFilled).append (List.forall_mem_singleton.mpr loaded.body)
  | module decl =>
    exact (AllFilled.cons loaded.name loaded.head.attributes).append
      (allFilled_toList loaded.inlineBody)
  | use decl =>
    obtain ⟨text, parsed⟩ := loaded.tree
    exact .cons (UseTree.classify_of_parse parsed).2.1 loaded.head.attributes

namespace Manifest

open Markup

def Lacks (element : Element) (name : String) : Prop :=
  AllBlank ((element.attribute? name).getD "").toList

def Omits (element : Element) (name : String) : Prop := (element.attribute? name).getD "" = ""

inductive IncompleteGeneric (element : Element) : Prop
  | kind (blank : Lacks element "kind")
  | name (blank : Lacks element "name")
  | type (const : element.trimmedAttribute "kind" = "const") (blank : Lacks element "type")

inductive IncompleteParameter (element : Element) : Prop
  | pattern (unnamed : Omits element "name") (unpatterned : Omits element "pattern")
  | type (blank : Lacks element "type")

inductive Incomplete : EntryKind → Element → Prop
  | name {kind : EntryKind} {element : Element}
      (named : kind ∈ [.function, .traitFunction, .struct, .module])
      (blank : Lacks element "name") : Incomplete kind element
  | tree {element : Element} (blank : Lacks element "tree") : Incomplete .use element
  | generic {kind : EntryKind} {element child : Element}
      (isGeneric : kind ∈ [.function, .traitFunction, .struct])
      (mem : child ∈ element.childrenNamed "generic")
      (incomplete : IncompleteGeneric child) : Incomplete kind element
  | parameter {kind : EntryKind} {element child : Element}
      (callable : kind ∈ [.function, .traitFunction])
      (mem : child ∈ element.childrenNamed "param")
      (incomplete : IncompleteParameter child) : Incomplete kind element

theorem required_eq_ok {element : Element} {name value : String} {location : Location} :
    required element name location = .ok value ↔
      element.trimmedAttribute name = value ∧ ¬Lacks element name := by
  rw [Lacks, ← trim_eq_empty, ← Element.trimmedAttribute]
  unfold required
  split
  next blank => simp [blank]
  next nonempty =>
    have filled : element.trimmedAttribute name ≠ "" := nonempty
    simp [filled]

theorem complete_of_genericParam {element : Element} {enclosing : Location} {param : GenericParam}
    (h : genericParam element enclosing = .ok param) : ¬IncompleteGeneric element := by
  obtain ⟨location, -, h⟩ := bind_eq_ok.mp h
  obtain ⟨keyword, kinded, h⟩ := bind_eq_ok.mp h
  obtain ⟨rfl, kind⟩ := required_eq_ok.mp kinded
  simp only at h
  split at h
  next => cases h
  next known recognized =>
    split_ifs at h with const
    · obtain ⟨constType, typed, h⟩ := bind_eq_ok.mp h
      obtain ⟨type, typed, -⟩ := map_eq_ok.mp typed
      obtain ⟨name, named, -⟩ := bind_eq_ok.mp h
      rintro (blank | blank | ⟨-, blank⟩)
      · exact kind blank
      · exact (required_eq_ok.mp named).2 blank
      · exact (required_eq_ok.mp typed).2 blank
    · obtain ⟨_, -, h⟩ := bind_eq_ok.mp h
      obtain ⟨name, named, -⟩ := bind_eq_ok.mp h
      rintro (blank | blank | ⟨keyword, -⟩)
      · exact kind blank
      · exact (required_eq_ok.mp named).2 blank
      · rw [keyword] at recognized
        exact const (Option.some.inj recognized).symm

theorem complete_of_generics {element : Element} {location : Location} {read : Generics}
    (h : generics element location = .ok read) :
    ∀ child ∈ element.childrenNamed "generic", ¬IncompleteGeneric child := by
  obtain ⟨params, each, -⟩ := bind_eq_ok.mp h
  intro child mem
  obtain ⟨param, -, here⟩ := exists_read_of_mapM each mem
  exact complete_of_genericParam here

/-- How a pattern comes from the element of its parameter: white space around it is left out, even
if nothing else is there. -/
structure ReadsPattern (element : Element) (param : Parameter) : Prop where
  given : patternOf element ≠ ""
  pattern : param.pattern = trim (patternOf element)

theorem ReadsPattern.filled_iff {element : Element} {param : Parameter}
    (read : ReadsPattern element param) :
    Filled param.pattern ↔ ¬AllBlank (patternOf element).toList := by
  rw [read.pattern, ← trim_eq_empty]
  exact ⟨fun filled => filled.1, filled_trim⟩

theorem patternOf_eq_empty {element : Element} :
    patternOf element = "" ↔ Omits element "name" ∧ Omits element "pattern" := by
  unfold patternOf Omits
  split
  next unnamed => simp [unnamed]
  next named =>
    have given : (element.attribute? "name").getD "" ≠ "" := named
    simp [given]

theorem parameter_complete {element : Element} {enclosing : Location} {param : Parameter}
    (h : parameter element enclosing = .ok param) :
    ReadsPattern element param ∧ ¬IncompleteParameter element := by
  obtain ⟨location, -, h⟩ := bind_eq_ok.mp h
  simp only at h
  split_ifs at h with given
  obtain ⟨type, typed, h⟩ := bind_eq_ok.mp h
  obtain ⟨isMutable, -, h⟩ := bind_eq_ok.mp h
  obtain ⟨byRef, -, last⟩ := bind_eq_ok.mp h
  cases last
  refine ⟨⟨given, rfl⟩, ?_⟩
  rintro (⟨unnamed, unpatterned⟩ | blank)
  · exact given (patternOf_eq_empty.mpr ⟨unnamed, unpatterned⟩)
  · exact (required_eq_ok.mp typed).2 blank

def parameterElements : EntryKind → Element → List Element
  | .function, element => element.childrenNamed "param"
  | .traitFunction, element => element.childrenNamed "param"
  | _, _ => []

/-- What a declaration that has been read says about its element: nothing that is required is
lacking there, and the patterns are read from it. -/
structure ReadFrom (kind : EntryKind) (element : Element) (declaration : Declaration) : Prop where
  complete : ¬Incomplete kind element
  patterns : List.Forall₂ ReadsPattern (parameterElements kind element) declaration.parameters

theorem signature_parts {element : Element} {location : Location} {read : Signature}
    (h : signature element location = .ok read) :
    ¬Lacks element "name" ∧ generics element location = .ok read.generics ∧
      (element.childrenNamed "param").mapM (parameter · location) = .ok read.params := by
  obtain ⟨receiver, -, h⟩ := bind_eq_ok.mp h
  obtain ⟨params, each, h⟩ := bind_eq_ok.mp h
  obtain ⟨variadic, -, h⟩ := bind_eq_ok.mp h
  obtain ⟨name, named, h⟩ := bind_eq_ok.mp h
  obtain ⟨generic, declared, h⟩ := bind_eq_ok.mp h
  obtain ⟨isAsync, -, h⟩ := bind_eq_ok.mp h
  obtain ⟨isUnsafe, -, h⟩ := bind_eq_ok.mp h
  obtain ⟨isConst, -, last⟩ := bind_eq_ok.mp h
  cases last
  exact ⟨(required_eq_ok.mp named).2, declared, each⟩

theorem readFrom_of_callable {kind : EntryKind} (isCallable : kind ∈ [.function, .traitFunction])
    {element : Element} {location : Location} {decl : Callable}
    (h : callable element location = .ok decl) : ReadFrom kind element (.callable decl) := by
  obtain ⟨read, parts, last⟩ := bind_eq_ok.mp h
  cases last
  obtain ⟨named, declared, each⟩ := signature_parts parts
  refine ⟨?_, ?_⟩
  · rintro (⟨-, blank⟩ | blank | ⟨-, mem, incomplete⟩ | ⟨-, mem, incomplete⟩)
    · exact named blank
    · simp at isCallable
    · exact complete_of_generics declared _ mem incomplete
    · obtain ⟨param, -, here⟩ := exists_read_of_mapM each mem
      exact (parameter_complete here).2 incomplete
  · have elements : parameterElements kind element = element.childrenNamed "param" := by
      rcases List.mem_pair.mp isCallable with rfl | rfl <;> rfl
    rw [elements]
    exact (mapM_eq_ok.mp each).imp fun _ _ here => (parameter_complete here).1

theorem readFrom_of_struct {element : Element} {location : Location} {decl : StructDecl}
    (h : struct element location = .ok decl) : ReadFrom .struct element (.struct decl) := by
  obtain ⟨name, named, h⟩ := bind_eq_ok.mp h
  obtain ⟨generic, declared, last⟩ := bind_eq_ok.mp h
  refine ⟨?_, .nil⟩
  rintro (⟨-, blank⟩ | blank | ⟨-, mem, incomplete⟩ | ⟨isCallable, -, -⟩)
  · exact (required_eq_ok.mp named).2 blank
  · exact complete_of_generics declared _ mem incomplete
  · simp at isCallable

theorem readFrom_of_module {element : Element} {location : Location} {decl : ModuleDecl}
    (h : module element location = .ok decl) : ReadFrom .module element (.module decl) := by
  obtain ⟨name, named, h⟩ := bind_eq_ok.mp h
  refine ⟨?_, .nil⟩
  rintro (⟨-, blank⟩ | blank | ⟨isGeneric, -, -⟩ | ⟨isCallable, -, -⟩)
  · exact (required_eq_ok.mp named).2 blank
  · simp at isGeneric
  · simp at isCallable

theorem readFrom_of_use {element : Element} {location : Location} {decl : UseDecl}
    (h : use element location = .ok decl) : ReadFrom .use element (.use decl) := by
  obtain ⟨tree, named, h⟩ := bind_eq_ok.mp h
  refine ⟨?_, .nil⟩
  rintro (⟨isNamed, -⟩ | blank | ⟨isGeneric, -, -⟩ | ⟨isCallable, -, -⟩)
  · simp at isNamed
  · exact (required_eq_ok.mp named).2 blank
  · simp at isGeneric
  · simp at isCallable

theorem readFrom_of_declaration {kind : EntryKind} {element : Element} {location : Location}
    {decl : Declaration} (h : declaration kind element location = .ok decl) :
    ReadFrom kind element decl := by
  cases kind with
  | function =>
    obtain ⟨decl, read, rfl⟩ := map_eq_ok.mp h
    exact readFrom_of_callable (by decide) read
  | traitFunction =>
    obtain ⟨decl, read, rfl⟩ := map_eq_ok.mp h
    exact readFrom_of_callable (by decide) read
  | struct =>
    obtain ⟨decl, read, rfl⟩ := map_eq_ok.mp h
    exact readFrom_of_struct read
  | module =>
    obtain ⟨decl, read, rfl⟩ := map_eq_ok.mp h
    exact readFrom_of_module read
  | use =>
    obtain ⟨decl, read, rfl⟩ := map_eq_ok.mp h
    exact readFrom_of_use read
  | unknown => cases h

theorem readFrom_of_entry {element : Element} {read : Entry} (h : entry element = .ok read) :
    read.kind = EntryKind.ofTag element.tag ∧ ReadFrom read.kind element read.declaration := by
  obtain ⟨location, -, h⟩ := bind_eq_ok.mp h
  split at h
  next => cases h
  next kind _ =>
    obtain ⟨stated, -, h⟩ := bind_eq_ok.mp h
    obtain ⟨decl, declared, last⟩ := bind_eq_ok.mp h
    cases last
    exact ⟨rfl, readFrom_of_declaration declared⟩

theorem readFrom_of_entries {root : Element} {loaded : List Entry} (h : entries root = .ok loaded) :
    List.Forall₂ (fun element entry => entry.kind = EntryKind.ofTag element.tag ∧
      ReadFrom entry.kind element entry.declaration) root.children loaded := by
  unfold entries at h
  split_ifs at h
  exact (mapM_eq_ok.mp h).imp fun _ _ => readFrom_of_entry

/-- The texts of whatever is loaded are filled, except for patterns that stand for white space, and
a manifest in which a required text is lacking is refused. -/
theorem filled_or_refused (root : Element) :
    (∀ loaded, entries root = .ok loaded → List.Forall₂ (fun element entry =>
      AllFilled entry.declaration.texts ∧
      List.Forall₂ (fun child param => param.pattern = trim (patternOf child) ∧
          (Filled param.pattern ↔ ¬AllBlank (patternOf child).toList))
        (parameterElements (EntryKind.ofTag element.tag) element) entry.declaration.parameters)
      root.children loaded) ∧
    ((∃ element ∈ root.children, Incomplete (EntryKind.ofTag element.tag) element) →
      ∃ error, entries root = .error error) := by
  constructor
  · intro loaded h
    have filled : ∀ entry ∈ loaded, AllFilled entry.declaration.texts := fun entry mem =>
      (loaded_of_entries h mem).declaration.allFilled
    refine List.forall₂_iff_get.mpr ⟨(readFrom_of_entries h).length_eq, fun i hi hi' => ?_⟩
    obtain ⟨kind, read⟩ := (readFrom_of_entries h).get hi hi'
    refine ⟨filled _ (List.get_mem ..), ?_⟩
    rw [← kind]
    exact read.patterns.imp fun _ _ pattern => ⟨pattern.pattern, pattern.filled_iff⟩
  · rintro ⟨element, mem, incomplete⟩
    cases read : entries root with
    | error error => exact ⟨error, rfl⟩
    | ok loaded =>
      obtain ⟨entry, -, kind, readFrom⟩ := exists_of_forall₂ (readFrom_of_entries read) mem
      rw [← kind] at incomplete
      exact absurd incomplete readFrom.complete

theorem filled_or_refused_of_blank_pattern :
    ∃ (entry : Entry) (param : Parameter) (error : Error),
      entries ⟨"manifest", [], none, [⟨"function", [("name", " poll ")], none,
        [⟨"param", [("name", " "), ("type", "u8")], none, []⟩]⟩]⟩ = .ok [entry] ∧
      AllFilled entry.declaration.texts ∧ entry.declaration.parameters = [param] ∧
      ¬Filled param.pattern ∧
      entries ⟨"manifest", [], none, [⟨"function", [("name", "poll")], none,
        [⟨"param", [("type", "u8")], none, []⟩]⟩]⟩ = .error error := by
  have read : entries ⟨"manifest", [], none, [⟨"function", [("name", " poll ")], none,
      [⟨"param", [("name", " "), ("type", "u8")], none, []⟩]⟩]⟩ =
      .ok [⟨.function, "", ⟨0, 0⟩, .callable ⟨⟨"poll", ⟨[], []⟩, none,
        [⟨"", "u8", false, false, ⟨0, 0⟩⟩], none, none, false, false, false, none⟩, "", [], none,
        ⟨0, 0⟩⟩⟩] := eq_ok_of_toOption (by decide +kernel)
  obtain ⟨_, _, ⟨filled, patterns⟩, nothing, same⟩ :=
    List.forall₂_cons_left_iff.mp ((filled_or_refused _).1 _ read)
  cases nothing
  cases same
  obtain ⟨param, _, ⟨-, pattern⟩, nothing, parameters⟩ := List.forall₂_cons_left_iff.mp patterns
  cases nothing
  obtain ⟨error, refused⟩ := (filled_or_refused ⟨"manifest", [], none, [⟨"function",
    [("name", "poll")], none, [⟨"param", [("type", "u8")], none, []⟩]⟩]⟩).2
    ⟨_, List.mem_singleton_self _, .parameter List.mem_cons_self (List.mem_singleton_self _)
      (.pattern rfl rfl)⟩
  exact ⟨_, param, error, read, filled, parameters, fun isFilled => pattern.mp isFilled
    (by decide), refused⟩

end Manifest

end PlatformGate
