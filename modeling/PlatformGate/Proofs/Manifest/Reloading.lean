import PlatformGate.Proofs.Manifest.Reading
import PlatformGate.Proofs.Manifest.Writing
import PlatformGate.Proofs.Options.Block

/-! Written entries are read as themselves. What the reader takes off or fills in when it reads a
manifest is not there to be taken off or filled in again, so a manifest that is written from what
has been loaded loads to the same. -/

namespace PlatformGate

namespace Manifest

open Markup Text

theorem trimmedAttribute_of_attribute {element : Element} {name value : String}
    (stated : element.attribute? name = some value) (kept : trim value = value) :
    element.trimmedAttribute name = value := by
  rw [Element.trimmedAttribute, stated, Option.getD_some, kept]

theorem required_of_attribute {element : Element} {name value : String}
    (stated : element.attribute? name = some value) (filled : Filled value) (location : Location) :
    required element name location = .ok value := by
  unfold required
  rw [trimmedAttribute_of_attribute stated filled.2]
  split
  next => exact absurd rfl filled.1
  next => rfl

theorem flag_of_attribute {element : Element} {name : String} {value : Bool}
    (stated : element.attribute? name = some (truth value)) (location : Location) :
    flag element name location = .ok value := by
  unfold flag
  rw [stated]
  cases value <;> rfl

theorem coordinate?_toString {n : Int} (short : Text.isWritable n = true) :
    coordinate? (some (toString n)) = some n := by
  have read := Text.integer?_toString short
  unfold coordinate?
  simp only
  split
  next empty =>
    rw [empty] at read
    cases read
  next => exact read

theorem statedLocation_of_attributes {element : Element} {lead : String} {location : Location}
    (line : element.attribute? (lead ++ "line") = some (toString location.line))
    (column : element.attribute? (lead ++ "column") = some (toString location.column))
    (writable : location.isWritable = true) :
    statedLocation element lead = .ok (some location) := by
  rw [Location.isWritable, Bool.and_eq_true] at writable
  simp only [statedLocation, line, column, coordinate?_toString writable.1,
    coordinate?_toString writable.2]
  rfl

theorem locationOf_of_attributes {element : Element} {location : Location}
    (line : element.attribute? "line" = some (toString location.line))
    (column : element.attribute? "column" = some (toString location.column))
    (writable : location.isWritable = true) (enclosing : Location) :
    locationOf element enclosing = .ok location := by
  have stated : statedLocation element "" = .ok (some location) :=
    statedLocation_of_attributes line column writable
  rw [locationOf, stated]
  rfl

theorem locationOf_of_none {element : Element} (line : element.attribute? "line" = none)
    (column : element.attribute? "column" = none) (enclosing : Location) :
    locationOf element enclosing = .ok enclosing := by
  have stated : statedLocation element "" = .ok none :=
    if_pos ⟨Option.isNone_iff_eq_none.mpr line, Option.isNone_iff_eq_none.mpr column⟩
  rw [locationOf, stated]
  rfl

theorem child?_eq_head? (element : Element) (tag : String) :
    element.child? tag = (element.childrenNamed tag).head? := List.head?_filter.symm

theorem textsOf_of_children {element : Element} {tag : String} {texts : List String}
    (h : element.childrenNamed tag = texts.map (textElement tag)) (filled : AllFilled texts) :
    element.textsOf tag = texts := by
  have kept : ∀ text ∈ texts, (textElement tag text).trimmedText = text := fun text mem =>
    (filled text mem).2
  have texts_eq : (texts.map (textElement tag)).map Element.trimmedText = texts := by
    rw [List.map_map]
    exact (List.map_congr_left kept).trans (List.map_id' texts)
  rw [Element.textsOf, h, texts_eq, List.filter_eq_self]
  exact fun text mem => decide_eq_true (filled text mem).1

theorem text_of_children {element : Element} {tag : String} {text : Option String}
    (h : element.childrenNamed tag = text.toList.map (textElement tag))
    (filled : ∀ stated ∈ text, Filled stated) :
    (element.child? tag).map Element.trimmedText = text := by
  rw [child?_eq_head?, h]
  cases text with
  | none => rfl
  | some stated => exact congrArg some (filled stated rfl).2

theorem bodyOf_of_children {element : Element} {body : Option String}
    (h : element.childrenNamed "body" = body.toList.map (textElement "body"))
    (filled : ∀ text ∈ body, Filled text) (blank : String) : bodyOf element blank = body := by
  have text := text_of_children h filled
  rw [bodyOf]
  cases found : element.child? "body" with
  | none =>
    rw [found] at text
    exact text
  | some child =>
    rw [found, Option.map_some] at text
    rw [Option.map_some]
    split
    next blank => exact absurd blank (filled _ text.symm).1
    next => exact text

theorem output_of_children {element : Element} {output : Option String}
    (h : element.childrenNamed "returns" = output.toList.map (textElement "returns"))
    (filled : ∀ type ∈ output, Filled type) :
    ((element.child? "returns").map Element.trimmedText).filter (· ≠ "") = output := by
  rw [text_of_children h filled]
  cases output with
  | none => rfl
  | some type => exact Option.filter_some_pos (decide_eq_true (filled type rfl).1)

theorem mapM_map_of_read {α : Type} {write : α → Element} {read : Element → Except Error α}
    {values : List α} (h : ∀ value ∈ values, read (write value) = .ok value) :
    (values.map write).mapM read = .ok values :=
  mapM_eq_ok.mpr (List.forall₂_map_left_iff.mpr (List.forall₂_same.mpr h))

theorem optional_of_children {α : Type} {element : Element} {tag : String} {value : Option α}
    {write : α → Element} {read : Element → Except Error α}
    (h : element.childrenNamed tag = value.toList.map write)
    (back : ∀ v ∈ value, read (write v) = .ok v) :
    optional read (element.child? tag) = .ok value := by
  rw [child?_eq_head?, h]
  cases value with
  | none => rfl
  | some v =>
    simp only [Option.toList_some, List.map_cons, List.head?_cons, optional, back v rfl]
    rfl

theorem genericParam_genericElement {param : GenericParam} (loaded : param.Loaded)
    (enclosing : Location) : genericParam (genericElement param) enclosing = .ok param := by
  have located : locationOf (genericElement param) enclosing = .ok enclosing :=
    locationOf_of_none (by simp [genericElement]) (by simp [genericElement]) enclosing
  have kind : Filled param.kind.keyword := by
    cases param.kind <;> decide
  have bounds : splitList '+' (" + ".intercalate param.bounds) = param.bounds :=
    splitList_intercalate (by decide) loaded.bounds
  have name : required (genericElement param) "name" enclosing = .ok param.name :=
    required_of_attribute (by simp [genericElement]) loaded.name enclosing
  refine bind_eq_ok.mpr ⟨enclosing, located, ?_⟩
  refine bind_eq_ok.mpr ⟨param.kind.keyword,
    required_of_attribute (by simp [genericElement]) kind enclosing, ?_⟩
  simp only [GenericParam.ofKeyword?_keyword]
  -- The type is written and read for a const parameter only.
  split_ifs with const
  · obtain ⟨type, stated⟩ := Option.isSome_iff_exists.mp (loaded.typed.mp const)
    have typed : required (genericElement param) "type" enclosing = .ok type :=
      required_of_attribute (by simp [genericElement, stated]) (loaded.constType type stated)
        enclosing
    refine bind_eq_ok.mpr ⟨some type, map_eq_ok.mpr ⟨type, typed, rfl⟩, ?_⟩
    refine bind_eq_ok.mpr ⟨param.name, name, ?_⟩
    simp [genericElement, bounds, ← stated, pure, Except.pure]
  · have untyped := Option.not_isSome_iff_eq_none.mp fun stated => const (loaded.typed.mpr stated)
    have whole : (⟨param.kind, param.name, param.bounds, none, param.default⟩ : GenericParam) =
        param := by rw [← untyped]
    refine bind_eq_ok.mpr ⟨none, rfl, ?_⟩
    refine bind_eq_ok.mpr ⟨param.name, name, ?_⟩
    simp [genericElement, bounds, untyped, whole, pure, Except.pure]

theorem receiver_receiverElement (receiver : Receiver) (enclosing : Location) :
    Manifest.receiver (receiverElement receiver) enclosing = .ok receiver := by
  have located : locationOf (receiverElement receiver) enclosing = .ok enclosing :=
    locationOf_of_none (by simp [receiverElement]) (by simp [receiverElement]) enclosing
  refine bind_eq_ok.mpr ⟨enclosing, located, ?_⟩
  have stated : (receiverElement receiver).attribute? "ref" = some (truth receiver.reference) := by
    simp [receiverElement]
  simp only [stated, Option.isSome_some, if_true]
  refine bind_eq_ok.mpr ⟨receiver.reference, flag_of_attribute stated enclosing, ?_⟩
  refine bind_eq_ok.mpr ⟨receiver.mutable,
    flag_of_attribute (by simp [receiverElement]) enclosing, ?_⟩
  simp [receiverElement, pure, Except.pure]

theorem parameter_parameterElement {param : Parameter} (loaded : param.Loaded)
    (named : param.pattern ≠ "") (enclosing : Location) :
    parameter (parameterElement param) enclosing = .ok param := by
  have located : locationOf (parameterElement param) enclosing = .ok param.location :=
    locationOf_of_attributes (by simp [parameterElement, placeFields])
      (by simp [parameterElement, placeFields]) loaded.location enclosing
  -- The pattern is written as the name, where it is looked for first.
  have pattern : patternOf (parameterElement param) = param.pattern := by
    have stated : (parameterElement param).attribute? "name" = some param.pattern := by
      simp [parameterElement]
    unfold patternOf
    rw [stated, Option.getD_some]
    split
    next empty => exact absurd empty named
    next => rfl
  refine bind_eq_ok.mpr ⟨param.location, located, ?_⟩
  simp only [pattern, if_neg named]
  refine bind_eq_ok.mpr ⟨param.type,
    required_of_attribute (by simp [parameterElement]) loaded.type param.location, ?_⟩
  refine bind_eq_ok.mpr ⟨param.mutable,
    flag_of_attribute (by simp [parameterElement]) param.location, ?_⟩
  refine bind_eq_ok.mpr ⟨param.byRef,
    flag_of_attribute (by simp [parameterElement]) param.location, ?_⟩
  rw [loaded.pattern]
  rfl

theorem variadic_variadicElement {read : Variadic} (writable : read.location.isWritable = true)
    (enclosing : Location) : variadic (variadicElement read) enclosing = .ok read := by
  have located : locationOf (variadicElement read) enclosing = .ok read.location :=
    locationOf_of_attributes (by simp [variadicElement, placeFields])
      (by simp [variadicElement, placeFields]) writable enclosing
  refine bind_eq_ok.mpr ⟨read.location, located, ?_⟩
  simp [variadicElement, placeFields, pure, Except.pure]

theorem generics_of_children {element : Element} {read : Generics} (loaded : read.Loaded)
    (params : element.childrenNamed "generic" = read.params.map genericElement)
    (wheres : element.childrenNamed "where" = read.wherePredicates.map (textElement "where"))
    (location : Location) : generics element location = .ok read := by
  have back : (read.params.map genericElement).mapM (genericParam · location) = .ok read.params :=
    mapM_map_of_read fun param mem => genericParam_genericElement (loaded.params param mem) location
  refine bind_eq_ok.mpr ⟨read.params, params ▸ back, ?_⟩
  rw [textsOf_of_children wheres loaded.wherePredicates]
  rfl

section

variable (kind : EntryKind) (optionsText : String) (optionsLocation : Location)

def Named (signature : Signature) : Prop := ∀ param ∈ signature.params, param.pattern ≠ ""

theorem signature_entryElement {decl : Callable} (loaded : decl.signature.Loaded)
    (named : Named decl.signature) (location : Location) :
    signature (entryElement ⟨kind, optionsText, optionsLocation, .callable decl⟩) location =
      .ok decl.signature := by
  generalize written : entryElement _ = element
  obtain ⟨receiver, params, variadic, returns, generic, wheres⟩ :
      element.childrenNamed "receiver" = decl.signature.receiver.toList.map receiverElement ∧
      element.childrenNamed "param" = decl.signature.params.map parameterElement ∧
      element.childrenNamed "variadic" = decl.signature.variadic.toList.map variadicElement ∧
      element.childrenNamed "returns" =
        decl.signature.output.toList.map (textElement "returns") ∧
      element.childrenNamed "generic" = decl.signature.generics.params.map genericElement ∧
      element.childrenNamed "where" =
        decl.signature.generics.wherePredicates.map (textElement "where") := by
    simp [← written, entryElement, childrenNamed_spelledOut, declarationChildren, genericsChildren]
  obtain ⟨name, isAsync, isUnsafe, isConst, abi⟩ :
      element.attribute? "name" = some decl.signature.name ∧
      element.attribute? "async" = some (truth decl.signature.isAsync) ∧
      element.attribute? "unsafe" = some (truth decl.signature.isUnsafe) ∧
      element.attribute? "const" = some (truth decl.signature.isConst) ∧
      element.attribute? "abi" = decl.signature.abi := by
    simp [← written, entryElement, placeFields, declarationFields]
  refine bind_eq_ok.mpr ⟨decl.signature.receiver,
    optional_of_children receiver fun value _ => receiver_receiverElement value location, ?_⟩
  refine bind_eq_ok.mpr ⟨decl.signature.params, params ▸ mapM_map_of_read fun param mem =>
    parameter_parameterElement (loaded.params param mem) (named param mem) location, ?_⟩
  refine bind_eq_ok.mpr ⟨decl.signature.variadic, optional_of_children variadic fun value mem =>
    variadic_variadicElement (loaded.variadic value mem) location, ?_⟩
  refine bind_eq_ok.mpr ⟨decl.signature.name, required_of_attribute name loaded.name location, ?_⟩
  refine bind_eq_ok.mpr ⟨decl.signature.generics,
    generics_of_children loaded.generics generic wheres location, ?_⟩
  refine bind_eq_ok.mpr ⟨decl.signature.isAsync, flag_of_attribute isAsync location, ?_⟩
  refine bind_eq_ok.mpr ⟨decl.signature.isUnsafe, flag_of_attribute isUnsafe location, ?_⟩
  refine bind_eq_ok.mpr ⟨decl.signature.isConst, flag_of_attribute isConst location, ?_⟩
  rw [output_of_children returns loaded.output, abi]
  rfl

theorem callable_entryElement {decl : Callable} (loaded : decl.Loaded)
    (named : Named decl.signature) :
    callable (entryElement ⟨kind, optionsText, optionsLocation, .callable decl⟩) decl.location =
      .ok decl := by
  have signature := signature_entryElement kind optionsText optionsLocation loaded.signature named
    decl.location
  generalize written : entryElement _ = element at signature ⊢
  obtain ⟨attributes, body, visibility⟩ :
      element.childrenNamed "attr" = decl.attributes.map (textElement "attr") ∧
      element.childrenNamed "body" = decl.body.toList.map (textElement "body") ∧
      element.attribute? "vis" = some decl.visibility := by
    simp [← written, entryElement, childrenNamed_spelledOut, declarationChildren, genericsChildren,
      placeFields, declarationFields]
  refine bind_eq_ok.mpr ⟨decl.signature, signature, ?_⟩
  rw [trimmedAttribute_of_attribute visibility loaded.head.visibility,
    textsOf_of_children attributes loaded.head.attributes, bodyOf_of_children body loaded.body]
  rfl

theorem struct_entryElement {decl : StructDecl} (loaded : decl.Loaded) :
    struct (entryElement ⟨kind, optionsText, optionsLocation, .struct decl⟩) decl.location =
      .ok decl := by
  generalize written : entryElement _ = element
  obtain ⟨attributes, generic, wheres, body⟩ :
      element.childrenNamed "attr" = decl.attributes.map (textElement "attr") ∧
      element.childrenNamed "generic" = decl.generics.params.map genericElement ∧
      element.childrenNamed "where" = decl.generics.wherePredicates.map (textElement "where") ∧
      element.childrenNamed "body" = (some decl.body).toList.map (textElement "body") := by
    simp [← written, entryElement, childrenNamed_spelledOut, declarationChildren, genericsChildren]
  obtain ⟨name, visibility⟩ :
      element.attribute? "name" = some decl.name ∧
      element.attribute? "vis" = some decl.visibility := by
    simp [← written, entryElement, placeFields, declarationFields]
  have filled : ∀ text ∈ some decl.body, Filled text := fun _ same =>
    Option.some.inj same ▸ loaded.body
  refine bind_eq_ok.mpr ⟨decl.name, required_of_attribute name loaded.name decl.location, ?_⟩
  refine bind_eq_ok.mpr ⟨decl.generics,
    generics_of_children loaded.generics generic wheres decl.location, ?_⟩
  rw [trimmedAttribute_of_attribute visibility loaded.head.visibility,
    textsOf_of_children attributes loaded.head.attributes, bodyOf_of_children body filled]
  rfl

theorem module_entryElement {decl : ModuleDecl} (loaded : decl.Loaded) :
    module (entryElement ⟨kind, optionsText, optionsLocation, .module decl⟩) decl.location =
      .ok decl := by
  generalize written : entryElement _ = element
  obtain ⟨attributes, body⟩ :
      element.childrenNamed "attr" = decl.attributes.map (textElement "attr") ∧
      element.childrenNamed "body" = decl.inlineBody.toList.map (textElement "body") := by
    simp [← written, entryElement, childrenNamed_spelledOut, declarationChildren]
  obtain ⟨name, visibility, isUnsafe⟩ :
      element.attribute? "name" = some decl.name ∧
      element.attribute? "vis" = some decl.visibility ∧
      element.attribute? "unsafe" = some (truth decl.isUnsafe) := by
    simp [← written, entryElement, placeFields, declarationFields]
  refine bind_eq_ok.mpr ⟨decl.name, required_of_attribute name loaded.name decl.location, ?_⟩
  refine bind_eq_ok.mpr ⟨decl.isUnsafe, flag_of_attribute isUnsafe decl.location, ?_⟩
  rw [trimmedAttribute_of_attribute visibility loaded.head.visibility,
    textsOf_of_children attributes loaded.head.attributes,
    bodyOf_of_children body loaded.inlineBody]
  rfl

theorem use_entryElement {decl : UseDecl} (loaded : decl.Loaded) :
    use (entryElement ⟨kind, optionsText, optionsLocation, .use decl⟩) decl.location =
      .ok decl := by
  generalize written : entryElement _ = element
  obtain ⟨attributes, tree, visibility⟩ :
      element.childrenNamed "attr" = decl.attributes.map (textElement "attr") ∧
      element.attribute? "tree" = some decl.tree.written ∧
      element.attribute? "vis" = some decl.visibility := by
    simp [← written, entryElement, childrenNamed_spelledOut, declarationChildren, placeFields,
      declarationFields]
  obtain ⟨text, parsed⟩ := loaded.tree
  obtain ⟨filled, again⟩ := UseTree.parse_written parsed
  refine bind_eq_ok.mpr ⟨decl.tree.written, required_of_attribute tree filled decl.location, ?_⟩
  rw [again, trimmedAttribute_of_attribute visibility loaded.head.visibility,
    textsOf_of_children attributes loaded.head.attributes]
  rfl

end

theorem location_writable {decl : Declaration} (loaded : decl.Loaded) :
    decl.location.isWritable = true := by
  cases decl with
  | callable decl => exact loaded.head.location
  | struct decl => exact loaded.head.location
  | module decl => exact loaded.head.location
  | use decl => exact loaded.head.location

theorem declaration_entryElement {written : Entry} (loaded : written.Loaded)
    (named : ∀ decl, written.declaration = .callable decl → Named decl.signature) :
    declaration written.kind (entryElement written) written.declaration.location =
      .ok written.declaration := by
  obtain ⟨kind, optionsText, optionsLocation, decl⟩ := written
  obtain ⟨fits, -, loaded⟩ := loaded
  cases fits with
  | function decl =>
    exact map_eq_ok.mpr ⟨decl, callable_entryElement _ _ _ loaded (named decl rfl), rfl⟩
  | traitFunction decl =>
    exact map_eq_ok.mpr ⟨decl, callable_entryElement _ _ _ loaded (named decl rfl), rfl⟩
  | struct decl => exact map_eq_ok.mpr ⟨decl, struct_entryElement _ _ _ loaded, rfl⟩
  | module decl => exact map_eq_ok.mpr ⟨decl, module_entryElement _ _ _ loaded, rfl⟩
  | use decl => exact map_eq_ok.mpr ⟨decl, use_entryElement _ _ _ loaded, rfl⟩

theorem ofTag_tag {kind : EntryKind} {decl : Declaration} (fits : kind.Fits decl) :
    EntryKind.ofTag kind.tag = kind ∧ ∀ tag, kind ≠ .unknown tag := by
  cases fits <;> exact ⟨by decide, nofun⟩

theorem entry_entryElement {written : Entry} (loaded : written.Loaded)
    (named : ∀ decl, written.declaration = .callable decl → Named decl.signature) :
    entry (entryElement written) = .ok written := by
  have declared := declaration_entryElement loaded named
  obtain ⟨known, kept⟩ := ofTag_tag loaded.fits
  have located : locationOf (entryElement written) .unstated = .ok written.declaration.location :=
    locationOf_of_attributes (by simp [entryElement, placeFields])
      (by simp [entryElement, placeFields]) (location_writable loaded.declaration) .unstated
  have apart : statedLocation (entryElement written) "options-" = .ok (some written.optionsLocation) :=
    statedLocation_of_attributes (by simp [entryElement, placeFields])
      (by simp [entryElement, placeFields]) loaded.optionsLocation
  have options : (entryElement written).attribute? "options" = some written.optionsText := by
    simp [entryElement]
  have tag : (entryElement written).tag = written.kind.tag := rfl
  refine bind_eq_ok.mpr ⟨written.declaration.location, located, ?_⟩
  rw [tag, known]
  split
  next tag unknown => exact absurd unknown (kept tag)
  next =>
    refine bind_eq_ok.mpr ⟨some written.optionsLocation, apart, ?_⟩
    refine bind_eq_ok.mpr ⟨written.declaration, declared, ?_⟩
    rw [options]
    rfl

/-- What has been loaded from a manifest is loaded again, field by field, from the manifest that it
is written as. A parameter with an empty pattern, which stands for a blank one, could not be. -/
theorem entries_manifestElement {root : Element} {loaded : List Entry}
    (read : entries root = .ok loaded)
    (named : ∀ entry ∈ loaded, ∀ decl, entry.declaration = .callable decl →
      ∀ param ∈ decl.signature.params, param.pattern ≠ "") :
    entries (manifestElement loaded) = .ok loaded := by
  have tag : (manifestElement loaded).tag = rootTag := rfl
  rw [entries, if_pos tag]
  exact mapM_map_of_read fun entry mem =>
    entry_entryElement (loaded_of_entries read mem) (named entry mem)

theorem entries_manifestElement_of_untidy :
    ∃ loaded : List Entry, loaded.length = 2 ∧
      entries ⟨"manifest", [], none,
        [⟨"function", [("name", " poll "), ("options", " "), ("line", "+0_3")], none,
          [⟨"generic", [("kind", "type"), ("name", "T"), ("bounds", "Copy+ +Send ")], none, []⟩,
            ⟨"receiver", [("type", "&Self")], none, []⟩,
            ⟨"param", [("pattern", " x "), ("type", "T")], none, []⟩,
            ⟨"returns", [], some " ", []⟩, ⟨"body", [], some " ", []⟩]⟩,
          ⟨"use", [("tree", " :: std :: fs")], none, []⟩]⟩ = .ok loaded ∧
      entries (manifestElement loaded) = .ok loaded := by
  refine ⟨[⟨.function, " ", ⟨3, 0⟩, .callable
      ⟨⟨"poll", ⟨[⟨.type, "T", ["Copy", "Send"], none, none⟩], []⟩,
        some ⟨false, false, none, some "&Self"⟩, [⟨"x", "T", false, false, ⟨3, 0⟩⟩], none, none,
        false, false, false, none⟩, "", [], some emptyBlock, ⟨3, 0⟩⟩⟩,
    ⟨.use, "", ⟨0, 0⟩, .use ⟨⟨.path, "std :: fs", true⟩, "", [], ⟨0, 0⟩⟩⟩], rfl, ?_⟩
  refine (and_iff_left_of_imp fun read => entries_manifestElement read ?_).mpr
    (eq_ok_of_toOption (by decide +kernel))
  intro entry mem decl callable param declared
  rcases List.mem_cons.mp mem with rfl | later
  · cases callable
    cases List.mem_singleton.mp declared
    decide
  · cases List.mem_singleton.mp later
    cases callable

end Manifest

end PlatformGate
