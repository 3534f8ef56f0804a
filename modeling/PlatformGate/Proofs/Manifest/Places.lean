import PlatformGate.Proofs.Manifest.Reloading

/-! Inherited places. An element inside an entry that states no place stands at the place of the
entry, and so does an option text. Nothing changes if that place is spelled out: the same entries
are loaded, or there is the same error at the same place. -/

namespace PlatformGate

namespace Manifest

open Markup Text

def placeNames (lead : String) : List String := [lead ++ "line", lead ++ "column"]

def addPlace (lead : String) (location : Location) (element : Element) : Element :=
  { element with attributes := element.attributes ++
      [(lead ++ "line", toString location.line), (lead ++ "column", toString location.column)] }

def place (lead : String) (location : Location) (element : Element) : Element :=
  if element.attribute? (lead ++ "line") = none ∧ element.attribute? (lead ++ "column") = none then
    addPlace lead location element
  else element

def placedTags : List String := ["generic", "receiver", "param", "variadic"]

def placeChild (location : Location) (child : Element) : Element :=
  if child.tag ∈ placedTags then place "" location child else child

def placeChildren (location : Location) (element : Element) : Element :=
  { element with children := element.children.map (placeChild location) }

def ownPlace? (element : Element) : Option Location := do
  let line ← coordinate? (element.attribute? "line")
  let column ← coordinate? (element.attribute? "column")
  return ⟨line, column⟩

/-- The entry with its place spelled out wherever it is inherited. An entry whose place is no pair
of integers is left as it stands. -/
def spellPlaces (element : Element) : Element :=
  match ownPlace? element with
  | none => element
  | some location => place "options-" location (placeChildren location element)

def spellAllPlaces (root : Element) : Element :=
  { root with children := root.children.map spellPlaces }

section

variable {lead : String} (location : Location) (element : Element)

@[simp] theorem tag_place : (place lead location element).tag = element.tag := by
  unfold place
  split <;> rfl

@[simp] theorem text_place : (place lead location element).text = element.text := by
  unfold place
  split <;> rfl

@[simp] theorem children_place : (place lead location element).children = element.children := by
  unfold place
  split <;> rfl

theorem attribute?_place {name : String} (other : name ∉ placeNames lead) :
    (place lead location element).attribute? name = element.attribute? name := by
  obtain ⟨line, column⟩ : name ≠ lead ++ "line" ∧ name ≠ lead ++ "column" := by
    simpa [placeNames] using other
  unfold place
  split
  next => simp [addPlace, Element.attribute?, List.lookup_append, List.lookup_cons,
    beq_false_of_ne line, beq_false_of_ne column]
  next => rfl

theorem attributes_addPlace (line : element.attribute? (lead ++ "line") = none)
    (column : element.attribute? (lead ++ "column") = none) :
    (addPlace lead location element).attribute? (lead ++ "line") = some (toString location.line) ∧
    (addPlace lead location element).attribute? (lead ++ "column") =
      some (toString location.column) := by
  have differ : lead ++ "column" ≠ lead ++ "line" := fun same =>
    absurd ((String.append_right_inj lead).mp same) (by decide)
  unfold Element.attribute? at line column ⊢
  rw [addPlace, List.lookup_append, List.lookup_append, line, column]
  simp [List.lookup_cons, beq_false_of_ne differ]

theorem place_cases (writable : location.isWritable = true) :
    place lead location element = element ∨
      statedLocation element lead = .ok none ∧
        statedLocation (place lead location element) lead = .ok (some location) := by
  by_cases unstated : element.attribute? (lead ++ "line") = none ∧
      element.attribute? (lead ++ "column") = none
  · obtain ⟨line, column⟩ := attributes_addPlace location element unstated.1 unstated.2
    rw [place, if_pos unstated]
    refine .inr ⟨?_, statedLocation_of_attributes line column writable⟩
    simp [statedLocation, unstated]
  · exact .inl (if_neg unstated)

theorem locationOf_place (writable : location.isWritable = true) :
    locationOf (place "" location element) location = locationOf element location := by
  rcases place_cases location element writable with kept | ⟨unstated, stated⟩
  · rw [kept]
  · rw [locationOf, locationOf, stated, unstated]
    rfl

end

section

variable {element other : Element} {name : String}

theorem trimmedAttribute_congr (stated : other.attribute? name = element.attribute? name) :
    other.trimmedAttribute name = element.trimmedAttribute name := by
  rw [Element.trimmedAttribute, Element.trimmedAttribute, stated]

theorem required_congr (tag : other.tag = element.tag)
    (stated : other.attribute? name = element.attribute? name) (location : Location) :
    required other name location = required element name location := by
  rw [required, required, trimmedAttribute_congr stated, tag]

theorem flag_congr (tag : other.tag = element.tag)
    (stated : other.attribute? name = element.attribute? name) (location : Location) :
    flag other name location = flag element name location := by
  rw [flag, flag, stated, tag]

end

section

variable {lead name : String} (location : Location) (element : Element)

theorem required_place (other : name ∉ placeNames lead) (enclosing : Location) :
    required (place lead location element) name enclosing = required element name enclosing :=
  required_congr (tag_place location element) (attribute?_place location element other) enclosing

theorem flag_place (other : name ∉ placeNames lead) (enclosing : Location) :
    flag (place lead location element) name enclosing = flag element name enclosing :=
  flag_congr (tag_place location element) (attribute?_place location element other) enclosing

theorem patternOf_place : patternOf (place "" location element) = patternOf element := by
  have name := attribute?_place location element (by decide : "name" ∉ placeNames "")
  have pattern := attribute?_place location element (by decide : "pattern" ∉ placeNames "")
  rw [patternOf, patternOf, name, pattern]

theorem placeChild_cases : placeChild location element = element ∨
    placeChild location element = place "" location element := by
  unfold placeChild
  split
  · exact .inr rfl
  · exact .inl rfl

@[simp] theorem tag_placeChild : (placeChild location element).tag = element.tag := by
  rcases placeChild_cases location element with kept | placed
  · rw [kept]
  · rw [placed, tag_place]

@[simp] theorem trimmedText_placeChild :
    (placeChild location element).trimmedText = element.trimmedText := by
  rcases placeChild_cases location element with kept | placed
  · rw [kept]
  · rw [placed, Element.trimmedText, text_place, Element.trimmedText]

end

section

variable {location : Location} (writable : location.isWritable = true) (element : Element)
include writable

theorem genericParam_placeChild :
    genericParam (placeChild location element) location = genericParam element location := by
  rcases placeChild_cases location element with kept | placed
  · rw [kept]
  · simp (disch := decide) only [placed, genericParam, locationOf_place location element writable,
      required_place, attribute?_place]

theorem receiver_placeChild :
    receiver (placeChild location element) location = receiver element location := by
  rcases placeChild_cases location element with kept | placed
  · rw [kept]
  · simp (disch := decide) only [placed, receiver, locationOf_place location element writable,
      flag_place, attribute?_place]

theorem parameter_placeChild :
    parameter (placeChild location element) location = parameter element location := by
  rcases placeChild_cases location element with kept | placed
  · rw [kept]
  · simp (disch := decide) only [placed, parameter, patternOf_place,
      locationOf_place location element writable, required_place, flag_place]

theorem variadic_placeChild :
    variadic (placeChild location element) location = variadic element location := by
  rcases placeChild_cases location element with kept | placed
  · rw [kept]
  · simp (disch := decide) only [placed, variadic, locationOf_place location element writable,
      attribute?_place]

end

theorem mapM_map_of_same {ε α β : Type} {read : α → Except ε β} {change : α → α}
    (same : ∀ x, read (change x) = read x) (xs : List α) :
    (xs.map change).mapM read = xs.mapM read := by
  have unchanged : read ∘ change = read := funext same
  rw [List.mapM_map, unchanged]

theorem optional_map_of_same {α : Type} {read : Element → Except Error α}
    {change : Element → Element} (same : ∀ element, read (change element) = read element)
    (child : Option Element) : optional read (child.map change) = optional read child := by
  cases child with
  | none => rfl
  | some element => exact congrArg (some <$> ·) (same element)

/-- The other element is the entry with the place spelled out at its children and, maybe, at its
option text. -/
structure Respells (location : Location) (element other : Element) : Prop where
  tag : other.tag = element.tag
  stated : ∀ {name : String}, name ∉ placeNames "options-" →
    other.attribute? name = element.attribute? name
  children : other.children = element.children.map (placeChild location)

namespace Respells

variable {location : Location} {element other : Element} (same : Respells location element other)
include same

theorem required_eq {name : String} (apart : name ∉ placeNames "options-") (enclosing : Location) :
    required other name enclosing = required element name enclosing :=
  required_congr same.tag (same.stated apart) enclosing

theorem flag_eq {name : String} (apart : name ∉ placeNames "options-") (enclosing : Location) :
    flag other name enclosing = flag element name enclosing :=
  flag_congr same.tag (same.stated apart) enclosing

theorem childrenNamed_eq (tag : String) :
    other.childrenNamed tag = (element.childrenNamed tag).map (placeChild location) := by
  rw [Element.childrenNamed, same.children, List.filter_map]
  simp only [Function.comp_def, tag_placeChild]
  rfl

theorem child?_eq (tag : String) :
    other.child? tag = (element.child? tag).map (placeChild location) := by
  rw [child?_eq_head?, child?_eq_head?, same.childrenNamed_eq, List.head?_map]

theorem textsOf_eq (tag : String) : other.textsOf tag = element.textsOf tag := by
  rw [Element.textsOf, same.childrenNamed_eq, List.map_map]
  simp only [Function.comp_def, trimmedText_placeChild]
  rfl

theorem text_eq (tag : String) :
    (other.child? tag).map Element.trimmedText = (element.child? tag).map Element.trimmedText := by
  rw [same.child?_eq, Option.map_map]
  simp only [Function.comp_def, trimmedText_placeChild]

theorem bodyOf_eq (blank : String) : bodyOf other blank = bodyOf element blank := by
  rw [bodyOf, same.child?_eq, Option.map_map]
  simp only [Function.comp_def, trimmedText_placeChild]
  rfl

variable (writable : location.isWritable = true)
include writable

theorem generics_eq : generics other location = generics element location := by
  rw [generics, generics, same.childrenNamed_eq, same.textsOf_eq,
    mapM_map_of_same (genericParam_placeChild writable)]

theorem signature_eq : signature other location = signature element location := by
  have receivers : optional (receiver · location) (other.child? "receiver") =
      optional (receiver · location) (element.child? "receiver") := by
    rw [same.child?_eq]
    exact optional_map_of_same (receiver_placeChild writable) _
  have params : (other.childrenNamed "param").mapM (parameter · location) =
      (element.childrenNamed "param").mapM (parameter · location) := by
    rw [same.childrenNamed_eq]
    exact mapM_map_of_same (parameter_placeChild writable) _
  have variadics : optional (variadic · location) (other.child? "variadic") =
      optional (variadic · location) (element.child? "variadic") := by
    rw [same.child?_eq]
    exact optional_map_of_same (variadic_placeChild writable) _
  simp (disch := decide) only [signature, receivers, params, variadics, same.text_eq,
    same.required_eq, same.flag_eq, same.stated, same.generics_eq writable]

theorem declaration_eq (kind : EntryKind) :
    declaration kind other location = declaration kind element location := by
  have visibility : other.trimmedAttribute "vis" = element.trimmedAttribute "vis" :=
    trimmedAttribute_congr (same.stated (by decide))
  cases kind with
  | function => simp only [declaration, callable, same.signature_eq writable, visibility,
      same.textsOf_eq, same.bodyOf_eq]
  | traitFunction => simp only [declaration, callable, same.signature_eq writable, visibility,
      same.textsOf_eq, same.bodyOf_eq]
  | struct => simp (disch := decide) only [declaration, struct, same.required_eq,
      same.generics_eq writable, visibility, same.textsOf_eq, same.bodyOf_eq]
  | module => simp (disch := decide) only [declaration, module, same.required_eq, same.flag_eq,
      visibility, same.textsOf_eq, same.bodyOf_eq]
  | use => simp (disch := decide) only [declaration, use, same.required_eq, visibility,
      same.textsOf_eq]
  | unknown tag => rfl

end Respells

theorem locationOf_of_ownPlace {element : Element} {location : Location}
    (h : ownPlace? element = some location) :
    locationOf element .unstated = .ok location ∧ location.isWritable = true := by
  obtain ⟨line, hline, h⟩ := Option.bind_eq_some_iff.mp h
  obtain ⟨column, hcolumn, same⟩ := Option.bind_eq_some_iff.mp h
  cases same
  have writable : Location.isWritable ⟨line, column⟩ = true := by
    rw [Location.isWritable, isWritable_of_coordinate? hline, isWritable_of_coordinate? hcolumn]
    rfl
  refine ⟨?_, writable⟩
  by_cases nothing : element.attribute? "line" = none ∧ element.attribute? "column" = none
  · rw [nothing.1] at hline
    rw [nothing.2] at hcolumn
    cases hline
    cases hcolumn
    exact locationOf_of_none nothing.1 nothing.2 .unstated
  · have stated : statedLocation element "" = .ok (some ⟨line, column⟩) := by
      simp only [statedLocation, String.empty_append, Option.isNone_iff_eq_none, if_neg nothing,
        hline, hcolumn]
    rw [locationOf, stated]
    rfl

theorem ok_bind {α β : Type} (value : α) (next : α → Except Error β) :
    (Except.ok value >>= next) = next value := rfl

theorem bind_getD_congr {α : Type} {here there : Except Error (Option Location)}
    {location : Location} (same : (·.getD location) <$> there = (·.getD location) <$> here)
    (next : Location → Except Error α) :
    (there >>= fun stated => next (stated.getD location)) =
      here >>= fun stated => next (stated.getD location) :=
  calc (there >>= fun stated => next (stated.getD location))
    _ = ((·.getD location) <$> there) >>= next := (bind_map_left _ _ _).symm
    _ = ((·.getD location) <$> here) >>= next := by rw [same]
    _ = here >>= fun stated => next (stated.getD location) := bind_map_left _ _ _

theorem entry_of_respells {element other : Element} {location : Location}
    (same : Respells location element other) (own : ownPlace? element = some location)
    (options : (·.getD location) <$> statedLocation other "options-" =
      (·.getD location) <$> statedLocation element "options-") : entry other = entry element := by
  have own' : ownPlace? other = some location := by
    rw [← own, ownPlace?, ownPlace?, same.stated (by decide), same.stated (by decide)]
  obtain ⟨located, writable⟩ := locationOf_of_ownPlace own
  obtain ⟨located', -⟩ := locationOf_of_ownPlace own'
  have text : other.attribute? "options" = element.attribute? "options" := same.stated (by decide)
  rw [entry, entry, located, located', same.tag, text]
  simp only [ok_bind, same.declaration_eq writable]
  split
  next => rfl
  next kind _ =>
    exact bind_getD_congr options fun optionsLocation =>
      declaration (EntryKind.ofTag element.tag) element location >>= fun read =>
        pure (Entry.mk (EntryKind.ofTag element.tag) ((element.attribute? "options").getD "")
          optionsLocation read)

theorem entry_spellPlaces (element : Element) : entry (spellPlaces element) = entry element := by
  unfold spellPlaces
  split
  next => rfl
  next location own =>
    obtain ⟨-, writable⟩ := locationOf_of_ownPlace own
    have same : Respells location element
        (place "options-" location (placeChildren location element)) :=
      ⟨tag_place _ _, fun apart => attribute?_place _ _ apart, children_place _ _⟩
    refine entry_of_respells same own ?_
    rcases place_cases location (placeChildren location element) writable with
      kept | ⟨unstated, stated⟩
    · rw [kept]
      rfl
    · have inherited : statedLocation element "options-" = .ok none := unstated
      rw [stated, inherited]
      rfl

/-- Spelling out the places that are inherited changes neither what is loaded from a manifest nor
the error that it is refused with. -/
theorem entries_spellAllPlaces (root : Element) :
    entries (spellAllPlaces root) = entries root := by
  rw [entries, entries, spellAllPlaces, mapM_map_of_same entry_spellPlaces]

end Manifest

end PlatformGate
