import PlatformGate.Proofs.Manifest.Loaded
import PlatformGate.Proofs.Text.Integer

/-! What reading a manifest guarantees. A value that is read has passed every check that a later
stage relies on, and an error stands at a place that can be written. Each reader has a lemma about
its errors, which also says what later stages need to know of its value. -/

namespace PlatformGate

namespace GenericParam

theorem ofKeyword?_keyword (kind : GenericKind) :
    GenericKind.ofKeyword? kind.keyword = some kind := by
  cases kind <;> decide

def IsMade (param : GenericParam) : Prop :=
  make param.kind.keyword param.name param.bounds param.constType param.default = .ok param

theorem isMade_iff {param : GenericParam} :
    param.IsMade ↔ (param.kind = .const → param.constType.getD "" ≠ "") := by
  unfold IsMade make
  rw [ofKeyword?_keyword]
  simp only
  split_ifs with untyped
  · simpa using untyped
  · exact iff_of_true rfl fun const empty => untyped ⟨const, empty⟩

theorem IsMade.plain {param : GenericParam} (made : param.IsMade) : param.plain.IsMade := by
  rw [isMade_iff] at made ⊢
  exact made

end GenericParam

def Generics.AllMade (generics : Generics) : Prop := ∀ param ∈ generics.params, param.IsMade

structure Callable.WellFormed (decl : Callable) : Prop where
  generics : decl.signature.generics.AllMade
  body : ∀ body ∈ decl.body, body ≠ "" ∧ Text.trim body = body

/-- What the stages behind the reader rely on. The tree of a `use` declaration has been read from a
text. -/
def Declaration.WellFormed : Declaration → Prop
  | callable decl => decl.WellFormed
  | struct decl => decl.generics.AllMade
  | module _ => True
  | use decl => ∃ text, UseTree.parse text = .ok decl.tree

structure Entry.WellFormed (entry : Entry) : Prop where
  fits : entry.kind.Fits entry.declaration
  declaration : entry.declaration.WellFormed

theorem GenericParam.Loaded.isMade {param : GenericParam} (loaded : param.Loaded) :
    param.IsMade := by
  rw [isMade_iff]
  intro const
  obtain ⟨type, stated⟩ := Option.isSome_iff_exists.mp (loaded.typed.mp const)
  rw [stated, Option.getD_some]
  exact (loaded.constType type stated).1

theorem Generics.Loaded.allMade {generics : Generics} (loaded : generics.Loaded) :
    generics.AllMade := fun param mem => (loaded.params param mem).isMade

theorem Declaration.Loaded.wellFormed {declaration : Declaration} (loaded : declaration.Loaded) :
    declaration.WellFormed := by
  cases declaration with
  | callable decl => exact ⟨loaded.signature.generics.allMade, loaded.body⟩
  | struct decl => exact loaded.generics.allMade
  | module decl => trivial
  | use decl => exact loaded.tree

namespace Manifest

open Markup Text

/-- A value has the property, and an error stands at a place that can be written. -/
def Guarantees {α : Type} (property : α → Prop) : Except Error α → Prop
  | .ok value => property value
  | .error error => error.location.isWritable = true

namespace Guarantees

variable {α β : Type} {P Q : α → Prop} {R : β → Prop} {x : Except Error α}

theorem bind {f : α → Except Error β} (h : Guarantees P x)
    (next : ∀ a, P a → Guarantees R (f a)) : Guarantees R (x >>= f) := by
  cases x with
  | error error => exact h
  | ok a => exact next a h

theorem map {f : α → β} (h : Guarantees P x) (next : ∀ a, P a → R (f a)) :
    Guarantees R (f <$> x) := by
  cases x with
  | error error => exact h
  | ok a => exact next a h

theorem of_ok (h : Guarantees P x) (value : ∀ a, x = .ok a → Q a) : Guarantees Q x := by
  cases x with
  | error error => exact h
  | ok a => exact value a rfl

theorem mapM {read : β → Except Error α} {xs : List β} (h : ∀ y ∈ xs, Guarantees P (read y)) :
    Guarantees (fun values => ∀ value ∈ values, P value) (xs.mapM read) := by
  induction xs with
  | nil => exact List.forall_mem_nil P
  | cons y ys ih =>
    rw [List.mapM_cons]
    refine (h y List.mem_cons_self).bind fun first here => ?_
    refine (ih fun z mem => h z (List.mem_cons_of_mem y mem)).bind fun others later => ?_
    exact List.forall_mem_cons.mpr ⟨here, later⟩

end Guarantees

theorem isWritable_of_coordinate? {text : Option String} {n : Int}
    (h : coordinate? text = some n) : Text.isWritable n = true := by
  unfold coordinate? at h
  split at h
  next =>
    cases h
    decide
  next =>
    split at h
    next =>
      cases h
      decide
    next => exact Text.isWritable_of_integer? h

theorem statedLocation_writable (element : Element) (lead : String) :
    Guarantees (fun place => ∀ location ∈ place, location.isWritable = true)
      (statedLocation element lead) := by
  unfold statedLocation
  simp only
  split
  next => simp [Guarantees]
  next =>
    split
    next line column hline hcolumn =>
      simp [Guarantees, Location.isWritable, isWritable_of_coordinate? hline,
        isWritable_of_coordinate? hcolumn]
    next => exact (by decide : Location.unstated.isWritable = true)

theorem locationOf_writable (element : Element) {enclosing : Location}
    (place : enclosing.isWritable = true) :
    Guarantees (·.isWritable = true) (locationOf element enclosing) := by
  refine (statedLocation_writable element "").bind fun stated writable => ?_
  cases stated with
  | none => exact place
  | some location => exact writable location rfl

theorem filled_of_required {element : Element} {name value : String} {location : Location}
    (h : required element name location = .ok value) : Filled value := by
  unfold required at h
  split at h
  next => cases h
  next nonempty =>
    cases h
    exact filled_trim nonempty

theorem required_filled (element : Element) (name : String) {location : Location}
    (place : location.isWritable = true) :
    Guarantees Filled (required element name location) := by
  unfold required
  split
  next => exact place
  next nonempty => exact filled_trim nonempty

theorem flag_places (element : Element) (name : String) {location : Location}
    (place : location.isWritable = true) :
    Guarantees (fun _ => True) (flag element name location) := by
  unfold flag
  split
  next => trivial
  next =>
    split_ifs
    · trivial
    · trivial
    · exact place

theorem allFilled_textsOf (element : Element) (tag : String) : AllFilled (element.textsOf tag) := by
  intro text mem
  obtain ⟨trims, nonempty⟩ := List.mem_filter.mp mem
  obtain ⟨child, -, rfl⟩ := List.mem_map.mp trims
  exact filled_trim (of_decide_eq_true nonempty)

theorem filled_of_bodyOf {element : Element} {blank body : String} (whole : Filled blank)
    (h : bodyOf element blank = some body) : Filled body := by
  obtain ⟨child, -, rfl⟩ := Option.map_eq_some_iff.mp h
  split
  next => exact whole
  next nonempty => exact filled_trim nonempty

theorem loadedHead (element : Element) {location : Location} (place : location.isWritable = true) :
    LoadedHead (element.trimmedAttribute "vis") (element.textsOf "attr") location :=
  ⟨trim_trim _, allFilled_textsOf element "attr", place⟩

theorem genericParam_loaded {element : Element} {enclosing : Location} {param : GenericParam}
    (h : genericParam element enclosing = .ok param) : param.Loaded := by
  obtain ⟨location, -, h⟩ := bind_eq_ok.mp h
  obtain ⟨keyword, -, h⟩ := bind_eq_ok.mp h
  simp only at h
  split at h
  next => cases h
  next kind _ =>
    split_ifs at h with const
    · obtain ⟨constType, typed, h⟩ := bind_eq_ok.mp h
      obtain ⟨type, read, rfl⟩ := map_eq_ok.mp typed
      obtain ⟨name, named, last⟩ := bind_eq_ok.mp h
      cases last
      exact ⟨filled_of_required named, fun _ => isPart_of_mem_splitList, by simp [const],
        fun _ mem => Option.some.inj mem ▸ filled_of_required read⟩
    · obtain ⟨_, untyped, h⟩ := bind_eq_ok.mp h
      cases untyped
      obtain ⟨name, named, last⟩ := bind_eq_ok.mp h
      cases last
      exact ⟨filled_of_required named, fun _ => isPart_of_mem_splitList, by simp [const], nofun⟩

theorem isMade_of_genericParam {element : Element} {enclosing : Location} {param : GenericParam}
    (h : genericParam element enclosing = .ok param) : param.IsMade :=
  (genericParam_loaded h).isMade

theorem genericParam_places (element : Element) {enclosing : Location}
    (place : enclosing.isWritable = true) :
    Guarantees (fun _ => True) (genericParam element enclosing) := by
  refine (locationOf_writable element place).bind fun location place => ?_
  refine (required_filled element "kind" place).bind fun keyword _ => ?_
  -- Whether the type is read in front of the name depends on the kind.
  simp only
  split
  next => exact place
  next kind _ =>
    split_ifs
    · have type : Guarantees (fun _ => True) (some <$> required element "type" location) :=
        (required_filled element "type" place).map fun _ _ => trivial
      refine type.bind fun _ _ => ?_
      exact (required_filled element "name" place).bind fun _ _ => trivial
    · rw [pure_bind]
      exact (required_filled element "name" place).bind fun _ _ => trivial

theorem generics_loaded (element : Element) {location : Location}
    (place : location.isWritable = true) :
    Guarantees Generics.Loaded (generics element location) :=
  have loaded : ∀ child, Guarantees GenericParam.Loaded (genericParam child location) :=
    fun child => (genericParam_places child place).of_ok fun _ read => genericParam_loaded read
  (Guarantees.mapM fun child _ => loaded child).bind fun _ loaded =>
    ⟨loaded, allFilled_textsOf element "where"⟩

theorem optional_reads {α : Type} {P : α → Prop} {read : Element → Except Error α}
    {child : Option Element} (h : ∀ element, Guarantees P (read element)) :
    Guarantees (fun found => ∀ value ∈ found, P value) (optional read child) := by
  cases child with
  | none => exact nofun
  | some element => exact (h element).map fun _ here _ mem => Option.some.inj mem ▸ here

theorem receiver_places (element : Element) {enclosing : Location}
    (place : enclosing.isWritable = true) :
    Guarantees (fun _ => True) (receiver element enclosing) := by
  refine (locationOf_writable element place).bind fun location place => ?_
  simp only
  split_ifs
  · refine (flag_places element "ref" place).bind fun _ _ => ?_
    exact (flag_places element "mut" place).bind fun _ _ => trivial
  · exact (flag_places element "mut" place).bind fun _ _ => trivial

theorem parameter_loaded (element : Element) {enclosing : Location}
    (place : enclosing.isWritable = true) :
    Guarantees Parameter.Loaded (parameter element enclosing) := by
  refine (locationOf_writable element place).bind fun location place => ?_
  simp only
  split_ifs
  · exact place
  refine (required_filled element "type" place).bind fun _ typed => ?_
  refine (flag_places element "mut" place).bind fun _ _ => ?_
  exact (flag_places element "ref" place).bind fun _ _ => ⟨trim_trim _, typed, place⟩

theorem variadic_writable (element : Element) {enclosing : Location}
    (place : enclosing.isWritable = true) :
    Guarantees (·.location.isWritable = true) (variadic element enclosing) :=
  (locationOf_writable element place).bind fun _ place => place

theorem filled_of_output {child : Option Element} {type : String}
    (h : (child.map Element.trimmedText).filter (· ≠ "") = some type) : Filled type := by
  obtain ⟨text, nonempty⟩ := Option.filter_eq_some_iff.mp h
  obtain ⟨element, -, rfl⟩ := Option.map_eq_some_iff.mp text
  exact filled_trim (of_decide_eq_true nonempty)

theorem signature_loaded (element : Element) {location : Location}
    (place : location.isWritable = true) :
    Guarantees Signature.Loaded (signature element location) := by
  refine (optional_reads fun child => receiver_places child place).bind fun _ _ => ?_
  refine (Guarantees.mapM fun child _ => parameter_loaded child place).bind fun _ params => ?_
  refine (optional_reads fun child => variadic_writable child place).bind fun _ variadic => ?_
  refine (required_filled element "name" place).bind fun _ name => ?_
  refine (generics_loaded element place).bind fun _ generics => ?_
  refine (flag_places element "async" place).bind fun _ _ => ?_
  refine (flag_places element "unsafe" place).bind fun _ _ => ?_
  exact (flag_places element "const" place).bind fun _ _ =>
    ⟨name, generics, params, variadic, fun _ => filled_of_output⟩

theorem callable_loaded (element : Element) {location : Location}
    (place : location.isWritable = true) :
    Guarantees Callable.Loaded (callable element location) :=
  (signature_loaded element place).bind fun _ signature =>
    ⟨loadedHead element place, signature, fun _ => filled_of_bodyOf (by decide)⟩

theorem struct_loaded (element : Element) {location : Location}
    (place : location.isWritable = true) :
    Guarantees StructDecl.Loaded (struct element location) := by
  have semicolon : Filled ";" := by decide
  have body : Filled ((bodyOf element ";").getD ";") := by
    cases written : bodyOf element ";" with
    | none => exact semicolon
    | some body => exact filled_of_bodyOf semicolon written
  refine (required_filled element "name" place).bind fun _ name => ?_
  exact (generics_loaded element place).bind fun _ generics =>
    ⟨loadedHead element place, name, generics, body⟩

theorem module_loaded (element : Element) {location : Location}
    (place : location.isWritable = true) :
    Guarantees ModuleDecl.Loaded (module element location) := by
  refine (required_filled element "name" place).bind fun _ name => ?_
  exact (flag_places element "unsafe" place).bind fun _ _ =>
    ⟨loadedHead element place, name, fun _ => filled_of_bodyOf (by decide)⟩

theorem use_loaded (element : Element) {location : Location}
    (place : location.isWritable = true) :
    Guarantees UseDecl.Loaded (use element location) := by
  refine (required_filled element "tree" place).bind fun text _ => ?_
  split
  next => exact place
  next recognized => exact ⟨loadedHead element place, text, recognized⟩

theorem declaration_loaded (kind : EntryKind) (element : Element) {location : Location}
    (place : location.isWritable = true) :
    Guarantees Declaration.Loaded (declaration kind element location) := by
  cases kind with
  | function => exact (callable_loaded element place).map fun _ loaded => loaded
  | traitFunction => exact (callable_loaded element place).map fun _ loaded => loaded
  | struct => exact (struct_loaded element place).map fun _ loaded => loaded
  | module => exact (module_loaded element place).map fun _ loaded => loaded
  | use => exact (use_loaded element place).map fun _ loaded => loaded
  | unknown => exact place

theorem entry_loaded (element : Element) :
    Guarantees (fun read => read.optionsLocation.isWritable = true ∧ read.declaration.Loaded)
      (entry element) := by
  refine (locationOf_writable element (by decide)).bind fun location place => ?_
  split
  next => exact place
  next =>
    refine (statedLocation_writable element "options-").bind fun apart writable => ?_
    refine (declaration_loaded _ element place).bind fun _ loaded => ⟨?_, loaded⟩
    cases apart with
    | none => exact place
    | some location => exact writable location rfl

theorem entries_loaded (root : Element) :
    Guarantees (fun loaded => ∀ entry ∈ loaded,
      entry.optionsLocation.isWritable = true ∧ entry.declaration.Loaded) (entries root) := by
  unfold entries
  split_ifs
  · exact Guarantees.mapM fun element _ => entry_loaded element
  · exact (by decide : Location.unstated.isWritable = true)

theorem loaded_of_entries {root : Element} {loaded : List Entry} (h : entries root = .ok loaded)
    {entry : Entry} (mem : entry ∈ loaded) : entry.Loaded := by
  have known := entries_loaded root
  rw [h] at known
  exact ⟨fits_of_entries h mem, (known entry mem).1, (known entry mem).2⟩

theorem wellFormed_of_entries {root : Element} {loaded : List Entry}
    (h : entries root = .ok loaded) {entry : Entry} (mem : entry ∈ loaded) : entry.WellFormed :=
  ⟨fits_of_entries h mem, (loaded_of_entries h mem).declaration.wellFormed⟩

theorem isWritable_of_entries {root : Element} {error : Error} (h : entries root = .error error) :
    error.location.isWritable = true := by
  have writable := entries_loaded root
  rwa [h] at writable

end Manifest

def Entry.IsFromManifest (entry : Entry) : Prop :=
  ∃ root loaded, Manifest.entries root = .ok loaded ∧ entry ∈ loaded

theorem Entry.IsFromManifest.loaded {entry : Entry} (known : entry.IsFromManifest) :
    entry.Loaded := by
  obtain ⟨root, loaded, read, mem⟩ := known
  exact Manifest.loaded_of_entries read mem

theorem Entry.IsFromManifest.wellFormed {entry : Entry} (known : entry.IsFromManifest) :
    entry.WellFormed := by
  obtain ⟨root, loaded, read, mem⟩ := known
  exact Manifest.wellFormed_of_entries read mem

end PlatformGate
