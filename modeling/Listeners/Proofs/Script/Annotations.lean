/-
What is seen of the classes of a source.

A decorator is a name, or a call of a name, or something else, and only in the first two cases
is it an annotation.  Which it is, and of which arguments, is said by `Decorator.Names` without
a view, and the annotations of a name that the view of a class has are then found among the
decorators of its elements by a filter.  The two lists go side by side: what is seen is one
annotation for each of these decorators, in the order in which they are written, each with the
member that its element is seen as.

Together with the addresses of classes this describes all views of a source: which classes there
are, in which order they come, and what is seen of each.
-/
import Listeners.Proofs.Script.Pieces
import Listeners.Script.Grammar
import Listeners.Source

namespace Listeners.Script

/-! ### Decorators as annotations -/

namespace Decorator

/-- Where a decorator begins. -/
def start : Decorator → Nat
  | .mk start _ => start

/-- The decorator is a name, or a call of a name with some arguments. -/
inductive Names : Decorator → String → List Argument → Prop where
  | bare (start : Nat) (name : String) : Names (.mk start (.identifier name)) name []
  | call (start : Nat) (name : String) (types : List Node) (arguments : List Argument) :
    Names (.mk start (.call (.identifier name) types arguments)) name arguments

/-- The decorator is a name or a call of it. -/
def IsNamed (name : String) (decorator : Decorator) : Prop :=
  ∃ arguments, decorator.Names name arguments

variable {source : List Char} {name : String} {decorator : Decorator} {note : View.Annotation}

/-- A decorator that is a name or a call of a name is seen with just its arguments, and no other
decorator is seen. -/
theorem view?_eq_some_iff :
    decorator.view? source = some note ↔
      ∃ arguments, decorator.Names note.name arguments ∧
        note.location = .ofOffset source decorator.start ∧
        note.arguments = arguments.map (Argument.view source) := by
  constructor
  · intro h
    unfold view? at h
    split at h
    · obtain rfl := Option.some.inj h
      exact ⟨[], .bare _ _, rfl, rfl⟩
    · obtain rfl := Option.some.inj h
      exact ⟨_, .call _ _ _ _, rfl, rfl⟩
    · cases h
  · obtain ⟨written, location, seen⟩ := note
    rintro ⟨arguments, hnames, hlocation, hseen⟩
    dsimp only at hnames hlocation hseen
    subst hlocation hseen
    cases hnames with
    | bare start => rfl
    | call start => rfl

theorem isNamed_iff (source : List Char) :
    decorator.IsNamed name ↔ ∃ note, decorator.view? source = some note ∧ note.name = name := by
  constructor
  · rintro ⟨arguments, hnames⟩
    let seen : View.Annotation :=
      ⟨name, .ofOffset source decorator.start, arguments.map (Argument.view source)⟩
    exact ⟨seen, view?_eq_some_iff.mpr ⟨arguments, hnames, rfl, rfl⟩, rfl⟩
  · rintro ⟨note, hview, rfl⟩
    obtain ⟨arguments, hnames, -⟩ := view?_eq_some_iff.mp hview
    exact ⟨arguments, hnames⟩

instance : DecidablePred (IsNamed name) := fun decorator =>
  decidable_of_iff ((decorator.view? []).any (·.name == name)) <| by
    simp [isNamed_iff [], Option.any_eq_true]

end Decorator

/-! ### The decorators of the elements of a class -/

namespace Element

/-- The decorators of an element.  Only elements with a key have any. -/
def decorators : Element → List Decorator
  | .member _ _ decorators _ _ => decorators
  | .staticBlock _ | .indexSignature _ => []

def key? : Element → Option Key
  | .member _ _ _ key _ => some key
  | .staticBlock _ | .indexSignature _ => none

/-- A member has a name if its key is an identifier or a string, and then this. -/
theorem name_eq_some_iff {source : List Char} {element : Element} {member : View.Member}
    (h : element.view? source = some member) {text : String} :
    member.name = some text ↔
      element.key? = some (.identifier text) ∨ element.key? = some (.string text) := by
  cases element with
  | member start sort decorators key parts =>
      obtain rfl := Option.some.inj h
      cases key <;> simp [key?, Key.memberName?]
  | staticBlock body => cases h
  | indexSignature parts => cases h

/-- Whatever has a decorator is seen as a member. -/
theorem exists_view?_of_mem {element : Element} {decorator : Decorator}
    (h : decorator ∈ element.decorators) (source : List Char) :
    ∃ member, element.view? source = some member := by
  cases element with
  | member start sort decorators key parts => exact ⟨_, rfl⟩
  | staticBlock body => simp [decorators] at h
  | indexSignature parts => simp [decorators] at h

end Element

namespace Class

def elements : Class → List Element
  | .mk _ _ _ _ elements => elements

/-- The decorators of the elements of a class, each with its element, in the order in which they
are written. -/
def decorated (declaration : Class) : List (Element × Decorator) :=
  declaration.elements.flatMap fun element => element.decorators.map (element, ·)

theorem mem_decorators_of_mem_decorated {declaration : Class} {element : Element}
    {decorator : Decorator} (h : (element, decorator) ∈ declaration.decorated) :
    decorator ∈ element.decorators := by
  obtain ⟨_, -, hpair⟩ := List.mem_flatMap.mp h
  obtain ⟨_, hdecorator, heq⟩ := List.mem_map.mp hpair
  obtain ⟨rfl, rfl⟩ := Prod.mk.inj heq
  exact hdecorator

/-- What is seen of a decorator of an element, if it is an annotation of a name. -/
def see? (source : List Char) (name : String) (written : Element × Decorator) :
    Option (View.Member × View.Annotation) :=
  (written.1.view? source).bind fun member =>
    ((written.2.view? source).filter (·.name == name)).map (member, ·)

/-- The annotations of a class are found decorator by decorator. -/
theorem annotationsNamed_view (source : List Char) (name : String) (declaration : Class) :
    (declaration.view source).annotationsNamed name =
      declaration.decorated.filterMap (see? source name) := by
  obtain ⟨start, className, decorators, heritage, elements⟩ := declaration
  show ((elements.filterMap (Element.view? source)).flatMap _) = _
  unfold decorated
  rw [List.filterMap_flatMap, List.filterMap_eq_flatMap_toList, List.flatMap_assoc]
  refine List.flatMap_congr fun element _ => ?_
  rw [List.filterMap_map]
  -- What is not seen as a member has no decorators either.
  cases element with
  | member start sort decorators key parts =>
      rw [Element.view?, Option.toList_some, List.flatMap_singleton, List.filter_filterMap,
        List.map_filterMap]
      rfl
  | staticBlock body => rfl
  | indexSignature parts => rfl

end Class

/-! ### What is written and what is seen -/

/-- An annotation of a name, as the decorator of an element, and what is seen of it. -/
structure IsSeen (source : List Char) (name : String) (written : Element × Decorator)
    (seen : View.Member × View.Annotation) : Prop where
  member : written.1.view? source = some seen.1
  memberName : ∀ text, seen.1.name = some text ↔
    written.1.key? = some (.identifier text) ∨ written.1.key? = some (.string text)
  named : seen.2.name = name
  location : seen.2.location = .ofOffset source written.2.start
  arguments : ∃ arguments, written.2.Names name arguments ∧
    seen.2.arguments = arguments.map (Argument.view source)

/-- What is kept of a list, side by side with what becomes of it. -/
theorem forall₂_filter_filterMap {α β : Type} {R : α → β → Prop} {p : α → Bool}
    {f : α → Option β} {items : List α}
    (h : ∀ item ∈ items, if p item then ∃ b, f item = some b ∧ R item b else f item = none) :
    List.Forall₂ R (items.filter p) (items.filterMap f) := by
  induction items with
  | nil => exact .nil
  | cons item items ih =>
      have hrest := ih fun other hother => h other (List.mem_cons_of_mem item hother)
      have hitem := h item List.mem_cons_self
      by_cases hp : p item = true
      · rw [if_pos hp] at hitem
        obtain ⟨b, hb, hR⟩ := hitem
        rw [List.filter_cons_of_pos hp, List.filterMap_cons_some hb]
        exact .cons hR hrest
      · rw [if_neg hp] at hitem
        rw [List.filter_cons_of_neg hp, List.filterMap_cons_none hitem]
        exact hrest

/-- **The annotations of a class** are the decorators of its elements that are the name or a call
of it, one for one. -/
theorem Class.forall₂_isSeen (source : List Char) (name : String) (declaration : Class) :
    List.Forall₂ (IsSeen source name)
      (declaration.decorated.filter fun written => written.2.IsNamed name)
      ((declaration.view source).annotationsNamed name) := by
  rw [annotationsNamed_view]
  refine forall₂_filter_filterMap fun ⟨element, decorator⟩ hmem => ?_
  obtain ⟨member, hmember⟩ :=
    Element.exists_view?_of_mem (mem_decorators_of_mem_decorated hmem) source
  by_cases hnamed : decorator.IsNamed name
  · obtain ⟨note, hview, rfl⟩ := (Decorator.isNamed_iff source).mp hnamed
    obtain ⟨arguments, hnames, hlocation, harguments⟩ := Decorator.view?_eq_some_iff.mp hview
    rw [if_pos (by simpa using hnamed)]
    refine ⟨(member, note), by simp [see?, hmember, hview], ?_⟩
    exact ⟨hmember, fun text => Element.name_eq_some_iff hmember, rfl, hlocation, arguments,
      hnames, harguments⟩
  · rw [if_neg (by simpa using hnamed)]
    have hnone : (decorator.view? source).filter (·.name == name) = none := by
      rw [Option.filter_eq_none_iff]
      intro note hview hname
      exact hnamed ((Decorator.isNamed_iff source).mpr ⟨note, hview, by simpa using hname⟩)
    simp [see?, hmember, hnone]

end Listeners.Script

namespace Listeners.Source

/-- A class with one in the type of a parameter and another one in the body of the method, and in
that an annotation of a method with a quoted name. -/
def nested : Source where
  path := "a.ts"
  text := "class A \x7b make(key: \x7b [class \x7b\x7d]: 1 \x7d) \x7b " ++
    "return class \x7b @Listen('blur') 'on'() \x7b\x7d \x7d \x7d \x7d"

end Listeners.Source
