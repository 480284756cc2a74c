/-
Where the classes of a program stand.

The tree of a program is made of nodes, properties, keys, arguments, classes, decorators and
elements, which contain each other, and the classes are gathered by as many functions that call
each other.  Here all of these are pieces.  A piece has parts, in the order in which they are
written, and an address says which part to go into, then which part of that, and so on.  Two
pieces are at different addresses even if they look the same, so to say that every class is
listed once is to say that every address of a class is.

A piece has the classes of its parts, and before them itself if it is a class (`classes_eq`).  That
is all that is needed of the functions that gather them; the rest is one induction over pieces.
-/
import Listeners.Script.Classes
import Mathlib.Data.List.Sort

namespace Listeners.Script

/-- Anything in the tree of a program. -/
inductive Piece where
  | ofNode (node : Node)
  | ofProperty (property : Property)
  | ofKey (key : Key)
  | ofArgument (argument : Argument)
  | ofClass (declaration : Class)
  | ofDecorator (decorator : Decorator)
  | ofElement (element : Element)

namespace Piece

/-- What a piece is made of, in the order in which it is written. -/
def parts : Piece → List Piece
  | ofNode (.object properties) => properties.map ofProperty
  | ofNode (.parenthesized inner) => [ofNode inner]
  | ofNode (.negation operand) => [ofNode operand]
  | ofNode (.call callee types arguments) =>
    ofNode callee :: (types.map ofNode ++ arguments.map ofArgument)
  | ofNode (.ofClass declaration) => [ofClass declaration]
  | ofNode (.compound _ parts) => parts.map ofNode
  | ofNode (.null) | ofNode (.boolean _) | ofNode (.number _) | ofNode (.string _)
  | ofNode (.identifier _) => []
  | ofProperty (.entry key value) => [ofKey key, ofNode value]
  | ofProperty (.method key parts) | ofProperty (.accessor key parts) =>
    ofKey key :: parts.map ofNode
  | ofProperty (.spread value) => [ofNode value]
  | ofKey (.computed expression) => [ofNode expression]
  | ofKey (.identifier _) | ofKey (.string _) | ofKey (.number _) | ofKey (.bigint)
  | ofKey (.privateName _) => []
  | ofArgument (.mk _ _ value) => [ofNode value]
  | ofClass (.mk _ _ decorators heritage elements) =>
    decorators.map ofDecorator ++ heritage.map ofNode ++ elements.map ofElement
  | ofDecorator (.mk _ expression) => [ofNode expression]
  | ofElement (.member _ _ decorators key parts) =>
    decorators.map ofDecorator ++ ofKey key :: parts.map ofNode
  | ofElement (.staticBlock parts) | ofElement (.indexSignature parts) => parts.map ofNode

/-- The piece at an address. -/
def at? : Piece → List Nat → Option Piece
  | piece, [] => some piece
  | piece, i :: address => piece.parts[i]?.bind (·.at? address)

/-- The class that a piece is, if it is one. -/
def class? : Piece → Option Class
  | ofClass declaration => some declaration
  | ofNode _ | ofProperty _ | ofKey _ | ofArgument _ | ofDecorator _ | ofElement _ => none

/-- The class at an address, if there is one. -/
def classAt? (piece : Piece) (address : List Nat) : Option Class :=
  (piece.at? address).bind class?

/-- The classes in a piece. -/
def classes : Piece → List Class
  | ofNode node => node.classes
  | ofProperty property => property.classes
  | ofKey key => key.classes
  | ofArgument argument => argument.classes
  | ofClass declaration => declaration.classes
  | ofDecorator decorator => decorator.classes
  | ofElement element => element.classes

/-! ### The classes of a piece are those of its parts -/

/-- Classes that are gathered item by item are those of the items as pieces. -/
theorem gather_eq_flatMap {α : Type} (make : α → Piece) (gather : List α → List Class)
    (hnil : gather [] = [])
    (hcons : ∀ item items, gather (item :: items) = (make item).classes ++ gather items)
    (items : List α) : gather items = (items.map make).flatMap classes := by
  induction items with
  | nil => exact hnil
  | cons item items ih => rw [hcons, ih, List.map_cons, List.flatMap_cons]

/-- **The classes of a piece** are the piece itself, if it is a class, and then those of its parts
in their order. -/
theorem classes_eq (piece : Piece) :
    piece.classes = piece.class?.toList ++ piece.parts.flatMap classes := by
  have hnodes := gather_eq_flatMap ofNode classesOfNodes rfl fun _ _ => rfl
  have hproperties := gather_eq_flatMap ofProperty classesOfProperties rfl fun _ _ => rfl
  have harguments := gather_eq_flatMap ofArgument classesOfArguments rfl fun _ _ => rfl
  have hdecorators := gather_eq_flatMap ofDecorator classesOfDecorators rfl fun _ _ => rfl
  have helements := gather_eq_flatMap ofElement classesOfElements rfl fun _ _ => rfl
  cases piece with
  | ofNode node =>
      cases node <;> simp [classes, class?, parts, Node.classes, hnodes, hproperties, harguments]
  | ofProperty property =>
      cases property <;> simp [classes, class?, parts, Property.classes, hnodes]
  | ofKey key => cases key <;> simp [classes, class?, parts, Key.classes]
  | ofArgument argument => cases argument; simp [classes, class?, parts, Argument.classes]
  | ofClass declaration =>
      cases declaration
      simp [classes, class?, parts, Class.classes, hnodes, hdecorators, helements]
  | ofDecorator decorator => cases decorator; simp [classes, class?, parts, Decorator.classes]
  | ofElement element =>
      cases element <;> simp [classes, class?, parts, Element.classes, hnodes, hdecorators]

/-! ### Induction over pieces -/

/-- A part is smaller than the piece. -/
theorem sizeOf_lt_of_mem_parts {piece part : Piece} (h : part ∈ piece.parts) :
    sizeOf part < sizeOf piece := by
  -- Most parts are the items of a list, and an item is smaller than its list.
  have hmap {α : Type} [SizeOf α] (make : α → Piece) (hmake : ∀ a, sizeOf (make a) = 1 + sizeOf a)
      (items : List α) (h : part ∈ items.map make) : sizeOf part < 1 + sizeOf items := by
    obtain ⟨item, hitem, rfl⟩ := List.mem_map.mp h
    have hlt := List.sizeOf_lt_of_mem hitem
    have hsize := hmake item
    omega
  have hnodes := hmap ofNode fun _ => rfl
  have hproperties := hmap ofProperty fun _ => rfl
  have harguments := hmap ofArgument fun _ => rfl
  have hdecorators := hmap ofDecorator fun _ => rfl
  have helements := hmap ofElement fun _ => rfl
  cases piece with
  | ofNode node => cases node <;> grind [parts]
  | ofProperty property => cases property <;> grind [parts]
  | ofKey key => cases key <;> grind [parts]
  | ofArgument argument => cases argument; grind [parts]
  | ofClass declaration => cases declaration; grind [parts]
  | ofDecorator decorator => cases decorator; grind [parts]
  | ofElement element => cases element <;> grind [parts]

/-- What holds of a piece if it holds of its parts holds of every piece. -/
theorem induction {motive : Piece → Prop}
    (step : ∀ piece : Piece, (∀ part ∈ piece.parts, motive part) → motive piece)
    (piece : Piece) : motive piece :=
  step piece fun part _ => induction step part
termination_by sizeOf piece
decreasing_by exact sizeOf_lt_of_mem_parts ‹_›

/-! ### Addresses -/

theorem at?_append (piece : Piece) (outer inner : List Nat) :
    piece.at? (outer ++ inner) = (piece.at? outer).bind (·.at? inner) := by
  induction outer generalizing piece with
  | nil => rfl
  | cons i outer ih =>
      rw [List.cons_append, at?, at?, Option.bind_assoc]
      exact congrArg piece.parts[i]?.bind (funext ih)

theorem classAt?_eq_some_iff {piece : Piece} {address : List Nat} {declaration : Class} :
    piece.classAt? address = some declaration ↔ piece.at? address = some (ofClass declaration) := by
  rw [classAt?, Option.bind_eq_some_iff]
  constructor
  · rintro ⟨found, hfound, hclass⟩
    cases found <;> simp_all [class?]
  · intro h
    exact ⟨_, h, rfl⟩

/-- A class inside of a class at an address is at an address that goes on from there. -/
theorem classAt?_append {piece : Piece} {outer inner : List Nat} {declaration : Class}
    (h : piece.classAt? outer = some declaration) :
    piece.classAt? (outer ++ inner) = (ofClass declaration).classAt? inner := by
  rw [classAt?, at?_append, classAt?_eq_some_iff.mp h]
  rfl

theorem classAt?_nil (piece : Piece) : piece.classAt? [] = piece.class? := rfl

theorem classAt?_cons_eq_some_iff {piece : Piece} {i : Nat} {address : List Nat}
    {declaration : Class} :
    piece.classAt? (i :: address) = some declaration ↔
      ∃ part, piece.parts[i]? = some part ∧ part.classAt? address = some declaration := by
  rw [classAt?, at?, Option.bind_assoc, Option.bind_eq_some_iff]
  rfl

/-- The classes of a piece with their addresses: each once, in the order of the addresses. -/
structure Lists (piece : Piece) (listing : List (List Nat × Class)) : Prop where
  mem_iff : ∀ address declaration, (address, declaration) ∈ listing ↔
    piece.classAt? address = some declaration
  ordered : listing.Pairwise fun one two => one.1 < two.1
  map_snd : listing.map Prod.snd = piece.classes

theorem lt_append {inner : List Nat} (h : inner ≠ []) (outer : List Nat) :
    outer < outer ++ inner := by
  induction outer with
  | nil =>
      obtain ⟨i, rest, rfl⟩ := List.exists_cons_of_ne_nil h
      exact List.nil_lt_cons i rest
  | cons i outer ih => exact List.cons_lt_cons_self.mpr ih

/-- A class stands before the classes inside of it. -/
theorem Lists.sublist {piece : Piece} {listing : List (List Nat × Class)} (h : piece.Lists listing)
    {outer inner : List Nat} {declaration nested : Class} (hmem : (outer, declaration) ∈ listing)
    (hinner : inner ≠ []) (hnested : (ofClass declaration).classAt? inner = some nested) :
    [(outer, declaration), (outer ++ inner, nested)].Sublist listing := by
  have hlater : (outer ++ inner, nested) ∈ listing := by
    rw [h.mem_iff, classAt?_append ((h.mem_iff _ _).mp hmem)]
    exact hnested
  have hordered : [(outer, declaration), (outer ++ inner, nested)].Pairwise
      fun one two => one.1 < two.1 := by
    simpa using lt_append hinner outer
  have : Std.Antisymm fun one two : List Nat × Class => one.1 < two.1 :=
    ⟨fun one two hone htwo => absurd htwo (List.lt_asymm hone)⟩
  refine List.sublist_of_subperm_of_pairwise ?_ hordered h.ordered
  refine List.subperm_of_subset ?_ ?_
  · simp [hinner]
  · simp [hmem, hlater]

/-- The classes of several parts with their addresses, where the first part has a given number. -/
structure ListsFrom (first : Nat) (parts : List Piece) (listing : List (List Nat × Class)) :
    Prop where
  mem_iff : ∀ address declaration, (address, declaration) ∈ listing ↔
    ∃ i part rest, address = (first + i) :: rest ∧ parts[i]? = some part ∧
      part.classAt? rest = some declaration
  ordered : listing.Pairwise fun one two => one.1 < two.1
  map_snd : listing.map Prod.snd = parts.flatMap classes

theorem listsFrom_nil (first : Nat) : ListsFrom first [] [] where
  mem_iff := by simp
  ordered := List.Pairwise.nil
  map_snd := rfl

/-- The classes of the first part come first. -/
theorem Lists.cons {first : Nat} {part : Piece} {parts : List Piece}
    {listing rest : List (List Nat × Class)} (hpart : part.Lists listing)
    (hrest : ListsFrom (first + 1) parts rest) :
    ListsFrom first (part :: parts)
      (listing.map (fun entry => (first :: entry.1, entry.2)) ++ rest) where
  mem_iff := by
    intro address declaration
    rw [List.mem_append, hrest.mem_iff, List.mem_map]
    constructor
    · rintro (⟨⟨inner, _⟩, hmem, hentry⟩ | ⟨i, found, inner, rfl, hi, hfound⟩)
      · obtain ⟨rfl, rfl⟩ := Prod.mk.inj hentry
        exact ⟨0, part, inner, rfl, rfl, (hpart.mem_iff _ _).mp hmem⟩
      · exact ⟨i + 1, found, inner, by rw [Nat.add_assoc, Nat.add_comm 1 i], hi, hfound⟩
    · rintro ⟨i, found, inner, rfl, hi, hfound⟩
      cases i with
      | zero =>
          obtain rfl : part = found := Option.some.inj hi
          exact Or.inl ⟨(inner, declaration), (hpart.mem_iff _ _).mpr hfound, rfl⟩
      | succ i =>
          exact Or.inr ⟨i, found, inner, by rw [Nat.add_assoc, Nat.add_comm 1 i], hi, hfound⟩
  ordered := by
    rw [List.pairwise_append, List.pairwise_map]
    refine ⟨?_, hrest.ordered, ?_⟩
    · exact hpart.ordered.imp fun hlt => List.cons_lt_cons_self.mpr hlt
    · rintro _ hone ⟨address, declaration⟩ htwo
      obtain ⟨entry, -, rfl⟩ := List.mem_map.mp hone
      obtain ⟨i, found, inner, rfl, -, -⟩ := (hrest.mem_iff _ _).mp htwo
      exact List.cons_lt_cons_iff.mpr (Or.inl (by omega))
  map_snd := by
    rw [List.map_append, List.map_map, List.flatMap_cons, hrest.map_snd, ← hpart.map_snd]
    rfl

theorem exists_listsFrom {parts : List Piece} (h : ∀ part ∈ parts, ∃ listing, part.Lists listing)
    (first : Nat) : ∃ listing, ListsFrom first parts listing := by
  induction parts generalizing first with
  | nil => exact ⟨[], listsFrom_nil first⟩
  | cons part parts ih =>
      obtain ⟨listing, hpart⟩ := h part (by simp)
      obtain ⟨rest, hrest⟩ := ih (fun other hother => h other (by simp [hother])) (first + 1)
      exact ⟨_, hpart.cons hrest⟩

/-- A piece stands before its parts. -/
theorem ListsFrom.of_parts {piece : Piece} {listing : List (List Nat × Class)}
    (h : ListsFrom 0 piece.parts listing) :
    piece.Lists (piece.class?.toList.map (fun declaration => ([], declaration)) ++ listing) where
  mem_iff := by
    intro address declaration
    rw [List.mem_append, h.mem_iff]
    cases address with
    | nil => simp [classAt?_nil]
    | cons i address =>
        rw [classAt?_cons_eq_some_iff]
        simp
  ordered := by
    rw [List.pairwise_append]
    refine ⟨?_, h.ordered, ?_⟩
    · cases piece.class? <;> simp
    · rintro _ hone ⟨address, declaration⟩ htwo
      obtain ⟨_, -, rfl⟩ := List.mem_map.mp hone
      obtain ⟨i, part, rest, rfl, -, -⟩ := (h.mem_iff _ _).mp htwo
      exact List.nil_lt_cons _ _
  map_snd := by
    rw [List.map_append, List.map_map, h.map_snd, piece.classes_eq]
    simp [Function.comp_def]

/-- **The classes of a piece** are listed with their addresses, each once and in the order of
these. -/
theorem exists_lists (piece : Piece) : ∃ listing, piece.Lists listing := by
  refine induction (motive := fun piece => ∃ listing, piece.Lists listing) ?_ piece
  intro piece ih
  obtain ⟨listing, hparts⟩ := exists_listsFrom ih 0
  exact ⟨_, hparts.of_parts⟩

end Piece

/-- A program as a piece. -/
def Program.root (program : Program) : Piece := .ofNode (.compound .statement program.statements)

end Listeners.Script
