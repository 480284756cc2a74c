/-
Which arguments an annotation is read from.

Of the arguments two at most are looked at: the first string, for the names, and the first object
behind it, for the options.  Each of the two is a search for a least index, and the second search
begins where the first has ended.  The program finds both on one way through the arguments.

What follows from this is that the other arguments do not matter.  There may be objects in
front of the string, more strings behind it, other arguments anywhere and objects behind the
object that is read.  None of them is evaluated, so an object among them may be one that cannot
be.  Two annotations at the same place ask for the same if the same string is the first in both
and the same object, or none, is the first behind it.
-/
import Listeners.Proofs.Pass

namespace Listeners

/-! ### The first of its kind -/

/-- The least index from a start on at which a partial function has a value in a list, and
that value. -/
structure IsFirst {α β : Type} (f : α → Option β) (l : List α) (start i : Nat) (b : β) : Prop where
  start_le : start ≤ i
  value : l[i]?.bind f = some b
  before : ∀ k, start ≤ k → k < i → l[k]?.bind f = none

namespace IsFirst

variable {α β : Type} {f : α → Option β} {l : List α} {start i j : Nat} {a b : β}

theorem le (h : IsFirst f l start i a) (hother : IsFirst f l start j b) : i ≤ j := by
  refine Nat.le_of_not_lt fun hlt => ?_
  have hnone := h.before j hother.start_le hlt
  rw [hother.value] at hnone
  cases hnone

theorem unique (h : IsFirst f l start i a) (hother : IsFirst f l start j b) : j = i ∧ b = a := by
  obtain rfl : j = i := Nat.le_antisymm (hother.le h) (h.le hother)
  exact ⟨rfl, Option.some.inj (hother.value.symm.trans h.value)⟩

/-- What is searched through in vain, and where the search ends. -/
theorem append_cons {before after : List α} {x : α} (hbefore : ∀ y ∈ before, f y = none)
    (hx : f x = some b) (front : List α) :
    IsFirst f (front ++ (before ++ x :: after)) front.length (front.length + before.length)
      b where
  start_le := Nat.le_add_right ..
  value := by
    rw [List.getElem?_append_right (by omega), List.getElem?_append_right (by omega)]
    simpa using hx
  before k hstart hk := by
    rw [List.getElem?_append_right hstart, List.getElem?_append_left (by omega)]
    cases hy : before[k - front.length]? with
    | none => rfl
    | some y => exact hbefore y (List.mem_of_getElem? hy)

/-- The list around its first. -/
theorem eq_append (h : IsFirst f l 0 i b) :
    ∃ x, l = l.take i ++ x :: l.drop (i + 1) ∧ f x = some b ∧ ∀ y ∈ l.take i, f y = none := by
  obtain ⟨x, hx, hvalue⟩ := Option.bind_eq_some_iff.mp h.value
  obtain ⟨hi, rfl⟩ := List.getElem?_eq_some_iff.mp hx
  refine ⟨l[i], ?_, hvalue, fun y hy => ?_⟩
  · rw [← List.drop_eq_getElem_cons hi, List.take_append_drop]
  · obtain ⟨k, hk, rfl⟩ := List.mem_take_iff_getElem.mp hy
    have hnone := h.before k (Nat.zero_le k) (by omega)
    rwa [List.getElem?_eq_getElem (by omega), Option.bind_some] at hnone

end IsFirst

/-- There is a first exactly if the search from the start on finds its value. -/
theorem exists_isFirst_iff {α β : Type} {f : α → Option β} {l : List α} {start : Nat} {b : β} :
    (∃ i, IsFirst f l start i b) ↔ (l.drop start).findSome? f = some b := by
  have hfound : ∀ {b : β}, (l.drop start).findSome? f = some b → ∃ i, IsFirst f l start i b := by
    intro b h
    obtain ⟨before, x, after, hdrop, hx, hbefore⟩ := List.findSome?_eq_some_iff.mp h
    have hlength : (l.take start).length = start := by
      have hpos := congrArg List.length hdrop
      rw [List.length_drop, List.length_append, List.length_cons] at hpos
      exact List.length_take_of_le (by omega)
    have hfirst : IsFirst f (l.take start ++ (before ++ x :: after)) _ _ b :=
      IsFirst.append_cons hbefore hx (l.take start)
    rw [← hdrop, List.take_append_drop, hlength] at hfirst
    exact ⟨_, hfirst⟩
  refine ⟨?_, hfound⟩
  rintro ⟨i, h⟩
  cases hsearch : (l.drop start).findSome? f with
  | none =>
      obtain ⟨x, hx, hvalue⟩ := Option.bind_eq_some_iff.mp h.value
      have hget : (l.drop start)[i - start]? = some x := by
        rw [List.getElem?_drop, Nat.add_sub_of_le h.start_le, hx]
      rw [List.findSome?_eq_none_iff.mp hsearch x (List.mem_of_getElem? hget)] at hvalue
      cases hvalue
  | some found =>
      obtain ⟨j, hother⟩ := hfound hsearch
      rw [(h.unique hother).2]

namespace View

/-! ### The string and the object -/

/-- The string at an index is the first among the arguments.  The object is the first behind it, and
it is missing if there is none. -/
structure IsSelection (arguments : List Argument) (i : Nat) (text : String)
    (object : Option (List Property)) : Prop where
  text : IsFirst Argument.text? arguments 0 i text
  object : ∀ properties, object = some properties ↔
    ∃ j, IsFirst Argument.properties? arguments (i + 1) j properties

theorem isSelection_iff {arguments : List Argument} {i : Nat} {text : String}
    {object : Option (List Property)} :
    IsSelection arguments i text object ↔ IsFirst Argument.text? arguments 0 i text ∧
      object = (arguments.drop (i + 1)).findSome? Argument.properties? := by
  constructor
  · rintro ⟨htext, hobject⟩
    refine ⟨htext, Option.ext fun properties => ?_⟩
    rw [hobject, exists_isFirst_iff]
  · rintro ⟨htext, rfl⟩
    exact ⟨htext, fun properties => exists_isFirst_iff.symm⟩

theorem text?_eq_some_iff {note : Annotation} {text : String} :
    note.text? = some text ↔ ∃ i, IsFirst Argument.text? note.arguments 0 i text := by
  rw [exists_isFirst_iff]
  rfl

/-- The first string is no object, so it makes no difference whether the search for the object
begins at the string or behind it. -/
theorem object?_eq_of_isFirst {note : Annotation} {i : Nat} {text : String}
    (h : IsFirst Argument.text? note.arguments 0 i text) :
    note.object? = (note.arguments.drop (i + 1)).findSome? Argument.properties? := by
  obtain ⟨argument, heq, htext, hbefore⟩ := h.eq_append
  have hdrop : note.arguments.dropWhile (·.text?.isNone) =
      argument :: note.arguments.drop (i + 1) := by
    conv_lhs => rw [heq]
    rw [List.dropWhile_append_of_pos fun y hy => by rw [hbefore y hy]; rfl,
      List.dropWhile_cons_of_neg (by rw [htext]; simp)]
  have hproperties : argument.properties? = none := by
    cases argument with
    | string => rfl
    | object | other => cases htext
  unfold Annotation.object?
  rw [hdrop, List.findSome?_cons, hproperties]

/-- There is a string among the arguments exactly if something is selected. -/
theorem exists_string_iff {arguments : List Argument} :
    (∃ value location, Argument.string value location ∈ arguments) ↔
      ∃ i text object, IsSelection arguments i text object := by
  constructor
  · rintro ⟨value, location, hmem⟩
    cases hsearch : (arguments.drop 0).findSome? Argument.text? with
    | none =>
        have hnone := List.findSome?_eq_none_iff.mp hsearch _ hmem
        cases hnone
    | some text =>
        obtain ⟨i, hfirst⟩ := exists_isFirst_iff.mpr hsearch
        exact ⟨i, text, _, isSelection_iff.mpr ⟨hfirst, rfl⟩⟩
  · rintro ⟨i, text, object, h⟩
    obtain ⟨argument, hargument, hvalue⟩ := Option.bind_eq_some_iff.mp h.text.value
    cases argument with
    | string value location => exact ⟨value, location, List.mem_of_getElem? hargument⟩
    | object | other => cases hvalue

/-- What stands in front of the first string is not selected, and behind it nothing but the first
object is. -/
theorem isSelection_append {before : List Argument} (h : ∀ argument ∈ before, argument.text? = none)
    (text : String) (location : Location) (after : List Argument) :
    IsSelection (before ++ .string text location :: after) before.length text
      (after.findSome? Argument.properties?) := by
  have hstring : (Argument.string text location).text? = some text := rfl
  have hfirst : IsFirst Argument.text? ([] ++ (before ++ .string text location :: after)) 0
      (0 + before.length) text :=
    IsFirst.append_cons h hstring []
  rw [List.nil_append, Nat.zero_add] at hfirst
  refine isSelection_iff.mpr ⟨hfirst, ?_⟩
  rw [List.drop_append, List.drop_eq_nil_of_le (Nat.le_succ _), Nat.add_sub_cancel_left]
  rfl

/-! ### The request -/

section

variable {member : Member} {note other : Annotation}

/-- What is selected is what an annotation is read from. -/
theorem IsSelection.text?_object?_eq {i : Nat} {text : String} {object : Option (List Property)}
    (h : IsSelection note.arguments i text object) :
    note.text? = some text ∧ note.object? = object := by
  obtain ⟨htext, rfl⟩ := isSelection_iff.mp h
  exact ⟨text?_eq_some_iff.mpr ⟨i, htext⟩, object?_eq_of_isFirst htext⟩

/-- An annotation can be used if its member has a name and something is selected. -/
theorem exists_declaration?_iff :
    (∃ d, note.declaration? member = some d) ↔
      (∃ name, member.name = some name ∧ Text.trim name ≠ "") ∧
        ∃ i text object, IsSelection note.arguments i text object := by
  constructor
  · rintro ⟨d, h⟩
    obtain ⟨name, text, hname, hblank, htext, -⟩ := declaration?_eq_some_iff.mp h
    obtain ⟨i, hfirst⟩ := text?_eq_some_iff.mp htext
    exact ⟨⟨name, hname, hblank⟩, i, text, _, isSelection_iff.mpr ⟨hfirst, rfl⟩⟩
  · rintro ⟨⟨name, hname, hblank⟩, i, text, object, h⟩
    obtain ⟨htext, -⟩ := h.text?_object?_eq
    exact ⟨_, declaration?_eq_some_iff.mpr ⟨name, text, hname, hblank, htext, rfl⟩⟩

/-- An annotation that cannot be used asks for nothing, and no other does. -/
theorem request_eq_none_iff (collector : Collector) :
    (note.request member collector).1 = none ↔ ¬∃ d, note.declaration? member = some d := by
  cases h : note.declaration? member with
  | none => simp [request_of_declaration?_eq_none h]
  | some d =>
      obtain ⟨request, hrequest, -⟩ := request_of_declaration?_eq_some h collector
      simp [hrequest]

theorem request_of_not_exists (h : ¬∃ d, note.declaration? member = some d)
    (collector : Collector) : note.request member collector = (none, collector) :=
  request_of_declaration?_eq_none (Option.eq_none_iff_forall_ne_some.mpr fun d hd => h ⟨d, hd⟩)
    collector

/-- What an annotation of a method asks for is made of what it selects. -/
theorem request_of_isSelection {name text : String} {i : Nat} {object : Option (List Property)}
    (hname : member.name = some name) (hblank : Text.trim name ≠ "")
    (h : IsSelection note.arguments i text object) (collector : Collector) :
    let d : Declaration := ⟨Text.trim name, note.location, listedNames text, object⟩
    note.request member collector =
      (some ⟨bare text, d.method, d.written⟩,
        collector.record (d.optionsFault? collector.file).toList) := by
  obtain ⟨htext, rfl⟩ := h.text?_object?_eq
  exact request_of_text?_eq_some hname hblank htext collector

end

/-- **What an annotation is read from.**  It asks for something exactly if its member has a name,
other than blanks, and one of its arguments is a string.  Else nothing is recorded either.
If it does, the names are those of the first string, and the options are those of the
first object behind it.  Without such an object no options are written and nothing is recorded.  No
other argument matters: whatever is put in, taken out or replaced, as long as the same string is
the first and the same object the first behind it, the same is asked for and recorded. -/
theorem request_selection (member : Member) (note : Annotation) (collector : Collector) :
    ((∃ request, (note.request member collector).1 = some request) ↔
        (∃ name, member.name = some name ∧ Text.trim name ≠ "") ∧
          ∃ value location, Argument.string value location ∈ note.arguments) ∧
      ((note.request member collector).1 = none →
        note.request member collector = (none, collector)) ∧
      ((∃ value location, Argument.string value location ∈ note.arguments) ↔
        ∃ i text object, IsSelection note.arguments i text object) ∧
      (∀ name i text object, member.name = some name → Text.trim name ≠ "" →
        IsSelection note.arguments i text object →
          let d : Declaration := ⟨Text.trim name, note.location, listedNames text, object⟩
          note.request member collector =
              (some ⟨bare text, d.method, d.written⟩,
                collector.record (d.optionsFault? collector.file).toList) ∧
            (object = none → d.written = .none ∧ d.optionsFault? collector.file = none)) ∧
      ∀ other : Annotation, other.location = note.location →
        (∃ i j text object, IsSelection note.arguments i text object ∧
          IsSelection other.arguments j text object) →
        other.request member collector = note.request member collector := by
  refine ⟨?_, fun hnone => request_of_not_exists ((request_eq_none_iff collector).mp hnone) _,
    exists_string_iff, fun name i text object hname hblank h => ?_, ?_⟩
  · rw [← Option.ne_none_iff_exists', Ne, request_eq_none_iff, not_not, exists_declaration?_iff,
      exists_string_iff]
  · refine ⟨request_of_isSelection hname hblank h collector, ?_⟩
    rintro rfl
    exact ⟨rfl, rfl⟩
  · rintro other hlocation ⟨i, j, text, object, h, hother⟩
    by_cases hnamed : ∃ name, member.name = some name ∧ Text.trim name ≠ ""
    · obtain ⟨name, hname, hblank⟩ := hnamed
      rw [request_of_isSelection hname hblank h, request_of_isSelection hname hblank hother,
        hlocation]
    · have hunnamed : ∀ note : Annotation, ¬∃ d, note.declaration? member = some d :=
        fun note hd => hnamed (exists_declaration?_iff.mp hd).1
      rw [request_of_not_exists (hunnamed note), request_of_not_exists (hunnamed other)]

/-- Objects that cannot be evaluated stand in front of the string and behind the options. -/
theorem request_selection_crowded :
    let member : Member := ⟨some " save ", ⟨2, 3⟩, []⟩
    let unreadable : Argument := .object [.unsupported "spread"] ⟨1, 9⟩
    let names : Argument := .string "'click, blur'" ⟨1, 20⟩
    let flags : Argument := .object [.entry "capture" (.boolean true)] ⟨1, 40⟩
    let crowded : Annotation := ⟨"Listen", ⟨1, 1⟩, [unreadable, .other "call" ⟨1, 12⟩, names,
      .string "input" ⟨1, 30⟩, .other "name" ⟨1, 38⟩, flags, unreadable]⟩
    let plain : Annotation := ⟨"Listen", ⟨1, 1⟩, [names, flags]⟩
    let collector := Collector.empty "a.ts"
    plain.request member collector = crowded.request member collector ∧
      crowded.request member collector =
        (some ⟨"click,blur", "save", some true, none, none⟩, collector) := by
  intro member unreadable names flags crowded plain collector
  have hbefore : ∀ argument ∈ [unreadable, .other "call" ⟨1, 12⟩], argument.text? = none := by
    simp [unreadable, Argument.text?]
  have hcrowded : IsSelection crowded.arguments 2 "'click, blur'"
      (some [.entry "capture" (.boolean true)]) :=
    isSelection_append hbefore _ _ _
  have hplain : IsSelection plain.arguments 0 "'click, blur'"
      (some [.entry "capture" (.boolean true)]) :=
    isSelection_append (List.forall_mem_nil _) _ _ _
  obtain ⟨-, -, -, hread, hrest⟩ := request_selection member crowded collector
  refine ⟨hrest plain rfl ⟨2, 0, _, _, hcrowded, hplain⟩, ?_⟩
  rw [(hread " save " 2 _ _ rfl (by decide) hcrowded).1]
  rfl

end View

end Listeners
