/-
Settings read from JSON texts.

An object is read field by field.  A value of one of the two known keys fills the place for it, if
that is still free, and any other value is passed over; so a field adds to the entries what it
writes, and what stands behind it is left over (`readEntry_eq_ok_iff`).  Over all fields, each place
comes to hold what the values of its key write: nothing if there are none, and the one value if
there is one (`readEntries_eq_ok_iff`).  More values than one are never read, whatever they are,
because the second finds the place taken.

Every step is said in both directions, so it is also known which objects are not read.
-/
import Listeners.Proofs.Json.Kinds

namespace Listeners

open Json

namespace Json

/-! ### What the values of a key give -/

/-- The texts of the values that a key has, from the first to the last. -/
def valuesOf (key : String) (fields : List (String × List Char)) : List (List Char) :=
  (fields.filter (·.1 = key)).map (·.2)

variable {α : Type}

/-- What the values of a key give: the usual value where there is none, and otherwise what the
only one writes. -/
inductive Gives (Writes : List Char → α → Prop) (usual : α) : List (List Char) → α → Prop where
  | usual : Gives Writes usual [] usual
  | written {value : List Char} {a : α} (h : Writes value a) : Gives Writes usual [value] a

/-- What values make of a place: without any it stays as it is, and one value fills it if it is
free. -/
inductive Fills (Writes : List Char → α → Prop) :
    Option α → List (List Char) → Option α → Prop where
  | kept (slot : Option α) : Fills Writes slot [] slot
  | filled {value : List Char} {a : α} (h : Writes value a) : Fills Writes none [value] (some a)

variable {Writes : List Char → α → Prop}

theorem fills_nil_iff {slot found : Option α} : Fills Writes slot [] found ↔ found = slot := by
  constructor
  · intro h
    cases h
    rfl
  · intro h
    subst h
    exact .kept found

theorem fills_singleton_iff {slot found : Option α} {value : List Char} :
    Fills Writes slot [value] found ↔ slot = none ∧ ∃ a, Writes value a ∧ found = some a := by
  constructor
  · intro h
    cases h with
    | filled h => exact ⟨rfl, _, h, rfl⟩
  · rintro ⟨rfl, a, h, rfl⟩
    exact .filled h

theorem fills_append_iff {slot found : Option α} {one two : List (List Char)} :
    Fills Writes slot (one ++ two) found ↔
      ∃ between, Fills Writes slot one between ∧ Fills Writes between two found := by
  constructor
  · intro h
    cases one with
    | nil => exact ⟨slot, .kept slot, h⟩
    | cons value one =>
        generalize hall : value :: one ++ two = all at h
        cases h with
        | kept => cases hall
        | @filled value' a h =>
            obtain ⟨rfl, hrest⟩ := List.cons.inj hall
            obtain ⟨rfl, rfl⟩ := List.append_eq_nil_iff.mp hrest
            exact ⟨some a, .filled h, .kept (some a)⟩
  · rintro ⟨between, hone, htwo⟩
    cases hone with
    | kept => exact htwo
    | filled h =>
        cases htwo with
        | kept => exact .filled h

/-- What the values of a key give is what they make of the free place. -/
theorem gives_iff {usual a : α} {values : List (List Char)} :
    Gives Writes usual values a ↔ ∃ slot, Fills Writes none values slot ∧ slot.getD usual = a := by
  constructor
  · intro h
    cases h with
    | usual => exact ⟨none, .kept none, rfl⟩
    | written h => exact ⟨some a, .filled h, rfl⟩
  · rintro ⟨slot, hfills, rfl⟩
    cases hfills with
    | kept => exact .usual
    | filled h => exact .written h

/-- Two values of a key give nothing. -/
theorem Gives.length_le_one {usual a : α} {values : List (List Char)}
    (h : Gives Writes usual values a) : values.length ≤ 1 := by
  cases h with
  | usual => exact Nat.zero_le 1
  | written h => exact Nat.le_refl 1

theorem valuesOf_cons (key : String) (field : String × List Char)
    (fields : List (String × List Char)) :
    valuesOf key (field :: fields) = valuesOf key [field] ++ valuesOf key fields := by
  unfold valuesOf
  rw [← List.map_append, ← List.filter_append]
  rfl

theorem valuesOf_singleton_self (key : String) (value : List Char) :
    valuesOf key [(key, value)] = [value] := by
  simp [valuesOf]

theorem valuesOf_singleton_of_ne {key other : String} (h : other ≠ key) (value : List Char) :
    valuesOf key [(other, value)] = [] := by
  simp [valuesOf, h]

end Json

/-! ### Fields -/

namespace FatalScope

/-- A text that writes a scope by its name. -/
def Writes (value : List Char) (scope : FatalScope) : Prop := WritesVariant value scope.name

theorem read_eq_ok_iff {gap value rest found : List Char} {scope : FatalScope}
    (hgap : AreBlanks gap) (hvalue : IsValue value) :
    read (gap ++ (value ++ rest)) = .ok (scope, found) ↔ found = rest ∧ Writes value scope := by
  unfold read
  rw [bind_eq_ok_iff]
  constructor
  · rintro ⟨⟨name, behind⟩, hname, h⟩
    obtain ⟨hfound, hwrites, hmem⟩ := Reader.writesVariant_of_variant hgap hvalue hname
    cases h
    refine ⟨hfound, ?_⟩
    simp only [List.mem_cons, List.not_mem_nil, or_false] at hmem
    rcases hmem with rfl | rfl
    · exact hwrites
    · exact hwrites
  · rintro ⟨rfl, hwrites⟩
    have hmem : scope.name ∈ [specifier.name, file.name] := by
      cases scope with
      | specifier => exact List.mem_cons_self
      | file => exact List.mem_cons_of_mem _ List.mem_cons_self
    refine ⟨(scope.name, found), Reader.variant_append hgap hwrites hmem, ?_⟩
    cases scope with
    | specifier => rfl
    | file => rfl

end FatalScope

namespace Settings

/-- Reading the fields turns the entries into others: each place is made what the values of
its key make of it. -/
structure Entries.Takes (entries : Entries) (fields : List (String × List Char))
    (others : Entries) : Prop where
  annotationName : Fills WritesString entries.annotationName (valuesOf "annotationName" fields)
    others.annotationName
  fatalScope : Fills FatalScope.Writes entries.fatalScope (valuesOf "fatalScope" fields)
    others.fatalScope

namespace Entries

variable {entries others : Entries}

theorem ext (hname : others.annotationName = entries.annotationName)
    (hscope : others.fatalScope = entries.fatalScope) : others = entries := by
  obtain ⟨name, scope⟩ := others
  subst hname hscope
  rfl

theorem takes_nil_iff : entries.Takes [] others ↔ others = entries := by
  constructor
  · rintro ⟨hname, hscope⟩
    exact ext (fills_nil_iff.mp hname) (fills_nil_iff.mp hscope)
  · intro h
    subst h
    exact ⟨.kept _, .kept _⟩

theorem takes_cons_iff {field : String × List Char} {fields : List (String × List Char)} :
    entries.Takes (field :: fields) others ↔
      ∃ between, entries.Takes [field] between ∧ between.Takes fields others := by
  constructor
  · rintro ⟨hname, hscope⟩
    rw [valuesOf_cons, fills_append_iff] at hname hscope
    obtain ⟨name, hname, hnames⟩ := hname
    obtain ⟨scope, hscope, hscopes⟩ := hscope
    exact ⟨⟨name, scope⟩, ⟨hname, hscope⟩, ⟨hnames, hscopes⟩⟩
  · rintro ⟨between, hfield, hfields⟩
    constructor
    · rw [valuesOf_cons, fills_append_iff]
      exact ⟨_, hfield.annotationName, hfields.annotationName⟩
    · rw [valuesOf_cons, fills_append_iff]
      exact ⟨_, hfield.fatalScope, hfields.fatalScope⟩

theorem takes_name_iff {value : List Char} :
    entries.Takes [("annotationName", value)] others ↔
      entries.annotationName = none ∧
        ∃ name, WritesString value name ∧
          others = { entries with annotationName := some name } := by
  have hvalues : valuesOf "fatalScope" [("annotationName", value)] = [] :=
    valuesOf_singleton_of_ne (by decide) value
  constructor
  · rintro ⟨hname, hscope⟩
    rw [valuesOf_singleton_self, fills_singleton_iff] at hname
    rw [hvalues, fills_nil_iff] at hscope
    obtain ⟨hfree, name, hwrites, hname⟩ := hname
    exact ⟨hfree, name, hwrites, ext hname hscope⟩
  · rintro ⟨hfree, name, hwrites, rfl⟩
    constructor
    · rw [valuesOf_singleton_self, fills_singleton_iff]
      exact ⟨hfree, name, hwrites, rfl⟩
    · rw [hvalues]
      exact .kept _

theorem takes_scope_iff {value : List Char} :
    entries.Takes [("fatalScope", value)] others ↔
      entries.fatalScope = none ∧
        ∃ scope, FatalScope.Writes value scope ∧
          others = { entries with fatalScope := some scope } := by
  have hvalues : valuesOf "annotationName" [("fatalScope", value)] = [] :=
    valuesOf_singleton_of_ne (by decide) value
  constructor
  · rintro ⟨hname, hscope⟩
    rw [hvalues, fills_nil_iff] at hname
    rw [valuesOf_singleton_self, fills_singleton_iff] at hscope
    obtain ⟨hfree, scope, hwrites, hscope⟩ := hscope
    exact ⟨hfree, scope, hwrites, ext hname hscope⟩
  · rintro ⟨hfree, scope, hwrites, rfl⟩
    constructor
    · rw [hvalues]
      exact .kept _
    · rw [valuesOf_singleton_self, fills_singleton_iff]
      exact ⟨hfree, scope, hwrites, rfl⟩

theorem takes_other_iff {key : String} (hname : key ≠ "annotationName")
    (hscope : key ≠ "fatalScope") {value : List Char} :
    entries.Takes [(key, value)] others ↔ others = entries := by
  rw [← takes_nil_iff]
  have hvalues : ∀ known, key ≠ known → valuesOf known [(key, value)] = valuesOf known [] := by
    intro known hne
    exact valuesOf_singleton_of_ne hne value
  constructor
  · rintro ⟨hnames, hscopes⟩
    rw [hvalues _ hname] at hnames
    rw [hvalues _ hscope] at hscopes
    exact ⟨hnames, hscopes⟩
  · rintro ⟨hnames, hscopes⟩
    rw [← hvalues _ hname] at hnames
    rw [← hvalues _ hscope] at hscopes
    exact ⟨hnames, hscopes⟩

end Entries

/-- Reads the value of a key into its place, which must be free. -/
def readInto {α : Type} (key : String) (slot : Option α) (reader : Reader α) (put : α → Entries) :
    Reader Entries := fun cs =>
  if slot.isSome then .error (.wrong (.duplicateField key))
  else do
    let (a, rest) ← Reader.lift (colon cs) >>= reader
    .ok (put a, rest)

theorem readEntry_name (entries : Entries) :
    readEntry entries "annotationName" =
      readInto "annotationName" entries.annotationName (Reader.text "a string")
        fun name => { entries with annotationName := some name } := rfl

theorem readEntry_scope (entries : Entries) :
    readEntry entries "fatalScope" =
      readInto "fatalScope" entries.fatalScope FatalScope.read
        fun scope => { entries with fatalScope := some scope } := rfl

theorem readEntry_other {key : String} (hname : key ≠ "annotationName")
    (hscope : key ≠ "fatalScope") (entries : Entries) (cs : List Char) :
    readEntry entries key cs = Reader.lift (do
      let rest ← colon cs >>= skip
      .ok (entries, rest)) := by
  unfold readEntry
  split
  · exact absurd rfl hname
  · exact absurd rfl hscope
  · rfl

/-- A place is filled if it is free and the value is of the right kind. -/
theorem readInto_eq_ok_iff {α : Type} {Writes : List Char → α → Prop} {key : String}
    {slot : Option α} {reader : Reader α} {put : α → Entries} {others : Entries}
    {between cs value rest found : List Char} (hbetween : AreBlanks between)
    (hread : ∀ a found, reader cs = .ok (a, found) ↔ found = rest ∧ Writes value a) :
    readInto key slot reader put (between ++ ':' :: cs) = .ok (others, found) ↔
      found = rest ∧ slot = none ∧ ∃ a, Writes value a ∧ others = put a := by
  unfold readInto
  rw [colon_append hbetween]
  cases slot with
  | some a => exact iff_of_false (fun h => by cases h) (fun h => by cases h.2.1)
  | none =>
      show (reader cs).bind _ = _ ↔ _
      constructor
      · intro h
        obtain ⟨⟨a, behind⟩, ha, heq⟩ := exists_of_bind_eq_ok h
        obtain ⟨rfl, hwrites⟩ := (hread a behind).mp ha
        cases heq
        exact ⟨rfl, rfl, a, hwrites, rfl⟩
      · rintro ⟨rfl, -, a, hwrites, rfl⟩
        rw [(hread a found).mpr ⟨rfl, hwrites⟩]
        rfl

/-- **One field is read**: it adds to the entries what its value writes. -/
theorem readEntry_eq_ok_iff {entries others : Entries} {key : String}
    {between gap value rest found : List Char} (hbetween : AreBlanks between)
    (hgap : AreBlanks gap) (hvalue : IsValue value) (hrest : Follows rest) :
    readEntry entries key (between ++ ':' :: (gap ++ (value ++ rest))) = .ok (others, found) ↔
      found = rest ∧ entries.Takes [(key, value)] others := by
  by_cases hname : key = "annotationName"
  · subst hname
    rw [readEntry_name, Entries.takes_name_iff]
    exact readInto_eq_ok_iff hbetween fun name found => Reader.text_eq_ok_iff hgap hvalue
  · by_cases hscope : key = "fatalScope"
    · subst hscope
      rw [readEntry_scope, Entries.takes_scope_iff]
      exact readInto_eq_ok_iff hbetween fun scope found => FatalScope.read_eq_ok_iff hgap hvalue
    · rw [readEntry_other hname hscope, colon_append hbetween, Reader.lift_eq_ok_iff,
        Entries.takes_other_iff hname hscope]
      show (skip (gap ++ (value ++ rest))).bind _ = _ ↔ _
      rw [skip_append hgap hvalue hrest]
      constructor
      · intro h
        cases h
        exact ⟨rfl, rfl⟩
      · rintro ⟨rfl, rfl⟩
        rfl

/-! ### Objects -/

/-- What stands in front of a field: a comma, except before the first. -/
inductive Leads : Bool → List Char → Prop where
  | first : Leads true []
  | comma {after : List Char} (h : AreBlanks after) : Leads false (after ++ [','])

theorem nextKey_append {isFirst : Bool} {lead before key : List Char} {name : String}
    (hlead : Leads isFirst lead) (hbefore : AreBlanks before) (hkey : WritesString key name)
    (rest : List Char) :
    nextKey isFirst (lead ++ (before ++ (key ++ rest))) = .ok (some (name, rest)) := by
  obtain ⟨body, rfl, hbody⟩ := hkey
  have hread := stringBody_append hbody rest
  have hblank : skipBlank (before ++ (quoted body ++ rest)) = '"' :: (body ++ '"' :: rest) := by
    rw [quoted, List.cons_append, skipBlank_append_cons hbefore rfl, List.append_assoc]
    rfl
  cases hlead with
  | first =>
      unfold nextKey
      rw [List.nil_append, hblank]
      show (stringBody (body ++ '"' :: rest)).map some = _
      rw [hread]
      rfl
  | comma h =>
      have hcomma := skipBlank_append_cons h (c := ',') rfl (before ++ (quoted body ++ rest))
      rw [List.append_assoc, List.singleton_append]
      simp [nextKey, hcomma, hblank, hread]

/-- One step: a field is read and adds to the entries what it writes, and then comes what is
behind it. -/
theorem readEntries_step {text : List Char} {field : String × List Char}
    (h : WritesField text field) :
    ∃ after, AreBlanks after ∧ ∀ {isFirst : Bool} {lead : List Char}, Leads isFirst lead →
      ∀ {tail : List Char}, Follows tail → ∀ {fuel : Nat} {entries others : Entries}
        {found : List Char},
        readEntries (fuel + 1) isFirst entries (lead ++ (text ++ tail)) = .ok (others, found) ↔
          ∃ between, entries.Takes [field] between ∧
            readEntries fuel false between (after ++ tail) = .ok (others, found) := by
  cases h with
  | @parts before key between gap value after name hbefore hkey hbetween hgap hvalue hafter =>
      refine ⟨after, hafter, ?_⟩
      intro isFirst lead hlead tail htail fuel entries others found
      have hread : readEntries (fuel + 1) isFirst entries (lead ++
          ((before ++ (key ++ (between ++ ':' :: (gap ++ (value ++ after))))) ++ tail)) =
          readEntry entries name (between ++ ':' :: (gap ++ (value ++ (after ++ tail)))) >>=
            fun found => readEntries fuel false found.1 found.2 := by
        simp only [List.append_assoc, List.cons_append]
        rw [readEntries, nextKey_append hlead hbefore hkey]
        rfl
      rw [hread, bind_eq_ok_iff]
      constructor
      · rintro ⟨⟨between, rest⟩, hentry, hrest⟩
        rw [readEntry_eq_ok_iff hbetween hgap hvalue (hafter.follows_append htail)] at hentry
        obtain ⟨rfl, htakes⟩ := hentry
        exact ⟨between, htakes, hrest⟩
      · rintro ⟨between, htakes, hrest⟩
        refine ⟨(between, after ++ tail), ?_, hrest⟩
        rw [readEntry_eq_ok_iff hbetween hgap hvalue (hafter.follows_append htail)]
        exact ⟨rfl, htakes⟩

/-- At the brace nothing more is read. -/
theorem readEntries_brace {blanks : List Char} (h : AreBlanks blanks) (fuel : Nat) (isFirst : Bool)
    (entries : Entries) (rest : List Char) :
    readEntries (fuel + 1) isFirst entries (blanks ++ '}' :: rest) = .ok (entries, rest) := by
  have hblank := skipBlank_append_cons h (c := '}') rfl rest
  have hkey : nextKey isFirst (blanks ++ '}' :: rest) = .ok none := by
    unfold nextKey
    rw [hblank]
    rfl
  have hend : endObject (blanks ++ '}' :: rest) = .ok rest := by
    unfold endObject
    rw [hblank]
    rfl
  rw [readEntries, hkey]
  show (Reader.lift (endObject (blanks ++ '}' :: rest))).bind _ = _
  rw [hend]
  rfl

/-- **All fields are read**: from the first on, whatever has been read before. -/
theorem readEntries_eq_ok_iff {text rest found : List Char} {fields : List (String × List Char)}
    (h : WritesFields text fields) {isFirst : Bool} {lead : List Char} (hlead : Leads isFirst lead)
    {fuel : Nat} (hfuel : fields.length < fuel) {entries others : Entries} :
    readEntries fuel isFirst entries (lead ++ (text ++ '}' :: rest)) = .ok (others, found) ↔
      found = rest ∧ entries.Takes fields others := by
  obtain ⟨fuel, rfl⟩ := Nat.exists_eq_succ_of_ne_zero (Nat.ne_of_gt (Nat.zero_lt_of_lt hfuel))
  induction h generalizing isFirst lead fuel entries with
  | @single text field hfield =>
      obtain ⟨after, hafter, hstep⟩ := readEntries_step hfield
      obtain ⟨fuel, rfl⟩ := Nat.exists_eq_succ_of_ne_zero
        (Nat.ne_of_gt (Nat.lt_of_succ_lt_succ hfuel))
      rw [hstep hlead (follows_cons (by decide) rest)]
      simp only [readEntries_brace hafter]
      constructor
      · rintro ⟨between, htakes, h⟩
        cases h
        exact ⟨rfl, htakes⟩
      · rintro ⟨rfl, htakes⟩
        exact ⟨others, htakes, rfl⟩
  | @cons text more field fields hfield hmore ih =>
      obtain ⟨after, hafter, hstep⟩ := readEntries_step hfield
      have hfuel' : fields.length < fuel := Nat.lt_of_succ_lt_succ hfuel
      obtain ⟨fuel, rfl⟩ := Nat.exists_eq_succ_of_ne_zero (Nat.ne_of_gt (Nat.zero_lt_of_lt hfuel'))
      rw [List.append_assoc, List.cons_append, hstep hlead (follows_cons (by decide) _),
        Entries.takes_cons_iff]
      have hrest : ∀ between : Entries,
          readEntries (fuel + 1) false between (after ++ ',' :: (more ++ '}' :: rest)) =
            .ok (others, found) ↔ found = rest ∧ between.Takes fields others := by
        intro between
        rw [← ih (.comma hafter) fuel hfuel', List.append_assoc]
        rfl
      simp only [hrest]
      constructor
      · rintro ⟨between, htakes, hfound, hothers⟩
        exact ⟨hfound, between, htakes, hothers⟩
      · rintro ⟨hfound, between, htakes, hothers⟩
        exact ⟨between, htakes, hfound, hothers⟩

/-- Behind its brace, an object is read up to the blanks that end its text. -/
theorem exists_readEntries {cs : List Char} {fields : List (String × List Char)}
    (h : WritesObject cs fields) :
    ∃ before inside after, cs = before ++ '{' :: inside ∧ AreBlanks before ∧ AreBlanks after ∧
      ∀ {others : Entries} {found : List Char},
        readEntries (inside.length + 1) true ⟨none, none⟩ inside = .ok (others, found) ↔
          found = after ∧ Entries.Takes ⟨none, none⟩ fields others := by
  cases h with
  | @empty before blanks after hbefore hblanks hafter =>
      refine ⟨before, blanks ++ '}' :: after, after, rfl, hbefore, hafter, ?_⟩
      intro others found
      rw [readEntries_brace hblanks, Entries.takes_nil_iff]
      constructor
      · intro h
        cases h
        exact ⟨rfl, rfl⟩
      · rintro ⟨rfl, rfl⟩
        rfl
  | @fields before text after _ hbefore h hafter =>
      refine ⟨before, text ++ '}' :: after, after, rfl, hbefore, hafter, ?_⟩
      intro others found
      have hlength := h.length_le
      refine readEntries_eq_ok_iff h .first ?_
      rw [List.length_append]
      omega

/-- An object gives the settings that its fields make of free places. -/
theorem ofText_eq_ok_iff {text : String} {fields : List (String × List Char)}
    (h : WritesObject text.toList fields) {settings : Settings} :
    ofText text = .ok settings ↔
      ∃ entries : Entries, Entries.Takes ⟨none, none⟩ fields entries ∧
        entries.settings = settings := by
  obtain ⟨before, inside, after, htext, hbefore, hafter, hentries⟩ := exists_readEntries h
  have hend : endText after = .ok () := by
    unfold endText
    rw [skipBlank_blanks hafter]
    rfl
  have hread : ofText text = (do
      let found ← readEntries (inside.length + 1) true ⟨none, none⟩ inside
      Reader.lift (endText found.2)
      .ok found.1.settings) := by
    unfold ofText
    rw [htext, skipBlank_append_cons hbefore rfl]
    rfl
  rw [hread, bind_eq_ok_iff]
  constructor
  · rintro ⟨⟨entries, rest⟩, hfields, hok⟩
    obtain ⟨rfl, htakes⟩ := hentries.mp hfields
    dsimp only at hok
    rw [hend] at hok
    cases hok
    exact ⟨entries, htakes, rfl⟩
  · rintro ⟨entries, htakes, rfl⟩
    refine ⟨(entries, after), hentries.mpr ⟨rfl, htakes⟩, ?_⟩
    dsimp only
    rw [hend]
    rfl

/-- **The settings that an object gives.**  An object is read as certain settings exactly if, for
each of the two keys, its only value writes that part of the settings, or there is none and the
part is the usual one.  So it does not matter what the other fields are, in which order the fields
stand, where there are blanks and how strings are escaped; and an object that repeats one of the two
keys is never read. -/
theorem ofText_object {text : String} {fields : List (String × List Char)}
    (h : WritesObject text.toList fields) :
    (∀ settings : Settings, ofText text = .ok settings ↔
      Gives WritesString "Listen" (valuesOf "annotationName" fields) settings.annotationName ∧
        Gives FatalScope.Writes .specifier (valuesOf "fatalScope" fields) settings.fatalScope) ∧
      ∀ key ∈ ["annotationName", "fatalScope"], 2 ≤ (valuesOf key fields).length →
        ∃ error, ofText text = .error error := by
  have hgives : ∀ settings : Settings, ofText text = .ok settings ↔
      Gives WritesString "Listen" (valuesOf "annotationName" fields) settings.annotationName ∧
        Gives FatalScope.Writes .specifier (valuesOf "fatalScope" fields) settings.fatalScope := by
    intro settings
    rw [ofText_eq_ok_iff h, gives_iff, gives_iff]
    constructor
    · rintro ⟨entries, ⟨hname, hscope⟩, rfl⟩
      exact ⟨⟨_, hname, rfl⟩, ⟨_, hscope, rfl⟩⟩
    · rintro ⟨⟨name, hname, hsettings⟩, ⟨scope, hscope, hsettings'⟩⟩
      refine ⟨⟨name, scope⟩, ⟨hname, hscope⟩, ?_⟩
      obtain ⟨annotationName, fatalScope⟩ := settings
      subst hsettings hsettings'
      rfl
  refine ⟨hgives, ?_⟩
  intro key hkey htwo
  cases hread : ofText text with
  | error error => exact ⟨error, rfl⟩
  | ok settings =>
      obtain ⟨hname, hscope⟩ := (hgives settings).mp hread
      have hle := hname.length_le_one
      have hle' := hscope.length_le_one
      simp only [List.mem_cons, List.not_mem_nil, or_false] at hkey
      rcases hkey with rfl | rfl <;> omega

/-- Two objects that repeat a key: an unknown one, once written with an escape, and a known one with
the same value. -/
theorem ofText_object_repeated_keys :
    ofText "\x7b \"\\u0061\":[1,\x7b\x7d],\"annotationName\" : \"\\n\",\"a\":null\x7d " =
        .ok ⟨"\n", .specifier⟩ ∧
      ∃ error, ofText "\x7b\"fatalScope\":\"file\",\"fatalScope\":\"file\"\x7d" =
        .error error := by
  have hblank : AreBlanks [' '] := by simp [AreBlanks]
  have hescaped : WritesString "\"\\u0061\"".toList "a" := by
    have hzero : ('0', 0) ∈ hexDigits := by decide
    have hsix : ('6', 6) ∈ hexDigits := by decide
    have hone : ('1', 1) ∈ hexDigits := by decide
    have hunit : IsUnit ['0', '0', '6', '1'] 0x61 := .digits hzero hzero hsix hone
    exact ⟨"\\u0061".toList, rfl, .cons (.unit hunit (by decide)) .nil⟩
  have harray : IsValue "[1,\x7b\x7d]".toList := by
    have hdigits : AreDigits ['1'] := ⟨List.cons_ne_nil _ _, by simp⟩
    have hnumber : IsNumber ['1'] := .parts (Or.inl rfl) (.digits hdigits (by decide)) .nil .nil
    exact IsValue.array (.cons .nil (.number hnumber) .nil (.single .nil (.emptyObject .nil) .nil))
  have hname : WritesString "\"annotationName\"".toList "annotationName" :=
    writesString_renderString "annotationName"
  have hbreak : WritesString "\"\\n\"".toList "\n" := writesString_renderString "\n"
  have hplain : WritesString "\"a\"".toList "a" := writesString_renderString "a"
  have hscope : WritesString "\"fatalScope\"".toList "fatalScope" :=
    writesString_renderString "fatalScope"
  have hfile : WritesString "\"file\"".toList "file" := writesString_renderString "file"
  constructor
  · have hfirst := WritesField.parts hblank hescaped .nil .nil harray .nil
    have hsecond := WritesField.parts .nil hname hblank hblank hbreak.isValue .nil
    have hthird := WritesField.parts .nil hplain .nil .nil isNull .nil
    have hobject : WritesObject
        (String.toList
          "\x7b \"\\u0061\":[1,\x7b\x7d],\"annotationName\" : \"\\n\",\"a\":null\x7d ")
        [("a", "[1,\x7b\x7d]".toList), ("annotationName", "\"\\n\"".toList),
          ("a", "null".toList)] :=
      .fields .nil (.cons hfirst (.cons hsecond (.single hthird))) hblank
    exact ((ofText_object hobject).1 ⟨"\n", .specifier⟩).mpr ⟨.written hbreak, .usual⟩
  · have hfield := WritesField.parts .nil hscope .nil .nil hfile.isValue .nil
    have hobject : WritesObject
        (String.toList "\x7b\"fatalScope\":\"file\",\"fatalScope\":\"file\"\x7d")
        [("fatalScope", "\"file\"".toList), ("fatalScope", "\"file\"".toList)] :=
      .fields .nil (.cons hfield (.single hfield)) .nil
    exact (ofText_object hobject).2 "fatalScope" (by decide) (Nat.le_refl 2)

/-- Settings written down in full, with no blanks and no more escapes than there have to be. -/
def render (settings : Settings) : String :=
  "\x7b" ++ renderString "annotationName" ++ ":" ++ renderString settings.annotationName ++ "," ++
    renderString "fatalScope" ++ ":" ++ renderString settings.fatalScope.name ++ "\x7d"

/-- **All settings can be written**, whatever the name of the annotations is, and are read back. -/
theorem ofText_render (settings : Settings) : ofText settings.render = .ok settings := by
  have hname := writesString_renderString settings.annotationName
  have hscope := writesString_renderString settings.fatalScope.name
  have hfirst := WritesField.parts .nil (writesString_renderString "annotationName") .nil .nil
    hname.isValue .nil
  have hsecond := WritesField.parts .nil (writesString_renderString "fatalScope") .nil .nil
    hscope.isValue .nil
  have hobject : WritesObject settings.render.toList
      [("annotationName", (renderString settings.annotationName).toList),
        ("fatalScope", (renderString settings.fatalScope.name).toList)] := by
    have hwrites := WritesObject.fields .nil (.cons hfirst (.single hsecond)) .nil
    simpa [render] using hwrites
  refine (ofText_eq_ok_iff hobject).mpr ⟨⟨some _, some _⟩, ⟨?_, ?_⟩, rfl⟩
  · exact .filled hname
  · exact .filled (.string hscope)

end Settings

end Listeners
