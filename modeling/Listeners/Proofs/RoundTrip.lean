/-
Values that are written as JSON and read again.

JSON is a value here, as one program hands it to another, and not the text of one.  Bindings and
diagnostics come back as they were.  A view comes back if all its numbers are finite: one that is
not finite is written null, and then there is no view to be read, because null is no number
(`decode_encode`).  Whatever is read can be written and comes back, even if it was given in
another form, because all the numbers that are read are finite (`ensures_decode`).

The object literals of a view are read with a bound on how deeply they are nested.  The induction
is on that bound, and the depth of what was written is always enough.
-/
import Listeners.Binding.Json
import Listeners.Diagnostic.Json
import Listeners.Proofs.Decoding
import Listeners.View.Json

namespace Listeners

open Json (Decoder DecodeError Outcome Parts)

/-! ### Numbers of a view -/

namespace View

mutual

/-- All number literals in a value, in the order in which they are written. -/
def Literal.numbers : Literal → List Double
  | .number value => [value]
  | .object properties => numbersOf properties
  | .null | .boolean _ | .string _ | .other _ => []

def Property.numbers : Property → List Double
  | .entry _ value => value.numbers
  | .unsupported _ => []

def numbersOf : List Property → List Double
  | [] => []
  | property :: properties => property.numbers ++ numbersOf properties

end

def Argument.numbers : Argument → List Double
  | .object properties _ => numbersOf properties
  | .string _ _ | .other _ _ => []

def Annotation.numbers (note : Annotation) : List Double := note.arguments.flatMap (·.numbers)

def Member.numbers (member : Member) : List Double := member.annotations.flatMap (·.numbers)

/-- All number literals in a view. -/
def numbers (view : View) : List Double := view.members.flatMap (·.numbers)

theorem numbersOf_eq_flatMap (properties : List Property) :
    numbersOf properties = properties.flatMap (·.numbers) := by
  induction properties with
  | nil => rfl
  | cons property properties ih => rw [numbersOf, List.flatMap_cons, ih]

theorem encodeProperties_eq_map (properties : List Property) :
    encodeProperties properties = properties.map Property.encode := by
  induction properties with
  | nil => rfl
  | cons property properties ih => rw [encodeProperties, List.map_cons, ih]

end View

/-! ### Plain values -/

theorem decode_word (n : UInt32) : Decoder.word (.integer n.toNat) = .ok n := by
  have hn := n.toNat_lt
  unfold Decoder.word
  dsimp only
  rw [if_pos, Int.toNat_natCast, UInt32.ofNat_toNat]
  simp only [Bool.and_eq_true, decide_eq_true_eq]
  omega

theorem decode_optional_text (name : Option String) :
    Decoder.optional .text (.ofOption .string name) = .ok name := by
  cases name <;> rfl

theorem decode_texts (texts : List String) :
    Decoder.items .text (.array (texts.map .string)) = .ok texts := by
  show (texts.map Json.string).mapM Decoder.text = .ok texts
  induction texts with
  | nil => rfl
  | cons text texts ih =>
      rw [List.map_cons, List.mapM_cons, ih]
      rfl

theorem Location.decode_encode (isInside : Bool) (location : Location) :
    Location.decode isInside location.encode = .ok location := by
  have hparts : Location.decode isInside location.encode =
      (Location.mk <$> Outcome.ofExcept 0 (Decoder.word (.integer location.line.toNat)) <*>
        Outcome.ofExcept 1 (Decoder.word (.integer location.column.toNat))).toExcept := rfl
  rw [hparts, decode_word, decode_word]
  rfl

theorem Binding.decode_encode (binding : Binding) : Binding.decode binding.encode = .ok binding :=
  rfl

theorem Severity.decode_encode (severity : Severity) :
    Severity.decode severity.encode = .ok severity := by
  cases severity <;> rfl

theorem Diagnostic.decode_encode (d : Diagnostic) : Diagnostic.decode d.encode = .ok d := by
  have hparts : Diagnostic.decode d.encode =
      (Diagnostic.mk <$> Outcome.good d.code <*>
        Outcome.ofExcept 1 (Severity.decode d.severity.encode) <*>
        Outcome.good d.message <*> Outcome.good d.file <*>
        (Location.mk <$> Outcome.ofExcept 4 (Decoder.word (.integer d.location.line.toNat)) <*>
          Outcome.ofExcept 5 (Decoder.word (.integer d.location.column.toNat))) <*>
        Outcome.ofExcept 6 (Decoder.optional .text (.ofOption .string d.context)) <*>
        Outcome.ofExcept 7 (Decoder.items .text (.array (d.hints.map .string)))).toExcept := rfl
  rw [hparts, Severity.decode_encode, decode_word, decode_word, decode_optional_text, decode_texts]
  rfl

/-! ### Views -/

namespace View

/-- What is read of a value that was written: the value, or that it has a number that could not be
written. -/
def readBack {α : Type} (numbers : List Double) (value : α) : Except DecodeError α :=
  if numbers.all (·.isFinite) then .ok value else .error (.wrongType "null" "f64")

section

variable {α β : Type}

theorem map_readBack (f : α → β) (numbers : List Double) (value : α) :
    (readBack numbers value).map f = readBack numbers (f value) := by
  unfold readBack
  split <;> rfl

/-- A list is read item by item, and the first item that cannot be read is reported. -/
theorem decode_items {decode : Decoder α} {encode : α → Json} {numbers : α → List Double}
    {values : List α}
    (h : ∀ value ∈ values, decode (encode value) = readBack (numbers value) value) :
    Decoder.items decode (.array (values.map encode)) =
      readBack (values.flatMap numbers) values := by
  show (values.map encode).mapM decode = _
  induction values with
  | nil => rfl
  | cons value values ih =>
      rw [List.map_cons, List.mapM_cons, h value (by simp),
        ih fun other hother => h other (by simp [hother])]
      unfold readBack
      rw [List.flatMap_cons, List.all_append]
      cases (numbers value).all (·.isFinite) with
      | false => rfl
      | true => cases (values.flatMap numbers).all (·.isFinite) <;> rfl

end

/-- A number is read if it could be written. -/
theorem decode_real (value : Double) :
    Decoder.real (.ofDouble value) = readBack [value] value := by
  unfold Json.ofDouble readBack
  by_cases h : value.isFinite = true
  · rw [if_pos h, if_pos (by simpa using h)]
    rfl
  · rw [if_neg h, if_neg (by simpa using h)]
    rfl

theorem depth_le_depthOfItems {json : Json} {items : List Json} (h : json ∈ items) :
    json.depth ≤ Json.depthOfItems items := by
  induction items with
  | nil => cases h
  | cons item items ih =>
      rw [Json.depthOfItems]
      rcases List.mem_cons.mp h with rfl | h
      · exact Nat.le_max_left _ _
      · exact Nat.le_trans (ih h) (Nat.le_max_right _ _)

/-- Values and properties are read back with any bound on their depth that is large enough. -/
theorem decodeWithin_encode (fuel : Nat) :
    (∀ value : Literal, value.encode.depth < fuel →
      Literal.decodeWithin fuel value.encode = readBack value.numbers value) ∧
    ∀ property : Property, property.encode.depth < fuel →
      Property.decodeWithin fuel property.encode = readBack property.numbers property := by
  induction fuel with
  | zero => exact ⟨fun _ h => absurd h (Nat.not_lt_zero _), fun _ h => absurd h (Nat.not_lt_zero _)⟩
  | succ fuel ih =>
      obtain ⟨ihLiteral, ihProperty⟩ := ih
      constructor
      · intro value hdepth
        cases value with
        | null => rfl
        | boolean b => rfl
        | string s => rfl
        | other kind => rfl
        | number d =>
            have hparts : Literal.decodeWithin (fuel + 1) (Literal.number d).encode =
                (Decoder.real (.ofDouble d)).map .number := rfl
            rw [hparts, decode_real, map_readBack]
            rfl
        | object properties =>
            have hparts : Literal.decodeWithin (fuel + 1) (Literal.object properties).encode =
                (Decoder.items (Property.decodeWithin fuel)
                  (.array (encodeProperties properties))).map .object := rfl
            have hitems : ∀ property ∈ properties, Property.decodeWithin fuel property.encode =
                readBack property.numbers property := by
              intro property hproperty
              have hle := depth_le_depthOfItems
                (List.mem_map_of_mem (f := Property.encode) hproperty)
              simp only [Literal.encode, encodeProperties_eq_map, Json.depth, Json.depthOfFields]
                at hdepth
              exact ihProperty property (by omega)
            rw [hparts, encodeProperties_eq_map, decode_items hitems, map_readBack,
              ← numbersOf_eq_flatMap]
            rfl
      · intro property hdepth
        cases property with
        | unsupported kind => rfl
        | entry key value =>
            have hparts : Property.decodeWithin (fuel + 1) (Property.entry key value).encode =
                (Outcome.good (Property.entry key) <*>
                  Outcome.ofExcept 1 (Literal.decodeWithin fuel value.encode)).toExcept := rfl
            simp only [Property.encode, Json.depth, Json.depthOfFields] at hdepth
            rw [hparts, ihLiteral value (by omega), Outcome.toExcept_seq_ofExcept, map_readBack]
            rfl

theorem Property.decode_encode (property : Property) :
    Property.decode property.encode = readBack property.numbers property :=
  (decodeWithin_encode _).2 property (Nat.lt_succ_self _)

theorem Argument.decode_encode (argument : Argument) :
    Argument.decode argument.encode = readBack argument.numbers argument := by
  -- The location is any JSON value here, so that nobody tries to decode it while parts are found.
  cases argument with
  | string value location =>
      have hparts : ∀ json : Json, Argument.decode (.object [("type", .string "string-literal"),
          ("value", .string value), ("location", json)]) =
          (Argument.string <$> Outcome.ofExcept 0 (.ok value) <*>
            Outcome.ofExcept 1 (Location.decode true json)).toExcept := fun json => rfl
      rw [Argument.encode, hparts, Location.decode_encode, Outcome.toExcept_map_ofExcept_seq]
      rfl
  | object properties location =>
      have hparts : ∀ items json : Json, Argument.decode (.object
          [("type", .string "object-literal"), ("members", items), ("location", json)]) =
          (Argument.object <$> Outcome.ofExcept 0 (Decoder.items Property.decode items) <*>
            Outcome.ofExcept 1 (Location.decode true json)).toExcept := fun items json => rfl
      rw [Argument.encode, hparts, Location.decode_encode, encodeProperties_eq_map,
        decode_items fun property _ => property.decode_encode, Outcome.toExcept_map_ofExcept_seq,
        map_readBack, ← numbersOf_eq_flatMap]
      rfl
  | other kind location =>
      have hparts : ∀ json : Json, Argument.decode (.object [("type", .string "other"),
          ("kind", .string kind), ("location", json)]) =
          (Argument.other <$> Outcome.ofExcept 0 (.ok kind) <*>
            Outcome.ofExcept 1 (Location.decode true json)).toExcept := fun json => rfl
      rw [Argument.encode, hparts, Location.decode_encode, Outcome.toExcept_map_ofExcept_seq]
      rfl

theorem Annotation.decode_encode (note : Annotation) :
    Annotation.decode note.encode = readBack note.numbers note := by
  have hparts : Annotation.decode note.encode =
      Outcome.toExcept (
        Annotation.mk <$> Outcome.good note.name <*>
          Outcome.ofExcept 1 (Location.decode false note.location.encode) <*>
          Outcome.ofExcept 2 (Decoder.items Argument.decode
            (.array (note.arguments.map Argument.encode)))) := rfl
  rw [hparts, Location.decode_encode, decode_items fun argument _ => argument.decode_encode]
  exact (Outcome.toExcept_seq_ofExcept _ _ _).trans (map_readBack _ _ _)

theorem Member.decode_encode (member : Member) :
    Member.decode member.encode = readBack member.numbers member := by
  have hparts : Member.decode member.encode =
      (Member.mk <$> Outcome.ofExcept 0 (Decoder.optional .text (.ofOption .string member.name)) <*>
        Outcome.ofExcept 1 (Location.decode false member.location.encode) <*>
        Outcome.ofExcept 2 (Decoder.items Annotation.decode
          (.array (member.annotations.map Annotation.encode)))).toExcept := rfl
  rw [hparts, decode_optional_text, Location.decode_encode,
    decode_items fun note _ => note.decode_encode]
  exact (Outcome.toExcept_seq_ofExcept _ _ _).trans (map_readBack _ _ _)

/-- **A view that is written is read again**, unless one of its numbers is not finite; then it is
reported that null is no number. -/
theorem decode_encode (view : View) : decode view.encode = readBack view.numbers view := by
  have hparts : decode view.encode =
      (View.mk <$> Outcome.ofExcept 0 (Decoder.optional .text (.ofOption .string view.name)) <*>
        Outcome.ofExcept 1 (Location.decode false view.location.encode) <*>
        Outcome.ofExcept 2 (Decoder.items Member.decode
          (.array (view.members.map Member.encode)))).toExcept := rfl
  rw [hparts, decode_optional_text, Location.decode_encode,
    decode_items fun member _ => member.decode_encode]
  exact (Outcome.toExcept_seq_ofExcept _ _ _).trans (map_readBack _ _ _)

/-! ### Views that are read -/

/-- All numbers can be written. -/
def AreWritable (numbers : List Double) : Prop := ∀ d ∈ numbers, d.isFinite = true

theorem areWritable_nil : AreWritable [] := fun _ h => nomatch h

theorem areWritable_flatMap {α : Type} {values : List α} {numbers : α → List Double} :
    AreWritable (values.flatMap numbers) ↔ ∀ value ∈ values, AreWritable (numbers value) := by
  simp only [AreWritable, List.mem_flatMap]
  constructor
  · intro h value hvalue d hd
    exact h d ⟨value, hvalue, hd⟩
  · rintro h d ⟨value, hvalue, hd⟩
    exact h value hvalue d hd

theorem readBack_eq_ok_iff {α : Type} {numbers : List Double} {value : α} :
    readBack numbers value = .ok value ↔ AreWritable numbers := by
  unfold readBack AreWritable
  rw [← List.all_eq_true]
  split
  · simp_all
  · simp_all

theorem ensures_withContent {α : Type} {P : α → Prop} {decode : Decoder α} (h : decode.Ensures P)
    {content : Option Json} (hcontent : ∀ json ∈ content, json.isProper = true) {value : α}
    (hvalue : withContent decode content = .ok value) : P value := by
  cases content with
  | none => cases hvalue
  | some json => exact h json (hcontent json rfl) value hvalue

/-- Whatever the bound on the depth, what is read has numbers that can be written. -/
theorem ensures_decodeWithin (fuel : Nat) :
    Decoder.Ensures (Literal.decodeWithin fuel) (fun value => AreWritable value.numbers) ∧
      Decoder.Ensures (Property.decodeWithin fuel)
        fun property => AreWritable property.numbers := by
  induction fuel with
  | zero =>
      constructor
      · intro json _ value hvalue
        cases hvalue
      · intro json _ property hproperty
        cases hproperty
  | succ fuel ih =>
      obtain ⟨ihLiteral, ihProperty⟩ := ih
      constructor
      · rw [Literal.decodeWithin]
        refine Decoder.ensures_adjacent fun tag content hcontent value hvalue => ?_
        split at hvalue
        · split at hvalue
          · cases hvalue
            exact areWritable_nil
          · cases hvalue
            exact areWritable_nil
          · cases hvalue
        · obtain ⟨b, -, rfl⟩ := Json.exists_of_map_eq_ok hvalue
          exact areWritable_nil
        · obtain ⟨d, hd, rfl⟩ := Json.exists_of_map_eq_ok hvalue
          have hfinite := ensures_withContent Decoder.ensures_real hcontent hd
          simpa [AreWritable, Literal.numbers] using hfinite
        · obtain ⟨text, -, rfl⟩ := Json.exists_of_map_eq_ok hvalue
          exact areWritable_nil
        · obtain ⟨properties, hproperties, rfl⟩ := Json.exists_of_map_eq_ok hvalue
          rw [Literal.numbers, numbersOf_eq_flatMap, areWritable_flatMap]
          exact ensures_withContent (Decoder.ensures_items ihProperty) hcontent hproperties
        · obtain ⟨kind, -, rfl⟩ := Json.exists_of_map_eq_ok hvalue
          exact areWritable_nil
      · intro json hjson property hproperty
        obtain ⟨⟨tag, rest⟩, htagged, hproperty⟩ := Json.exists_of_bind_eq_ok hproperty
        have hrest := Decoder.isProper_of_tagged hjson htagged
        dsimp only at hproperty
        split at hproperty
        · refine Decoder.ensures_record (P := fun property => AreWritable property.numbers)
            (fun parts hparts property hproperty => ?_) rest hrest property hproperty
          obtain ⟨entry, value, hentry, hvalue, rfl⟩ := Outcome.seq_eq_good_iff.mp hproperty
          obtain ⟨key, -, rfl⟩ := Outcome.map_eq_good_iff.mp hentry
          exact Parts.ensures_required hparts ihLiteral value hvalue
        · refine Decoder.ensures_record (P := fun property => AreWritable property.numbers)
            (fun parts hparts property hproperty => ?_) rest hrest property hproperty
          obtain ⟨kind, -, rfl⟩ := Outcome.map_eq_good_iff.mp hproperty
          exact areWritable_nil

theorem Property.ensures_decode :
    Decoder.Ensures Property.decode fun property => AreWritable property.numbers :=
  fun json hjson => (ensures_decodeWithin _).2 json hjson

theorem Argument.ensures_decode :
    Decoder.Ensures Argument.decode fun argument => AreWritable argument.numbers := by
  intro json hjson argument hargument
  obtain ⟨⟨tag, rest⟩, htagged, hargument⟩ := Json.exists_of_bind_eq_ok hargument
  have hrest := Decoder.isProper_of_tagged hjson htagged
  dsimp only at hargument
  split at hargument
  · refine Decoder.ensures_record (P := fun argument => AreWritable argument.numbers)
      (fun parts hparts argument hargument => ?_) rest hrest argument hargument
    obtain ⟨string, location, hstring, -, rfl⟩ := Outcome.seq_eq_good_iff.mp hargument
    obtain ⟨value, -, rfl⟩ := Outcome.map_eq_good_iff.mp hstring
    exact areWritable_nil
  · refine Decoder.ensures_record (P := fun argument => AreWritable argument.numbers)
      (fun parts hparts argument hargument => ?_) rest hrest argument hargument
    obtain ⟨object, location, hobject, -, rfl⟩ := Outcome.seq_eq_good_iff.mp hargument
    obtain ⟨properties, hproperties, rfl⟩ := Outcome.map_eq_good_iff.mp hobject
    rw [Argument.numbers, numbersOf_eq_flatMap, areWritable_flatMap]
    exact Parts.ensures_required hparts (Decoder.ensures_items Property.ensures_decode)
      properties hproperties
  · refine Decoder.ensures_record (P := fun argument => AreWritable argument.numbers)
      (fun parts hparts argument hargument => ?_) rest hrest argument hargument
    obtain ⟨other, location, hother, -, rfl⟩ := Outcome.seq_eq_good_iff.mp hargument
    obtain ⟨kind, -, rfl⟩ := Outcome.map_eq_good_iff.mp hother
    exact areWritable_nil

theorem Annotation.ensures_decode :
    Decoder.Ensures Annotation.decode fun note => AreWritable note.numbers := by
  refine Decoder.ensures_record fun parts hparts note hnote => ?_
  obtain ⟨located, arguments, hlocated, harguments, rfl⟩ := Outcome.seq_eq_good_iff.mp hnote
  obtain ⟨named, location, hnamed, -, rfl⟩ := Outcome.seq_eq_good_iff.mp hlocated
  obtain ⟨name, -, rfl⟩ := Outcome.map_eq_good_iff.mp hnamed
  refine areWritable_flatMap.mpr ?_
  exact Parts.ensures_defaulted hparts (Decoder.ensures_items Argument.ensures_decode)
    (by simp) arguments harguments

theorem Member.ensures_decode :
    Decoder.Ensures Member.decode fun member => AreWritable member.numbers := by
  refine Decoder.ensures_record fun parts hparts member hmember => ?_
  obtain ⟨located, notes, hlocated, hnotes, rfl⟩ := Outcome.seq_eq_good_iff.mp hmember
  obtain ⟨named, location, hnamed, -, rfl⟩ := Outcome.seq_eq_good_iff.mp hlocated
  obtain ⟨name, -, rfl⟩ := Outcome.map_eq_good_iff.mp hnamed
  refine areWritable_flatMap.mpr ?_
  exact Parts.ensures_defaulted hparts (Decoder.ensures_items Annotation.ensures_decode)
    (by simp) notes hnotes

/-- **The numbers of a view that is read can be written.** -/
theorem ensures_decode : Decoder.Ensures decode fun view => AreWritable view.numbers := by
  refine Decoder.ensures_record fun parts hparts view hview => ?_
  obtain ⟨located, members, hlocated, hmembers, rfl⟩ := Outcome.seq_eq_good_iff.mp hview
  obtain ⟨named, location, hnamed, -, rfl⟩ := Outcome.seq_eq_good_iff.mp hlocated
  obtain ⟨name, -, rfl⟩ := Outcome.map_eq_good_iff.mp hnamed
  refine areWritable_flatMap.mpr ?_
  exact Parts.ensures_required hparts (Decoder.ensures_items Member.ensures_decode) members hmembers

/-! ### Round trips -/

/-- **What is written as JSON and read again.**  A view comes back exactly if all its numbers are
finite.  A number that is not is written null, and the view that it stands in cannot be read.
Bindings and diagnostics always come back.  And every view that was read, in whatever form it was
given, comes back when it is written in full. -/
theorem round_trip :
    (∀ view : View, decode view.encode = .ok view ↔ ∀ d ∈ view.numbers, d.isFinite = true) ∧
      (∀ d : Double, d.isFinite = false → (Literal.number d).encode =
        .object [("type", .string "number"), ("value", .null)]) ∧
      (∀ view : View, (∃ d ∈ view.numbers, d.isFinite = false) →
        decode view.encode = .error (.wrongType "null" "f64")) ∧
      (∀ binding : Binding, Binding.decode binding.encode = .ok binding) ∧
      (∀ d : Diagnostic, Diagnostic.decode d.encode = .ok d) ∧
      ∀ json : Json, json.isProper = true → ∀ view, decode json = .ok view →
        decode view.encode = .ok view := by
  have hwritable : ∀ view : View, decode view.encode = .ok view ↔ AreWritable view.numbers := by
    intro view
    rw [decode_encode, readBack_eq_ok_iff]
  refine ⟨hwritable, ?_, ?_, Binding.decode_encode, Diagnostic.decode_encode, ?_⟩
  · intro d hd
    rw [Literal.encode, Json.ofDouble, if_neg (by simp [hd])]
  · rintro view ⟨d, hd, hinfinite⟩
    rw [decode_encode, readBack, if_neg]
    intro hall
    rw [List.all_eq_true.mp hall d hd] at hinfinite
    cases hinfinite
  · intro json hjson view hview
    exact (hwritable view).mpr (ensures_decode json hjson view hview)

/-- A class without a name and with an unknown field, one of whose annotations has a number, which
may or may not be finite. -/
theorem round_trip_defaults :
    let literal : Json := .object [("value", .integer 1), ("type", .string "number")]
    let property : Json :=
      .object [("type", .string "property"), ("key", .string "capture"), ("value", literal)]
    let argument : Json :=
      .object [("type", .string "object-literal"), ("members", .array [property])]
    let note : Json := .object [("name", .string "Listen"), ("arguments", .array [argument])]
    let member : Json := .object [("name", .null), ("annotations", .array [note])]
    let json : Json := .object [("kind", .string "class"), ("members", .array [member])]
    let view : Double → View := fun d => ⟨none, ⟨0, 0⟩, [⟨none, ⟨0, 0⟩, [⟨"Listen", ⟨0, 0⟩,
      [.object [.entry "capture" (.number d)] ⟨0, 0⟩]⟩]⟩]⟩
    decode json = .ok (view (Double.ofNat 1)) ∧
      decode (view (Double.ofNat 1)).encode = .ok (view (Double.ofNat 1)) ∧
      decode (view Double.infinity).encode = .error (.wrongType "null" "f64") := by
  intro literal property argument note member json view
  have hproper : json.isProper = true := rfl
  have hread : decode json = .ok (view (Double.ofNat 1)) := rfl
  have hinfinite : ∃ d ∈ (view Double.infinity).numbers, d.isFinite = false :=
    ⟨Double.infinity, List.mem_singleton.mpr rfl, by decide⟩
  exact ⟨hread, round_trip.2.2.2.2.2 json hproper _ hread, round_trip.2.2.1 _ hinfinite⟩

end View

end Listeners
