/-
What decoders give.

If a decoder gives a value, then the value was put together from parts that other decoders have
given.  So what a decoder ensures of the values that it gives (`Ensures`) is known from what the
decoders of the parts ensure, however the parts are written: as fields or as items, with unknown
fields beside them, in any order, or not at all where there is a default.

Numbers are the reason why not every JSON value will do.  A text cannot write a number that is not
finite, and an integer has at most sixty-four bits; `isProper` says so of a value.
-/
import Listeners.Json.Decode
import Listeners.Proofs.Finite

namespace Listeners.Json

variable {α β γ ε : Type}

/-- What is computed in two steps has been computed in each. -/
theorem exists_of_bind_eq_ok {x : Except ε α} {f : α → Except ε β} {b : β}
    (h : (x >>= f) = .ok b) : ∃ a, x = .ok a ∧ f a = .ok b := by
  cases x with
  | error e => cases h
  | ok a => exact ⟨a, rfl, h⟩

theorem exists_of_map_eq_ok {x : Except ε α} {f : α → β} {b : β} (h : x.map f = .ok b) :
    ∃ a, x = .ok a ∧ f a = b := by
  cases x with
  | error e => cases h
  | ok a => exact ⟨a, rfl, Except.ok.inj h⟩

/-- Every value of a list has been computed from one of those that it was computed from. -/
theorem exists_of_mem_mapM {f : α → Except ε β} {as : List α} {bs : List β}
    (h : as.mapM f = .ok bs) {b : β} (hb : b ∈ bs) : ∃ a ∈ as, f a = .ok b := by
  induction as generalizing bs with
  | nil =>
      cases h
      cases hb
  | cons a as ih =>
      rw [List.mapM_cons] at h
      obtain ⟨first, hfirst, h⟩ := exists_of_bind_eq_ok h
      obtain ⟨rest, hrest, h⟩ := exists_of_bind_eq_ok h
      obtain rfl : first :: rest = bs := Except.ok.inj h
      rcases List.mem_cons.mp hb with rfl | hb
      · exact ⟨a, by simp, hfirst⟩
      · obtain ⟨other, hother, hvalue⟩ := ih hrest hb
        exact ⟨other, by simp [hother], hvalue⟩

/-! ### Values that a text can write -/

mutual

/-- Whether all numbers of a value are finite, and its integers have at most sixty-four bits. -/
def isProper : Json → Bool
  | integer value => -0x8000000000000000 ≤ value && value < 0x10000000000000000
  | double value => value.isFinite
  | array items => areProper items
  | object fields => fieldsProper fields
  | null | boolean _ | string _ => true

def areProper : List Json → Bool
  | [] => true
  | item :: items => item.isProper && areProper items

def fieldsProper : List (String × Json) → Bool
  | [] => true
  | (_, value) :: fields => value.isProper && fieldsProper fields

end

theorem areProper_iff {items : List Json} :
    areProper items = true ↔ ∀ item ∈ items, item.isProper = true := by
  induction items with
  | nil => simp [areProper]
  | cons item items ih => simp [areProper, ih]

theorem fieldsProper_iff {fields : Fields} :
    fieldsProper fields = true ↔ ∀ field ∈ fields, field.2.isProper = true := by
  induction fields with
  | nil => simp [fieldsProper]
  | cons field fields ih =>
      obtain ⟨name, value⟩ := field
      simp [fieldsProper, ih]

theorem isProper_of_find? {fields : Fields} {name : String} {json : Json}
    (h : ∀ field ∈ fields, field.2.isProper = true) (hfind : fields.find? name = some json) :
    json.isProper = true := by
  obtain ⟨field, hfield, rfl⟩ := Option.map_eq_some_iff.mp hfind
  exact h field (List.mem_of_find?_eq_some hfield)

/-! ### What a decoder ensures -/

/-- Every value that the decoder gives for a proper JSON value has the property `P`. -/
def Decoder.Ensures (decode : Decoder α) (P : α → Prop) : Prop :=
  ∀ json : Json, json.isProper = true → ∀ value, decode json = .ok value → P value

/-- The value, if it is good, has the property `P`. -/
def Outcome.Ensures (outcome : Outcome α) (P : α → Prop) : Prop :=
  ∀ value, outcome = .good value → P value

/-- All parts are proper. -/
def Parts.AreProper : Parts → Prop
  | .named fields => ∀ field ∈ fields, field.2.isProper = true
  | .listed items _ => ∀ item ∈ items, item.isProper = true

namespace Outcome

theorem map_eq_good_iff {f : α → β} {a : Outcome α} {b : β} :
    f <$> a = good b ↔ ∃ x, a = good x ∧ f x = b := by
  show (good f).ap a = good b ↔ _
  cases a <;> simp [ap]

/-- A record is good if all its parts are. -/
theorem seq_eq_good_iff {f : Outcome (α → β)} {a : Outcome α} {b : β} :
    f <*> a = good b ↔ ∃ g x, f = good g ∧ a = good x ∧ g x = b := by
  show f.ap a = good b ↔ _
  cases f with
  | good g => cases a <;> simp [ap]
  | bad p e =>
      cases a with
      | bad q d => by_cases h : q < p <;> simp [ap, h]
      | good x => simp [ap]
      | missing d => simp [ap]
  | missing e => cases a <;> simp [ap]

theorem toExcept_eq_ok_iff {a : Outcome α} {value : α} :
    a.toExcept = .ok value ↔ a = good value := by
  cases a <;> simp [toExcept]

theorem ofExcept_eq_good_iff {place : Nat} {result : Except DecodeError α} {value : α} :
    ofExcept place result = good value ↔ result = .ok value := by
  cases result <;> simp [ofExcept]

/-- A record with one part that may be bad is what that part is. -/
theorem toExcept_seq_ofExcept (f : α → β) (place : Nat) (result : Except DecodeError α) :
    (good f <*> ofExcept place result).toExcept = result.map f := by
  cases result <;> rfl

theorem toExcept_map_ofExcept_seq (f : α → γ → β) (place other : Nat)
    (result : Except DecodeError α) (c : γ) :
    (f <$> ofExcept place result <*> ofExcept other (.ok c)).toExcept =
      result.map fun a => f a c := by
  cases result <;> rfl

end Outcome

namespace Parts

variable {P : α → Prop} {parts : Parts} {position : Nat} {name : String} {decode : Decoder α}

theorem ensures_find (h : parts.AreProper) (hdecode : decode.Ensures P) {absent : Outcome α}
    (habsent : absent.Ensures P) : (parts.find position name decode absent).Ensures P := by
  intro value hvalue
  cases parts with
  | named fields =>
      simp only [find] at hvalue
      split at hvalue
      · rename_i json hplace hjson
        exact hdecode json (isProper_of_find? h hjson) value
          (Outcome.ofExcept_eq_good_iff.mp hvalue)
      · exact habsent value hvalue
  | listed items wanted =>
      simp only [find] at hvalue
      split at hvalue
      · rename_i json hjson
        exact hdecode json (h json (List.mem_of_getElem? hjson)) value
          (Outcome.ofExcept_eq_good_iff.mp hvalue)
      · exact habsent value hvalue

theorem ensures_required (h : parts.AreProper) (hdecode : decode.Ensures P) :
    (parts.required position name decode).Ensures P := by
  refine ensures_find h hdecode fun value hvalue => ?_
  cases parts <;> cases hvalue

theorem ensures_defaulted (h : parts.AreProper) (hdecode : decode.Ensures P) {value : α}
    (hvalue : P value) : (parts.defaulted position name decode value).Ensures P := by
  refine ensures_find h hdecode fun other hother => ?_
  cases hother
  exact hvalue

end Parts

namespace Decoder

variable {P : α → Prop}

theorem ensures_real : real.Ensures fun value => value.isFinite = true := by
  intro json hjson value hvalue
  cases json with
  | integer n =>
      simp only [isProper, Bool.and_eq_true, decide_eq_true_eq] at hjson
      have hfinite : (Double.ofNat n.natAbs).isFinite = true :=
        Double.isFinite_ofNat (by omega)
      simp only [real, Except.ok.injEq] at hvalue
      subst hvalue
      split
      · rwa [Double.isFinite_neg]
      · exact hfinite
  | double d =>
      cases hvalue
      exact hjson
  | null | boolean b | string s | array items | object fields => cases hvalue

theorem ensures_items {decode : Decoder α} (h : decode.Ensures P) :
    (items decode).Ensures fun values => ∀ value ∈ values, P value := by
  intro json hjson values hvalues value hvalue
  cases json with
  | array items =>
      obtain ⟨item, hitem, hdecode⟩ := exists_of_mem_mapM (f := decode) hvalues hvalue
      exact h item (areProper_iff.mp hjson item hitem) value hdecode
  | null | boolean b | integer n | double d | string s | object fields => cases hvalues

theorem ensures_record {isInside : Bool} {name : String} {size : Nat}
    {ofParts : Parts → Outcome α} (h : ∀ parts, parts.AreProper → (ofParts parts).Ensures P) :
    (record isInside name size ofParts).Ensures P := by
  intro json hjson value hvalue
  cases json with
  | object fields =>
      exact h (.named fields) (fieldsProper_iff.mp hjson) value
        (Outcome.toExcept_eq_ok_iff.mp hvalue)
  | array items =>
      obtain ⟨other, hother, hvalue⟩ := exists_of_bind_eq_ok hvalue
      have hsame : other = value := by
        split at hvalue
        · cases hvalue
        · exact Except.ok.inj hvalue
      subst hsame
      exact h (.listed items _) (areProper_iff.mp hjson) other
        (Outcome.toExcept_eq_ok_iff.mp hother)
  | null | boolean b | integer n | double d | string s => cases hvalue

/-- What stands beside a tag is proper. -/
theorem isProper_of_tagged {name : String} {variants : List String} {json rest : Json}
    {tag : String} (hjson : json.isProper = true)
    (h : tagged name variants json = .ok (tag, rest)) : rest.isProper = true := by
  cases json with
  | object fields =>
      simp only [tagged] at h
      split at h
      · cases h
      · obtain ⟨other, -, hrest⟩ := exists_of_bind_eq_ok h
        cases hrest
        refine fieldsProper_iff.mpr fun field hfield => ?_
        exact fieldsProper_iff.mp hjson field (List.mem_filter.mp hfield).1
  | array items =>
      cases items with
      | nil => cases h
      | cons first items =>
          obtain ⟨other, -, hrest⟩ := exists_of_bind_eq_ok h
          cases hrest
          refine areProper_iff.mpr fun item hitem => ?_
          exact areProper_iff.mp hjson item (List.mem_cons_of_mem _ hitem)
  | null | boolean b | integer n | double d | string s => cases h

theorem ensures_adjacent {isInside : Bool} {name : String} {variants : List String}
    {ofContent : String → Option Json → Except DecodeError α}
    (h : ∀ tag content, (∀ json ∈ content, json.isProper = true) →
      ∀ value, ofContent tag content = .ok value → P value) :
    (adjacent isInside name variants ofContent).Ensures P := by
  intro json hjson value hvalue
  cases json with
  | object fields =>
      simp only [adjacent] at hvalue
      split at hvalue
      · cases hvalue
      · obtain ⟨tag, -, hvalue⟩ := exists_of_bind_eq_ok hvalue
        refine h tag _ (fun content hcontent => ?_) value hvalue
        exact isProper_of_find? (fieldsProper_iff.mp hjson) hcontent
  | array items =>
      have hitems := areProper_iff.mp hjson
      match items, hvalue with
      | first :: content :: rest, hvalue =>
          obtain ⟨tag, -, hvalue⟩ := exists_of_bind_eq_ok hvalue
          obtain ⟨other, hother, hvalue⟩ := exists_of_bind_eq_ok hvalue
          have hsame : other = value := by
            split at hvalue
            · exact Except.ok.inj hvalue
            · cases hvalue
          subst hsame
          refine h tag (some content) (fun json hcontent => ?_) other hother
          cases hcontent
          exact hitems content (by simp)
      | [first], hvalue =>
          obtain ⟨tag, -, hvalue⟩ := exists_of_bind_eq_ok hvalue
          cases hvalue
  | null | boolean b | integer n | double d | string s => cases hvalue

end Decoder

end Listeners.Json
