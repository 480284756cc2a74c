/-
Decoding JSON values.

A record is written as an object with a field for each of its parts, or as an array of the
parts in their order.  Unknown fields say nothing.  If something is wrong, what is reported
is the first bad value in the order of the JSON value; only if all values are good, the
first field that is missing, in the order of the record.  `Outcome` combines what has
become of the fields according to this rule, so that a decoder lists its fields and nothing
else.

One of several forms is told by a tag.  The tag stands in the field `type`, and the rest
either beside it, as fields of the form, or together in the field `value`.  A record that
stands within a form with a tag beside its fields is `inside`, which only changes how a
surplus of items is reported.
-/
import Listeners.Json.Number
import Listeners.Text.Quoted
namespace Listeners.Json

/-- Why a value is not one of the wanted type. -/
inductive DecodeError where
  /-- A value of another sort, which is described. -/
  | wrongType (found wanted : String)
  /-- A value of the right sort, but not a possible one. -/
  | wrongValue (found wanted : String)
  | wrongLength (length : Nat) (wanted : String)
  | missingField (name : String)
  | duplicateField (name : String)
  | unknownVariant (name : String) (variants : List String)
  deriving DecidableEq, Repr

/-- Names as a choice. -/
def choice : List String → String
  | [] => "there are no variants"
  | [name] => "expected `" ++ name ++ "`"
  | [first, second] => "expected `" ++ first ++ "` or `" ++ second ++ "`"
  | names => "expected one of " ++ ", ".intercalate (names.map fun name => "`" ++ name ++ "`")

def DecodeError.message : DecodeError → String
  | wrongType found wanted => "invalid type: " ++ found ++ ", expected " ++ wanted
  | wrongValue found wanted => "invalid value: " ++ found ++ ", expected " ++ wanted
  | wrongLength length wanted => "invalid length " ++ toString length ++ ", expected " ++ wanted
  | missingField name => "missing field `" ++ name ++ "`"
  | duplicateField name => "duplicate field `" ++ name ++ "`"
  | unknownVariant name variants => "unknown variant `" ++ name ++ "`, " ++ choice variants

/-- What a value is, for a message. -/
def describe : Json → String
  | null => "null"
  | boolean value => "boolean `" ++ toString value ++ "`"
  | integer value => "integer `" ++ toString value ++ "`"
  | double value => "floating point `" ++ pointText value ++ "`"
  | string value => "string " ++ Text.quoted value
  | array _ => "sequence"
  | object _ => "map"

abbrev Decoder (α : Type) := Json → Except DecodeError α

namespace Decoder

variable {α : Type}

/-- The value is of the wrong sort. -/
def refuse (wanted : String) : Decoder α := fun json => .error (.wrongType json.describe wanted)

/-! ### Plain values -/

def text : Decoder String
  | .string value => .ok value
  | json => refuse "a string" json

def flag : Decoder Bool
  | .boolean value => .ok value
  | json => refuse "a boolean" json

/-- A natural number below 2 ^ 32. -/
def word : Decoder UInt32
  | .integer value =>
    if 0 ≤ value && value < 0x100000000 then .ok (UInt32.ofNat value.toNat)
    else .error (.wrongValue (Json.integer value).describe "u32")
  | json => refuse "u32" json

def real : Decoder Double
  | .double value => .ok value
  | .integer value =>
    .ok (if value < 0 then (Double.ofNat value.natAbs).neg else Double.ofNat value.natAbs)
  | json => refuse "f64" json

/-- Null, or a value. -/
def optional (decode : Decoder α) : Decoder (Option α)
  | .null => .ok none
  | json => (decode json).map some

def items (decode : Decoder α) : Decoder (List α)
  | .array items => items.mapM decode
  | json => refuse "a sequence" json

/-- An object with any fields. -/
def fields : Decoder Fields
  | .object fields => .ok fields
  | json => refuse "a map" json

/-! ### Records -/

end Decoder

/-- What has become of the fields of a record: a value, or the first bad one with its place
in the JSON value, or the first missing one. -/
inductive Outcome (α : Type) where
  | good (value : α)
  | bad (place : Nat) (error : DecodeError)
  | missing (error : DecodeError)

namespace Outcome

variable {α β : Type}

/-- The better error of two: that of the first bad value, or else the first of those about
missing fields. -/
def ap (f : Outcome (α → β)) (a : Outcome α) : Outcome β :=
  match f, a with
  | good f, good a => good (f a)
  | bad p e, bad q d => if q < p then bad q d else bad p e
  | bad p e, _ => bad p e
  | _, bad q d => bad q d
  | missing e, _ => missing e
  | good _, missing d => missing d

instance : Pure Outcome := ⟨good⟩

instance : Functor Outcome where
  map f a := (good f).ap a

instance : Seq Outcome where
  seq f a := f.ap (a ())

def toExcept : Outcome α → Except DecodeError α
  | good value => .ok value
  | bad _ error | missing error => .error error

def ofExcept (place : Nat) : Except DecodeError α → Outcome α
  | .ok value => good value
  | .error error => bad place error

end Outcome

/-- The parts of a record as they are given. -/
inductive Parts where
  | named (fields : Fields)
  /-- In order, and what an error calls the record. -/
  | listed (items : List Json) (wanted : String)

namespace Parts

variable {α : Type}

/-- The part with a name and a position, decoded; `absent` is for when it is not there. -/
def find (parts : Parts) (position : Nat) (name : String) (decode : Decoder α)
    (absent : Outcome α) : Outcome α :=
  match parts with
  | .named fields =>
    match List.findIdx? (·.1 == name) fields, Fields.find? fields name with
    | some place, some json => .ofExcept place (decode json)
    | _, _ => absent
  | .listed items _ =>
    match items[position]? with
    | some json => .ofExcept position (decode json)
    | none => absent

/-- What is reported if a part is not there. -/
def absence (parts : Parts) (position : Nat) (name : String) : Outcome α :=
  match parts with
  | .named _ => .missing (.missingField name)
  | .listed _ wanted => .bad position (.wrongLength position wanted)

/-- A part that must be there. -/
def required (parts : Parts) (position : Nat) (name : String) (decode : Decoder α) : Outcome α :=
  parts.find position name decode (parts.absence position name)

/-- A part that may be null, and may be missing as a field. -/
def nullable (parts : Parts) (position : Nat) (name : String) (decode : Decoder α) :
    Outcome (Option α) :=
  parts.find position name (.optional decode) <|
    match parts with
    | .named _ => .good none
    | .listed .. => parts.absence position name

/-- A part with a value for when it is missing. -/
def defaulted (parts : Parts) (position : Nat) (name : String) (decode : Decoder α)
    (value : α) : Outcome α :=
  parts.find position name decode (.good value)

end Parts

namespace Decoder

variable {α : Type}

/-- What is reported if there are more items than a record has parts. -/
def surplus (isInside : Bool) (size given : Nat) : DecodeError :=
  if isInside then
    .wrongLength given (if size = 1 then "1 element in sequence"
      else toString size ++ " elements in sequence")
  else .wrongLength given "fewer elements in array"

/-- A record of `size` parts, called `name`. -/
def record (isInside : Bool) (name : String) (size : Nat) (ofParts : Parts → Outcome α) :
    Decoder α
  | .object fields => (ofParts (.named fields)).toExcept
  | .array items => do
    let wanted := name ++ " with " ++ toString size ++ if size = 1 then " element" else " elements"
    let value ← (ofParts (.listed items wanted)).toExcept
    if size < items.length then .error (surplus isInside size items.length) else .ok value
  | json => refuse name json

/-! ### One of several forms -/

/-- The name of one of the variants, at the place where a value tells which. -/
def variantName (variants : List String) (name : String) : Except DecodeError String :=
  if variants.contains name then .ok name else .error (.unknownVariant name variants)

/-- One of several names: a string, or an object whose only field has that name and is
null. -/
def variant (variants : List String) : Decoder String
  | .string name => variantName variants name
  | .object [(name, content)] => do
    let name ← variantName variants name
    match content with
    | .null => .ok name
    | json => refuse "unit" json
  | .object _ => .error (.wrongValue "map" "map with a single key")
  | json => refuse "string or map" json

/-- The tag beside the fields of a form. -/
def tag (variants : List String) : Decoder String
  | .string name => variantName variants name
  | json => refuse "variant identifier" json

/-- A form whose tag stands beside its fields, or before them: the tag and the rest. -/
def tagged (name : String) (variants : List String) : Decoder (String × Json)
  | .object fields =>
    match Fields.find? fields "type" with
    | none => .error (.missingField "type")
    | some json => do
      let tag ← tag variants json
      .ok (tag, .object (List.filter (·.1 != "type") fields))
  | .array [] => .error (.missingField "type")
  | .array (json :: items) => do
    let tag ← tag variants json
    .ok (tag, .array items)
  | json => refuse ("internally tagged enum " ++ name) json

/-- A form whose tag stands beside its content, which may be missing. -/
def adjacent (isInside : Bool) (name : String) (variants : List String)
    (ofContent : String → Option Json → Except DecodeError α) : Decoder α
  | .object fields =>
    match Fields.find? fields "type" with
    | none => .error (.missingField "type")
    | some json => do
      let tag ← variant variants json
      ofContent tag (Fields.find? fields "value")
  | .array items => do
    let wanted := "adjacently tagged enum " ++ name
    match items with
    | [] => .error (.wrongLength 0 wanted)
    | json :: rest =>
      let tag ← variant variants json
      match rest with
      | [] => .error (.wrongLength 1 wanted)
      | content :: rest =>
        let value ← ofContent tag (some content)
        if rest.isEmpty then .ok value else .error (surplus isInside 2 items.length)
  | json => refuse ("adjacently tagged enum " ++ name) json

end Decoder

end Listeners.Json
