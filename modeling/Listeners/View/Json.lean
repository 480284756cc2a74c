/-
Views as JSON.

A view is written with all its parts.  Reading is more generous: locations, annotations and
arguments may be left out, and names may be null or, in an object, left out.  The form of
an argument, of a property and of a value is told by its tag.  A number that is not finite
is written null, which no reader takes for a number.
-/
import Listeners.Json.Decode
import Listeners.View
namespace Listeners

open Json (Decoder DecodeError Outcome Parts)

/-! ### Locations -/

namespace Location

def encode (location : Location) : Json :=
  .object [("line", .integer location.line.toNat), ("column", .integer location.column.toNat)]

def decode (isInside : Bool) : Decoder Location :=
  .record isInside "struct SourceLocation" 2 fun parts =>
    mk <$> parts.required 0 "line" .word <*> parts.required 1 "column" .word

end Location

namespace View

/-! ### Writing -/

mutual

def Literal.encode : Literal → Json
  | .null => .object [("type", .string "null")]
  | .boolean value => .object [("type", .string "boolean"), ("value", .boolean value)]
  | .number value => .object [("type", .string "number"), ("value", .ofDouble value)]
  | .string value => .object [("type", .string "string"), ("value", .string value)]
  | .object properties =>
    .object [("type", .string "object"), ("value", .array (encodeProperties properties))]
  | .other kind => .object [("type", .string "other"), ("value", .string kind)]

def Property.encode : Property → Json
  | .entry key value =>
    .object [("type", .string "property"), ("key", .string key), ("value", value.encode)]
  | .unsupported kind => .object [("type", .string "unsupported"), ("kind", .string kind)]

def encodeProperties : List Property → List Json
  | [] => []
  | property :: properties => property.encode :: encodeProperties properties

end

def Argument.encode : Argument → Json
  | .string value location =>
    .object [("type", .string "string-literal"), ("value", .string value),
      ("location", location.encode)]
  | .object properties location =>
    .object [("type", .string "object-literal"),
      ("members", .array (encodeProperties properties)), ("location", location.encode)]
  | .other kind location =>
    .object [("type", .string "other"), ("kind", .string kind), ("location", location.encode)]

def Annotation.encode (note : Annotation) : Json :=
  .object [("name", .string note.name), ("location", note.location.encode),
    ("arguments", .array (note.arguments.map Argument.encode))]

def Member.encode (member : Member) : Json :=
  .object [("name", .ofOption .string member.name), ("location", member.location.encode),
    ("annotations", .array (member.annotations.map Annotation.encode))]

def encode (view : View) : Json :=
  .object [("name", .ofOption .string view.name), ("location", view.location.encode),
    ("members", .array (view.members.map Member.encode))]

/-! ### Reading -/

/-- Passes the content of a form on, which has to be there. -/
def withContent {α : Type} (decode : Decoder α) : Option Json → Except DecodeError α
  | some json => decode json
  | none => .error (.missingField "value")

def literalTags : List String := ["null", "boolean", "number", "string", "object", "other"]

mutual

/-- Decodes a value in which objects are nested less deeply than `fuel`. -/
def Literal.decodeWithin (fuel : Nat) : Decoder Literal :=
  match fuel with
  | 0 => .refuse "adjacently tagged enum LiteralNode"
  | fuel + 1 =>
    .adjacent true "LiteralNode" literalTags fun tag content =>
      match tag with
      | "null" =>
        match content with
        | none | some .null => .ok .null
        | some json => Decoder.refuse "unit variant LiteralNode::Null" json
      | "boolean" => (withContent .flag content).map .boolean
      | "number" => (withContent .real content).map .number
      | "string" => (withContent .text content).map .string
      | "object" =>
        (withContent (.items (Property.decodeWithin fuel)) content).map .object
      | _ => (withContent .text content).map .other

/-- Decodes a property in which objects are nested less deeply than `fuel`. -/
def Property.decodeWithin (fuel : Nat) : Decoder Property :=
  match fuel with
  | 0 => .refuse "internally tagged enum ObjectMember"
  | fuel + 1 => fun json => do
    let (tag, rest) ← Decoder.tagged "ObjectMember" ["property", "unsupported"] json
    match tag with
    | "property" =>
      Decoder.record true "struct variant ObjectMember::Property" 2 (fun parts =>
        Property.entry <$> parts.required 0 "key" .text
          <*> parts.required 1 "value" (Literal.decodeWithin fuel)) rest
    | _ =>
      Decoder.record true "struct variant ObjectMember::Unsupported" 1 (fun parts =>
        Property.unsupported <$> parts.required 0 "kind" .text) rest

end

def Property.decode : Decoder Property := fun json => decodeWithin (json.depth + 1) json

def Argument.decode : Decoder Argument := fun json => do
  let (tag, rest) ←
    Decoder.tagged "ArgumentExpression" ["string-literal", "object-literal", "other"] json
  let location (parts : Parts) : Outcome Location :=
    parts.defaulted 1 "location" (Location.decode true) default
  match tag with
  | "string-literal" =>
    Decoder.record true "struct variant ArgumentExpression::StringLiteral" 2 (fun parts =>
      Argument.string <$> parts.required 0 "value" .text <*> location parts) rest
  | "object-literal" =>
    Decoder.record true "struct variant ArgumentExpression::ObjectLiteral" 2 (fun parts =>
      Argument.object <$> parts.required 0 "members" (.items Property.decode)
        <*> location parts) rest
  | _ =>
    Decoder.record true "struct variant ArgumentExpression::Other" 2 (fun parts =>
      Argument.other <$> parts.required 0 "kind" .text <*> location parts) rest

def Annotation.decode : Decoder Annotation :=
  .record false "struct AnnotationInvocation" 3 fun parts =>
    Annotation.mk <$> parts.required 0 "name" .text
      <*> parts.defaulted 1 "location" (Location.decode false) default
      <*> parts.defaulted 2 "arguments" (.items Argument.decode) []

def Member.decode : Decoder Member :=
  .record false "struct ClassMember" 3 fun parts =>
    Member.mk <$> parts.nullable 0 "name" .text
      <*> parts.defaulted 1 "location" (Location.decode false) default
      <*> parts.defaulted 2 "annotations" (.items Annotation.decode) []

def decode : Decoder View :=
  .record false "struct ClassDeclaration" 3 fun parts =>
    mk <$> parts.nullable 0 "name" .text
      <*> parts.defaulted 1 "location" (Location.decode false) default
      <*> parts.required 2 "members" (.items Member.decode)

end View

end Listeners
