/-
JSON values.

Integers and doubles are told apart, as they are in a JSON text: a number without a point
and an exponent is an integer if sixty-four bits can hold it.  The fields of an object are
a list in which a key is expected once; `insert` keeps it so.
-/
import Listeners.Number.Shortest
namespace Listeners

inductive Json where
  | null
  | boolean (value : Bool)
  | integer (value : Int)
  | double (value : Double)
  | string (value : String)
  | array (items : List Json)
  | object (fields : List (String × Json))

namespace Json

abbrev Fields := List (String × Json)

instance : Inhabited Json := ⟨null⟩

/-- A double as a JSON number; one that is not finite cannot be written and is null. -/
def ofDouble (d : Double) : Json := if d.isFinite then double d else null

def ofOption {α : Type} (encode : α → Json) : Option α → Json
  | none => null
  | some value => encode value

/-- The truth value that a JSON value is, if it is one. -/
def toBool? : Json → Option Bool
  | boolean value => some value
  | _ => none

mutual

/-- How deeply arrays and objects are nested in a value. -/
def depth : Json → Nat
  | array items => depthOfItems items + 1
  | object fields => depthOfFields fields + 1
  | null | boolean _ | integer _ | double _ | string _ => 0

def depthOfItems : List Json → Nat
  | [] => 0
  | item :: items => max item.depth (depthOfItems items)

def depthOfFields : List (String × Json) → Nat
  | [] => 0
  | (_, value) :: fields => max value.depth (depthOfFields fields)

end

namespace Fields

/-- The value of a key. -/
def find? (fields : Fields) (key : String) : Option Json :=
  (List.find? (·.1 == key) fields).map (·.2)

/-- Gives a key a value, in place of the one that it has. -/
def insert (key : String) (value : Json) : Fields → Fields
  | [] => [(key, value)]
  | (k, v) :: fields =>
    if k = key then (key, value) :: fields else (k, v) :: insert key value fields

theorem find?_insert (fields : Fields) (key : String) (value : Json) (other : String) :
    (fields.insert key value).find? other =
      if other = key then some value else fields.find? other := by
  induction fields with
  | nil =>
    by_cases h : other = key
    · simp [insert, find?, h]
    · simp [insert, find?, h, show key ≠ other from fun e => h e.symm]
  | cons field fields ih =>
    obtain ⟨k, v⟩ := field
    simp only [insert]
    split
    · next hk =>
      subst hk
      by_cases h : other = k
      · simp [find?, h]
      · simp [find?, h, show k ≠ other from fun e => h e.symm]
    · next hk =>
      simp only [find?, List.find?_cons] at ih ⊢
      by_cases h : k = other
      · subst h
        simp [hk]
      · simp only [show (k == other) = false by simp [h]]
        exact ih

end Fields

/-- The order of texts by their bytes, which is the order of their code points. -/
def keyPrecedes (a b : String × Json) : Bool := decide (a.1 ≤ b.1)

/-- The fields with one value for each key, the last, in the order of the keys. -/
def Fields.normalize (fields : Fields) : Fields :=
  (List.foldl (fun (found : Fields) (key, value) => found.insert key value) [] fields).mergeSort
    keyPrecedes

end Json

end Listeners
