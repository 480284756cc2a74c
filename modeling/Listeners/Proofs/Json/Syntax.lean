/-
The syntax of JSON texts.

What a JSON text is, is said here by its parts and without a reader, so that the readers can be
held against it.  Two things are said of strings.  A text may be a string of the syntax,
and it may write certain characters, and the second is more: the escapes of two halves of a
surrogate pair write one character, and half a pair writes none, though it is an escape like any
other.  Values are only a matter of syntax: what is passed over need not have a meaning.

An object is looked at with its fields, each with the key that it writes and the text of its
value.
-/
import Mathlib.Data.List.Basic

namespace Listeners.Json

/-! ### Blanks -/

/-- Spaces, tabs and line breaks, or nothing. -/
def AreBlanks (cs : List Char) : Prop := ∀ c ∈ cs, c ∈ [' ', '\n', '\t', '\r']

/-! ### Strings -/

def hexDigits : List (Char × Nat) :=
  [('0', 0), ('1', 1), ('2', 2), ('3', 3), ('4', 4), ('5', 5), ('6', 6), ('7', 7), ('8', 8),
    ('9', 9), ('a', 10), ('b', 11), ('c', 12), ('d', 13), ('e', 14), ('f', 15), ('A', 10),
    ('B', 11), ('C', 12), ('D', 13), ('E', 14), ('F', 15)]

/-- What the letter behind a backslash stands for. -/
def shortEscapes : List (Char × Char) :=
  [('"', '"'), ('\\', '\\'), ('/', '/'), ('b', '\x08'), ('f', '\x0C'), ('n', '\n'), ('r', '\r'),
    ('t', '\t')]

/-- Four hexadecimal digits and their number. -/
inductive IsUnit : List Char → Nat → Prop where
  | digits {a b c d : Char} {i j k l : Nat} (ha : (a, i) ∈ hexDigits) (hb : (b, j) ∈ hexDigits)
      (hc : (c, k) ∈ hexDigits) (hd : (d, l) ∈ hexDigits) :
      IsUnit [a, b, c, d] (((i * 16 + j) * 16 + k) * 16 + l)

/-- A character that stands for itself within quotes. -/
structure IsPlainChar (c : Char) : Prop where
  ne_quote : c ≠ '"'
  ne_backslash : c ≠ '\\'
  printable : 0x20 ≤ c.toNat

/-- A piece of a string: a character that stands for itself, or an escape. -/
inductive IsPiece : List Char → Prop where
  | plain {c : Char} (h : IsPlainChar c) : IsPiece [c]
  | short {letter c : Char} (h : (letter, c) ∈ shortEscapes) : IsPiece ['\\', letter]
  | unit {digits : List Char} {n : Nat} (h : IsUnit digits n) : IsPiece ('\\' :: 'u' :: digits)

/-- What may stand within quotes. -/
inductive IsQuoted : List Char → Prop where
  | nil : IsQuoted []
  | cons {piece rest : List Char} (hpiece : IsPiece piece) (hrest : IsQuoted rest) :
      IsQuoted (piece ++ rest)

/-- A text that writes a character within quotes. -/
inductive WritesChar : List Char → Char → Prop where
  | plain {c : Char} (h : IsPlainChar c) : WritesChar [c] c
  | short {letter c : Char} (h : (letter, c) ∈ shortEscapes) : WritesChar ['\\', letter] c
  | unit {digits : List Char} {n : Nat} (h : IsUnit digits n)
      (hwhole : n < 0xD800 ∨ 0xDFFF < n) : WritesChar ('\\' :: 'u' :: digits) (Char.ofNat n)
  | pair {first second : List Char} {m n : Nat} (hfirst : IsUnit first m)
      (hsecond : IsUnit second n) (hm : 0xD800 ≤ m ∧ m ≤ 0xDBFF) (hn : 0xDC00 ≤ n ∧ n ≤ 0xDFFF) :
      WritesChar ('\\' :: 'u' :: (first ++ '\\' :: 'u' :: second))
        (Char.ofNat (0x10000 + (m - 0xD800) * 0x400 + (n - 0xDC00)))

/-- A text that writes characters within quotes. -/
inductive WritesChars : List Char → List Char → Prop where
  | nil : WritesChars [] []
  | cons {text rest : List Char} {c : Char} {cs : List Char} (hfirst : WritesChar text c)
      (hrest : WritesChars rest cs) : WritesChars (text ++ rest) (c :: cs)

/-- A text within quotes. -/
def quoted (body : List Char) : List Char := '"' :: (body ++ ['"'])

/-- A text that writes a string. -/
def WritesString (text : List Char) (s : String) : Prop :=
  ∃ body, text = quoted body ∧ WritesChars body s.toList

/-! ### Numbers -/

structure AreDigits (cs : List Char) : Prop where
  ne_nil : cs ≠ []
  isDigit : ∀ c ∈ cs, c.isDigit = true

/-- The digits before the point: a zero, or digits that do not begin with one. -/
inductive IsWhole : List Char → Prop where
  | zero : IsWhole ['0']
  | digits {c : Char} {cs : List Char} (h : AreDigits (c :: cs)) (hc : c ≠ '0') : IsWhole (c :: cs)

/-- A point with digits behind it, or nothing. -/
inductive IsFraction : List Char → Prop where
  | nil : IsFraction []
  | digits {cs : List Char} (h : AreDigits cs) : IsFraction ('.' :: cs)

/-- An exponent, or nothing. -/
inductive IsExponent : List Char → Prop where
  | nil : IsExponent []
  | digits {mark : Char} {sign cs : List Char} (hmark : mark = 'e' ∨ mark = 'E')
      (hsign : sign = [] ∨ sign = ['+'] ∨ sign = ['-']) (h : AreDigits cs) :
      IsExponent (mark :: (sign ++ cs))

inductive IsNumber : List Char → Prop where
  | parts {sign whole fraction exponent : List Char} (hsign : sign = [] ∨ sign = ['-'])
      (hwhole : IsWhole whole) (hfraction : IsFraction fraction)
      (hexponent : IsExponent exponent) :
      IsNumber (sign ++ (whole ++ (fraction ++ exponent)))

/-! ### Values -/

/-- The words that are values. -/
def words : List (List Char) :=
  [['n', 'u', 'l', 'l'], ['t', 'r', 'u', 'e'], ['f', 'a', 'l', 's', 'e']]

mutual

/-- The text of a value, without blanks around it. -/
inductive IsValue : List Char → Prop where
  | word {letters : List Char} (h : letters ∈ words) : IsValue letters
  | string {body : List Char} (h : IsQuoted body) : IsValue (quoted body)
  | number {text : List Char} (h : IsNumber text) : IsValue text
  | emptyArray {blanks : List Char} (h : AreBlanks blanks) : IsValue ('[' :: (blanks ++ [']']))
  | array {items : List Char} (h : AreItems items) : IsValue ('[' :: (items ++ [']']))
  | emptyObject {blanks : List Char} (h : AreBlanks blanks) : IsValue ('{' :: (blanks ++ ['}']))
  | object {fields : List Char} (h : AreFields fields) : IsValue ('{' :: (fields ++ ['}']))

/-- Values with commas between them and blanks around them; at least one. -/
inductive AreItems : List Char → Prop where
  | single {before value after : List Char} (hbefore : AreBlanks before) (h : IsValue value)
      (hafter : AreBlanks after) : AreItems (before ++ (value ++ after))
  | cons {before value after items : List Char} (hbefore : AreBlanks before) (h : IsValue value)
      (hafter : AreBlanks after) (hitems : AreItems items) :
      AreItems (before ++ (value ++ (after ++ ',' :: items)))

/-- Fields with commas between them and blanks around them; at least one. -/
inductive AreFields : List Char → Prop where
  | single {before key between gap value after : List Char} (hbefore : AreBlanks before)
      (hkey : IsQuoted key) (hbetween : AreBlanks between) (hgap : AreBlanks gap)
      (h : IsValue value) (hafter : AreBlanks after) :
      AreFields (before ++ (quoted key ++ (between ++ ':' :: (gap ++ (value ++ after)))))
  | cons {before key between gap value after fields : List Char} (hbefore : AreBlanks before)
      (hkey : IsQuoted key) (hbetween : AreBlanks between) (hgap : AreBlanks gap)
      (h : IsValue value) (hafter : AreBlanks after) (hfields : AreFields fields) :
      AreFields
        (before ++ (quoted key ++ (between ++ ':' :: (gap ++ (value ++ (after ++ ',' :: fields))))))

end

/-! ### Objects with their fields -/

/-- A field with the blanks around it: the key that it writes, and the text of its value. -/
inductive WritesField : List Char → String × List Char → Prop where
  | parts {before key between gap value after : List Char} {name : String}
      (hbefore : AreBlanks before) (hkey : WritesString key name) (hbetween : AreBlanks between)
      (hgap : AreBlanks gap) (hvalue : IsValue value) (hafter : AreBlanks after) :
      WritesField (before ++ (key ++ (between ++ ':' :: (gap ++ (value ++ after))))) (name, value)

/-- Fields with commas between them; at least one. -/
inductive WritesFields : List Char → List (String × List Char) → Prop where
  | single {text : List Char} {field : String × List Char} (h : WritesField text field) :
      WritesFields text [field]
  | cons {text rest : List Char} {field : String × List Char}
      {fields : List (String × List Char)} (h : WritesField text field)
      (hrest : WritesFields rest fields) : WritesFields (text ++ ',' :: rest) (field :: fields)

/-- A text with blanks around an object that has the fields. -/
inductive WritesObject : List Char → List (String × List Char) → Prop where
  | empty {before blanks after : List Char} (hbefore : AreBlanks before)
      (hblanks : AreBlanks blanks) (hafter : AreBlanks after) :
      WritesObject (before ++ '{' :: (blanks ++ '}' :: after)) []
  | fields {before text after : List Char} {fields : List (String × List Char)}
      (hbefore : AreBlanks before) (h : WritesFields text fields) (hafter : AreBlanks after) :
      WritesObject (before ++ '{' :: (text ++ '}' :: after)) fields

/-! ### What texts begin and end with -/

/-- What may follow a value. -/
def Follows (rest : List Char) : Prop :=
  ∀ c cs, rest = c :: cs → c ∈ [' ', '\n', '\t', '\r', ',', ']', '}']

theorem AreBlanks.nil : AreBlanks [] := List.forall_mem_nil _

theorem AreBlanks.cons {c : Char} {cs : List Char} (h : AreBlanks (c :: cs)) :
    c ∈ [' ', '\n', '\t', '\r'] ∧ AreBlanks cs :=
  ⟨h c List.mem_cons_self, fun d hd => h d (List.mem_cons_of_mem c hd)⟩

/-- Blanks may follow a value in front of what may follow it. -/
theorem AreBlanks.follows_append {blanks rest : List Char} (h : AreBlanks blanks)
    (hrest : Follows rest) : Follows (blanks ++ rest) := by
  cases blanks with
  | nil => exact hrest
  | cons b blanks =>
      intro c cs heq
      obtain ⟨rfl, -⟩ := List.cons.inj heq
      have hb := h.cons.1
      simp only [List.mem_cons, List.not_mem_nil, or_false] at hb ⊢
      tauto

theorem follows_cons {c : Char} (h : c ∈ [' ', '\n', '\t', '\r', ',', ']', '}'])
    (rest : List Char) : Follows (c :: rest) := by
  intro d ds heq
  obtain ⟨rfl, -⟩ := List.cons.inj heq
  exact h

theorem IsQuoted.append {one two : List Char} (hone : IsQuoted one) (htwo : IsQuoted two) :
    IsQuoted (one ++ two) := by
  induction hone with
  | nil => exact htwo
  | cons hpiece hrest ih =>
      rw [List.append_assoc]
      exact .cons hpiece ih

theorem WritesChar.isQuoted {text : List Char} {c : Char} (h : WritesChar text c) :
    IsQuoted text := by
  have hsingle : ∀ {piece : List Char}, IsPiece piece → IsQuoted piece := by
    intro piece hpiece
    rw [← List.append_nil piece]
    exact .cons hpiece .nil
  cases h with
  | plain h => exact hsingle (.plain h)
  | short h => exact hsingle (.short h)
  | unit h hwhole => exact hsingle (.unit h)
  | @pair first second m n hfirst hsecond hm hn =>
      have hpiece : IsPiece ('\\' :: 'u' :: first) := .unit hfirst
      exact IsQuoted.cons hpiece (hsingle (.unit hsecond))

/-- What writes characters may stand within quotes. -/
theorem WritesChars.isQuoted {text cs : List Char} (h : WritesChars text cs) : IsQuoted text := by
  induction h with
  | nil => exact .nil
  | cons hfirst hrest ih => exact hfirst.isQuoted.append ih

theorem WritesString.isValue {text : List Char} {s : String} (h : WritesString text s) :
    IsValue text := by
  obtain ⟨body, rfl, hbody⟩ := h
  exact .string hbody.isQuoted

theorem WritesFields.length_le {text : List Char} {fields : List (String × List Char)}
    (h : WritesFields text fields) : fields.length ≤ text.length := by
  have hpos : ∀ {text field}, WritesField text field → 1 ≤ text.length := by
    intro text field hfield
    cases hfield
    simp only [List.length_append, List.length_cons]
    omega
  induction h with
  | single hfield => exact hpos hfield
  | cons hfield hrest ih =>
      have hfirst := hpos hfield
      rw [List.length_cons, List.length_append, List.length_cons]
      omega

end Listeners.Json
