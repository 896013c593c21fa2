/-
JSON values, and how Go's `encoding/json` stores them into strings, string slices and
structs.

A decoder takes the value a variable already has and the JSON value, and returns the new
value of the variable, or `none` for an `UnmarshalTypeError`.  The JSON `null` leaves a string
or a struct as it is and empties a slice.
-/
import OpsPlatform.Lib.Assoc
import OpsPlatform.Lib.Text

namespace Lib

inductive Json where
  | null
  | bool (b : Bool)
  | num (literal : String)
  | str (s : String)
  | arr (items : List Json)
  | obj (fields : List (String × Json))

namespace Json

/-- Into a variable of a string kind. -/
def decodeString (current : String) : Json → Option String
  | .null => some current
  | .str s => some s
  | _ => none

/-- Into the elements of a string slice.  An element that is `null` keeps what the slice had
at its index. -/
def decodeItems : List String → List Json → Option (List String)
  | _, [] => some []
  | current, item :: items =>
    match decodeString (current.headD "") item, decodeItems current.tail items with
    | some s, some ss => some (s :: ss)
    | _, _ => none

/-- Into a variable of type `[]string`. -/
def decodeStrings (current : List String) : Json → Option (List String)
  | .null => some []
  | .arr items => decodeItems current items
  | _ => none

/-- Into a struct: `field key` is the decoder of the field that `key` selects, `none` for a
key that selects no field and is skipped. -/
def decodeStruct {α : Type*} (field : String → Option (α → Json → Option α)) :
    α → List (String × Json) → Option α
  | a, [] => some a
  | a, (key, value) :: rest =>
    match field key with
    | none => decodeStruct field a rest
    | some decode =>
      match decode a value with
      | some a' => decodeStruct field a' rest
      | none => none

/-! ### The operators of `jsonb` -/

/-- The operator `->` with a key. -/
def field (key : String) : Json → Option Json
  | .obj fields => fields.lookup key
  | _ => none

/-- The items of an array; anything else is an array of one item. -/
def items : Json → List Json
  | .arr items => items
  | value => [value]

/-- The operator `||`: the second object wins, and what is not an object is an array. -/
def concat : Json → Json → Json
  | .obj fields, .obj fields' => .obj (Assoc.merge fields fields')
  | a, b => .arr (items a ++ items b)

/-! ### PostgreSQL's output -/

/-- The hexadecimal digits of a control character. -/
def hexDigits (n : ℕ) : List Char := [Nat.digitChar (n / 16), Nat.digitChar (n % 16)]

/-- A character of a string in the output of `jsonb`. -/
def escapeChar (c : Char) : List Char :=
  if c = '"' then ['\\', '"'] else if c = '\\' then ['\\', '\\']
  else if c.toNat = 8 then ['\\', 'b'] else if c.toNat = 12 then ['\\', 'f']
  else if c = '\n' then ['\\', 'n'] else if c = '\r' then ['\\', 'r']
  else if c = '\t' then ['\\', 't']
  else if c.toNat < 32 then ['\\', 'u', '0', '0'] ++ hexDigits c.toNat else [c]

def quote (s : String) : String :=
  "\"" ++ String.ofList (s.toList.flatMap escapeChar) ++ "\""

mutual

/-- The cast from `jsonb` to `text`. -/
def text : Json → String
  | .null => "null"
  | .bool b => if b then "true" else "false"
  | .num literal => literal
  | .str s => quote s
  | .arr items => "[" ++ ", ".intercalate (textItems items) ++ "]"
  | .obj fields => "\x7b" ++ ", ".intercalate (textFields fields) ++ "\x7d"

def textItems : List Json → List String
  | [] => []
  | item :: items => text item :: textItems items

def textFields : List (String × Json) → List String
  | [] => []
  | (key, value) :: fields => (quote key ++ ": " ++ text value) :: textFields fields

end

/-- The operator `->>` with a key: SQL `NULL` for a missing key and for `null`, a string as it is,
and the text of anything else. -/
def fieldText (key : String) : Json → Option String
  | .obj fields =>
    match fields.lookup key with
    | none | some .null => none
    | some (.str s) => some s
    | some value => some (text value)
  | _ => none

/-- A key selects the field `name` up to case. -/
def selects (name key : String) : Bool := Text.equalFold name key

end Json

end Lib
