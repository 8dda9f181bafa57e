import Runesmith.Number.Binary64
import Runesmith.Text.Point

/-!
# Documents

Values exchanged with the node and the index: null, truth values, whole and floating numbers, text,
lists and objects. Objects keep the order of their members. A whole number and a floating number of
the same value are different values that compare as equal, and so do the truth values and 0 and 1.
Text with lone surrogates is a kind of value of its own, and keys with them are spelled as
`Text.keyOf` does.
-/

namespace Runesmith

/-- A document value. -/
inductive Json where
  | null
  | bool (b : Bool)
  | int (n : Int)
  | float (x : Binary64)
  | str (s : String)
  /-- Text that holds lone surrogates. -/
  | rough (text : Text.Rough)
  | arr (items : List Json)
  | obj (members : List (String × Json))
deriving Inhabited

namespace Json

/-! ## Text -/

/-- The text of code points. -/
def ofPoints (points : List Text.Point) : Json :=
  if h : points.any Text.Point.isSurrogate = true then rough ⟨points, h⟩
  else str (String.ofList (Text.chars points))

/-- The code points of a value that is text. -/
def points? : Json → Option (List Text.Point)
  | str s => some (Text.points s)
  | rough text => some text.points
  | _ => none

/-- The text that is searched for words; only text has one. -/
def wording? : Json → Option String
  | str s => some s
  | rough text => some text.marked
  | _ => none

/-! ## Objects -/

/-- The first member with a key. -/
def find? (members : List (String × Json)) (key : String) : Option Json :=
  (members.find? (·.1 = key)).map (·.2)

/-- Sets a member: the value of an earlier one of the same key is replaced where it stands. -/
def insert (members : List (String × Json)) (key : String) (value : Json) : List (String × Json) :=
  if members.any (·.1 = key) then
    members.map fun m => if m.1 = key then (key, value) else m
  else members ++ [(key, value)]

/-! ## Truth -/

/-- Whether a value counts as true: neither null, false, zero nor empty. -/
def isTruthy : Json → Bool
  | null => false
  | bool b => b
  | int n => n != 0
  | float x => !x.isZero
  | str s => !s.isEmpty
  | rough _ => true
  | arr items => !items.isEmpty
  | obj members => !members.isEmpty

/-- Whether the value is null. -/
def isNull : Json → Bool
  | null => true
  | _ => false

/-! ## Comparing -/

/-- The whole number that stands for a truth value or a whole number. -/
def whole? : Json → Option Int
  | bool b => some (if b then 1 else 0)
  | int n => some n
  | _ => none

/-- Equality of numbers, across whole and floating ones. -/
def sameNumber (a b : Json) : Bool :=
  match a.whole?, b.whole? with
  | some m, some n => m == n
  | some m, none => match b with
    | float y => y.isInt m
    | _ => false
  | none, some n => match a with
    | float x => x.isInt n
    | _ => false
  | none, none => match a, b with
    | float x, float y => x.same y
    | _, _ => false

mutual

/-- Equality of values: numbers by value, objects regardless of order. -/
def same : Json → Json → Bool
  | null, null => true
  | str s, str t => s == t
  | rough s, rough t => s == t
  | arr xs, arr ys => sameItems xs ys
  | obj xs, obj ys => xs.length == ys.length && sameMembers xs ys
  | a, b => sameNumber a b

/-- Equality of two lists, item by item. -/
def sameItems : List Json → List Json → Bool
  | [], [] => true
  | x :: xs, y :: ys => same x y && sameItems xs ys
  | _, _ => false

/-- Whether every member of the first object is in the second. -/
def sameMembers : List (String × Json) → List (String × Json) → Bool
  | [], _ => true
  | (key, x) :: xs, ys =>
    (match find? ys key with
      | some y => same x y
      | none => false) && sameMembers xs ys

end

/-! ## Text of values in messages -/

/-- A key between quotes. -/
def quotedKey (key : String) : String :=
  Text.quotedPoints (Text.pointsOfKey key)

mutual

/-- A value as it stands inside a list or between quotes. -/
def quoted : Json → String
  | null => "None"
  | bool b => if b then "True" else "False"
  | int n => toString n
  | float x => x.text
  | str s => Text.quoted s
  | rough text => text.quoted
  | arr items => "[" ++ quotedItems items ++ "]"
  | obj members => "\x7b" ++ quotedMembers members ++ "\x7d"

/-- Items divided by commas. -/
def quotedItems : List Json → String
  | [] => ""
  | [x] => quoted x
  | x :: xs => quoted x ++ ", " ++ quotedItems xs

/-- Members divided by commas, each a quoted key and a value. -/
def quotedMembers : List (String × Json) → String
  | [] => ""
  | [(key, x)] => quotedKey key ++ ": " ++ quoted x
  | (key, x) :: xs => quotedKey key ++ ": " ++ quoted x ++ ", " ++ quotedMembers xs

end

/-- A value on its own in running text: text stands as it is, as far as it can. Messages show lone
surrogates by their escapes, and no name, number, address or path has one. -/
def display : Json → String
  | str s => s
  | rough text => text.escaped
  | v => v.quoted

end Json

end Runesmith
