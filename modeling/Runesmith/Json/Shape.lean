import Runesmith.Json

/-!
# Reading values out of documents

Documents come from programs that may answer anything. Each conversion here says what it does with a
value of another shape than the expected one: some are converted, the others are a mismatch.
-/

namespace Runesmith

/-- How a document value differs from what was expected. -/
inductive Mismatch where
  /-- The operation does not exist for this kind of value. -/
  | wrongKind
  /-- A named member was asked of something that has none. -/
  | notAnObject
  | missingKey (key : String)
  /-- Text that is no whole number, as it is shown. -/
  | notInteger (shown : String)
  /-- Text with more digits than a whole number may have. -/
  | tooManyDigits (digits : Nat)
  /-- Text that is no floating number, as it is shown. -/
  | notFloating (shown : String)
  /-- The number that is not a number has no whole part. -/
  | notANumber
  /-- An infinity has no whole part, and a huge whole number is no double. -/
  | tooLarge
  | pairTooShort (length : Nat)
  | pairTooLong
deriving DecidableEq, Repr

/-- What is said about a mismatch. -/
def Mismatch.message : Mismatch → String
  | .wrongKind => "value of the wrong kind"
  | .notAnObject => "value has no members"
  | .missingKey key => Text.quoted key
  | .notInteger shown =>
    "invalid literal for int() with base 10: " ++ String.ofList (shown.toList.take 200)
  | .tooManyDigits digits =>
    s!"Exceeds the limit ({Numeral.maxIntegerDigits} digits) for integer string conversion: " ++
      s!"value has {digits} digits; use sys.set_int_max_str_digits() to increase the limit"
  | .notFloating shown => s!"could not convert string to float: {shown}"
  | .notANumber => "cannot convert float NaN to integer"
  | .tooLarge => "number too large"
  | .pairTooShort length => s!"not enough values to unpack (expected 2, got {length})"
  | .pairTooLong => "too many values to unpack (expected 2)"

/-- Is it a value that the operation knows but cannot use, rather than one of the wrong kind? -/
def Mismatch.isBadValue : Mismatch → Bool
  | .notInteger _ | .tooManyDigits _ | .notFloating _ | .notANumber => true
  | .pairTooShort _ | .pairTooLong => true
  | _ => false

/-- The whole number that text denotes. -/
def Numeral.toInteger (text : String) : Except Mismatch Int :=
  match Numeral.integer? text with
  | some n => .ok n
  | none =>
    match Numeral.ungroup? false (Numeral.bare text) with
    | some cs =>
      let digits := (Numeral.splitSign cs).2
      if Numeral.isDigits digits then .error (.tooManyDigits digits.length)
      else .error (.notInteger (Text.quoted text))
    | none => .error (.notInteger (Text.quoted text))

namespace Json

/-- The whole number of a truth value, a number (its fraction cut off) or text. -/
def toInteger : Json → Except Mismatch Int
  | bool b => .ok (if b then 1 else 0)
  | int n => .ok n
  | float x =>
    match x.truncate? with
    | some n => .ok n
    | none => .error (if x = .nan then .notANumber else .tooLarge)
  | str s => Numeral.toInteger s
  | rough text => .error (.notInteger text.quoted)
  | _ => .error .wrongKind

/-- The double nearest to a whole number, unless that is an infinity. -/
def doubleOfInt (n : Int) : Except Mismatch Binary64 :=
  let x := Binary64.ofInt n
  if x.isFinite then .ok x else .error .tooLarge

/-- The double of a truth value, a number or text. -/
def toDouble : Json → Except Mismatch Binary64
  | bool b => doubleOfInt (if b then 1 else 0)
  | int n => doubleOfInt n
  | float x => .ok x
  | str s =>
    match Binary64.parse? s with
    | some x => .ok x
    | none => .error (.notFloating (Text.quoted s))
  | rough text => .error (.notFloating text.quoted)
  | _ => .error .wrongKind

/-- The members of an object. -/
def members : Json → Except Mismatch (List (String × Json))
  | obj members => .ok members
  | _ => .error .notAnObject

/-- The member with a key, if the object has one. -/
def member? (value : Json) (key : String) : Except Mismatch (Option Json) :=
  value.members.map (find? · key)

/-- The member with a key, or a default. -/
def memberOr (value : Json) (key : String) (default : Json) : Except Mismatch Json :=
  value.members.map fun members => (find? members key).getD default

/-- The member with a key, which has to be there. -/
def item (value : Json) (key : String) : Except Mismatch Json :=
  match value with
  | obj members =>
    match find? members key with
    | some x => .ok x
    | none => .error (.missingKey key)
  | _ => .error .wrongKind

/-- The things that a value is made of: items, keys or characters. -/
def elements : Json → Except Mismatch (List Json)
  | arr items => .ok items
  | obj members => .ok (members.map fun m => ofPoints (Text.pointsOfKey m.1))
  | str s => .ok (s.toList.map fun c => str (String.ofList [c]))
  | rough text => .ok (text.points.map fun point => ofPoints [point])
  | _ => .error .wrongKind

/-- The two things that a value is made of. -/
def pair (value : Json) : Except Mismatch (Json × Json) := do
  match ← value.elements with
  | [a, b] => return (a, b)
  | [] => throw (.pairTooShort 0)
  | [_] => throw (.pairTooShort 1)
  | _ => throw .pairTooLong

/-- Can the value be looked up in a set? Lists and objects cannot. -/
def isHashable : Json → Bool
  | arr _ => false
  | obj _ => false
  | _ => true

/-- Whether two pieces of text stand inside each other. -/
def textContains (text part : String) : Bool :=
  let rec go (part : List Char) : List Char → Bool
    | [] => part.isEmpty
    | c :: rest => part.isPrefixOf (c :: rest) || go part rest
  go part.toList text.toList

/-- Whether text occurs in a value: inside text, as an item of a list, as a key of an object. -/
def contains (value : Json) (part : String) : Except Mismatch Bool :=
  match value with
  | str s => .ok (textContains s part)
  | rough text => .ok (textContains text.marked part)
  | arr items => .ok (items.any fun item => match item with
    | str s => s == part
    | _ => false)
  | obj members => .ok (members.any (·.1 == part))
  | _ => .error .wrongKind

end Json

end Runesmith
