import Runesmith.Yaml.Scalar

/-!
# Configuration files

A reader for the part of YAML that configuration files use: mappings and lists by indentation,
mappings and lists in brackets, plain and quoted scalars that may go on over several lines, and
comments. Indentation is by blanks; a tab outside quotes and comments is an error. Every step takes
at least one character, so the length of the text bounds the depth of the recursion.
-/

namespace Runesmith.Yaml

/-- A place in the text: the column, and everything from there on. -/
structure Place where
  column : Nat
  rest : List Char

/-! ## Blanks and comments -/

/-- The place behind so many characters of one line. -/
def Place.skip (place : Place) (n : Nat) : Place :=
  ⟨place.column + n, place.rest.drop n⟩

/-- Does a token end in front of these characters? -/
def isBreak (cs : List Char) : Bool :=
  match cs with
  | [] => true
  | c :: _ => c = ' ' ∨ c = '\t' ∨ c = '\n'

/-- The place of the next token, behind blanks, line ends and comments. -/
def Place.next : (column : Nat) → List Char → Place
  | column, [] => ⟨column, []⟩
  | column, c :: rest =>
    if c = ' ' then Place.next (column + 1) rest
    else if c = '\n' then Place.next 0 rest
    else if c = '#' then comment rest
    else ⟨column, c :: rest⟩
where
  /-- Skips a comment up to the end of its line. -/
  comment : List Char → Place
    | [] => ⟨0, []⟩
    | c :: rest => if c = '\n' then Place.next 0 rest else comment rest

/-- The place of the next token. -/
def Place.token (place : Place) : Place :=
  Place.next place.column place.rest

/-- The place of the next token on the same line. -/
def Place.inLine (place : Place) : Place :=
  let blanks := (place.rest.takeWhile (· = ' ')).length
  place.skip blanks

/-! ## Line ends inside scalars -/

/-- What stands between two parts of a scalar on different lines: a blank for one line end, and one
line end less for more of them. -/
def fold (lineEnds : Nat) : List Char :=
  if lineEnds ≤ 1 then [' '] else List.replicate (lineEnds - 1) '\n'

/-- Skips blanks and line ends; counts the line ends. -/
def skipLines (isGap : Char → Bool) :
    (lineEnds column : Nat) → List Char → Nat × Place
  | lineEnds, column, [] => (lineEnds, ⟨column, []⟩)
  | lineEnds, column, c :: rest =>
    if c = '\n' then skipLines isGap (lineEnds + 1) 0 rest
    else if isGap c then skipLines isGap lineEnds (column + 1) rest
    else (lineEnds, ⟨column, c :: rest⟩)

/-! ## Plain scalars -/

/-- The marks that end a plain scalar inside brackets. -/
def isFlowMark (c : Char) : Bool :=
  [',', '[', ']', '\x7b', '\x7d'].contains c

/-- The marks that no plain scalar starts with. -/
def isIndicator (c : Char) : Bool :=
  [',', '[', ']', '\x7b', '\x7d', '#', '&', '*', '!', '|', '>', '\'', '"', '%', '@', Char.ofNat 96,
    '-', '?', ':', ' ', '\t', '\n'].contains c

/-- Whether a plain scalar starts here. -/
def startsPlain (inFlow : Bool) (cs : List Char) : Bool :=
  match cs with
  | [] => false
  | c :: rest =>
    !isIndicator c || (!isBreak rest && (c = '-' ∨ (!inFlow ∧ (c = '?' ∨ c = ':'))))

/-- The characters of a plain scalar up to a blank, a line end or a mark that ends it. -/
def plainWord (inFlow : Bool) : List Char → List Char
  | [] => []
  | c :: rest =>
    if c = ' ' ∨ c = '\t' ∨ c = '\n' then []
    else if c = ':' ∧ (isBreak rest ∨ (inFlow ∧ rest.head?.any isFlowMark)) then []
    else if inFlow ∧ (isFlowMark c ∨ c = '?') then []
    else c :: plainWord inFlow rest

/-- The rest of a plain scalar whose continuation lines are indented by at least `indent`; a
negative indentation allows any. -/
def plainTail (inFlow : Bool) (indent : Nat) (oneLine : Bool) :
    (fuel : Nat) → Place → List Char × Place
  | 0, place => ([], place)
  | fuel + 1, place =>
    let (lineEnds, next) := skipLines (· = ' ') 0 place.column place.rest
    let gap :=
      if lineEnds = 0 then List.replicate (next.column - place.column) ' ' else fold lineEnds
    if next.rest.head? = some '#' then ([], place)
    else if lineEnds ≠ 0 ∧ (oneLine ∨ (!inFlow ∧ next.column < indent)) then ([], place)
    else
      let word := plainWord inFlow next.rest
      if word.isEmpty ∨ gap.isEmpty then ([], place)
      else
        let (more, behind) := plainTail inFlow indent oneLine fuel (next.skip word.length)
        (gap ++ word ++ more, behind)

/-- A plain scalar. -/
def plain (inFlow : Bool) (indent : Nat) (oneLine : Bool) (place : Place) : String × Place :=
  let word := plainWord inFlow place.rest
  let (more, behind) :=
    plainTail inFlow indent oneLine (place.rest.length + 1) (place.skip word.length)
  (String.ofList (word ++ more), behind)

/-! ## Quoted scalars -/

/-- Blanks inside quotes. -/
def isQuotedGap (c : Char) : Bool :=
  c = ' ' ∨ c = '\t'

/-- Blanks inside quotes: kept on one line, folded at line ends. -/
def quotedGap (place : Place) : List Char × Place :=
  let (lineEnds, next) := skipLines isQuotedGap 0 place.column place.rest
  if lineEnds = 0 then (place.rest.takeWhile isQuotedGap, next) else (fold lineEnds, next)

/-- A scalar between single quotes, behind the opening one; a quote inside is written twice. -/
def singleQuoted : (fuel : Nat) → Place → Option (List Char × Place)
  | 0, _ => none
  | fuel + 1, place =>
    match place.rest with
    | [] => none
    | '\'' :: '\'' :: _ => (singleQuoted fuel (place.skip 2)).map fun (s, p) => ('\'' :: s, p)
    | '\'' :: _ => some ([], place.skip 1)
    | c :: _ =>
      if isQuotedGap c ∨ c = '\n' then
        let (gap, next) := quotedGap place
        (singleQuoted fuel next).map fun (s, p) => (gap ++ s, p)
      else (singleQuoted fuel (place.skip 1)).map fun (s, p) => (c :: s, p)

/-- The character that one letter behind a backslash stands for. -/
def escapeLetter? (c : Char) : Option Char :=
  match c with
  | '0' => some (Char.ofNat 0)
  | 'a' => some (Char.ofNat 7)
  | 'b' => some (Char.ofNat 8)
  | 't' => some '\t'
  | '\t' => some '\t'
  | 'n' => some '\n'
  | 'v' => some (Char.ofNat 11)
  | 'f' => some (Char.ofNat 12)
  | 'r' => some '\r'
  | 'e' => some (Char.ofNat 27)
  | ' ' => some ' '
  | '"' => some '"'
  | '\\' => some '\\'
  | '/' => some '/'
  | 'N' => some (Char.ofNat 0x85)
  | '_' => some (Char.ofNat 0xA0)
  | 'L' => some (Char.ofNat 0x2028)
  | 'P' => some (Char.ofNat 0x2029)
  | _ => none

/-- How many hexadecimal digits follow a letter behind a backslash. -/
def escapeWidth? (c : Char) : Option Nat :=
  match c with
  | 'x' => some 2
  | 'u' => some 4
  | 'U' => some 8
  | _ => none

/-- The character whose code point the first `width` digits give. -/
def codePoint? (width : Nat) (cs : List Char) : Option Char := do
  let digits := cs.take width
  if digits.length < width then none
  let n ← digits.foldlM (fun n c => (Bytes.hexValue? c).map (16 * n + ·)) 0
  if n.isValidChar then some (Char.ofNat n) else none

/-- A scalar between double quotes, behind the opening one. -/
def doubleQuoted : (fuel : Nat) → Place → Option (List Char × Place)
  | 0, _ => none
  | fuel + 1, place =>
    match place.rest with
    | [] => none
    | '"' :: _ => some ([], place.skip 1)
    | '\\' :: '\n' :: _ =>
      let (lineEnds, next) := skipLines isQuotedGap 0 place.column (place.rest.drop 1)
      (doubleQuoted fuel next).map fun (s, p) => (List.replicate (lineEnds - 1) '\n' ++ s, p)
    | '\\' :: letter :: rest =>
      match escapeLetter? letter, escapeWidth? letter with
      | some c, _ => (doubleQuoted fuel (place.skip 2)).map fun (s, p) => (c :: s, p)
      | none, some width =>
        match codePoint? width rest with
        | some c => (doubleQuoted fuel (place.skip (2 + width))).map fun (s, p) => (c :: s, p)
        | none => none
      | none, none => none
    | c :: _ =>
      if isQuotedGap c ∨ c = '\n' then
        let (gap, next) := quotedGap place
        (doubleQuoted fuel next).map fun (s, p) => (gap ++ s, p)
      else (doubleQuoted fuel (place.skip 1)).map fun (s, p) => (c :: s, p)

/-- A scalar between quotes of either kind, if one starts here. -/
def quoted? (place : Place) : Option (String × Place) :=
  let fuel := place.rest.length + 1
  match place.rest with
  | '\'' :: _ => (singleQuoted fuel (place.skip 1)).map fun (s, p) => (String.ofList s, p)
  | '"' :: _ => (doubleQuoted fuel (place.skip 1)).map fun (s, p) => (String.ofList s, p)
  | _ => none

/-- Whether a quoted scalar starts here. -/
def startsQuoted (cs : List Char) : Bool :=
  match cs with
  | '\'' :: _ => true
  | '"' :: _ => true
  | _ => false

/-! ## Keys -/

/-- What stands between a place and a later one. -/
def between (a b : Place) : List Char :=
  a.rest.take (a.rest.length - b.rest.length)

/-- Are the two places on one line? No line end stands between them. -/
def sameLine (a b : Place) : Bool :=
  !(between a b).contains '\n'

/-- The most characters that a key may have. -/
def maxKeyLength : Nat := 1024

/-- May what stands between the two places be a key? It has to be short and on one line. -/
def isKey (start stop : Place) : Bool :=
  sameLine start stop && (between start stop).length ≤ maxKeyLength

/-- Whether the second place is the colon behind a key that starts at the first one. -/
def startsValue (start colon : Place) : Bool :=
  colon.rest.head? == some ':' && isKey start colon

/-! ## Brackets -/

/-- The text of a key, whatever it is. -/
def keyText (key : Json) : String :=
  Text.keyOf (Text.points key.display)

/-- The mapping of one key. -/
def single (key value : Json) : Json :=
  .obj [(keyText key, value)]

mutual

/-- A value inside brackets. -/
def flowValue : (fuel : Nat) → Place → Option (Json × Place)
  | 0, _ => none
  | fuel + 1, place =>
    match place.rest with
    | '[' :: _ => flowItems fuel [] (place.skip 1).token
    | '\x7b' :: _ => flowMembers fuel [] (place.skip 1).token
    | _ =>
      if startsQuoted place.rest then (quoted? place).map fun (s, p) => (.str s, p)
      else if startsPlain true place.rest then
        let (s, p) := plain true 0 false place
        (scalar? s).map fun value => (value, p)
      else none

/-- The value behind a colon inside brackets; there may be none. -/
def flowAfterColon : (fuel : Nat) → Place → Option (Json × Place)
  | 0, _ => none
  | fuel + 1, place =>
    let next := place.token
    match next.rest with
    | ',' :: _ => some (.null, next)
    | ']' :: _ => some (.null, next)
    | '\x7d' :: _ => some (.null, next)
    | _ => flowValue fuel next

/-- The items of a list in brackets; `done` holds those so far, last first. -/
def flowItems : (fuel : Nat) → (done : List Json) → Place → Option (Json × Place)
  | 0, _, _ => none
  | fuel + 1, done, place =>
    match place.rest with
    | ']' :: _ => some (.arr done.reverse, place.skip 1)
    | _ =>
      match flowValue fuel place with
      | none => none
      | some (first, behind) =>
        let behind := behind.token
        let entry : Option (Json × Place) :=
          if startsValue place behind then
            (flowAfterColon fuel (behind.skip 1)).map fun (v, p) => (single first v, p.token)
          else some (first, behind)
        match entry with
        | none => none
        | some (value, behind) =>
          match behind.rest with
          | ',' :: _ => flowItems fuel (value :: done) (behind.skip 1).token
          | ']' :: _ => some (.arr (value :: done).reverse, behind.skip 1)
          | _ => none

/-- The members of a mapping in brackets. -/
def flowMembers : (fuel : Nat) → (done : List (String × Json)) → Place → Option (Json × Place)
  | 0, _, _ => none
  | fuel + 1, done, place =>
    match place.rest with
    | '\x7d' :: _ => some (.obj done, place.skip 1)
    | _ =>
      match flowValue fuel place with
      | none => none
      | some (.arr _, _) => none
      | some (.obj _, _) => none
      | some (key, behind) =>
        let behind := behind.token
        let entry : Option (Json × Place) :=
          if startsValue place behind then
            (flowAfterColon fuel (behind.skip 1)).map fun (v, p) => (v, p.token)
          else some (.null, behind)
        match entry with
        | none => none
        | some (value, behind) =>
          let done := Json.insert done (keyText key) value
          match behind.rest with
          | ',' :: _ => flowMembers fuel done (behind.skip 1).token
          | '\x7d' :: _ => some (.obj done, behind.skip 1)
          | _ => none

end

/-! ## Indentation -/

/-- A key of a mapping by indentation, if one starts here: a scalar on one line and a colon. Returns
the place behind the colon. -/
def key? (place : Place) : Option (String × Place) :=
  let found : Option (String × Place) :=
    if startsQuoted place.rest then quoted? place
    else if startsPlain false place.rest then
      let (s, p) := plain false 0 true place
      (scalar? s).map fun key => (keyText key, p)
    else none
  match found with
  | none => none
  | some (key, behind) =>
    let behind := behind.inLine
    if startsValue place behind && isBreak (behind.rest.drop 1) then some (key, behind.skip 1)
    else none

/-- Whether an item of a list by indentation starts here. -/
def startsItem (cs : List Char) : Bool :=
  match cs with
  | '-' :: rest => isBreak rest
  | _ => false

/-- The column from which an inner node has to start, inside a node at a column. -/
def inside (place : Place) (column : Nat) : Bool :=
  !place.rest.isEmpty && column < place.column

mutual

/-- A node that starts here. Its continuation lines are indented by at least `indent`. -/
def node : (fuel : Nat) → (indent : Nat) → Place → Option (Json × Place)
  | 0, _, _ => none
  | fuel + 1, indent, place =>
    if startsItem place.rest then items fuel place.column [] place
    else if (key? place).isSome then members fuel place.column [] place
    else inlineNode fuel indent place

/-- A scalar, or a node in brackets. -/
def inlineNode : (fuel : Nat) → (indent : Nat) → Place → Option (Json × Place)
  | 0, _, _ => none
  | fuel + 1, indent, place =>
    match place.rest with
    | '[' :: _ => flowValue fuel place
    | '\x7b' :: _ => flowValue fuel place
    | _ =>
      if startsQuoted place.rest then (quoted? place).map fun (s, p) => (.str s, p)
      else if startsPlain false place.rest then
        let (s, p) := plain false indent false place
        (scalar? s).map fun value => (value, p)
      else none

/-- The items of a list at a column; `done` holds those so far, last first. -/
def items : (fuel : Nat) → (column : Nat) → (done : List Json) → Place → Option (Json × Place)
  | 0, _, _, _ => none
  | fuel + 1, column, done, place =>
    let next := (place.skip 1).token
    let found : Option (Json × Place) :=
      if inside next column then node fuel (column + 1) next else some (.null, next)
    match found with
    | none => none
    | some (value, behind) =>
      let behind := behind.token
      if behind.rest.isEmpty ∨ behind.column < column then
        some (.arr (value :: done).reverse, behind)
      else if behind.column = column then
        if startsItem behind.rest then items fuel column (value :: done) behind
        else some (.arr (value :: done).reverse, behind)
      else none

/-- The value behind a colon of a mapping at a column. -/
def afterColon : (fuel : Nat) → (column : Nat) → Place → Option (Json × Place)
  | 0, _, _ => none
  | fuel + 1, column, place =>
    let next := place.token
    if inside next column then
      if sameLine place next then inlineNode fuel (column + 1) next
      else node fuel (column + 1) next
    else if next.column = column && startsItem next.rest then items fuel column [] next
    else some (.null, next)

/-- The members of a mapping at a column. -/
def members :
    (fuel : Nat) → (column : Nat) → (done : List (String × Json)) → Place → Option (Json × Place)
  | 0, _, _, _ => none
  | fuel + 1, column, done, place =>
    match key? place with
    | none => none
    | some (key, behind) =>
      match afterColon fuel column behind with
      | none => none
      | some (value, behind) =>
        let done := Json.insert done key value
        let behind := behind.token
        if behind.rest.isEmpty ∨ behind.column < column then some (.obj done, behind)
        else if behind.column = column then members fuel column done behind
        else none

end

/-! ## Documents -/

/-- The characters of a file, with one kind of line end. -/
def charsOf (text : String) : List Char :=
  (Text.normalizeLineEnds text.toList).map fun c => if c = '\x85' then '\n' else c

/-- The characters that may stand in a file. -/
def isAllowed (c : Char) : Bool :=
  let n := c.toNat
  n = 9 ∨ n = 10 ∨ n = 13 ∨ (32 ≤ n ∧ n ≤ 126) ∨ n = 0x85 ∨ (0xA0 ≤ n ∧ n ≤ 0xFFFD) ∨ 0x10000 ≤ n

/-- The characters without a mark of the byte order in front. -/
def dropOrderMark : List Char → List Char
  | c :: rest => if c.toNat = 0xFEFF then rest else c :: rest
  | [] => []

/-- Does the line that starts here begin with a mark, such as the three dashes in front of a
document or the three points behind it? -/
def isMarked (mark : String) (line : List Char) : Bool :=
  mark.toList.isPrefixOf line && isBreak (line.drop mark.length)

/-- What stands in front of the first line that begins with a mark, and everything from it on. -/
def cutAtMark : (lineStart : Bool) → List Char → List Char × List Char
  | _, [] => ([], [])
  | lineStart, c :: rest =>
    if lineStart && (isMarked "---" (c :: rest) || isMarked "..." (c :: rest)) then ([], c :: rest)
    else
      let (front, marked) := cutAtMark (c = '\n') rest
      (c :: front, marked)

/-- Whether nothing follows but the mark behind a document, blanks and comments. -/
def isOver (cs : List Char) : Bool :=
  cs.isEmpty || (isMarked "..." cs && (Place.next 3 (cs.drop 3)).rest.isEmpty)

/-- Reads the one node of a document, if there is any, from a place on. On the line of the mark in
front of the document stands no mapping and no list by indentation. -/
def root (behindMark : Bool) (place : Place) : Option Json :=
  let start := place.token
  let fuel := 4 * start.rest.length + 8
  if start.rest.isEmpty then some .null
  else
    let found :=
      if behindMark && sameLine place start then inlineNode fuel 0 start else node fuel 0 start
    match found with
    | some (value, behind) => if behind.token.rest.isEmpty then some value else none
    | none => none

/-- Reads a file. An empty one holds null; none means that it breaks the rules. -/
def parse? (text : String) : Option Json :=
  let cs := dropOrderMark (charsOf text)
  let start := Place.next 0 cs
  let behindMark := start.column == 0 && isMarked "---" start.rest
  let place := if behindMark then start.skip 3 else start
  let (body, marked) := cutAtMark (!behindMark && start.column == 0) place.rest
  if cs.all isAllowed && isOver marked then root behindMark ⟨place.column, body⟩ else none

end Runesmith.Yaml
