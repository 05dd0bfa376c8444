import AccountAuthority.Json.Basic

/-!
# Reading JSON text

The grammar is the strict one: four blank characters, no leading zeros, no control characters
inside of strings, surrogates only in pairs, and nothing after the value.
-/

namespace AccountAuthority.Json

/-- The characters that may stand between tokens. -/
def isSpace (c : Char) : Bool :=
  c == ' ' || c == '\n' || c == '\t' || c == '\r'

/-- The value of a hexadecimal digit of either case. -/
def hexDigit? (c : Char) : Option Nat :=
  if '0' ≤ c ∧ c ≤ '9' then some (c.toNat - '0'.toNat)
  else if 'a' ≤ c ∧ c ≤ 'f' then some (c.toNat - 'a'.toNat + 10)
  else if 'A' ≤ c ∧ c ≤ 'F' then some (c.toNat - 'A'.toNat + 10)
  else none

def hexQuad? : List Char → Option (Nat × List Char)
  | a :: b :: c :: d :: rest => do
    let a ← hexDigit? a
    let b ← hexDigit? b
    let c ← hexDigit? c
    let d ← hexDigit? d
    some (((a * 16 + b) * 16 + c) * 16 + d, rest)
  | _ => none

/-- The characters that a backslash and a letter stand for. -/
def escaped? : Char → Option Char
  | '"' => some '"'
  | '\\' => some '\\'
  | '/' => some '/'
  | 'b' => some '\x08'
  | 'f' => some '\x0c'
  | 'n' => some '\n'
  | 'r' => some '\r'
  | 't' => some '\t'
  | _ => none

/-- The character of the escape whose four digits are read next. -/
def unicodeEscape? (cs : List Char) : Option (Char × List Char) := do
  let (hi, rest) ← hexQuad? cs
  if 0xdc00 ≤ hi ∧ hi ≤ 0xdfff then none
  else if 0xd800 ≤ hi ∧ hi ≤ 0xdbff then
    match rest with
    | '\\' :: 'u' :: rest =>
      let (lo, rest) ← hexQuad? rest
      if 0xdc00 ≤ lo ∧ lo ≤ 0xdfff then
        some (Char.ofNat (0x10000 + (hi - 0xd800) * 0x400 + (lo - 0xdc00)), rest)
      else none
    | _ => none
  else some (Char.ofNat hi, rest)

/-- The rest of a string whose opening quote has been read; `acc` holds its characters so far,
backwards. -/
def stringRest? : Nat → List Char → List Char → Option (String × List Char)
  | 0, _, _ => none
  | fuel + 1, acc, cs =>
    match cs with
    | [] => none
    | '"' :: rest => some (String.ofList acc.reverse, rest)
    | '\\' :: 'u' :: rest => do
      let (c, rest) ← unicodeEscape? rest
      stringRest? fuel (c :: acc) rest
    | '\\' :: e :: rest => do
      let c ← escaped? e
      stringRest? fuel (c :: acc) rest
    | c :: rest => if c.toNat < 0x20 ∨ c = '\\' then none else stringRest? fuel (c :: acc) rest

/-- The digits at the start, and what follows them. -/
def digits (cs : List Char) : List Char × List Char :=
  (cs.takeWhile Char.isDigit, cs.dropWhile Char.isDigit)

def digitsValue (ds : List Char) : Nat :=
  ds.foldl (fun n d => n * 10 + (d.toNat - '0'.toNat)) 0

/-- An exponent with its sign, if there is one. -/
def exponent? : List Char → Option (Option Int × List Char)
  | e :: rest =>
    if e = 'e' ∨ e = 'E' then
      let (negative, rest) := match rest with
        | '-' :: rest => (true, rest)
        | '+' :: rest => (false, rest)
        | rest => (false, rest)
      let (ds, rest) := digits rest
      if ds.isEmpty then none
      else some (some (if negative then -(digitsValue ds : Int) else digitsValue ds), rest)
    else some (none, e :: rest)
  | [] => some (none, [])

/-- A fraction, if there is one: its digits. -/
def fraction? : List Char → Option (Option (List Char) × List Char)
  | '.' :: rest =>
    let (ds, rest) := digits rest
    if ds.isEmpty then none else some (some ds, rest)
  | rest => some (none, rest)

def number? (cs : List Char) : Option (Json × List Char) := do
  let (negative, cs) := match cs with
    | '-' :: rest => (true, rest)
    | cs => (false, cs)
  let (whole, cs) := digits cs
  if whole.isEmpty ∨ (whole.head? = some '0' ∧ whole.length ≠ 1) then none
  else
    let (places, cs) ← fraction? cs
    let (power, cs) ← exponent? cs
    let mantissa := digitsValue (whole ++ places.getD [])
    let signed : Int := if negative then -mantissa else mantissa
    if places.isNone ∧ power.isNone ∧ ¬(negative ∧ mantissa = 0) then some (int signed, cs)
    else some (decimal signed (power.getD 0 - (places.getD []).length), cs)

def skipSpace (cs : List Char) : List Char :=
  cs.dropWhile isSpace

/-- The given word, and what follows it. -/
def word? (word : List Char) (value : Json) (cs : List Char) : Option (Json × List Char) :=
  if word.isPrefixOf cs then some (value, cs.drop word.length) else none

mutual

/-- A value, blanks before it allowed. -/
def value? : Nat → List Char → Option (Json × List Char)
  | 0, _ => none
  | fuel + 1, cs =>
    match skipSpace cs with
    | '"' :: rest => do
      let (s, rest) ← stringRest? (rest.length + 1) [] rest
      some (str s, rest)
    | '[' :: rest =>
      match skipSpace rest with
      | ']' :: rest => some (arr [], rest)
      | rest => items? fuel [] rest
    | '\x7b' :: rest =>
      match skipSpace rest with
      | '\x7d' :: rest => some (obj [], rest)
      | rest => fields? fuel [] rest
    | 't' :: rest => word? ['r', 'u', 'e'] (bool true) rest
    | 'f' :: rest => word? ['a', 'l', 's', 'e'] (bool false) rest
    | 'n' :: rest => word? ['u', 'l', 'l'] null rest
    | cs => number? cs

/-- The rest of an array, an item of which has to follow. -/
def items? : Nat → List Json → List Char → Option (Json × List Char)
  | 0, _, _ => none
  | fuel + 1, acc, cs => do
    let (item, rest) ← value? fuel cs
    match skipSpace rest with
    | ',' :: rest => items? fuel (item :: acc) rest
    | ']' :: rest => some (arr (item :: acc).reverse, rest)
    | _ => none

/-- The rest of an object, a field of which has to follow. -/
def fields? : Nat → List (String × Json) → List Char → Option (Json × List Char)
  | 0, _, _ => none
  | fuel + 1, acc, cs =>
    match skipSpace cs with
    | '"' :: rest => do
      let (name, rest) ← stringRest? (rest.length + 1) [] rest
      match skipSpace rest with
      | ':' :: rest =>
        let (value, rest) ← value? fuel rest
        match skipSpace rest with
        | ',' :: rest => fields? fuel ((name, value) :: acc) rest
        | '\x7d' :: rest => some (obj ((name, value) :: acc).reverse, rest)
        | _ => none
      | _ => none
    | _ => none

end

/-- The value that a text writes. -/
def parse? (s : String) : Option Json := do
  let cs := s.toList
  let (value, rest) ← value? (2 * cs.length + 1) cs
  if (skipSpace rest).isEmpty then some value else none

end AccountAuthority.Json
