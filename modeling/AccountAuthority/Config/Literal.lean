import AccountAuthority.Config.Lexeme
import AccountAuthority.Text.Split

/-!
# Values out of lexemes

Lists between brackets, records between braces or parentheses, quoted texts, and words whose
meaning a dialect gives.  A comma may follow the last item.
-/

namespace AccountAuthority

namespace Json

/-- The fields of an object, and of the last item of an array. -/
def lastFields : Option Json → List (String × Json)
  | some (obj fields) => fields
  | some (arr items) =>
    match items.getLast? with
    | some (obj fields) => fields
    | _ => []
  | _ => []

/-- A value with the fields that `lastFields` shows replaced. -/
def withLastFields (j : Option Json) (fields : List (String × Json)) : Json :=
  match j with
  | some (arr items) => arr (items.dropLast ++ [obj fields])
  | _ => obj fields

/-- Fields with one set; it keeps its place. -/
def putField (name : String) (value : Json) (fields : List (String × Json)) :
    List (String × Json) :=
  if fields.any (·.1 == name) then
    fields.map fun f => if f.1 == name then (name, value) else f
  else fields ++ [(name, value)]

/-- Change the value at a path, making objects on the way. -/
def updateAt (f : Option Json → Json) : List String → Option Json → Json
  | [], j => f j
  | name :: path, j =>
    let fields := lastFields j
    withLastFields j (putField name (updateAt f path (fields.lookup name)) fields)

end Json

namespace Literal

variable (d : Dialect)

/-! ## Numbers -/

/-- The digit of a character to a base of at most sixteen. -/
def digit? (base : Nat) (c : Char) : Option Nat :=
  (Json.hexDigit? c).filter (· < base)

/-- The number that digits to a base write. -/
def natural? (base : Nat) (cs : List Char) : Option Nat := do
  let ds ← cs.mapM (digit? base)
  if ds.isEmpty then none else some (ds.foldl (fun n d => n * base + d) 0)

/-- The bases that a zero and a letter announce. -/
def bases : List (Char × Nat) := [('x', 16), ('o', 8), ('b', 2)]

/-- A decimal number, of which the digits before or after the point may be missing. -/
def decimal? (negative : Bool) (cs : List Char) : Option Json := do
  let (whole, rest) := Json.digits cs
  let (places, rest) := match rest with
    | '.' :: rest => Json.digits rest
    | rest => ([], rest)
  let (power, rest) ← Json.exponent? rest
  if !rest.isEmpty ∨ (whole ++ places).isEmpty then none
  else
    let n : Int := Json.digitsValue (whole ++ places)
    some (.decimal (if negative then -n else n) (power.getD 0 - places.length))

/-- The number that a word writes, with a sign and to one of the bases. -/
def number? (bases : List (Char × Nat)) (word : List Char) : Option Json :=
  let (negative, body) := match word with
    | '-' :: rest => (true, rest)
    | '+' :: rest => (false, rest)
    | cs => (false, cs)
  let signed (n : Nat) : Json := .int (if negative then -n else n)
  let based := match body with
    | '0' :: letter :: rest => (bases.lookup letter).bind fun base => natural? base rest
    | _ => none
  ((based.or (natural? 10 body)).map signed).or (decimal? negative body)

/-- A number whose digits may be grouped with low lines. -/
def groupedNumber? (word : String) : Option Json :=
  number? bases (word.toList.filter (· ≠ '_'))

/-! ## Values -/

def dropLines (ls : List Lexeme) : List Lexeme :=
  ls.dropWhile (· = .mark '\n')

/-- The names in a lexeme of a path. -/
def namesOf : Lexeme → List String
  | .word s =>
    if d.dotted then
      ((Text.splitOn '.' s.toList).map String.ofList).filter (!·.isEmpty)
    else [s]
  | .quoted s => [s]
  | .mark _ => []

def isMark : Lexeme → Bool
  | .mark _ => true
  | _ => false

/-- The path at the start, and what follows it. -/
def path? (ls : List Lexeme) : Option (List String × List Lexeme) :=
  let names := (ls.takeWhile (!isMark ·)).flatMap (namesOf d)
  if names.isEmpty ∨ (!d.dotted ∧ 1 < names.length) then none
  else some (names, ls.dropWhile (!isMark ·))

/-- The words at the start, and what follows them. -/
def phrase : List Lexeme → List String × List Lexeme
  | .word s :: rest =>
    let (words, rest) := phrase rest
    (s :: words, rest)
  | ls => ([], ls)

mutual

/-- A value, and what follows it. -/
def value? : Nat → List Lexeme → Option (Json × List Lexeme)
  | 0, _ => none
  | fuel + 1, ls =>
    match ls with
    | .quoted s :: rest => some (.str s, rest)
    | .mark '[' :: rest => items? fuel ']' [] rest
    | .mark '\x7b' :: rest => fields? fuel '\x7d' [] rest
    | .mark '(' :: rest => group? fuel rest
    | .word "Some" :: .mark '(' :: rest => do
      match ← value? fuel rest with
      | (value, .mark ')' :: rest) => some (value, rest)
      | _ => none
    | .word _ :: .mark '(' :: rest => group? fuel rest
    | ls =>
      let (words, rest) := phrase ls
      (d.meaning (" ".intercalate words)).map fun value => (value, rest)

/-- A record, a list or nothing between parentheses, the first of which has been read. -/
def group? : Nat → List Lexeme → Option (Json × List Lexeme)
  | 0, _ => none
  | fuel + 1, ls =>
    match ls with
    | .mark ')' :: rest => some (.null, rest)
    | .word _ :: .mark ':' :: _ => fields? fuel ')' [] ls
    | _ => items? fuel ')' [] ls

/-- The rest of a list up to a mark; `acc` holds its items so far, backwards. -/
def items? : Nat → Char → List Json → List Lexeme → Option (Json × List Lexeme)
  | 0, _, _, _ => none
  | fuel + 1, close, acc, ls =>
    match dropLines ls with
    | [] => none
    | l :: rest =>
      if l = .mark close then some (.arr acc.reverse, rest)
      else do
        let (item, rest) ← value? fuel (l :: rest)
        match dropLines rest with
        | .mark ',' :: rest => items? fuel close (item :: acc) rest
        | .mark c :: rest => if c = close then some (.arr (item :: acc).reverse, rest) else none
        | _ => none

/-- The rest of a record up to a mark; `acc` holds its fields so far. -/
def fields? : Nat → Char → List (String × Json) → List Lexeme → Option (Json × List Lexeme)
  | 0, _, _, _ => none
  | fuel + 1, close, acc, ls =>
    match dropLines ls with
    | [] => none
    | l :: rest =>
      if l = .mark close then some (.obj acc, rest)
      else do
        let (path, rest) ← path? d (l :: rest)
        match rest with
        | .mark c :: rest =>
          if c ≠ d.assign then none
          else
            let (value, rest) ← value? fuel rest
            let record := Json.updateAt (fun _ => value) path (some (.obj acc))
            let acc := Json.lastFields (some record)
            match dropLines rest with
            | .mark ',' :: rest => fields? fuel close acc rest
            | .mark c :: rest => if c = close then some (.obj acc, rest) else none
            | _ => none
        | _ => none

end

def first? (ls : List Lexeme) : Option (Json × List Lexeme) :=
  value? d (2 * ls.length + 1) ls

def read? (cs : List Char) : Option Json := do
  match ← first? d (← Lexeme.ofText? d cs) with
  | (value, []) => some value
  | _ => none

end Literal

end AccountAuthority
