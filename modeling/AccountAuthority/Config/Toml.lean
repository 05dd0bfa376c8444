import AccountAuthority.Config.Literal

/-!
# TOML

Lines that give values to names, and headers in brackets that say in which table the names of the
lines below them stand.
-/

namespace AccountAuthority.Toml

/-- The value of a bare word; dates and times count as texts. -/
def meaning (word : String) : Option Json :=
  match word with
  | "true" => some (.bool true)
  | "false" => some (.bool false)
  | _ =>
    (Literal.groupedNumber? word).or
      (if word.front.isDigit ∧ word.any fun c => c = '-' ∨ c = ':' then some (.str word) else none)

def dialect : Dialect where
  marks := ['\n', '[', ']', '\x7b', '\x7d', ',', '=']
  stops := ['#', '"', '\x27']
  comment := ['#']
  enclosedComments := false
  quotes := ['"']
  plainQuotes := ['\x27']
  tripleQuotes := true
  assign := '='
  dotted := true
  meaning := meaning

/-- What follows the end of a line. -/
def lineEnd? : List Lexeme → Option (List Lexeme)
  | [] => some []
  | .mark '\n' :: rest => some rest
  | _ => none

/-- A table with one more entry in a list of tables. -/
def appended : Option Json → Json
  | some (.arr items) => .arr (items ++ [.obj []])
  | _ => .arr [.obj []]

/-- A table that may have been there before. -/
def opened (j : Option Json) : Json :=
  j.getD (.obj [])

/-- Carry out lines; `table` is the path of the table that names stand in. -/
def lines? : Nat → List String → Json → List Lexeme → Option Json
  | 0, _, _, _ => none
  | fuel + 1, table, root, ls =>
    match Literal.dropLines ls with
    | [] => some root
    | .mark '[' :: .mark '[' :: rest => do
      match ← Literal.path? dialect rest with
      | (path, .mark ']' :: .mark ']' :: rest) =>
        lines? fuel path (Json.updateAt appended path (some root)) (← lineEnd? rest)
      | _ => none
    | .mark '[' :: rest => do
      match ← Literal.path? dialect rest with
      | (path, .mark ']' :: rest) =>
        lines? fuel path (Json.updateAt opened path (some root)) (← lineEnd? rest)
      | _ => none
    | ls => do
      match ← Literal.path? dialect ls with
      | (path, .mark '=' :: rest) =>
        let (value, rest) ← Literal.first? dialect rest
        lines? fuel table (Json.updateAt (fun _ => value) (table ++ path) (some root))
          (← lineEnd? rest)
      | _ => none

def read? (cs : List Char) : Option Json := do
  let ls ← Lexeme.ofText? dialect cs
  lines? (ls.length + 1) [] (.obj []) ls

end AccountAuthority.Toml
