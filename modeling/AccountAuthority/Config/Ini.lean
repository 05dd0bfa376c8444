import AccountAuthority.Config.Literal
import AccountAuthority.Text.Blank

/-!
# INI

Lines that give texts to names, under headings that group them.
-/

namespace AccountAuthority.Ini

open Text

/-- A text without the quotation marks around it. -/
def unquoted (cs : List Char) : List Char :=
  match cs with
  | q :: rest =>
    if (q = '"' ∨ q = '\x27') ∧ rest.getLast? = some q then rest.dropLast else cs
  | [] => []

/-- Carry out lines; `heading` is the one they stand under. -/
def lines? : Option String → Json → List (List Char) → Option Json
  | _, root, [] => some root
  | heading, root, line :: lines =>
    match trimChars line with
    | [] | ';' :: _ | '#' :: _ => lines? heading root lines
    | '[' :: rest =>
      if rest.contains ']' then
        lines? (some (String.ofList (trimChars (rest.takeWhile (· ≠ ']'))))) root lines
      else none
    | cs =>
      match cs.dropWhile fun c => c ≠ '=' ∧ c ≠ ':' with
      | [] => none
      | _ :: after =>
        let name := String.ofList (trimChars (cs.takeWhile fun c => c ≠ '=' ∧ c ≠ ':'))
        let value := Json.str (String.ofList (unquoted (trimChars after)))
        lines? heading (Json.updateAt (fun _ => value) (heading.toList ++ [name]) (some root)) lines

def read? (cs : List Char) : Option Json :=
  lines? none (.obj []) (Text.splitOn '\n' cs)

end AccountAuthority.Ini
