import AccountAuthority.Json.Printer
import AccountAuthority.Text.Casing
import AccountAuthority.Text.PrintTable

/-!
# Values in messages

How a message names a value that is not what was expected.
-/

namespace AccountAuthority

/-- A character between quotation marks in a message. -/
def quotedChar (c : Char) : List Char :=
  if c = '"' then ['\\', '"']
  else if c = '\\' then ['\\', '\\']
  else if c = '\n' then ['\\', 'n']
  else if c = '\r' then ['\\', 'r']
  else if c = '\t' then ['\\', 't']
  else if c.toNat = 0 then ['\\', '0']
  else if Text.inRanges Text.PrintTable.hiddenRanges c.toNat then
    ['\\', 'u', '\x7b'] ++ Nat.toDigits 16 c.toNat ++ ['\x7d']
  else [c]

/-- A text between quotation marks in a message. -/
def quoted (s : String) : String :=
  "\"" ++ String.ofList (s.toList.flatMap quotedChar) ++ "\""

namespace Json

/-- Take factors of ten out of a mantissa. -/
def reduceDecimal : Nat → Int → Int → Int × Int
  | 0, m, e => (m, e)
  | fuel + 1, m, e => if m ≠ 0 ∧ m % 10 = 0 then reduceDecimal fuel (m / 10) (e + 1) else (m, e)

/-- The text of a decimal number: positional while the point stands between the fifth place and
the sixteenth digit, with an exponent beyond, and never without one of the two. -/
def decimalText (mantissa exponent : Int) : String :=
  let (m, e) := reduceDecimal (toString mantissa.natAbs).length mantissa exponent
  let sign := if mantissa < 0 then "-" else ""
  let ds := (toString m.natAbs).toList
  let point : Int := ds.length + e
  let text : List Char :=
    if m = 0 then ['0', '.', '0']
    else if 0 ≤ e ∧ point ≤ 16 then ds ++ List.replicate e.toNat '0' ++ ['.', '0']
    else if 0 < point ∧ point ≤ 16 then ds.take point.toNat ++ '.' :: ds.drop point.toNat
    else if -5 < point ∧ point ≤ 0 then ['0', '.'] ++ List.replicate (-point).toNat '0' ++ ds
    else
      ds.take 1 ++ (if ds.length = 1 then [] else '.' :: ds.drop 1) ++
        'e' :: (toString (point - 1)).toList
  sign ++ String.ofList text

/-- How a message names a value. -/
def described : Json → String
  | null => "null"
  | bool b => "boolean \x60" ++ (if b then "true" else "false") ++ "\x60"
  | int n => "integer \x60" ++ toString n ++ "\x60"
  | decimal m e => "floating point \x60" ++ decimalText m e ++ "\x60"
  | str s => "string " ++ quoted s
  | arr _ => "sequence"
  | obj _ => "map"

end Json

end AccountAuthority
