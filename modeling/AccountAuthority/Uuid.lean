import AccountAuthority.Json.Printer
import AccountAuthority.Json.Parser
import AccountAuthority.Text.Split

/-!
# Unique identifiers

An identifier has 128 bits.  Its canonical text is five groups of lowercase hexadecimal digits
with hyphens between them; it may also be read from the digits alone, from the canonical text in
braces, and from a URN.
-/

namespace AccountAuthority

/-- A 128-bit identifier. -/
structure Uuid where
  bits : BitVec 128
  deriving DecidableEq, Repr, Inhabited

namespace Uuid

/-- The identifier with a number, out of a range that is kept for numbered identifiers. -/
def numbered (n : Nat) : Uuid :=
  ⟨BitVec.ofNat 128 (0xfeedfeedfeed4eed8eed000000000000 + n)⟩

/-- The last `n` hexadecimal digits of a number, in writing order. -/
def hexDigits (n value : Nat) : List Char :=
  match n with
  | 0 => []
  | n + 1 => hexDigits n (value / 16) ++ [Json.hexChar (value % 16)]

def toChars (id : Uuid) : List Char :=
  let ds := hexDigits 32 id.bits.toNat
  ds.take 8 ++ '-' :: (ds.drop 8).take 4 ++ '-' :: (ds.drop 12).take 4 ++ '-' ::
    (ds.drop 16).take 4 ++ '-' :: ds.drop 20

instance : ToString Uuid where
  toString id := String.ofList id.toChars

/-- The identifier written by 32 hexadecimal digits. -/
def ofDigits? (cs : List Char) : Option Uuid := do
  let ds ← cs.mapM Json.hexDigit?
  if ds.length = 32 then some ⟨BitVec.ofNat 128 (ds.foldl (fun n d => n * 16 + d) 0)⟩ else none

/-- The identifier written in five groups. -/
def ofGroups? (cs : List Char) : Option Uuid :=
  if cs.length = 36 ∧ [8, 13, 18, 23].all (fun i => cs[i]? = some '-') then
    ofDigits? (cs.take 8 ++ (cs.drop 9).take 4 ++ (cs.drop 14).take 4 ++ (cs.drop 19).take 4 ++
      cs.drop 24)
  else none

/-- The identifier that a list of characters writes in any of the accepted forms. -/
def ofChars? (cs : List Char) : Option Uuid :=
  if cs.length = 32 then ofDigits? cs
  else if cs.length = 36 then ofGroups? cs
  else if cs.length = 38 ∧ cs.head? = some '\x7b' ∧ cs.getLast? = some '\x7d' then
    ofGroups? (cs.drop 1).dropLast
  else if cs.length = 45 ∧ cs.take 9 = ['u', 'r', 'n', ':', 'u', 'u', 'i', 'd', ':'] then
    ofGroups? (cs.drop 9)
  else none

def parse? (s : String) : Option Uuid :=
  ofChars? s.toList

/-- Why a text is not an identifier. -/
inductive TextError where
  /-- A character that is neither a hexadecimal digit nor a hyphen, and its place from 1. -/
  | character (c : Char) (place : Nat)
  | length (found : Nat)
  | groupCount (found : Nat)
  | groupLength (group found : Nat)
  deriving DecidableEq, Repr

def groupLengths : List Nat := [8, 4, 4, 4, 12]

def TextError.message : TextError → String
  | character c place =>
    "invalid character: expected an optional prefix of \x60urn:uuid:\x60 followed by " ++
      "[0-9a-fA-F-], found \x60" ++ c.toString ++ "\x60 at " ++ toString place
  | length found =>
    "invalid length: expected length 32 for simple format, found " ++ toString found
  | groupCount found => "invalid group count: expected 5, found " ++ toString found
  | groupLength group found =>
    "invalid group length in group " ++ toString group ++ ": expected " ++
      toString (groupLengths.getD group 0) ++ ", found " ++ toString found

/-- The first group whose length is wrong, and that length. -/
def wrongGroup (groups : List (List Char)) : Nat × Nat :=
  match (groups.zip groupLengths).zipIdx.find? fun ((g, n), _) => g.length ≠ n with
  | some ((g, _), i) => (i, g.length)
  | none => (4, 0)

/-- Why a text in none of the accepted forms is not an identifier. -/
def textError (s : String) : TextError :=
  let cs := s.toList
  let (body, offset, simple) :=
    if cs.head? = some '\x7b' ∧ cs.getLast? = some '\x7d' then (cs.tail.dropLast, 1, false)
    else if cs.take 9 = ['u', 'r', 'n', ':', 'u', 'u', 'i', 'd', ':'] then (cs.drop 9, 9, false)
    else (cs, 0, true)
  let good := body.takeWhile fun c => (Json.hexDigit? c).isSome || c = '-'
  match body.drop good.length with
  | c :: _ => .character c (good.length + offset + 1)
  | [] =>
    let groups := Text.splitOn '-' body
    if groups.length = 1 ∧ simple then .length cs.length
    else if groups.length ≠ 5 then .groupCount groups.length
    else let (group, found) := wrongGroup groups; .groupLength group found

def parse (s : String) : Except TextError Uuid :=
  match parse? s with
  | some id => .ok id
  | none => .error (textError s)

def toJson (id : Uuid) : Json :=
  .str (toString id)

def optionToJson : Option Uuid → Json
  | some id => id.toJson
  | none => .null

end Uuid

end AccountAuthority
