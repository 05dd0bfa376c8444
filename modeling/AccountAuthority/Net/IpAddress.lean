import AccountAuthority.Json.Printer
import AccountAuthority.Json.Parser
import AccountAuthority.Text.Split

/-!
# Internet addresses

Addresses of version 4 (four decimal numbers) and of version 6 (eight groups of hexadecimal
digits, a run of zero groups may be left out once, and the last two groups may be written like an
address of version 4).
-/

namespace AccountAuthority

inductive IpAddress where
  | v4 (a b c d : UInt8)
  | v6 (groups : List UInt16)
  deriving DecidableEq, Repr

namespace IpAddress

/-- A decimal number below 256 without leading zeros. -/
def octet? (cs : List Char) : Option UInt8 :=
  if cs.isEmpty ∨ 3 < cs.length ∨ ¬cs.all Char.isDigit ∨ (1 < cs.length ∧ cs.head? = some '0') then
    none
  else
    let n := Json.digitsValue cs
    if n < 256 then some n.toUInt8 else none

def v4? (cs : List Char) : Option IpAddress :=
  match Text.splitOn '.' cs with
  | [a, b, c, d] => do some (.v4 (← octet? a) (← octet? b) (← octet? c) (← octet? d))
  | _ => none

/-- A group of one to four hexadecimal digits. -/
def group? (cs : List Char) : Option UInt16 := do
  let ds ← cs.mapM Json.hexDigit?
  if ds.isEmpty ∨ 4 < ds.length then none
  else some (ds.foldl (fun n d => n * 16 + d) 0).toUInt16

/-- Groups separated by colons; with `tail`, the last may be an address of version 4. -/
def groups? (tail : Bool) (cs : List Char) : Option (List UInt16) :=
  if cs.isEmpty then some []
  else
    let parts := Text.splitOn ':' cs
    let front := parts.dropLast.mapM group?
    match parts.getLast? with
    | none => none
    | some last =>
      match if tail then v4? last else none with
      | some (.v4 a b c d) =>
        front.map (· ++ [a.toUInt16 * 256 + b.toUInt16, c.toUInt16 * 256 + d.toUInt16])
      | _ => do some ((← front) ++ [← group? last])

/-- What stands before and after the first pair of colons. -/
def splitGap? : List Char → Option (List Char × List Char)
  | ':' :: ':' :: rest => some ([], rest)
  | c :: rest => (splitGap? rest).map fun (before, after) => (c :: before, after)
  | [] => none

def v6? (cs : List Char) : Option IpAddress :=
  match splitGap? cs with
  | none => (groups? true cs).bind fun gs => if gs.length = 8 then some (.v6 gs) else none
  | some (before, after) => do
    let head ← groups? false before
    let tail ← groups? true after
    if head.length + tail.length ≤ 7 then
      some (.v6 (head ++ List.replicate (8 - head.length - tail.length) 0 ++ tail))
    else none

def parse? (s : String) : Option IpAddress :=
  match v4? s.toList with
  | some a => some a
  | none => v6? s.toList

/-- The hexadecimal digits of a group without leading zeros. -/
def groupText (g : UInt16) : String :=
  String.ofList (Nat.toDigits 16 g.toNat)

/-- The length of the run of zeros at the start. -/
def zerosAt (gs : List UInt16) : Nat :=
  (gs.takeWhile (· = 0)).length

/-- The place and length of the longest run of zero groups, the first of equals. -/
def longestZeros (gs : List UInt16) : Nat × Nat :=
  (List.range gs.length).foldl (fun best i =>
    let n := zerosAt (gs.drop i)
    if best.2 < n then (i, n) else best) (0, 0)

/-- The text of an address; the longest run of at least two zero groups is left out. -/
def toText : IpAddress → String
  | v4 a b c d => s!"{a}.{b}.{c}.{d}"
  | v6 gs =>
    match gs with
    | [0, 0, 0, 0, 0, 0xffff, x, y] =>
      let octets := [x.toNat / 256, x.toNat % 256, y.toNat / 256, y.toNat % 256]
      "::ffff:" ++ ".".intercalate (octets.map toString)
    | _ =>
      let join (gs : List UInt16) := ":".intercalate (gs.map groupText)
      let (i, n) := longestZeros gs
      if n < 2 then join gs else join (gs.take i) ++ "::" ++ join (gs.drop (i + n))

/-- The text of an address with a port. -/
def withPort (a : IpAddress) (port : UInt16) : String :=
  match a with
  | v4 .. => s!"{a.toText}:{port}"
  | v6 _ => s!"[{a.toText}]:{port}"

end IpAddress

end AccountAuthority
