import AccountAuthority.Json.Basic
import AccountAuthority.Json.Parser
import AccountAuthority.Text.Blank
import AccountAuthority.Time.Calendar
import AccountAuthority.Time.Instant

/-!
# Instants as text

Instants are written in UTC with the fewest of 0, 3, 6 or 9 places that lose nothing, a leap
second as second 60, and years outside of 0 to 9999 with a sign.  They are read with more
freedom: blanks may stand around the numbers of the date and the time, a blank may take the place
of the `T`, and the offset may be any.
-/

namespace AccountAuthority.Instant

/-- A number in decimal, with zeros in front up to a width. -/
def padded (width n : Nat) : List Char :=
  let ds := (toString n).toList
  List.replicate (width - ds.length) '0' ++ ds

/-- A year: four digits, or a sign and at least four. -/
def yearChars (year : Int) : List Char :=
  if 0 ≤ year ∧ year ≤ 9999 then padded 4 year.toNat
  else (if year < 0 then '-' else '+') :: padded 4 year.natAbs

/-- The shortest fraction of 0, 3, 6 or 9 places. -/
def fractionChars (nanos : Nat) : List Char :=
  if nanos = 0 then []
  else if nanos % 1000000 = 0 then '.' :: padded 3 (nanos / 1000000)
  else if nanos % 1000 = 0 then '.' :: padded 6 (nanos / 1000)
  else '.' :: padded 9 nanos

def toChars (t : Instant) : List Char :=
  let date := CivilDate.ofDays (t.seconds / 86400)
  let ofDay := (t.seconds % 86400).toNat
  let (second, nanos) :=
    if t.isLeap then (ofDay % 60 + 1, t.nanos - 1000000000) else (ofDay % 60, t.nanos)
  yearChars date.year ++ '-' :: padded 2 date.month ++ '-' :: padded 2 date.day ++ 'T' ::
    padded 2 (ofDay / 3600) ++ ':' :: padded 2 (ofDay / 60 % 60) ++ ':' :: padded 2 second ++
    fractionChars nanos ++ ['Z']

instance : ToString Instant where
  toString t := String.ofList t.toChars

def toJson (t : Instant) : Json :=
  .str (toString t)

def optionToJson : Option Instant → Json
  | some t => t.toJson
  | none => .null

/-! ## Reading -/

/-- Why a text is not an instant. -/
inductive TextError where
  | invalid
  | tooShort
  | trailing
  | outOfRange
  | impossible
  deriving DecidableEq, Repr

def TextError.message : TextError → String
  | invalid => "input contains invalid characters"
  | tooShort => "premature end of input"
  | trailing => "trailing input"
  | outOfRange => "input is out of range"
  | impossible => "no possible date and time matching input"

/-- What is wrong when something has to follow and does not. -/
def missing (cs : List Char) : TextError :=
  if cs.isEmpty then .tooShort else .invalid

/-- Between one and `width` digits, read as far as they go. -/
def digitsUpTo (width : Nat) (cs : List Char) : Except TextError (Nat × List Char) :=
  let ds := (cs.take width).takeWhile Char.isDigit
  if ds.isEmpty then .error (missing cs) else .ok (Json.digitsValue ds, cs.drop ds.length)

/-- A number of at most two digits between two bounds, blanks before it allowed. -/
def two (lo hi : Nat) (cs : List Char) : Except TextError (Nat × List Char) := do
  let (n, rest) ← digitsUpTo 2 (Text.trimStartChars cs)
  if lo ≤ n ∧ n ≤ hi then .ok (n, rest) else .error .outOfRange

/-- A number that is a year as far as 32 bits go. -/
def yearOf (negative : Bool) (parsed : Nat × List Char) : Except TextError (Int × List Char) :=
  let year : Int := if negative then -parsed.1 else parsed.1
  if -0x80000000 ≤ year ∧ year < 0x80000000 then .ok (year, parsed.2) else .error .outOfRange

/-- A year: at most four digits, or a sign and any number of them. -/
def year (cs : List Char) : Except TextError (Int × List Char) := do
  match Text.trimStartChars cs with
  | '-' :: rest => yearOf true (← digitsUpTo rest.length rest)
  | '+' :: rest => yearOf false (← digitsUpTo rest.length rest)
  | rest => yearOf false (← digitsUpTo 4 rest)

/-- The given separator, blanks before it allowed. -/
def separator (c : Char) (cs : List Char) : Except TextError (List Char) :=
  match Text.trimStartChars cs with
  | d :: rest => if d = c then .ok rest else .error .invalid
  | [] => .error .tooShort

/-- What stands between the date and the time. -/
def dateEnd : List Char → Except TextError (List Char)
  | 'T' :: rest | 't' :: rest | ' ' :: rest => .ok rest
  | rest => .error (missing rest)

/-- A fraction, if there is one, in nanoseconds; digits beyond the ninth are dropped. -/
def fraction : List Char → Except TextError (Nat × List Char)
  | '.' :: cs =>
    let ds := cs.takeWhile Char.isDigit
    let kept := ds.take 9
    if ds.isEmpty then .error (missing cs)
    else .ok (Json.digitsValue kept * Nat.pow 10 (9 - kept.length), cs.drop ds.length)
  | cs => .ok (0, cs)

def pair : List Char → Except TextError (Nat × List Char)
  | a :: b :: rest =>
    if a.isDigit ∧ b.isDigit then .ok (Json.digitsValue [a, b], rest) else .error .invalid
  | _ => .error .tooShort

/-- An offset of hours and minutes in seconds; a colon or blanks may stand between them. -/
def hoursAndMinutes (negative : Bool) (cs : List Char) : Except TextError (Int × List Char) := do
  let (hours, rest) ← pair cs
  let (minutes, rest) ← pair (rest.dropWhile fun c => c = ':' || Text.isBlank c)
  if 60 ≤ minutes then .error .outOfRange
  else
    let seconds : Int := hours * 3600 + minutes * 60
    .ok (if negative then -seconds else seconds, rest)

/-- An offset from UTC in seconds. -/
def offset : List Char → Except TextError (Int × List Char)
  | 'Z' :: rest | 'z' :: rest => .ok (0, rest)
  | '+' :: rest => hoursAndMinutes false rest
  | '-' :: rest | '−' :: rest => hoursAndMinutes true rest
  | rest => .error (missing rest)

/-- The offset as the three letters `UTC` in any case, or as an offset. -/
def zone (cs : List Char) : Except TextError (Int × List Char) :=
  if (cs.take 3).map Char.toUpper = ['U', 'T', 'C'] then .ok (0, cs.drop 3) else offset cs

/-- The first and the last year that an instant can lie in. -/
def yearRange : Int × Int := (-262143, 262142)

def isYear (year : Int) : Bool :=
  yearRange.1 ≤ year && year ≤ yearRange.2

/-- The instant of a local date and time at an offset, if they exist and are in range. -/
def ofLocal (date : CivilDate) (hour minute second nanos : Nat) (offset : Int) :
    Except TextError Instant :=
  if date.isValid ∧ isYear date.year ∧ -86400 < offset ∧ offset < 86400 then
    let (second, nanos) := if second = 60 then (59, nanos + 1000000000) else (second, nanos)
    let seconds := date.toDays * 86400 + (hour * 3600 + minute * 60 + second) - offset
    if isYear (CivilDate.ofDays (seconds / 86400)).year then .ok ⟨seconds, nanos⟩
    else .error .impossible
  else .error .outOfRange

/-- The instant that a list of characters writes. -/
def ofChars (cs : List Char) : Except TextError Instant := do
  let (year, cs) ← year cs
  let cs ← separator '-' cs
  let (month, cs) ← two 1 12 cs
  let cs ← separator '-' cs
  let (day, cs) ← two 1 31 cs
  let cs ← dateEnd cs
  let (hour, cs) ← two 0 23 cs
  let cs ← separator ':' cs
  let (minute, cs) ← two 0 59 cs
  let cs ← separator ':' cs
  let (second, cs) ← two 0 60 cs
  let (nanos, cs) ← fraction cs
  let (offset, cs) ← zone (Text.trimStartChars cs)
  if (Text.trimStartChars cs).isEmpty then
    ofLocal ⟨year, month, day⟩ hour minute second nanos offset
  else .error .trailing

/-- The instant that a text writes, or why there is none. -/
def parse (s : String) : Except TextError Instant :=
  ofChars s.toList

def parse? (s : String) : Option Instant :=
  (parse s).toOption

end AccountAuthority.Instant
