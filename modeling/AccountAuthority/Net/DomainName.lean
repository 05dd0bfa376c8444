import AccountAuthority.Text.Casing
import AccountAuthority.Text.DomainTable
import AccountAuthority.Text.Punycode
import AccountAuthority.Text.Split

/-!
# Domain names

A domain name in ASCII is made of labels of letters, digits and inner hyphens.  A name with other
characters stands for the ASCII name that is found by replacing, dropping or refusing its
characters one by one and by writing the labels that are left in their ASCII form.
-/

namespace AccountAuthority.DomainName

open Text

/-- Letters that match an ASCII letter when case is disregarded, and digits. -/
def isLetterOrDigit (c : Char) : Bool :=
  c.isAlphanum || c == 'ſ' || c == 'K'

/-- A label: 1 to 63 letters, digits and hyphens, no hyphen at either end. -/
def isLabel (label : List Char) : Bool :=
  !label.isEmpty && label.length ≤ 63 && label.all (fun c => isLetterOrDigit c || c == '-') &&
    label.head? != some '-' && label.getLast? != some '-'

/-- A name of labels separated by dots. -/
def isName (name : List Char) : Bool :=
  (splitOn '.' name).all isLabel

/-- What a character of a name stands for, or `none` if it is refused. -/
def mapChar? (c : Char) : Option (List Char) :=
  let n := c.toNat
  if n < 128 then some [c.toLower]
  else if inRanges DomainTable.ignoredRanges n then some []
  else if inRanges DomainTable.disallowedRanges n then none
  else match DomainTable.asciiExpansions.lookup n with
    | some s => some s.toList
    | none =>
      match DomainTable.asciiRuns.find? fun (first, last, _) => first ≤ n && n ≤ last with
      | some (first, _, image) => some [Char.ofNat (image + (n - first))]
      | none => some (lowercaseChar c)

/-- Whether a label keeps its characters and does not begin with a combining mark. -/
def isSettled (label : List Char) : Bool :=
  label.all (fun c => mapChar? c == some [c]) &&
    match label.head? with
    | some c => !inRanges DomainTable.markRanges c.toNat
    | none => true

/-- A label of the mapped name in ASCII. -/
def labelToAscii? (label : List Char) : Option (List Char) := do
  let label ←
    if ['x', 'n', '-', '-'].isPrefixOf label then Punycode.decode? (label.drop 4) else some label
  if ¬isSettled label then none
  else if label.all fun c => c.toNat < 128 then some label
  else some (['x', 'n', '-', '-'] ++ Punycode.encode label)

/-- The ASCII name that a name stands for. -/
def toAscii? (name : List Char) : Option (List Char) := do
  let mapped ← name.mapM mapChar?
  let labels ← (splitOn '.' mapped.flatten).mapM labelToAscii?
  some (List.intercalate ['.'] labels)

end AccountAuthority.DomainName
