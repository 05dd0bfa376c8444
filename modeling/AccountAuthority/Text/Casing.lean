import AccountAuthority.Text.CaseTable

/-!
# Lowercase and uppercase text

Full case mapping of texts.  The lowercase form of a capital sigma depends on its place: at the
end of a word it is `ς`, elsewhere `σ`.
-/

namespace AccountAuthority.Text

open CaseTable

def inRanges (ranges : List (Nat × Nat)) (n : Nat) : Bool :=
  ranges.any fun (lo, hi) => lo ≤ n && n ≤ hi

/-- The image of a code point under the first run that covers it. -/
def applyRuns (runs : List (Nat × Nat × Nat × Int)) (n : Nat) : Nat :=
  match runs.find? fun (first, last, stride, _) =>
      first ≤ n && n ≤ last && (n - first) % stride == 0 with
  | some (_, _, _, offset) => (n + offset : Int).toNat
  | none => n

/-- The lowercase form of a character, outside of the rule for a final sigma. -/
def lowercaseChar (c : Char) : List Char :=
  if c.toNat = 0x130 then ['i', Char.ofNat 0x307]
  else [Char.ofNat (applyRuns lowercaseRuns c.toNat)]

def uppercaseChar (c : Char) : List Char :=
  match uppercaseExpansions.lookup c.toNat with
  | some expansion => expansion.map Char.ofNat
  | none => [Char.ofNat (applyRuns uppercaseRuns c.toNat)]

/-- Whether the first character that is not passed over has a case. -/
def startsCased (cs : List Char) : Bool :=
  match (cs.dropWhile fun c => inRanges caseIgnorableRanges c.toNat).head? with
  | some c => inRanges casedRanges c.toNat
  | none => false

/-- The lowercase form of the characters after `before`, which is given backwards. -/
def lowercaseAfter (before : List Char) : List Char → List Char
  | [] => []
  | c :: rest =>
    let lower :=
      if c = 'Σ' then [if startsCased before && !startsCased rest then 'ς' else 'σ']
      else lowercaseChar c
    lower ++ lowercaseAfter (c :: before) rest

def lowercase (s : String) : String :=
  String.ofList (lowercaseAfter [] s.toList)

def uppercase (s : String) : String :=
  String.ofList (s.toList.flatMap uppercaseChar)

end AccountAuthority.Text
