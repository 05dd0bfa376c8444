import AccountAuthority.Crypto.Base64
import AccountAuthority.Text.Blank

/-!
# PEM

A labelled block of base 64 between a line that begins it and a line that ends it.
-/

namespace AccountAuthority

/-- A labelled block of bytes. -/
structure Pem where
  label : String
  content : Bytes

namespace Pem

/-- What stands before and after the first occurrence of a word. -/
def breakAt? (word : List Char) (cs : List Char) : Option (List Char × List Char) :=
  if word.isPrefixOf cs then some ([], cs.drop word.length)
  else
    match cs with
    | [] => none
    | c :: rest => (breakAt? word rest).map fun (before, after) => (c :: before, after)

def dashes : List Char := List.replicate 5 '-'

/-- The line that begins a block, up to the label. -/
def begins : List Char := dashes ++ "BEGIN ".toList

/-- The line that ends a block, up to the label. -/
def ends : List Char := dashes ++ "END ".toList

/-- The first block of a text. -/
def parse? (s : String) : Option Pem := do
  let (_, rest) ← breakAt? begins s.toList
  let (label, rest) ← breakAt? dashes rest
  let (body, rest) ← breakAt? ends rest
  let (closing, _) ← breakAt? dashes rest
  if label.isEmpty ∨ label ≠ closing then none
  else
    let content ← Base64.standard.decodeChars? (body.filter fun c => !Text.isBlank c)
    some ⟨String.ofList label, content⟩

/-- The text of a block: lines of 64 characters. -/
def render (p : Pem) : String :=
  let lines := (Bytes.chunks 64 (Base64.standard.encodeChars p.content)).map fun line =>
    String.ofList line ++ "\n"
  "-----BEGIN " ++ p.label ++ "-----\n" ++ String.join lines ++ "-----END " ++ p.label ++ "-----\n"

end Pem

end AccountAuthority
