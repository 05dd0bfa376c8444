import AccountAuthority.Config.Literal

/-!
# YAML

Names and items that are grouped by their indentation, with bare words, quoted texts and
bracketed values between them.  Anchors and tags have no meaning here.
-/

namespace AccountAuthority.Yaml

open Text

/-- The value of a text without quotation marks. -/
def meaning (word : String) : Json :=
  match word with
  | "" | "~" | "null" => .null
  | "true" => .bool true
  | "false" => .bool false
  | _ => (Literal.number? [('x', 16), ('o', 8)] word.toList).getD (.str word)

def dialect : Dialect where
  marks := ['[', ']', '\x7b', '\x7d', ',', ':']
  stops := []
  comment := ['#']
  enclosedComments := false
  quotes := ['"']
  plainQuotes := ['\x27']
  tripleQuotes := false
  assign := ':'
  dotted := false
  meaning := fun word => some (meaning word)

/-! ## Lines -/

/-- A line with the number of blanks before it. -/
structure Line where
  indent : Nat
  text : List Char
  deriving DecidableEq, Repr

/-- A line without the comment at its end; `quote` is the quotation mark that is open, and
`afterBlank` says whether a comment may begin. -/
def withoutComment (quote : Option Char) (afterBlank : Bool) : List Char → List Char
  | [] => []
  | c :: rest =>
    if quote.isNone ∧ afterBlank ∧ c = '#' then []
    else
      let quote := match quote with
        | some q => if c = q then none else some q
        | none => if afterBlank ∧ (c = '"' ∨ c = '\x27') then some c else none
      c :: withoutComment quote (isBlank c) rest

/-- A line that says something. -/
def line? (cs : List Char) : Option Line :=
  let cs := withoutComment none true cs
  let text := trimChars cs
  if text.isEmpty then none else some ⟨(cs.takeWhile (· = ' ')).length, text⟩

/-- The first of lines together with the lines that belong to it, and the rest.  What is indented
further belongs to it, and so does what `also` holds of at the same indentation. -/
def chunk (also : List Char → Bool) (first : Line) : List Line → List Line × List Line
  | [] => ([], [])
  | l :: ls =>
    if first.indent < l.indent ∨ (l.indent = first.indent ∧ also l.text) then
      let (own, rest) := chunk also first ls
      (l :: own, rest)
    else ([], l :: ls)

/-- Whether a text is an item of a list. -/
def isItem : List Char → Bool
  | ['-'] => true
  | '-' :: ' ' :: _ => true
  | _ => false

/-- What stands before and after the colon behind a name. -/
def splitColon? : List Char → Option (List Char × List Char)
  | [':'] => some ([], [])
  | ':' :: ' ' :: rest => some ([], rest)
  | c :: rest => (splitColon? rest).map fun (before, after) => (c :: before, after)
  | [] => none

/-- The name at the start of a text, and the text after its colon. -/
def name? (cs : List Char) : Option (String × List Char) :=
  match cs with
  | q :: rest =>
    if q = '"' ∨ q = '\x27' then
      match Lexeme.quoted? dialect q rest with
      | some (.quoted s, ':' :: after) => some (s, trimChars after)
      | _ => none
    else if ['[', '\x7b'].contains q then none
    else (splitColon? cs).map fun (before, after) =>
      (String.ofList (trimChars before), trimChars after)
  | [] => none

/-- The value of a text on one line. -/
def scalar? (cs : List Char) : Option Json :=
  match cs with
  | c :: _ =>
    if ['"', '\x27', '[', '\x7b'].contains c then Literal.read? dialect cs
    else some (meaning (String.ofList cs))
  | [] => some .null

/-- Lines as one text, blanks between them. -/
def joined (ls : List Line) : List Char :=
  List.intercalate [' '] (ls.map (·.text))

/-! ## Blocks -/

mutual

/-- The value of lines. -/
def block? : Nat → List Line → Option Json
  | 0, _ => none
  | _ + 1, [] => some .null
  | fuel + 1, l :: ls =>
    if isItem l.text then items? fuel l.indent [] (l :: ls)
    else if (name? l.text).isSome then fields? fuel l.indent [] (l :: ls)
    else scalar? (joined (l :: ls))

/-- The items of a list; `acc` holds those read so far, backwards. -/
def items? : Nat → Nat → List Json → List Line → Option Json
  | 0, _, _, _ => none
  | _ + 1, _, acc, [] => some (.arr acc.reverse)
  | fuel + 1, indent, acc, l :: ls =>
    if l.indent ≠ indent ∨ !isItem l.text then none
    else do
      let (own, rest) := chunk (fun _ => false) l ls
      let text := trimStartChars (l.text.drop 1)
      let first : List Line :=
        if text.isEmpty then [] else [⟨indent + (l.text.length - text.length), text⟩]
      let item ← block? fuel (first ++ own)
      items? fuel indent (item :: acc) rest

/-- The fields of a record; `acc` holds those read so far. -/
def fields? : Nat → Nat → List (String × Json) → List Line → Option Json
  | 0, _, _, _ => none
  | _ + 1, _, acc, [] => some (.obj acc)
  | fuel + 1, indent, acc, l :: ls =>
    if l.indent ≠ indent then none
    else do
      let (name, text) ← name? l.text
      let (own, rest) := chunk isItem l ls
      let value ←
        if text.isEmpty then block? fuel own
        else if text.head? = some '|' then
          some (.str (String.ofList (List.intercalate ['\n'] (own.map (·.text)))))
        else if text.head? = some '>' then some (.str (String.ofList (joined own)))
        else scalar? (joined (⟨indent, text⟩ :: own))
      fields? fuel indent (Json.putField name value acc) rest

end

/-- Whether a line only marks the start of a document. -/
def isStart (l : Line) : Bool :=
  l.indent = 0 ∧ l.text = ['-', '-', '-']

/-- The value that a text writes; an empty text writes an empty record. -/
def read? (cs : List Char) : Option Json :=
  match ((Text.splitOn '\n' cs).filterMap line?).dropWhile isStart with
  | [] => some (.obj [])
  | ls => block? (cs.length + ls.length + 2) ls

end AccountAuthority.Yaml
