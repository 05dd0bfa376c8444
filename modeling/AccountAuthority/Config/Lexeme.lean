import AccountAuthority.Json.Parser
import AccountAuthority.Text.Blank

/-!
# Words, quoted texts and marks

Several languages write the same values: lists, records, quoted texts and bare words that stand
for numbers and truth values.  They differ in their marks, their comments and their quotation
marks, which a dialect lists; this module cuts a text of a dialect into lexemes.
-/

namespace AccountAuthority

/-- What a text is made of. -/
inductive Lexeme where
  /-- A character that stands for itself. -/
  | mark (c : Char)
  | word (s : String)
  | quoted (s : String)
  deriving DecidableEq, Repr

/-- How a language writes values. -/
structure Dialect where
  /-- The characters that stand for themselves; a line end is blank unless it is one of them. -/
  marks : List Char
  /-- The characters that end a word, apart from blanks and marks. -/
  stops : List Char
  /-- What opens a comment that goes on to the end of the line. -/
  comment : List Char
  /-- Whether there are comments between `/*` and `*/`. -/
  enclosedComments : Bool
  /-- Quotation marks between which a backslash gives the next character another meaning. -/
  quotes : List Char
  /-- Quotation marks between which only the mark itself, written twice, stands for another
  character. -/
  plainQuotes : List Char
  /-- Whether three quotation marks hold a text of several lines. -/
  tripleQuotes : Bool
  /-- What stands between a name and its value. -/
  assign : Char
  /-- Whether a name may be a path with dots. -/
  dotted : Bool
  /-- The value of a bare word. -/
  meaning : String → Option Json

namespace Lexeme

open Text

def hexValue? (ds : List Char) : Option Nat := do
  let ds ← ds.mapM Json.hexDigit?
  if ds.isEmpty then none else some (ds.foldl (fun n d => n * 16 + d) 0)

def charOf? (n : Nat) : Option Char :=
  if n.isValidChar then some (Char.ofNat n) else none

/-- The character written with a number of hexadecimal digits. -/
def hexChar? (length : Nat) (cs : List Char) : Option (List Char × List Char) := do
  if cs.length < length then none
  else some ([← charOf? (← hexValue? (cs.take length))], cs.drop length)

/-- What stands after a backslash, and what it means. -/
def escape? : List Char → Option (List Char × List Char)
  | 'u' :: '\x7b' :: rest => do
    match rest.dropWhile (· ≠ '\x7d') with
    | _ :: after => some ([← charOf? (← hexValue? (rest.takeWhile (· ≠ '\x7d')))], after)
    | [] => none
  | 'u' :: rest => do
    let (c, rest) ← Json.unicodeEscape? rest
    some ([c], rest)
  | 'U' :: rest => hexChar? 8 rest
  | 'x' :: rest => hexChar? 2 rest
  | '0' :: rest => some (['\x00'], rest)
  | 'a' :: rest => some (['\x07'], rest)
  | 'v' :: rest => some (['\x0b'], rest)
  | 'e' :: rest => some (['\x1b'], rest)
  | '\x27' :: rest => some (['\x27'], rest)
  | '\n' :: rest => some ([], trimStartChars rest)
  | c :: rest => (Json.escaped? c).map fun c => ([c], rest)
  | [] => none

/-- The rest of a quoted text up to `close`; `acc` holds its characters so far, backwards. -/
def quotedRest? (close : List Char) (escapes : Bool) :
    Nat → List Char → List Char → Option (Lexeme × List Char)
  | 0, _, _ => none
  | fuel + 1, acc, cs =>
    if !escapes && (close ++ close).isPrefixOf cs then
      quotedRest? close escapes fuel (close ++ acc) (cs.drop (2 * close.length))
    else if close.isPrefixOf cs then
      some (.quoted (String.ofList acc.reverse), cs.drop close.length)
    else match cs with
      | [] => none
      | '\\' :: rest =>
        if escapes then do
          let (meant, rest) ← escape? rest
          quotedRest? close escapes fuel (meant.reverse ++ acc) rest
        else quotedRest? close escapes fuel ('\\' :: acc) rest
      | c :: rest => quotedRest? close escapes fuel (c :: acc) rest

/-- A text without the line end at its start. -/
def dropLineEnd : List Char → List Char
  | '\n' :: rest | '\r' :: '\n' :: rest => rest
  | cs => cs

/-- A quoted text whose first quotation mark has been read. -/
def quoted? (d : Dialect) (quote : Char) (rest : List Char) : Option (Lexeme × List Char) :=
  let escapes := d.quotes.contains quote
  if d.tripleQuotes ∧ [quote, quote].isPrefixOf rest then
    quotedRest? [quote, quote, quote] escapes (rest.length + 1) [] (dropLineEnd (rest.drop 2))
  else quotedRest? [quote] escapes (rest.length + 1) [] rest

/-- What follows a comment whose opening has been read. -/
def afterEnclosed? : List Char → Option (List Char)
  | '*' :: '/' :: rest => some rest
  | _ :: rest => afterEnclosed? rest
  | [] => none

def scan? (d : Dialect) : Nat → List Char → Option (List Lexeme)
  | 0, _ => none
  | _ + 1, [] => some []
  | fuel + 1, c :: rest =>
    if d.marks.contains c then (scan? d fuel rest).map (.mark c :: ·)
    else if isBlank c then scan? d fuel rest
    else if d.comment.isPrefixOf (c :: rest) then scan? d fuel (rest.dropWhile (· ≠ '\n'))
    else if d.enclosedComments ∧ ['/', '*'].isPrefixOf (c :: rest) then
      (afterEnclosed? (rest.drop 1)).bind (scan? d fuel)
    else if d.quotes.contains c ∨ d.plainQuotes.contains c then do
      let (lexeme, rest) ← quoted? d c rest
      (scan? d fuel rest).map (lexeme :: ·)
    else
      let inWord (c : Char) : Bool :=
        !isBlank c && !d.marks.contains c && !d.stops.contains c
      let word := String.ofList (c :: rest.takeWhile inWord)
      (scan? d fuel (rest.dropWhile inWord)).map (.word word :: ·)

/-- The lexemes of a text. -/
def ofText? (d : Dialect) (cs : List Char) : Option (List Lexeme) :=
  scan? d (cs.length + 1) cs

end Lexeme

end AccountAuthority
