import AccountAuthority.Config.Variables
import AccountAuthority.Text.Blank

/-!
# Variables in a file

A file of lines `NAME=value` gives values to variables that have none.  Text between quotation
marks may go on over several lines; `$NAME` and `$` before a name in braces stand for the value of
a variable, which may have been given further up.  The first line that cannot be read ends the
reading, and what stands above it keeps its effect.
-/

namespace AccountAuthority.Assignments

open Text

/-! ## Lines -/

/-- What the characters of a line so far leave open. -/
inductive LineState where
  | complete
  /-- After a single blank, where a comment may begin. -/
  | blank
  | escape
  | strong
  | strongEscape
  | weak
  | weakEscape
  deriving DecidableEq, Repr

namespace LineState

/-- What opens at a character outside of quotation marks, if anything. -/
def opened (c : Char) : Option LineState :=
  if c = '\\' then some .escape
  else if c = '"' then some .weak
  else if c = '\x27' then some .strong
  else none

/-- The state after one more character. -/
def next (c : Char) : LineState → LineState
  | complete =>
    if isBlank c ∧ c ≠ '\n' ∧ c ≠ '\r' then .blank else (opened c).getD .complete
  | blank => (opened c).getD .complete
  | escape => .complete
  | strong => if c = '\\' then .strongEscape else if c = '\x27' then .complete else .strong
  | strongEscape => .strong
  | weak => if c = '\\' then .weakEscape else if c = '"' then .complete else .weak
  | weakEscape => .weak

end LineState

/-- The characters up to a comment, and the state after them or `none` if there is a comment. -/
def scan : LineState → List Char → List Char × Option LineState
  | state, [] => ([], some state)
  | state, c :: rest =>
    if state = .blank ∧ c = '#' then ([], none)
    else
      let (kept, after) := scan (state.next c) rest
      (c :: kept, after)

/-- The lines of a text with the characters that end them. -/
def rawLines : List Char → List (List Char)
  | [] => []
  | c :: rest =>
    if c = '\n' then [c] :: rawLines rest
    else match rawLines rest with
      | [] => [[c]]
      | line :: lines => (c :: line) :: lines

def isComment (line : List Char) : Bool :=
  (trimStartChars line).head? = some '#'

/-- The lines of a text, those joined that quotation marks hold together; `none` stands for an end
of the text that leaves something open. -/
def logicalLines (state : LineState) (before : List Char) :
    List (List Char) → List (Option (List Char))
  | [] => if state = .complete then [] else [none]
  | line :: lines =>
    if isComment (before ++ line) then logicalLines .complete [] lines
    else match scan state line with
      | (kept, none) => some (before ++ kept) :: logicalLines .complete [] lines
      | (kept, some .complete) => some (before ++ kept) :: logicalLines .complete [] lines
      | (kept, some state) => logicalLines state (before ++ kept) lines

/-! ## Values -/

/-- Where a reader of a value stands.  A flag says whether it is between quotation marks. -/
inductive ValueState where
  | plain
  | strong
  | weak
  | escape (inQuotes : Bool)
  /-- In the name of a variable, its characters backwards. -/
  | name (inQuotes : Bool) (read : List Char)
  /-- In the name of a variable in braces, its characters backwards. -/
  | braced (inQuotes : Bool) (read : List Char)
  /-- After a blank outside of quotation marks: only blanks and a comment may follow. -/
  | ended
  deriving DecidableEq, Repr

namespace ValueState

/-- The state outside of names and escapes. -/
def text (inQuotes : Bool) : ValueState :=
  if inQuotes then .weak else .plain

/-- The state after a character outside of names and escapes, and what the character writes. -/
def atText (inQuotes : Bool) (c : Char) : ValueState × List Char :=
  if c = '$' then (.name inQuotes [], [])
  else if c = '\\' then (.escape inQuotes, [])
  else if inQuotes then (if c = '"' then .plain else .weak, if c = '"' then [] else [c])
  else if c = '\x27' then (.strong, [])
  else if c = '"' then (.weak, [])
  else if c = ' ' ∨ c = '\t' then (.ended, [])
  else (.plain, [c])

end ValueState

/-- The character that is meant by one after a backslash. -/
def escaped? (c : Char) : Option Char :=
  if c = 'n' then some '\n'
  else if c ∈ ['\\', '\x27', '"', '$', ' '] then some c
  else none

/-- The value of a variable whose name was read backwards. -/
def substituted (lookup : String → String) (read : List Char) : List Char :=
  (lookup (String.ofList read.reverse)).toList

/-- The value that characters write from a state on. -/
def value? (lookup : String → String) : ValueState → List Char → Option (List Char)
  | .strong, [] | .weak, [] | .escape true, [] | .name true _, [] | .braced _ _, [] => none
  | .name false read, [] => some (substituted lookup read)
  | .plain, [] | .ended, [] | .escape false, [] => some []
  | .ended, c :: rest =>
    if c = ' ' ∨ c = '\t' then value? lookup .ended rest
    else if c = '#' then some []
    else none
  | .escape inQuotes, c :: rest => do
    some ((← escaped? c) :: (← value? lookup (.text inQuotes) rest))
  | .strong, c :: rest =>
    if c = '\x27' then value? lookup .plain rest
    else (value? lookup .strong rest).map (c :: ·)
  | .name inQuotes read, c :: rest =>
    if c.isAlphanum then value? lookup (.name inQuotes (c :: read)) rest
    else if c = '\x7b' ∧ read.isEmpty then value? lookup (.braced inQuotes []) rest
    else if c = '$' then
      (value? lookup (.name inQuotes []) rest).map (substituted lookup read ++ ·)
    else
      (value? lookup (.text inQuotes) rest).map (substituted lookup read ++ c :: ·)
  | .braced inQuotes read, c :: rest =>
    if c = '\x7d' then
      (value? lookup (.text inQuotes) rest).map (substituted lookup read ++ ·)
    else value? lookup (.braced inQuotes (c :: read)) rest
  | .plain, c :: rest =>
    let (state, kept) := ValueState.atText false c
    (value? lookup state rest).map (kept ++ ·)
  | .weak, c :: rest =>
    let (state, kept) := ValueState.atText true c
    (value? lookup state rest).map (kept ++ ·)

/-! ## Assignments -/

/-- What a line says. -/
inductive Line where
  | nothing
  | assignment (name value : String)
  deriving DecidableEq, Repr

/-- Whether a name may go on with a character. -/
def isNameChar (c : Char) : Bool :=
  c.isAlphanum || c == '_' || c == '.'

/-- A name, and what follows it and the blanks after it. -/
def name? (cs : List Char) : Option (String × List Char) :=
  match cs with
  | c :: _ =>
    if c.isAlpha || c == '_' then
      some (String.ofList (cs.takeWhile isNameChar), trimStartChars (cs.dropWhile isNameChar))
    else none
  | [] => none

/-- A name before a sign of equality, and what follows it. -/
def nameBefore? (cs : List Char) : Option (String × List Char) := do
  match ← name? cs with
  | (name, '=' :: rest) => some (name, rest)
  | ("export", rest) =>
    match ← name? rest with
    | (name, '=' :: rest) => some (name, rest)
    | _ => none
  | _ => none

/-- What a line says; `none` if it cannot be read. -/
def line? (lookup : String → String) (line : List Char) : Option Line := do
  let line := trimChars line
  if line.isEmpty ∨ isComment line then some .nothing
  else
    let (name, rest) ← nameBefore? line
    let rest := trimStartChars rest
    if isComment rest then some (.assignment name "")
    else some (.assignment name (String.ofList (← value? lookup .plain rest)))

/-- Carry out lines; `given` holds the values given so far, the last one first. -/
def perform (vars : Variables) (given : List (String × String)) :
    List (Option (List Char)) → Variables
  | [] | none :: _ => vars
  | some line :: lines =>
    match line? (fun name => ((vars.get? name).or (given.lookup name)).getD "") line with
    | none => vars
    | some .nothing => perform vars given lines
    | some (.assignment name value) =>
      perform (vars.setDefault name value) ((name, value) :: given) lines

/-- A text without the mark that may stand before it to tell its encoding. -/
def withoutMark : List Char → List Char
  | '\ufeff' :: rest => rest
  | cs => cs

end Assignments

/-- Give the values of a file to the variables that have none. -/
def Variables.load (vars : Variables) (text : String) : Variables :=
  let lines := Assignments.rawLines (Assignments.withoutMark text.toList)
  Assignments.perform vars [] (Assignments.logicalLines .complete [] lines)

end AccountAuthority
