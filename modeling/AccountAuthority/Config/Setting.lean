import AccountAuthority.Config.FileFormat
import AccountAuthority.Config.Integer
import AccountAuthority.Config.Variables
import AccountAuthority.Json.Quoted
import AccountAuthority.Net.IpAddress
import AccountAuthority.Text.Casing

/-!
# Settings

A setting is a named value together with where it comes from, so that a message can say where to
look.  Settings come out of a configuration file and, on top of it, out of variables whose names
start with `APP__`.  Names count in lowercase, and a dot or, in the name of a variable, `__` leads
into a group.
-/

namespace AccountAuthority

/-- Why settings cannot be used. -/
inductive SettingError where
  /-- A value of another type than is expected, in words. -/
  | wrongType (found expected : String) (key origin : Option String)
  | notAnAddress
  | malformed (format : FileFormat)
  /-- An error in a file. -/
  | inFile (e : SettingError) (file : String)
  deriving DecidableEq, Repr

namespace SettingError

def message : SettingError → String
  | wrongType found expected key origin =>
    "invalid type: " ++ found ++ ", expected " ++ expected ++
      (key.elim "" fun k => " for key \x60" ++ k ++ "\x60") ++ origin.elim "" (" in " ++ ·)
  | notAnAddress => "invalid IP address syntax"
  | malformed format => "malformed " ++ format.name
  | inFile e file => e.message ++ " in " ++ file

end SettingError

/-- A value with a name and where it comes from. -/
structure Setting where
  name : String
  value : Json
  /-- Groups come from nowhere, since several places may add to them. -/
  origin : Option String
  deriving Repr

namespace Setting

/-- What a message calls a value. -/
def described : Json → String
  | .null => "unit value"
  | .int n => "64-bit integer \x60" ++ toString n ++ "\x60"
  | j => j.described

variable (s : Setting)

def wrongType (expected : String) : SettingError :=
  .wrongType (described s.value) expected (some s.name) s.origin

/-- The whole number nearest to a decimal one, as 64 bits hold it. -/
def rounded (mantissa exponent : Int) : Nat :=
  if mantissa ≤ 0 then 0
  else (Float.ofScientific mantissa.natAbs (exponent < 0) exponent.natAbs).round.toUInt64.toNat

/-- The number that a text stands for, truth values included. -/
def textNumber? (text : String) : Option Nat :=
  let word := Text.lowercase text
  if word ∈ ["true", "on", "yes"] then some 1
  else if word ∈ ["false", "off", "no"] then some 0
  else (IntegerRange.unsigned64.read text).toOption.map Int.toNat

/-- The setting as a number of 64 bits. -/
def toNat : Except SettingError Nat :=
  match s.value with
  | .bool b => .ok b.toNat
  | .int n =>
    if 0 ≤ n ∧ n ≤ IntegerRange.signed64.hi then .ok n.toNat
    else if IntegerRange.signed64.contains n then
      .error (s.wrongType "an unsigned 64 bit or less integer")
    else .ok (rounded n 0)
  | .decimal m e => .ok (rounded m e)
  | .str text =>
    match textNumber? text with
    | some n => .ok n
    | none => .error (s.wrongType "an integer")
  | _ => .error (s.wrongType "an integer")

def toUInt16 : Except SettingError UInt16 := do
  let n ← s.toNat
  if n < UInt16.size then .ok n.toUInt16
  else
    .error (.wrongType ("64-bit unsigned integer \x60" ++ toString n ++ "\x60")
      "an unsigned 16 bit integer" (some s.name) none)

def toAddress : Except SettingError IpAddress :=
  match s.value with
  | .str text => (IpAddress.parse? text).elim (.error .notAnAddress) .ok
  | .bool _ | .int _ | .decimal _ _ => .error .notAnAddress
  | _ => .error (s.wrongType "a string")

end Setting

/-- Settings with distinct names. -/
structure Settings where
  entries : List Setting

namespace Settings

def get? (s : Settings) (name : String) : Option Setting :=
  s.entries.find? (·.name == name)

/-- Put in a setting in place of the one with its name. -/
def insert (s : Settings) (entry : Setting) : Settings :=
  ⟨s.entries.filter (·.name != entry.name) ++ [entry]⟩

/-- Whether a character may stand in a part of a name with dots. -/
def isPartChar (c : Char) : Bool :=
  c.isAlphanum || c == '_' || c == '-' || c == ' '

/-- The parts of a name with dots; a name with other characters is a single part. -/
def partsOf (name : String) : List String :=
  let parts := Text.splitOn '.' name.toList
  if parts.all fun part => !part.isEmpty && part.all isPartChar then parts.map String.ofList
  else [name]

/-- Set a value under a name in any case. -/
def set (s : Settings) (origin name : String) (value : Json) : Settings :=
  match partsOf (Text.lowercase name) with
  | [] => s
  | [name] =>
    match value with
    | .obj _ => s.insert ⟨name, value, none⟩
    | _ => s.insert ⟨name, value, some origin⟩
  | name :: path =>
    let group := Json.updateAt (fun _ => value) path ((s.get? name).map (·.value))
    s.insert ⟨name, .obj (Json.lastFields (some group)), none⟩

/-- The name under which messages speak of variables. -/
def variablesName : String := "the environment"

/-- What the names of variables with settings start with, in lowercase. -/
def variableStart : String := "app__"

def addVariables (s : Settings) (vars : Variables) : Settings :=
  vars.entries.foldl (fun s (name, text) =>
    let name := Text.lowercase name
    if name.startsWith variableStart then
      s.set variablesName (((name.drop variableStart.length).toString).replace "__" ".") (.str text)
    else s) s

def addFile (s : Settings) (format : FileFormat) (file text : String) :
    Except SettingError Settings :=
  match format.read? text with
  | none => .error (.inFile (.malformed format) file)
  | some (.obj fields) => .ok (fields.foldl (fun s (name, value) => s.set file name value) s)
  | some other =>
    .error (.inFile (.wrongType (Setting.described other) "a map" none (some file)) file)

end Settings

end AccountAuthority
