import AccountAuthority.Crypto.Argon2
import AccountAuthority.Crypto.Base64
import AccountAuthority.Json.Parser
import AccountAuthority.Text.Split

/-!
# Password hashes as text

A hash is stored with all that is needed to check it:
`$algorithm$v=version$m=...,t=...,p=...$salt$hash`.  The version and the parameters may be left
out, and parameters may come in any order.
-/

namespace AccountAuthority

/-- A stored hash, taken apart. -/
structure HashText where
  algorithm : List Char
  version : Option Nat
  parameters : List (List Char × List Char)
  salt : Option (List Char)
  hash : Option Bytes

namespace HashText

/-- A name: up to 32 lowercase letters, digits and hyphens. -/
def name? (cs : List Char) : Option (List Char) :=
  if ¬cs.isEmpty ∧ cs.length ≤ 32 ∧ cs.all fun c => c.isLower || c.isDigit || c == '-' then some cs
  else none

def isValueChar (c : Char) : Bool :=
  c.isAlphanum || c == '/' || c == '+' || c == '.' || c == '-'

/-- A value: up to 64 characters. -/
def value? (cs : List Char) : Option (List Char) :=
  if cs.length ≤ 64 ∧ cs.all isValueChar then some cs else none

/-- A decimal number of 32 bits without leading zeros. -/
def decimal? (cs : List Char) : Option Nat :=
  if cs.isEmpty ∨ 10 < cs.length ∨ ¬cs.all Char.isDigit ∨ (cs.head? = some '0' ∧ cs.length ≠ 1) then
    none
  else
    let n := Json.digitsValue cs
    if n < UInt32.size then some n else none

/-- A parameter: a name and a value. -/
def parameter? (cs : List Char) : Option (List Char × List Char) :=
  match Text.splitOn '=' cs with
  | [name, value] => do some (← name? name, ← value? value)
  | _ => none

/-- A list of parameters, of up to 127 bytes. -/
def parameters? (cs : List Char) : Option (List (List Char × List Char)) :=
  if (String.ofList cs).utf8ByteSize ≤ 127 then (Text.splitOn ',' cs).mapM parameter? else none

/-- The version in a field, if it is one. -/
def version? (field : List Char) : Option (Option Nat) :=
  match field with
  | 'v' :: '=' :: rest =>
    if rest.contains ',' then some none else do some (some (← decimal? (← value? rest)))
  | _ => some none

/-- A salt: 4 to 64 characters. -/
def salt? (cs : List Char) : Option (List Char) :=
  if 4 ≤ cs.length then value? cs else none

/-- A hash: 10 to 64 bytes. -/
def hash? (cs : List Char) : Option Bytes := do
  let bs ← Base64.unpadded.decodeChars? cs
  if 10 ≤ bs.length ∧ bs.length ≤ 64 then some bs else none

/-- The salt and the hash in the last fields. -/
def finish? (algorithm : List Char) (version : Option Nat)
    (parameters : List (List Char × List Char)) : List (List Char) → Option HashText
  | [] => some ⟨algorithm, version, parameters, none, none⟩
  | [salt] => do some ⟨algorithm, version, parameters, some (← salt? salt), none⟩
  | [salt, hash] => do
    some ⟨algorithm, version, parameters, some (← salt? salt), some (← hash? hash)⟩
  | _ => none

/-- The parameters, if there are any, and what follows. -/
def afterVersion? (algorithm : List Char) (version : Option Nat) :
    List (List Char) → Option HashText
  | field :: rest => do
    if field.contains '=' then finish? algorithm version (← parameters? field) rest
    else finish? algorithm version [] (field :: rest)
  | [] => finish? algorithm version [] []

def parse? (s : String) : Option HashText :=
  match Text.splitOn '$' s.toList with
  | [] :: algorithm :: fields => do
    let algorithm ← name? algorithm
    match fields with
    | field :: rest =>
      match ← version? field with
      | some v => afterVersion? algorithm (some v) rest
      | none => afterVersion? algorithm none (field :: rest)
    | [] => afterVersion? algorithm none []
  | _ => none

/-- The cost when a stored hash does not say. -/
def defaultCost : Argon2.Cost := ⟨19456, 2, 1⟩

/-- Take a parameter into account. -/
def withParameter? (acc : Argon2.Cost × Bytes) (p : List Char × List Char) :
    Option (Argon2.Cost × Bytes) := do
  match String.ofList p.1 with
  | "m" => some ({ acc.1 with memoryKib := ← decimal? p.2 }, acc.2)
  | "t" => some ({ acc.1 with iterations := ← decimal? p.2 }, acc.2)
  | "p" => some ({ acc.1 with parallelism := ← decimal? p.2 }, acc.2)
  | "data" =>
    let data ← Base64.unpadded.decodeChars? p.2
    if data.length ≤ 32 then some (acc.1, data) else none
  | "keyid" =>
    let keyId ← Base64.unpadded.decodeChars? p.2
    if keyId.length ≤ 8 then some acc else none
  | _ => none

/-- What has to be hashed to check a password against a stored hash. -/
def input? (h : HashText) (password : String) : Option (Argon2.Input × Bytes) := do
  let expected ← h.hash
  let kind ← [Argon2.Kind.dependent, .independent, .mixed].find? fun k =>
    k.name.toList = h.algorithm
  let version ← match h.version with
    | none | some 19 => some 19
    | some 16 => some 16
    | _ => none
  let (cost, data) ← h.parameters.foldlM withParameter? (defaultCost, [])
  let salt ← Base64.unpadded.decodeChars? (← h.salt)
  if 8 ≤ salt.length ∧ cost.check.isOk then
    some ({ kind, version, cost, password := Bytes.ofString password, salt, data,
            length := expected.length }, expected)
  else none

/-- The text before the salt for a hash of the mixed type. -/
def front (cost : Argon2.Cost) : String :=
  s!"$argon2id$v=19$m={cost.memoryKib},t={cost.iterations},p={cost.parallelism}"

end HashText

end AccountAuthority
