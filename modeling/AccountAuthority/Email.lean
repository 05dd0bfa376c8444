import AccountAuthority.Net.DomainName
import AccountAuthority.Net.IpAddress
import AccountAuthority.Text.Blank
import AccountAuthority.Text.Casing
import AccountAuthority.Uuid

/-!
# Email addresses

Addresses are stored and compared in a normal form.  An address that may be registered has a
plain local part, and behind the last `@` a domain name, an internet address in brackets, or an
international name that stands for one of these.
-/

namespace AccountAuthority.Email

/-- The form in which addresses are stored and looked up: no blanks at the ends, lowercase. -/
def normalize (address : String) : String :=
  Text.lowercase (Text.trim address)

/-- The address that takes the place of a deleted user's: it names the user and reaches no one. -/
def tombstone (user : Uuid) : String :=
  "deleted+" ++ toString user ++ "@example.invalid"

def isLocalChar (c : Char) : Bool :=
  DomainName.isLetterOrDigit c ||
    ['.', '!', '#', '$', '%', '&', '\'', '*', '+', '/', '=', '?', '^', '_', '\x60', '\x7b', '|',
      '\x7d', '~', '-'].contains c

/-- The characters inside of the brackets of a literal address. -/
def isLiteralChar (c : Char) : Bool :=
  ('A' ≤ c && c ≤ 'z') || c.isDigit || c == ':' || c == '.' || c == 'ſ' || c == 'K'

/-- What the first brackets that reach to the end hold. -/
def literal? : List Char → Option (List Char)
  | [] => none
  | c :: rest =>
    let inner := rest.dropLast
    if c = '[' ∧ rest.getLast? = some ']' ∧ ¬inner.isEmpty ∧ inner.all isLiteralChar then
      some inner
    else literal? rest

/-- Whether mail can be sent to a domain: a domain name or a literal address. -/
def isDomain (domain : List Char) : Bool :=
  DomainName.isName domain ||
    match literal? domain with
    | some inner => (IpAddress.parse? (String.ofList inner)).isSome
    | none => false

/-- Whether a normalized address may be registered. -/
def isValid (address : String) : Bool :=
  match Text.splitLast? '@' address.toList with
  | none => false
  | some (user, domain) =>
    !user.isEmpty && user.length ≤ 64 && domain.length ≤ 255 && user.all isLocalChar &&
      (isDomain domain ||
        match DomainName.toAscii? domain with
        | some ascii => isDomain ascii
        | none => false)

end AccountAuthority.Email
