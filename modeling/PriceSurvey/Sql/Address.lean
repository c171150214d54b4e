import PriceSurvey.Decimal.Integer
import PriceSurvey.Text.Quoted

/-!
# Addresses of a database

An address is a scheme, the host with an optional user in front and an optional port behind, a
path, and parameters: `postgres://user@host:5432/name?sslmode=require`. `Address.check` says what
is wrong with one that no connection is tried for.
-/
namespace PriceSurvey.Sql.Address

/-- Why an address is refused. -/
inductive Fault where
  /-- There is no scheme. -/
  | noScheme
  | emptyHost
  | badHost
  /-- The host in brackets is not closed. -/
  | openHost
  | badPort
  /-- The parameter for encryption has a value that is none of the known ones. -/
  | badEncryption (given : String)
  /-- The parameter has to be a number and is none. -/
  | badNumber (cause : IntegerFault)
  deriving DecidableEq, Repr

def Fault.message : Fault → String
  | .noScheme => "relative URL without a base"
  | .emptyHost => "empty host"
  | .badHost => "invalid domain character"
  | .openHost => "invalid IPv6 address"
  | .badPort => "invalid port number"
  | .badEncryption given =>
    "error with configuration: unknown value " ++ Text.quote given ++ " for `ssl_mode`"
  | .badNumber cause => cause.message

/-! ## Host and port -/

/-- Characters of a scheme behind its first letter. -/
def isSchemeChar (c : Char) : Bool := c.isAlphanum || c = '+' || c = '-' || c = '.'

def behindScheme? (cs : List Char) : Option (List Char) :=
  if cs.head?.any Char.isAlpha then
    match cs.dropWhile isSchemeChar with
    | ':' :: rest => some rest
    | _ => none
  else none

/-- Characters that no host may hold. -/
def isHostBreaker (c : Char) : Bool :=
  "\x00 #/:<>?@[\\]^|".toList.contains c

/-- Splits the host from what follows it. A host in brackets may hold colons. -/
def splitHost (cs : List Char) : Except Fault (List Char × List Char) :=
  match cs with
  | '[' :: rest =>
    match rest.dropWhile (· ≠ ']') with
    | _ :: behind =>
      if behind.isEmpty ∨ behind.head? = some ':' then .ok (rest.takeWhile (· ≠ ']'), behind)
      else .error .openHost
    | [] => .error .openHost
  | _ =>
    let host := cs.takeWhile (· ≠ ':')
    if host.any isHostBreaker then .error .badHost else .ok (host, cs.dropWhile (· ≠ ':'))

/-- Checks what follows the host: nothing, or a colon and a port of 16 bits. -/
def checkPort : List Char → Except Fault Unit
  | [] => .ok ()
  | _ :: digits =>
    match Integer.readWithin 65535 .tooLarge 0 digits with
    | .ok _ => .ok ()
    | .error _ => .error .badPort

/-- Checks the part between the slashes and the path. What stands before the last at sign is the
user. -/
def checkAuthority (cs : List Char) : Except Fault Unit := do
  let hasUser := cs.contains '@'
  let (host, behind) ← splitHost (cs.reverse.takeWhile (· ≠ '@')).reverse
  if host.isEmpty && (hasUser || !behind.isEmpty) then .error .emptyHost else checkPort behind

/-! ## Parameters -/

/-- Bytes with every percent sign and two hexadecimal digits as the byte that they stand for, and
every plus sign as a blank. -/
def decodeBytes : List UInt8 → List UInt8
  | [] => []
  | [b] => if b = 0x2B then [0x20] else [b]
  | [b, x] => (if b = 0x2B then 0x20 else b) :: decodeBytes [x]
  | b :: x :: y :: rest =>
    let byte? := do
      let high ← Integer.hexDigit? (Char.ofNat x.toNat)
      let low ← Integer.hexDigit? (Char.ofNat y.toNat)
      if b = 0x25 then some (UInt8.ofNat (16 * high + low)) else none
    match byte? with
    | some byte => byte :: decodeBytes rest
    | none => (if b = 0x2B then 0x20 else b) :: decodeBytes (x :: y :: rest)
termination_by bs => bs.length

def decode (cs : List Char) : String :=
  (String.fromUTF8? ⟨(decodeBytes (String.ofList cs).toUTF8.toList).toArray⟩).getD "\ufffd"

def parameters (query : List Char) : List (String × String) :=
  ((query.splitOn '&').filter fun p => !p.isEmpty).map fun p =>
    (decode (p.takeWhile (· ≠ '=')), decode ((p.dropWhile (· ≠ '=')).drop 1))

def encryptionModes : List String :=
  ["disable", "allow", "prefer", "require", "verify-ca", "verify-full"]

/-- Checks one parameter. Those that are not known are passed over. -/
def checkParameter (name value : String) : Except Fault Unit :=
  if name = "sslmode" ∨ name = "ssl-mode" then
    if encryptionModes.contains (String.ofList (value.toList.map Char.toLower)) then .ok ()
    else .error (.badEncryption value)
  else if name = "statement-cache-capacity" then
    ((Integer.readUnsigned value.toList).mapError .badNumber).map fun _ => ()
  else if name = "port" then
    match value.toList with
    | [] => .error (.badNumber .nothing)
    | ['+'] => .error (.badNumber .badDigit)
    | '+' :: digits | digits =>
      ((Integer.readWithin 65535 .tooLarge 0 digits).mapError .badNumber).map fun _ => ()
  else .ok ()

/-! ## Whole addresses -/

/-- An address without controls and blanks at its ends, and without breaks of lines within. -/
def clean (cs : List Char) : List Char :=
  let isEdge := fun c : Char => c.toNat ≤ 0x20
  let cs := ((cs.dropWhile isEdge).reverse.dropWhile isEdge).reverse
  cs.filter fun c => c ≠ '\t' ∧ c ≠ '\n' ∧ c ≠ '\r'

def check (address : String) : Except Fault Unit := do
  match behindScheme? (clean address.toList) with
  | none => .error .noScheme
  | some rest =>
    let rest := rest.takeWhile (· ≠ '#')
    let body := rest.takeWhile (· ≠ '?')
    let query := (rest.dropWhile (· ≠ '?')).drop 1
    match body with
    | '/' :: '/' :: body => checkAuthority (body.takeWhile (· ≠ '/'))
    | _ => .ok ()
    (parameters query).forM fun p => checkParameter p.1 p.2

end PriceSurvey.Sql.Address
