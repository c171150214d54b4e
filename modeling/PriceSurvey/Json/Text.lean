import PriceSurvey.Json.Value
import PriceSurvey.Decimal.Integer

/-!
# JSON text

`Json.write` gives compact text: characters stand for themselves, except the quotation mark, the
backslash, controls and the three line separators U+0085, U+2028 and U+2029. `Json.read` takes
one value with blanks around it.
-/
namespace PriceSurvey.Json

/-! ## Writing -/

/-- The code point of a character in four hexadecimal digits behind a backslash. -/
def escapeCode (c : Char) : String :=
  let digits := Nat.toDigits 16 c.toNat
  "\\u" ++ String.ofList (List.replicate (4 - digits.length) '0' ++ digits)

def escapeChar (c : Char) : String :=
  if c = '"' then "\\\""
  else if c = '\\' then "\\\\"
  else if c = '\n' then "\\n"
  else if c = '\r' then "\\r"
  else if c = '\t' then "\\t"
  else if c.toNat < 0x20 ∨ c = '\u0085' ∨ c = '\u2028' ∨ c = '\u2029' then escapeCode c
  else c.toString

def writeString (s : String) : String := "\"" ++ String.join (s.toList.map escapeChar) ++ "\""

/-- A number as JSON text. A float has a point or an exponent; one that is not finite has no JSON
form but null. -/
def Number.write : Number → String
  | .integer n => toString n
  | .float x =>
    match x with
    | .finite .. => String.ofList x.writeCompact
    | _ => "null"

mutual

def write : Json → String
  | .null => "null"
  | .bool true => "true"
  | .bool false => "false"
  | .number n => n.write
  | .string s => writeString s
  | .array items => "[" ++ ",".intercalate (writeItems items) ++ "]"
  | .object fields => "\x7b" ++ ",".intercalate (writeFields fields) ++ "\x7d"

def writeItems : List Json → List String
  | [] => []
  | v :: rest => write v :: writeItems rest

def writeFields : List (String × Json) → List String
  | [] => []
  | (name, v) :: rest => (writeString name ++ ":" ++ write v) :: writeFields rest

end

/-! ## Reading -/

/-- The text behind the blanks at its front. -/
def skipBlanks (cs : List Char) : List Char :=
  cs.dropWhile fun c => c = ' ' ∨ c = '\t' ∨ c = '\n' ∨ c = '\r'

def hexCode? (a b c d : Char) : Option Nat := do
  let digits ← [a, b, c, d].mapM Integer.hexDigit?
  return digits.foldl (fun n d => 16 * n + d) 0

/-- The character behind a backslash that stands for one other character. -/
def escaped? (c : Char) : Option Char :=
  match c with
  | '"' | '\\' | '/' => some c
  | 'b' => some '\x08'
  | 'f' => some '\x0c'
  | 'n' => some '\n'
  | 'r' => some '\r'
  | 't' => some '\t'
  | _ => none

/-- The rest of a string and what follows it; `done` holds the characters read, last first. A code
point beyond U+FFFF is written as two surrogates. -/
def readString (done : List Char) : List Char → Option (String × List Char)
  | [] => none
  | '"' :: rest => some (String.ofList done.reverse, rest)
  | '\\' :: 'u' :: a :: b :: c :: d :: '\\' :: 'u' :: e :: f :: g :: h :: rest =>
    match hexCode? a b c d, hexCode? e f g h with
    | some high, low? =>
      if 0xD800 ≤ high ∧ high < 0xDC00 then
        match low? with
        | some low =>
          if 0xDC00 ≤ low ∧ low < 0xE000 then
            readString (Char.ofNat (0x10000 + (high - 0xD800) * 0x400 + (low - 0xDC00)) :: done) rest
          else none
        | none => none
      else if 0xDC00 ≤ high ∧ high < 0xE000 then none
      else readString (Char.ofNat high :: done) ('\\' :: 'u' :: e :: f :: g :: h :: rest)
    | none, _ => none
  | '\\' :: 'u' :: a :: b :: c :: d :: rest =>
    match hexCode? a b c d with
    | some n => if 0xD800 ≤ n ∧ n < 0xE000 then none else readString (Char.ofNat n :: done) rest
    | none => none
  | '\\' :: c :: rest =>
    match escaped? c with
    | some d => readString (d :: done) rest
    | none => none
  | c :: rest => if c.toNat < 0x20 then none else readString (c :: done) rest

def splitDigits (cs : List Char) : List Char × List Char :=
  (cs.takeWhile fun c => (Integer.digit? c).isSome, cs.dropWhile fun c => (Integer.digit? c).isSome)

/-- The number with the given parts; none if it is beyond the range of floats. -/
def numberOf (negative : Bool) (whole places : List Char) (exponent : Option Int) :
    Option Number :=
  let n := Integer.ofDigits whole
  let float :=
    match Binary.ofDigits negative (Integer.ofDigits (whole ++ places))
        (exponent.getD 0 - places.length) with
    | .finite s m e => some (.float (.finite s m e))
    | _ => none
  if places.isEmpty && exponent.isNone then
    if negative then
      if n ≠ 0 ∧ n ≤ 0x8000000000000000 then some (.integer (-n)) else float
    else if n ≤ Integer.maxUnsigned then some (.integer n) else float
  else float

def readExponent : List Char → Option (Option Int × List Char)
  | c :: rest =>
    if c = 'e' ∨ c = 'E' then
      let (below, rest) := Integer.takeSign rest
      let (digits, rest) := splitDigits rest
      if digits.isEmpty then none
      else some (some (Integer.signed below (Integer.ofDigits digits)), rest)
    else some (none, c :: rest)
  | [] => some (none, [])

def readPlaces : List Char → Option (List Char × List Char)
  | '.' :: rest =>
    let (places, rest) := splitDigits rest
    if places.isEmpty then none else some (places, rest)
  | cs => some ([], cs)

def readNumber (negative : Bool) (cs : List Char) : Option (Json × List Char) := do
  let (whole, rest) := splitDigits cs
  if whole.isEmpty || (decide (1 < whole.length) && whole.head? == some '0') then none
  else
    let (places, rest) ← readPlaces rest
    let (exponent, rest) ← readExponent rest
    return (.number (← numberOf negative whole places exponent), rest)

/-- The rest of a text behind a word that it starts with. -/
def afterWord? : List Char → List Char → Option (List Char)
  | [], cs => some cs
  | _ :: _, [] => none
  | w :: word, c :: cs => if w = c then afterWord? word cs else none

mutual

/-- A value at the front of a text, and what follows it. The fuel bounds the values read; the length
of the text is enough of it. -/
def readValue : Nat → List Char → Option (Json × List Char)
  | 0, _ => none
  | fuel + 1, cs =>
    match skipBlanks cs with
    | '"' :: rest => (readString [] rest).map fun (s, rest) => (.string s, rest)
    | '[' :: rest =>
      match skipBlanks rest with
      | ']' :: rest => some (.array [], rest)
      | rest => (readItems fuel rest).map fun (items, rest) => (.array items, rest)
    | '\x7b' :: rest =>
      match skipBlanks rest with
      | '\x7d' :: rest => some (.object [], rest)
      | rest => (readFields fuel rest).map fun (fields, rest) => (.object fields, rest)
    | '-' :: rest => readNumber true rest
    | 'n' :: rest => (afterWord? ['u', 'l', 'l'] rest).map fun rest => (.null, rest)
    | 't' :: rest => (afterWord? ['r', 'u', 'e'] rest).map fun rest => (.bool true, rest)
    | 'f' :: rest => (afterWord? ['a', 'l', 's', 'e'] rest).map fun rest => (.bool false, rest)
    | rest => readNumber false rest

def readItems : Nat → List Char → Option (List Json × List Char)
  | 0, _ => none
  | fuel + 1, cs => do
    let (v, rest) ← readValue fuel cs
    match skipBlanks rest with
    | ',' :: rest =>
      let (items, rest) ← readItems fuel rest
      return (v :: items, rest)
    | ']' :: rest => return ([v], rest)
    | _ => none

def readFields : Nat → List Char → Option (List (String × Json) × List Char)
  | 0, _ => none
  | fuel + 1, cs => do
    match skipBlanks cs with
    | '"' :: rest =>
      let (name, rest) ← readString [] rest
      match skipBlanks rest with
      | ':' :: rest =>
        let (v, rest) ← readValue fuel rest
        match skipBlanks rest with
        | ',' :: rest =>
          let (fields, rest) ← readFields fuel rest
          return (addField name v fields, rest)
        | '\x7d' :: rest => return ([(name, v)], rest)
        | _ => none
      | _ => none
    | _ => none

end

/-- The value that a whole text stands for. -/
def read (s : String) : Option Json :=
  match readValue (s.length + 1) s.toList with
  | some (v, rest) => if (skipBlanks rest).isEmpty then some v else none
  | none => none

end PriceSurvey.Json
