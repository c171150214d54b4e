import PriceSurvey.Settings.Date
import PriceSurvey.Settings.Value

/-!
# Settings files

A reader for TOML files. A key is given once: a table that a header or dotted keys made is not made
again, and an inline table is complete as it stands. Nesting has a limit: a file that goes deeper
than `maxDepth`, in values or in the parts of a key, is malformed. A date is taken as a text.
-/
namespace PriceSurvey.Settings.Toml

/-! ## Blanks, comments and ends of lines -/

def skipBlanks (cs : List Char) : List Char := cs.dropWhile fun c => c = ' ' ∨ c = '\t'

/-- A control character that no file may hold within a line. -/
def isControl (c : Char) : Bool := (decide (c.toNat < 0x20) && c ≠ '\t') || c = '\x7f'

/-- Behind the end of the line that a comment goes on to. -/
def skipComment : List Char → Option (List Char)
  | [] => some []
  | '\n' :: rest => some rest
  | '\r' :: '\n' :: rest => some rest
  | c :: rest => if isControl c then none else skipComment rest

/-- Behind the end of a line on which only blanks and a comment are left. -/
def endLine (cs : List Char) : Option (List Char) :=
  match skipBlanks cs with
  | [] => some []
  | '\n' :: rest => some rest
  | '\r' :: '\n' :: rest => some rest
  | '#' :: rest => skipComment rest
  | _ => none

def skipLines : Nat → List Char → Option (List Char)
  | 0, cs => some cs
  | fuel + 1, cs =>
    match skipBlanks cs with
    | [] => some []
    | c :: rest =>
      if c = '\n' ∨ c = '\r' ∨ c = '#' then (endLine (c :: rest)).bind (skipLines fuel)
      else some (c :: rest)

/-! ## Texts -/

def digitsValue? (base : Nat) (cs : List Char) : Option Nat :=
  cs.foldlM (fun n c => do
    let d ← Integer.hexDigit? c
    if d < base then some (base * n + d) else none) 0

def codePoint? (digits : List Char) : Option Char := do
  let n ← digitsValue? 16 digits
  if n < 0xD800 ∨ (0xE000 ≤ n ∧ n < 0x110000) then some (Char.ofNat n) else none

def escaped? : Char → Option Char
  | 'b' => some '\x08'
  | 't' => some '\t'
  | 'n' => some '\n'
  | 'f' => some '\x0c'
  | 'r' => some '\r'
  | '"' => some '"'
  | '\\' => some '\\'
  | _ => none

/-- An escape behind its backslash: the character and the rest. -/
def readEscape (cs : List Char) : Option (Char × List Char) :=
  match cs with
  | 'u' :: rest =>
    if (rest.take 4).length = 4 then (codePoint? (rest.take 4)).map fun c => (c, rest.drop 4)
    else none
  | 'U' :: rest =>
    if (rest.take 8).length = 8 then (codePoint? (rest.take 8)).map fun c => (c, rest.drop 8)
    else none
  | c :: rest => (escaped? c).map fun d => (d, rest)
  | [] => none

/-- Behind the blanks and ends of lines at the front. -/
def skipSpace : List Char → List Char
  | '\r' :: '\n' :: rest => skipSpace rest
  | c :: rest => if c = ' ' ∨ c = '\t' ∨ c = '\n' then skipSpace rest else c :: rest
  | [] => []

/-- Behind a backslash at the end of a line: the blanks and ends of lines that follow are left
out. -/
def foldLine? (cs : List Char) : Option (List Char) :=
  match skipBlanks cs with
  | '\n' :: rest | '\r' :: '\n' :: rest => some (skipSpace rest)
  | _ => none

/-- The rest of a text in quotation marks on one line; `done` holds what was read, last first. -/
def readQuoted : Nat → List Char → List Char → Option (String × List Char)
  | 0, _, _ => none
  | fuel + 1, done, cs =>
    match cs with
    | '"' :: rest => some (String.ofList done.reverse, rest)
    | '\\' :: rest => (readEscape rest).bind fun (c, rest) => readQuoted fuel (c :: done) rest
    | c :: rest => if isControl c then none else readQuoted fuel (c :: done) rest
    | [] => none

/-- The rest of a text in apostrophes on one line: nothing is escaped. -/
def readLiteral (done : List Char) : List Char → Option (String × List Char)
  | [] => none
  | '\'' :: rest => some (String.ofList done.reverse, rest)
  | c :: rest => if isControl c then none else readLiteral (c :: done) rest

/-- At the end of a text of several lines: three marks, and up to two more before them that belong
to the text. -/
def closeLong? (mark : Char) (cs : List Char) : Option (List Char × List Char) :=
  let marks := cs.takeWhile (· = mark)
  if marks.length < 3 then none
  else
    let kept := min (marks.length - 3) 2
    some (List.replicate kept mark, cs.drop (kept + 3))

/-- The rest of a text of several lines. -/
def readLong (mark : Char) : Nat → List Char → List Char → Option (String × List Char)
  | 0, _, _ => none
  | fuel + 1, done, cs =>
    match closeLong? mark cs with
    | some (kept, rest) => some (String.ofList (done.reverse ++ kept), rest)
    | none =>
      match cs with
      | [] => none
      | '\r' :: '\n' :: rest => readLong mark fuel ('\n' :: done) rest
      | '\n' :: rest => readLong mark fuel ('\n' :: done) rest
      | '\\' :: rest =>
        if mark = '"' then
          match foldLine? rest with
          | some rest => readLong mark fuel done rest
          | none => (readEscape rest).bind fun (c, rest) => readLong mark fuel (c :: done) rest
        else readLong mark fuel ('\\' :: done) rest
      | c :: rest => if isControl c then none else readLong mark fuel (c :: done) rest

def readText (cs : List Char) : Option (String × List Char) :=
  match cs with
  | '"' :: '"' :: '"' :: '\n' :: rest | '"' :: '"' :: '"' :: '\r' :: '\n' :: rest =>
    readLong '"' (rest.length + 1) [] rest
  | '"' :: '"' :: '"' :: rest => readLong '"' (rest.length + 1) [] rest
  | '\'' :: '\'' :: '\'' :: '\n' :: rest | '\'' :: '\'' :: '\'' :: '\r' :: '\n' :: rest =>
    readLong '\'' (rest.length + 1) [] rest
  | '\'' :: '\'' :: '\'' :: rest => readLong '\'' (rest.length + 1) [] rest
  | '"' :: rest => readQuoted (rest.length + 1) [] rest
  | '\'' :: rest => readLiteral [] rest
  | _ => none

/-! ## Keys -/

/-- How many values may stand one within the other, and how many parts a key may have. -/
def maxDepth : Nat := 79

/-- Characters that a key without quotation marks is made of. -/
def isBare (c : Char) : Bool := c.isAlphanum || c = '_' || c = '-'

def readPart (cs : List Char) : Option (String × List Char) :=
  match cs with
  | '"' :: rest => readQuoted (rest.length + 1) [] rest
  | '\'' :: rest => readLiteral [] rest
  | _ =>
    if (cs.takeWhile isBare).isEmpty then none
    else some (String.ofList (cs.takeWhile isBare), cs.dropWhile isBare)

/-- A key with at most `limit` parts and points between them. The rest starts behind the blanks that
follow. -/
def readParts : Nat → List Char → Option (List String × List Char)
  | 0, _ => none
  | limit + 1, cs => do
    let (part, rest) ← readPart (skipBlanks cs)
    match skipBlanks rest with
    | '.' :: rest =>
      let (parts, rest) ← readParts limit rest
      return (part :: parts, rest)
    | rest => return ([part], rest)

def readKey (cs : List Char) : Option (List String × List Char) := readParts maxDepth cs

/-! ## Numbers and truth values -/

/-- Digits with single underscores between them, without the underscores. -/
def joinDigits? (isDigit : Char → Bool) (cs : List Char) : Option (List Char) :=
  let joined := cs.filter (· ≠ '_')
  let doubled := (cs.zip (cs.drop 1)).any fun p => p.1 = '_' ∧ p.2 = '_'
  if joined.isEmpty || !joined.all isDigit || doubled || cs.head? == some '_' ||
      cs.getLast? == some '_' then none
  else some joined

/-- Decimal digits with no needless zero in front. -/
def wholeDigits? (cs : List Char) : Option (List Char) := do
  let digits ← joinDigits? isDecimalDigit cs
  if 1 < digits.length ∧ digits.head? = some '0' then none else some digits

def basedValue? (base : Nat) (cs : List Char) : Option Nat :=
  (joinDigits? (fun c => (Integer.hexDigit? c).isSome) cs).bind (digitsValue? base)

def integer? (cs : List Char) : Option Int := do
  let n ← match cs with
    | '0' :: 'x' :: rest => (basedValue? 16 rest).map Int.ofNat
    | '0' :: 'o' :: rest => (basedValue? 8 rest).map Int.ofNat
    | '0' :: 'b' :: rest => (basedValue? 2 rest).map Int.ofNat
    | _ =>
      let (negative, digits) := Integer.takeSign cs
      (wholeDigits? digits).map fun ds => Integer.signed negative (Integer.ofDigits ds)
  if -0x8000000000000000 ≤ n ∧ n < 0x8000000000000000 then some n else none

/-- A float: an integer part with decimals, an exponent or both. What is too great for a float is
refused; what is too small, in its sign, is infinite. -/
def float? (cs : List Char) : Option Binary := do
  let (negative, cs) := Integer.takeSign cs
  if cs = ['i', 'n', 'f'] then return .infinite negative
  if cs = ['n', 'a', 'n'] then return .nan
  let mantissa := cs.takeWhile fun c => c ≠ 'e' ∧ c ≠ 'E'
  let exponent ← match cs.dropWhile fun c => c ≠ 'e' ∧ c ≠ 'E' with
    | [] => some 0
    | _ :: rest =>
      let (below, digits) := Integer.takeSign rest
      (joinDigits? isDecimalDigit digits).map fun ds =>
        Integer.signed below (Integer.ofDigits ds)
  let whole ← wholeDigits? (mantissa.takeWhile (· ≠ '.'))
  let places ← match mantissa.dropWhile (· ≠ '.') with
    | [] => some []
    | _ :: rest => joinDigits? isDecimalDigit rest
  if places.isEmpty ∧ mantissa.length = cs.length then none
  else
    let x := Binary.ofDigits negative (Integer.ofDigits (whole ++ places)) (exponent - places.length)
    if x = .infinite false then none else some x

def isScalarChar (c : Char) : Bool := c.isAlphanum || c = '_' || c = '-' || c = '+' || c = '.'

def scalar? (cs : List Char) : Option Value :=
  if cs = ['t', 'r', 'u', 'e'] then some (.bool true)
  else if cs = ['f', 'a', 'l', 's', 'e'] then some (.bool false)
  else
    match integer? cs with
    | some n => some (.integer n)
    | none => (float? cs).map .float

/-! ## Tables -/

/-- How a table came to be: by a header of its own, by the header of a table within it, or by dotted
keys. -/
inductive Origin where
  | header
  | within
  | dotted
  deriving DecidableEq, Repr

/-- A node of a file that is being read. Of a list of tables the last one is still open. -/
inductive Node where
  | leaf (v : Value)
  | table (origin : Origin) (fields : List (String × Node))
  | tables (closed : List Value) (last : List (String × Node))

mutual

def Node.value : Node → Value
  | .leaf v => v
  | .table _ fields => .table (fieldValues fields)
  | .tables closed last => .list (closed ++ [.table (fieldValues last)])

def fieldValues : List (String × Node) → List (String × Value)
  | [] => []
  | (key, n) :: rest => (key, n.value) :: fieldValues rest

end

/-- Puts a node in the place of the one under a key, or behind all others. -/
def setNode (fields : List (String × Node)) (key : String) (n : Node) : List (String × Node) :=
  if fields.any fun f => f.1 = key then fields.map fun f => if f.1 = key then (key, n) else f
  else fields ++ [(key, n)]

/-- Gives a dotted key its value. The table that the value goes into is one that dotted keys made;
on the way to it there may be tables that headers within them made, and lists of tables. -/
def addPair (v : Value) : List String → List (String × Node) → Option (List (String × Node))
  | [], _ => none
  | [key], fields =>
    if fields.any fun f => f.1 = key then none else some (fields ++ [(key, .leaf v)])
  | key :: rest, fields =>
    match fields.lookup key with
    | none => (addPair v rest []).map fun sub => setNode fields key (.table .dotted sub)
    | some (.table .dotted sub) =>
      (addPair v rest sub).map fun sub => setNode fields key (.table .dotted sub)
    | some (.table .within sub) =>
      if rest.length < 2 then none
      else (addPair v rest sub).map fun sub => setNode fields key (.table .within sub)
    | some (.tables closed last) =>
      if rest.length < 2 then none
      else (addPair v rest last).map fun last => setNode fields key (.tables closed last)
    | some (.table .header _) | some (.leaf _) => none

def openTable : List String → List (String × Node) → Option (List (String × Node))
  | [], _ => none
  | [key], fields =>
    match fields.lookup key with
    | none => some (setNode fields key (.table .header []))
    | some (.table .within sub) => some (setNode fields key (.table .header sub))
    | some _ => none
  | key :: rest, fields =>
    match fields.lookup key with
    | none => (openTable rest []).map fun sub => setNode fields key (.table .within sub)
    | some (.table origin sub) =>
      (openTable rest sub).map fun sub => setNode fields key (.table origin sub)
    | some (.tables closed last) =>
      (openTable rest last).map fun sub => setNode fields key (.tables closed sub)
    | some (.leaf _) => none

def openItem : List String → List (String × Node) → Option (List (String × Node))
  | [], _ => none
  | [key], fields =>
    match fields.lookup key with
    | none => some (setNode fields key (.tables [] []))
    | some (.tables closed last) =>
      some (setNode fields key (.tables (closed ++ [.table (fieldValues last)]) []))
    | some _ => none
  | key :: rest, fields =>
    match fields.lookup key with
    | none => (openItem rest []).map fun sub => setNode fields key (.table .within sub)
    | some (.table origin sub) =>
      (openItem rest sub).map fun sub => setNode fields key (.table origin sub)
    | some (.tables closed last) =>
      (openItem rest last).map fun sub => setNode fields key (.tables closed sub)
    | some (.leaf _) => none

/-- Changes the fields of the table at the end of a path. -/
def inTable (f : List (String × Node) → Option (List (String × Node))) :
    List String → List (String × Node) → Option (List (String × Node))
  | [], fields => f fields
  | key :: rest, fields =>
    match fields.lookup key with
    | some (.table origin sub) =>
      (inTable f rest sub).map fun sub => setNode fields key (.table origin sub)
    | some (.tables closed last) =>
      (inTable f rest last).map fun sub => setNode fields key (.tables closed sub)
    | _ => none

/-! ## Values -/

mutual

/-- A value at the front, with at most `depth` values one within the other. The fuel bounds the values
read; the length of the file is enough. -/
def readValue : Nat → Nat → List Char → Option (Value × List Char)
  | 0, _, _ => none
  | fuel + 1, depth, cs =>
    match cs, depth with
    | '"' :: _, _ | '\'' :: _, _ => (readText cs).map fun (s, rest) => (.text s, rest)
    | '[' :: _, 0 | '\x7b' :: _, 0 => none
    | '[' :: rest, depth + 1 =>
      (readItems fuel depth rest).map fun (items, rest) => (.list items, rest)
    | '\x7b' :: rest, depth + 1 =>
      match skipBlanks rest with
      | '\x7d' :: rest => some (.table [], rest)
      | rest =>
        (readPairs fuel depth [] rest).map fun (fields, rest) => (.table (fieldValues fields), rest)
    | _, _ =>
      match readDate cs with
      | some (date, rest) => some (.text date, rest)
      | none => (scalar? (cs.takeWhile isScalarChar)).map fun v => (v, cs.dropWhile isScalarChar)

def readItems : Nat → Nat → List Char → Option (List Value × List Char)
  | 0, _, _ => none
  | fuel + 1, depth, cs => do
    match ← skipLines cs.length cs with
    | ']' :: rest => return ([], rest)
    | cs =>
      let (v, rest) ← readValue fuel depth cs
      match ← skipLines rest.length rest with
      | ',' :: rest =>
        let (items, rest) ← readItems fuel depth rest
        return (v :: items, rest)
      | ']' :: rest => return ([v], rest)
      | _ => none

def readPairs : Nat → Nat → List (String × Node) → List Char →
    Option (List (String × Node) × List Char)
  | 0, _, _, _ => none
  | fuel + 1, depth, fields, cs => do
    let (key, rest) ← readKey cs
    match rest with
    | '=' :: rest =>
      let (v, rest) ← readValue fuel depth (skipBlanks rest)
      let fields ← addPair v key fields
      match skipBlanks rest with
      | ',' :: rest => readPairs fuel depth fields rest
      | '\x7d' :: rest => return (fields, rest)
      | _ => none
    | _ => none

end

/-! ## Files -/

/-- A file read so far: its fields, and the path of the table that pairs go into. -/
structure File where
  fields : List (String × Node)
  current : List String

/-- Reads what stands on the next line that is not blank. -/
def readLine (file : File) (cs : List Char) : Option (File × List Char) :=
  match cs with
  | '[' :: '[' :: rest => do
    let (path, rest) ← readKey rest
    match rest with
    | ']' :: ']' :: rest =>
      let fields ← openItem path file.fields
      return (⟨fields, path⟩, ← endLine rest)
    | _ => none
  | '[' :: rest => do
    let (path, rest) ← readKey rest
    match rest with
    | ']' :: rest =>
      let fields ← openTable path file.fields
      return (⟨fields, path⟩, ← endLine rest)
    | _ => none
  | _ => do
    let (key, rest) ← readKey cs
    match rest with
    | '=' :: rest =>
      let (v, rest) ← readValue rest.length maxDepth (skipBlanks rest)
      let fields ← inTable (addPair v key) file.current file.fields
      return ({ file with fields }, ← endLine rest)
    | _ => none

def readLines : Nat → File → List Char → Option File
  | 0, _, _ => none
  | fuel + 1, file, cs => do
    match ← skipLines cs.length cs with
    | [] => return file
    | cs =>
      let (file, rest) ← readLine file cs
      readLines fuel file rest

/-- Behind a byte order mark, if one stands at the front. -/
def skipMark : List Char → List Char
  | '\ufeff' :: rest => rest
  | cs => cs

/-- The table that a file stands for, unless it is malformed. A byte order mark may stand in front of
the file, and one more in front of the text in it. -/
def read (file : String) : Option (List (String × Value)) :=
  let cs := skipMark (skipMark file.toList)
  (readLines (cs.length + 1) ⟨[], []⟩ cs).map fun file => fieldValues file.fields

end PriceSurvey.Settings.Toml
