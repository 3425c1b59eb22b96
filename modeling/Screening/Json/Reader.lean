import Screening.Data
import Screening.Text.Digit
import Screening.Text.Encoding

/-!
# Reading JSON text

`read` turns a JSON document into data and gives the reason when it is none. Besides the standard
it takes `NaN`, `Infinity` and `-Infinity`; numbers with a fraction or an exponent are binary64,
others integers of at most 4300 digits; of a repeated member name the last value counts. The
recursion is bounded by twice the length of the text, of which every two steps take a character.

There may be a limit to how deep lists and maps are nested: `readWithin` breaks off at the first
opening bracket beyond it, whatever comes after that, and `read` goes on to any depth.
-/

namespace Screening.Json

inductive Reason where
  | value
  | extraData
  | comma
  | colon
  | name
  | unterminated
  | escape
  | unicodeEscape
  | control
  | byteOrderMark
  deriving DecidableEq

inductive Bracket where
  | list
  | map
  deriving DecidableEq

inductive Fault where
  | malformed (reason : Reason)
  /-- An integer with more digits than are read. -/
  | oversized (digits : Nat)
  /-- A list or map at a greater depth than is read. -/
  | nested (bracket : Bracket)
  deriving DecidableEq

def Reason.text : Reason → String
  | .value => "Expecting value"
  | .extraData => "Extra data"
  | .comma => "Expecting ',' delimiter"
  | .colon => "Expecting ':' delimiter"
  | .name => "Expecting property name enclosed in double quotes"
  | .unterminated => "Unterminated string starting at"
  | .escape => "Invalid \\escape"
  | .unicodeEscape => "Invalid \\uXXXX escape"
  | .control => "Invalid control character at"
  | .byteOrderMark => "Unexpected UTF-8 BOM (decode using utf-8-sig)"

/-- The message about a text that is nested too deep. -/
def Bracket.nestedMessage (b : Bracket) : String :=
  let kind := match b with
    | list => "array"
    | map => "object"
  "maximum recursion depth exceeded while decoding a JSON " ++ kind ++ " from a unicode string"

/-- Change what was read, not the text that is left after it. -/
def lift {α β : Type} (f : α → β) :
    Except Fault (α × List CodePoint) → Except Fault (β × List CodePoint)
  | .ok (a, rest) => .ok (f a, rest)
  | .error fault => .error fault

def fail {α : Type} (reason : Reason) : Except Fault α :=
  .error (.malformed reason)

def isSpace (p : CodePoint) : Bool :=
  p == ' ' || p == '\t' || p == '\n' || p == '\r'

def skipSpace (ps : List CodePoint) : List CodePoint :=
  ps.dropWhile isSpace

/-! ### Texts -/

def hex4? (a b c d : CodePoint) : Option Nat := do
  let w ← a.char?.bind Text.hexDigit?
  let x ← b.char?.bind Text.hexDigit?
  let y ← c.char?.bind Text.hexDigit?
  let z ← d.char?.bind Text.hexDigit?
  return ((w * 16 + x) * 16 + y) * 16 + z

/-- The character that a backslash and one letter stand for. -/
def escaped? : CodePoint → Option Char
  | '"' => some '"'
  | '\\' => some '\\'
  | '/' => some '/'
  | 'b' => some '\x08'
  | 'f' => some '\x0c'
  | 'n' => some '\n'
  | 'r' => some '\r'
  | 't' => some '\t'
  | _ => none

/-- A piece of a text: a code point, or one half of a surrogate pair by its number. -/
inductive Piece where
  | point (p : CodePoint)
  | unit (n : Nat)

/-- The pieces of a text after its opening quote. An escape by number is only taken for one when
more text follows it. -/
def readPieces : List CodePoint → Except Fault (List Piece × List CodePoint)
  | [] => fail .unterminated
  | '"' :: rest => .ok ([], rest)
  | '\\' :: 'u' :: a :: b :: c :: d :: next :: rest =>
    match hex4? a b c d with
    | some n => lift (.unit n :: ·) (readPieces (next :: rest))
    | none => fail .unicodeEscape
  | '\\' :: 'u' :: _ => fail .unicodeEscape
  | ['\\'] => fail .unterminated
  | '\\' :: p :: rest =>
    match escaped? p with
    | some c => lift (.point c :: ·) (readPieces rest)
    | none => fail .escape
  | p :: rest =>
    if p.value < 0x20 then fail .control else lift (.point p :: ·) (readPieces rest)

/-- Join the two halves of a pair, when both are given by number. -/
def joinPieces : List Piece → List CodePoint
  | .unit high :: .unit low :: rest =>
    if Text.isHighSurrogate high && Text.isLowSurrogate low then
      .ofValue (Text.joinSurrogates high low) :: joinPieces rest
    else .ofValue high :: joinPieces (.unit low :: rest)
  | .unit n :: rest => .ofValue n :: joinPieces rest
  | .point p :: rest => p :: joinPieces rest
  | [] => []

def readText (ps : List CodePoint) : Except Fault (Text × List CodePoint) :=
  lift (fun pieces => ⟨joinPieces pieces⟩) (readPieces ps)

/-! ### Numbers -/

def digitLimit : Nat := 4300

def digit? (p : CodePoint) : Option Nat := p.char?.bind Text.asciiDigit?

def isDigit (p : CodePoint) : Bool := p.isChar Text.isAsciiDigit

def digitsValue (ds : List CodePoint) : Nat :=
  Text.ofDigits (ds.filterMap digit?)

/-- Digits after a point, when at least one is there. -/
def readFraction : List CodePoint → List CodePoint × List CodePoint
  | '.' :: p :: rest =>
    if isDigit p then ((p :: rest).takeWhile isDigit, (p :: rest).dropWhile isDigit)
    else ([], '.' :: p :: rest)
  | ps => ([], ps)

/-- A sign, if there is one, and what follows it. -/
def readSign : List CodePoint → Bool × List CodePoint
  | '-' :: rest => (true, rest)
  | '+' :: rest => (false, rest)
  | ps => (false, ps)

/-- An exponent, when it has at least one digit. -/
def readExponent (ps : List CodePoint) : Option Int × List CodePoint :=
  match ps with
  | e :: rest =>
    if e = 'e' ∨ e = 'E' then
      let (negative, unsigned) := readSign rest
      let ds := unsigned.takeWhile isDigit
      if ds.isEmpty then (none, ps)
      else
        let n : Int := digitsValue ds
        (some (if negative then -n else n), unsigned.dropWhile isDigit)
    else (none, ps)
  | [] => (none, [])

/-- The digits before a point: a zero by itself, or digits that start with no zero. -/
def readWhole : List CodePoint → Option (List CodePoint × List CodePoint)
  | '0' :: rest => some (['0'], rest)
  | p :: rest =>
    if isDigit p then some ((p :: rest).takeWhile isDigit, (p :: rest).dropWhile isDigit)
    else none
  | [] => none

def readNumber (ps : List CodePoint) : Except Fault (Scalar × List CodePoint) :=
  let (negative, unsigned) := match ps with
    | '-' :: rest => (true, rest)
    | ps => (false, ps)
  match readWhole unsigned with
  | none => fail .value
  | some (whole, afterWhole) =>
    let (fraction, afterFraction) := readFraction afterWhole
    let (exponent, rest) := readExponent afterFraction
    if fraction.isEmpty && exponent.isNone then
      if digitLimit < whole.length then .error (.oversized whole.length)
      else
        let n : Int := digitsValue whole
        .ok (.int (if negative then -n else n), rest)
    else
      .ok (.float (.ofDecimal negative (digitsValue (whole ++ fraction))
        (exponent.getD 0 - fraction.length)), rest)

/-! ### Values -/

/-- The words that stand for values. -/
def words : List (Text × Data) := [
  ("null", .null),
  ("true", .bool true),
  ("false", .bool false),
  ("NaN", .float .nan),
  ("Infinity", .float (.infinite false)),
  ("-Infinity", .float (.infinite true))]

def readWord? (ps : List CodePoint) : Option (Data × List CodePoint) :=
  words.findSome? fun w => (w.1.points.isPrefixOf? ps).map (w.2, ·)

/-- The limit that is left inside of a bracket, unless the bracket is beyond the limit. -/
def enter (bracket : Bracket) : Option Nat → Except Fault (Option Nat)
  | none => .ok none
  | some 0 => .error (.nested bracket)
  | some (room + 1) => .ok (some room)

mutual

def readValue (limit : Option Nat) : Nat → List CodePoint → Except Fault (Data × List CodePoint)
  | 0, _ => fail .value
  | fuel + 1, ps =>
    match ps with
    | '"' :: rest => lift .text (readText rest)
    | '[' :: rest =>
      match enter .list limit with
      | .error fault => .error fault
      | .ok inner =>
        match skipSpace rest with
        | ']' :: after => .ok (.list [], after)
        | ps => lift .list (readItems inner fuel ps)
    | '\x7b' :: rest =>
      match enter .map limit with
      | .error fault => .error fault
      | .ok inner =>
        match skipSpace rest with
        | '\x7d' :: after => .ok (.map [], after)
        | ps => lift (fun members => .map (Entries.ofPairs members)) (readMembers inner fuel ps)
    | ps =>
      match readWord? ps with
      | some r => .ok r
      | none => lift .scalar (readNumber ps)

/-- The items of a list, up to and with its closing bracket. -/
def readItems (limit : Option Nat) :
    Nat → List CodePoint → Except Fault (List Data × List CodePoint)
  | 0, _ => fail .value
  | fuel + 1, ps => do
    let (item, rest) ← readValue limit fuel ps
    match skipSpace rest with
    | ']' :: after => return ([item], after)
    | ',' :: more =>
      let (items, after) ← readItems limit fuel (skipSpace more)
      return (item :: items, after)
    | _ => fail .comma

/-- The members of a map, up to and with its closing brace. -/
def readMembers (limit : Option Nat) :
    Nat → List CodePoint → Except Fault (List (Atom × Data) × List CodePoint)
  | 0, _ => fail .value
  | fuel + 1, ps => do
    match ps with
    | '"' :: afterQuote =>
      let (name, afterName) ← readText afterQuote
      match skipSpace afterName with
      | ':' :: afterColon =>
        let (value, rest) ← readValue limit fuel (skipSpace afterColon)
        match skipSpace rest with
        | '\x7d' :: after => return ([(.scalar (.text name), value)], after)
        | ',' :: more =>
          let (members, after) ← readMembers limit fuel (skipSpace more)
          return ((.scalar (.text name), value) :: members, after)
        | _ => fail .comma
      | _ => fail .colon
    | _ => fail .name

end

/-- The value that code points spell, with nothing but space around it. -/
def readPointsWithin (limit : Option Nat) (ps : List CodePoint) : Except Fault Data := do
  let (value, rest) ← readValue limit (2 * ps.length + 2) (skipSpace ps)
  if (skipSpace rest).isEmpty then return value else fail .extraData

/-- A document given as text must not start with a byte order mark. -/
def readWithin (limit : Option Nat) (t : Text) : Except Fault Data :=
  match t.points with
  | '\ufeff' :: _ => fail .byteOrderMark
  | ps => readPointsWithin limit ps

/-- The value that code points spell, of any depth. -/
def readPoints (ps : List CodePoint) : Except Fault Data := readPointsWithin none ps

/-- A document of any depth. -/
def read (t : Text) : Except Fault Data := readWithin none t

end Screening.Json
