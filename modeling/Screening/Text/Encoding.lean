import Screening.Text

/-!
# Byte encodings of text

A document given as bytes is UTF-8, UTF-16 or UTF-32, with or without a byte order mark; the marks
and the zeros among the first four bytes tell which. `decode` reads it or says which bytes are no
text and why; a surrogate that stands alone is read as such. `utf8?` takes UTF-8 only, and nothing
but characters. In the other direction `encodeFault?` says where a text has no form in UTF-8.
-/

namespace Screening.Text

inductive Encoding where
  | utf8
  | utf8Marked
  | utf16 (bigEndian marked : Bool)
  | utf32 (bigEndian marked : Bool)
  deriving DecidableEq

inductive DecodeReason where
  | invalidStart
  | invalidContinuation
  | unexpectedEnd
  | truncated
  | outOfRange
  deriving DecidableEq

/-- The bytes from position `first` on, `length` of them and at least one, spell no character. -/
structure DecodeFault where
  encoding : Encoding
  first : Nat
  length : Nat
  byte : UInt8
  reason : DecodeReason
  deriving DecidableEq

namespace Encoding

def name : Encoding → String
  | .utf8 | .utf8Marked => "utf-8"
  | .utf16 false _ => "utf-16-le"
  | .utf16 true _ => "utf-16-be"
  | .utf32 false _ => "utf-32-le"
  | .utf32 true _ => "utf-32-be"

/-- The byte order marks decide first, then where zeros stand. -/
def detect : List UInt8 → Encoding
  | 0 :: 0 :: 0xFE :: 0xFF :: _ => .utf32 true true
  | 0xFF :: 0xFE :: 0 :: 0 :: _ => .utf32 false true
  | 0xFE :: 0xFF :: _ => .utf16 true true
  | 0xFF :: 0xFE :: _ => .utf16 false true
  | 0xEF :: 0xBB :: 0xBF :: _ => .utf8Marked
  | a :: b :: c :: d :: _ =>
    if a = 0 then (if b = 0 then .utf32 true false else .utf16 true false)
    else if b = 0 then
      (if c = 0 && d = 0 then .utf32 false false else .utf16 false false)
    else .utf8
  | [a, b] => if a = 0 then .utf16 true false else if b = 0 then .utf16 false false else .utf8
  | _ => .utf8

end Encoding

namespace DecodeFault

def reasonText (fault : DecodeFault) : String :=
  match fault.reason with
  | .invalidStart => "invalid start byte"
  | .invalidContinuation => "invalid continuation byte"
  | .unexpectedEnd => "unexpected end of data"
  | .truncated => "truncated data"
  | .outOfRange => "code point not in range(0x110000)"

def message (fault : DecodeFault) : String :=
  let digits := Nat.toDigits 16 fault.byte.toNat
  let byteText := String.ofList (List.replicate (2 - digits.length) '0' ++ digits)
  let place :=
    if fault.length = 1 then s!"byte 0x{byteText} in position {fault.first}"
    else s!"bytes in position {fault.first}-{fault.first + fault.length - 1}"
  "'" ++ fault.encoding.name ++ "' codec can't decode " ++ place ++ ": " ++ fault.reasonText

end DecodeFault

def isContinuation (b : UInt8) : Bool :=
  0x80 ≤ b && b ≤ 0xBF

/-- The bytes that may follow the first byte of a character of three or four bytes. -/
def mayFollow (lead second : UInt8) : Bool :=
  if lead = 0xE0 then 0xA0 ≤ second && second ≤ 0xBF
  else if lead = 0xED then 0x80 ≤ second && second ≤ 0x9F
  else if lead = 0xF0 then 0x90 ≤ second && second ≤ 0xBF
  else if lead = 0xF4 then 0x80 ≤ second && second ≤ 0x8F
  else isContinuation second

def low6 (b : UInt8) : Nat := b.toNat % 64

/-- What three bytes spell. -/
def threeBytes (a b c : UInt8) : CodePoint :=
  .ofValue ((a.toNat - 0xE0) * 4096 + low6 b * 64 + low6 c)

/-- `pos` is the position of the next byte. -/
def decodeUtf8 (encoding : Encoding) (pos : Nat) :
    List UInt8 → Except DecodeFault (List CodePoint)
  | [] => .ok []
  | a :: rest =>
    let fault (length : Nat) (reason : DecodeReason) : Except DecodeFault (List CodePoint) :=
      .error ⟨encoding, pos, length, a, reason⟩
    if a < 0x80 then (.ofValue a.toNat :: ·) <$> decodeUtf8 encoding (pos + 1) rest
    else if a < 0xC2 || 0xF4 < a then fault 1 .invalidStart
    else if a < 0xE0 then
      match rest with
      | [] => fault 1 .unexpectedEnd
      | b :: rest =>
        if isContinuation b then
          (.ofValue ((a.toNat - 0xC0) * 64 + low6 b) :: ·) <$> decodeUtf8 encoding (pos + 2) rest
        else fault 1 .invalidContinuation
    else if a < 0xF0 then
      match rest with
      | [] => fault 1 .unexpectedEnd
      | [b] => if mayFollow a b then fault 2 .unexpectedEnd else fault 1 .invalidContinuation
      | b :: c :: rest =>
        if (mayFollow a b || (a == 0xED && isContinuation b)) && isContinuation c then
          (threeBytes a b c :: ·) <$> decodeUtf8 encoding (pos + 3) rest
        else fault (if mayFollow a b then 2 else 1) .invalidContinuation
    else
      match rest with
      | [] => fault 1 .unexpectedEnd
      | b :: rest =>
        if mayFollow a b then
          match rest with
          | [] => fault 2 .unexpectedEnd
          | c :: rest =>
            if isContinuation c then
              match rest with
              | [] => fault 3 .unexpectedEnd
              | d :: rest =>
                if isContinuation d then
                  (.ofValue ((a.toNat - 0xF0) * 262144 + low6 b * 4096 + low6 c * 64 + low6 d)
                    :: ·) <$> decodeUtf8 encoding (pos + 4) rest
                else fault 3 .invalidContinuation
            else fault 2 .invalidContinuation
        else fault 1 .invalidContinuation

def isHighSurrogate (n : Nat) : Bool := 0xD800 ≤ n && n < 0xDC00

def isLowSurrogate (n : Nat) : Bool := 0xDC00 ≤ n && n < 0xE000

def joinSurrogates (high low : Nat) : Nat :=
  0x10000 + (high - 0xD800) * 0x400 + (low - 0xDC00)

/-- Units of two bytes each, as numbers; a byte that is left over at the end is a fault. -/
def units16 (encoding : Encoding) (bigEndian : Bool) (pos : Nat) :
    List UInt8 → Except DecodeFault (List Nat)
  | [] => .ok []
  | [a] => .error ⟨encoding, pos, 1, a, .truncated⟩
  | a :: b :: rest =>
    let unit := if bigEndian then a.toNat * 256 + b.toNat else b.toNat * 256 + a.toNat
    (unit :: ·) <$> units16 encoding bigEndian (pos + 2) rest

/-- Join each high surrogate with a low one right after it. -/
def joinPairs : List Nat → List Nat
  | high :: low :: rest =>
    if isHighSurrogate high && isLowSurrogate low then joinSurrogates high low :: joinPairs rest
    else high :: joinPairs (low :: rest)
  | units => units

def decodeUtf16 (encoding : Encoding) (bigEndian : Bool) (pos : Nat) (bytes : List UInt8) :
    Except DecodeFault (List CodePoint) :=
  (fun units => (joinPairs units).map .ofValue) <$> units16 encoding bigEndian pos bytes

def decodeUtf32 (encoding : Encoding) (bigEndian : Bool) (pos : Nat) :
    List UInt8 → Except DecodeFault (List CodePoint)
  | [] => .ok []
  | a :: b :: c :: d :: rest =>
    let n :=
      if bigEndian then ((a.toNat * 256 + b.toNat) * 256 + c.toNat) * 256 + d.toNat
      else ((d.toNat * 256 + c.toNat) * 256 + b.toNat) * 256 + a.toNat
    if 0x10FFFF < n then .error ⟨encoding, pos, 4, a, .outOfRange⟩
    else (.ofValue n :: ·) <$> decodeUtf32 encoding bigEndian (pos + 4) rest
  | a :: rest => .error ⟨encoding, pos, 1 + rest.length, a, .truncated⟩

/-- The code points that bytes in a detected encoding spell. -/
def decode (bytes : List UInt8) : Except DecodeFault (List CodePoint) :=
  match Encoding.detect bytes with
  | .utf8 => decodeUtf8 .utf8 0 bytes
  | .utf8Marked => decodeUtf8 .utf8Marked 0 (bytes.drop 3)
  | .utf16 big marked =>
    let skipped := if marked then 2 else 0
    decodeUtf16 (.utf16 big marked) big skipped (bytes.drop skipped)
  | .utf32 big marked =>
    let skipped := if marked then 4 else 0
    decodeUtf32 (.utf32 big marked) big skipped (bytes.drop skipped)

/-- The characters that bytes in UTF-8 spell, if they spell nothing else. -/
def utf8? (bytes : List UInt8) : Option (List Char) :=
  match decodeUtf8 .utf8 0 bytes with
  | .ok points => charsOf? points
  | .error _ => none

/-- Surrogates that UTF-8 has no form for: `length` of them, at least one, from `first` on. -/
structure EncodeFault where
  first : Nat
  length : Nat
  /-- The first of them. -/
  value : Nat
  deriving DecidableEq

def EncodeFault.message (fault : EncodeFault) : String :=
  let digits := String.ofList (Nat.toDigits 16 fault.value)
  let place :=
    if fault.length = 1 then s!"character '\\u{digits}' in position {fault.first}"
    else s!"characters in position {fault.first}-{fault.first + fault.length - 1}"
  "'" ++ Encoding.utf8.name ++ "' codec can't encode " ++ place ++ ": surrogates not allowed"

/-- The first run of surrogates in a text. -/
def encodeFault? (t : Text) : Option EncodeFault :=
  match t.points.dropWhile (!·.isSurrogate) with
  | [] => none
  | p :: rest => some ⟨t.length - (rest.length + 1),
      (rest.takeWhile CodePoint.isSurrogate).length + 1, p.value⟩

end Screening.Text
