import Screening.ErrorKind
import Screening.Text.Numeral
import Screening.Text.Quoted

/-!
# Tokens of YAML

The tokens that a YAML document is made of, and what can be wrong with a document. The start and
the end of a collection that is laid out by indentation are tokens of their own.
-/

namespace Screening.Yaml

inductive Fault where
  /-- A character that no document may hold. -/
  | unprintable
  /-- The characters make no tokens. -/
  | noToken
  /-- The tokens make no document. -/
  | noTree
  /-- An anchor is unknown or given twice, or there is more than one document. -/
  | badLink
  /-- A node stands for no value. -/
  | noValue
  /-- An escape of a number that is no code point. -/
  | codePoint (code : Nat)
  /-- A text that is no integer in this base. -/
  | noInteger (base : Nat) (text : Text)
  /-- A text that is no binary64 number. -/
  | noNumber (text : Text)
  /-- A text that is no truth value. -/
  | noTruth (text : Text)
  /-- A text without the form of a day or a time. -/
  | noTime
  /-- No text at all where a number should be. -/
  | empty
  /-- An integer with more digits than are read. -/
  | oversized (digits : Nat)
  /-- Numbers in the form of a day or a time that is in no calendar. -/
  | outOfRange (message : String)
  deriving DecidableEq

def Fault.kind : Fault → ErrorKind
  | unprintable => .yamlReader
  | noToken => .yamlScanner
  | noTree => .yamlParser
  | badLink => .yamlComposer
  | noValue => .yamlConstructor
  | codePoint code => if code < 0x80000000 then .value else .overflow
  | noInteger .. | noNumber _ | oversized _ | outOfRange _ => .value
  | noTruth _ => .key
  | noTime => .missingAttribute
  | empty => .index

def Fault.message : Fault → Text
  | unprintable | noToken | noTree | badLink | noValue => "malformed document"
  | codePoint _ => "chr() arg not in range(0x110000)"
  | noInteger base text =>
    "invalid literal for int() with base " ++ toString base ++ ": " ++ text.quote
  | noNumber text => "could not convert string to float: " ++ text.quote
  | noTruth text => text.quote
  | noTime => "'NoneType' object has no attribute 'groupdict'"
  | empty => "string index out of range"
  | oversized digits => Text.Numeral.oversizedMessage digits
  | outOfRange message => message

inductive Directive where
  | version (major minor : Nat)
  /-- A handle that tags may start with, and what it stands for. -/
  | handle (name meaning : List Char)
  | other
  deriving DecidableEq

inductive Token where
  | directive (d : Directive)
  | documentStart
  | documentEnd
  | streamEnd
  | blockSequenceStart
  | blockMappingStart
  | blockEnd
  | flowSequenceStart
  | flowSequenceEnd
  | flowMappingStart
  | flowMappingEnd
  | blockEntry
  | flowEntry
  | key
  | value
  | alias (name : List Char)
  | anchor (name : List Char)
  /-- A tag with the handle that it starts with, if there is one. -/
  | tag (handle : Option (List Char)) (suffix : List Char)
  | scalar (text : List CodePoint) (plain : Bool)
  deriving DecidableEq

end Screening.Yaml
