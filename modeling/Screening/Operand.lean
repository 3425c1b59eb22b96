import Screening.Expr.Reader

/-!
# Parameter values as text

A parameter value is stored as JSON text. Reading it takes scalars and flat lists of scalars, each
with its kind. Text that is nested deeper than there is room for is not even found to be no parameter
value.
-/

namespace Screening.Operand

inductive ReadError where
  /-- A value of this kind is neither text nor bytes. -/
  | notText (kind : String)
  /-- The text, or bytes, are no JSON. -/
  | malformed (source : Data)
  /-- A value of this kind is no parameter value. -/
  | unsupported (kind : String)
  | oversized (digits : Nat)
  /-- The text, or bytes, are nested too deep. -/
  | nested (bracket : Json.Bracket)
  | undecodable (fault : Text.DecodeFault)

def ofData (d : Data) : Except ReadError Operand :=
  match Expr.checkOperand d with
  | .ok v => .ok v
  | .faulty _ => .error (.unsupported d.kindName)

def ofJson (source : Data) : Except Json.Fault Data → Except ReadError Operand
  | .ok d => ofData d
  | .error (.malformed _) => .error (.malformed source)
  | .error (.oversized digits) => .error (.oversized digits)
  | .error (.nested bracket) => .error (.nested bracket)

/-- A value from JSON text or from bytes that encode such text, in which there is room for lists and
maps of some depth. -/
def read (room : Nat) : Data → Except ReadError Operand
  | .atom (.scalar (.text t)) => ofJson (.text t) (Json.readWithin (some room) t)
  | .atom (.bytes bs) =>
    match Text.decode bs with
    | .ok ps => ofJson (.atom (.bytes bs)) (Json.readPointsWithin (some room) ps)
    | .error fault => .error (.undecodable fault)
  | d => .error (.notText d.kindName)

def ReadError.kind : ReadError → ErrorKind
  | notText _ => .type
  | malformed _ | unsupported _ | oversized _ => .value
  | nested _ => .recursion
  | undecodable _ => .decoding

def ReadError.message : ReadError → Text
  | notText kind => "the JSON object must be str, bytes or bytearray, not " ++ kind
  | malformed source => "Invalid parameter value: " ++ source.literal
  | unsupported kind => "Unsupported parameter value type: " ++ kind
  | oversized digits => Text.Numeral.oversizedMessage digits
  | nested bracket => bracket.nestedMessage
  | undecodable fault => fault.message

end Screening.Operand
