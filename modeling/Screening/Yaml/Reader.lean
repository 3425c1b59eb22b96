import Screening.Data.Keys
import Screening.Yaml.Node
import Screening.Yaml.Scalar

/-!
# Reading YAML documents

`read` reads a document: its tokens, the tree of its nodes, and the values that these stand for. Of
several nodes without a value the outermost counts, and of equally deep ones the first.
-/

namespace Screening.Yaml

/-! ### Scalars -/

def plainAtom (cs : List Char) : Except Fault Atom :=
  match plainValue cs with
  | .atom a => .ok a
  | .faulty fault => .error fault
  | .merge | .default => .error .noValue

/-- With surrogates in it a scalar can be nothing but a text. -/
def scalarValue (tag : Option Tag) (text : List CodePoint) (plain : Bool) : Except Fault Atom :=
  match tag, Text.charsOf? text with
  | none, some cs => if plain then plainAtom cs else .ok (.scalar (.text (.ofChars cs)))
  | some (.standard kind), some cs => taggedValue (String.ofList kind) cs
  | none, none => .ok (.scalar (.text ⟨text⟩))
  | some (.standard kind), none =>
    if String.ofList kind = "str" then .ok (.scalar (.text ⟨text⟩)) else .error .noValue
  | some .other, _ => .error .noValue

/-- Only scalars are keys. -/
def keyValue : Node → Except Fault Atom
  | .scalar none text true =>
    if text = [.char '='] then .ok (.scalar (.text "=")) else scalarValue none text true
  | .scalar tag text plain => scalarValue tag text plain
  | _ => .error .noValue

/-- A plain scalar that asks for entries to be merged in. -/
def isMerge : Node → Bool
  | .scalar none text true => text == [.char '<', .char '<']
  | _ => false

/-! ### Collections -/

/-- A value, or a fault and how deep it lies. -/
abbrev Valued (α : Type) := Except (Nat × Fault) α

namespace Valued

def ofResult {α : Type} : Except Fault α → Valued α
  | .ok a => .ok a
  | .error fault => .error (0, fault)

/-- The same, one level further down. -/
def deeper {α : Type} : Valued α → Valued α
  | .ok a => .ok a
  | .error (depth, fault) => .error (depth + 1, fault)

/-- Both values, or the fault that counts. -/
def both {α β : Type} : Valued α → Valued β → Valued (α × β)
  | .ok a, .ok b => .ok (a, b)
  | .ok _, .error f => .error f
  | .error e, .ok _ => .error e
  | .error e, .error f => .error (if f.1 < e.1 then f else e)

/-- All values, or the fault that counts. -/
def all {α : Type} (vs : List (Valued α)) : Valued (List α) :=
  vs.foldr (fun v rest => (both v rest).map fun p => p.1 :: p.2) (.ok [])

end Valued

/-- An entry of a mapping. -/
abbrev Entry := Valued (Atom × Data)

/-- What a node stands for: a value, and the entries that can be merged from it. -/
structure Meaning where
  value : Valued Data
  entries : Except Fault (List Entry)

/-- A collection has no tag, or that of its kind. -/
def allows (tag : Option Tag) (name : String) : Bool :=
  match tag with
  | none => true
  | some (.standard given) => String.ofList given == name
  | some .other => false

def isMapping : Node → Bool
  | .mapping .. => true
  | _ => false

/-- From a sequence of mappings entries are merged, those of the last first. -/
def sequenceMeaning (tag : Option Tag) (mergeable : Bool) (items : List Meaning) : Meaning where
  value :=
    if allows tag "seq" then (Valued.deeper (Valued.all (items.map Meaning.value))).map .list
    else .error (0, .noValue)
  entries :=
    if mergeable then (items.mapM Meaning.entries).map fun parts => parts.reverse.flatten
    else .error .noValue

def mappingMeaning (tag : Option Tag) (entries : Except Fault (List Entry)) : Meaning where
  value :=
    if allows tag "map" then
      match entries with
      | .ok es => (Valued.deeper (Valued.all es)).map fun pairs => .map (Data.ofPairs pairs)
      | .error fault => .error (1, fault)
    else .error (0, .noValue)
  entries := entries

mutual

def meaning : Node → Meaning
  | .scalar tag text plain =>
    ⟨(Valued.ofResult (scalarValue tag text plain)).map .atom, .error .noValue⟩
  | .sequence tag items => sequenceMeaning tag (items.all isMapping) (meanings items)
  | .mapping tag entries =>
    mappingMeaning tag ((entryMeanings entries).map fun es => es.1 ++ es.2)

def meanings : List Node → List Meaning
  | [] => []
  | n :: ns => meaning n :: meanings ns

/-- The entries that are merged in, and the own entries of a mapping. -/
def entryMeanings : List (Node × Node) → Except Fault (List Entry × List Entry)
  | [] => .ok ([], [])
  | (name, n) :: rest =>
    if isMerge name then do
      let added ← (meaning n).entries
      let (merged, own) ← entryMeanings rest
      return (added ++ merged, own)
    else do
      let (merged, own) ← entryMeanings rest
      return (merged, Valued.both (Valued.ofResult (keyValue name)) (meaning n).value :: own)

end

/-! ### Documents -/

/-- The characters that a document may hold. -/
def isPrintable (c : Char) : Bool :=
  c == '\t' || c == '\n' || c == '\r' || c == '\x85' || (' ' ≤ c && c ≤ '~') ||
    ('\xa0' ≤ c && c != '\ufffe' && c != '\uffff')

/-- A carriage return ends a line as a line feed does, and together they end one. -/
def plainLineEnds : List Char → List Char
  | '\r' :: '\n' :: rest => '\n' :: plainLineEnds rest
  | '\r' :: rest => '\n' :: plainLineEnds rest
  | c :: rest => c :: plainLineEnds rest
  | [] => []

/-- The value of a document; one without a node is null. -/
def read (s : String) : Except Fault Data :=
  let cs := plainLineEnds s.toList
  if !cs.all isPrintable then .error .unprintable
  else
    match Node.ofTokens (Layout.tokens cs) with
    | .error fault => .error fault
    | .ok none => .ok .null
    | .ok (some node) =>
      match (meaning node).value with
      | .ok d => .ok d
      | .error (_, fault) => .error fault

end Screening.Yaml
