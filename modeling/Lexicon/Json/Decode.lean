import Lexicon.Json.Reading

namespace Lexicon.Json

abbrev Decoder (α : Type) := Reading → Except Fault α

namespace Reading

/-- The fault of a value that is not of the expected type. A leaf has been read by then, a bracket has not. -/
def mismatch (expected : String) : Reading → Fault
  | leaf v token => ⟨.invalidType v.found expected, some token.stop⟩
  | array token .. => ⟨.invalidType .sequence expected, some token.start⟩
  | object token .. => ⟨.invalidType .map expected, some token.start⟩
  | broken fault _ => fault

def textStop : Decoder (String × Mark)
  | leaf (.text s) token => .ok (s, token.stop)
  | r => .error (r.mismatch "a string")

def text : Decoder String := fun r => r.textStop.map (·.1)

def optional (read : Decoder α) : Decoder (Option α)
  | leaf .null _ => .ok none
  | broken fault (some token) =>
    match token.lexeme with
    | .broken .null f => .error f
    | _ => (read (broken fault (some token))).map some
  | r => (read r).map some

/-- The result, unless something is wrong. -/
def barring (fault : Option Fault) (result : α) : Except Fault α :=
  match fault with
  | some f => .error f
  | none => .ok result

def list (read : Decoder α) : Decoder (List α)
  | array _ _ items fault => do
    let values ← items.mapM fun item => read item.1
    barring fault values
  | r => .error (r.mismatch "a sequence")

mutual

def value : Reading → Except Fault Value
  | leaf v _ => .ok v
  | array _ _ items fault => do
    let values ← itemValues items
    barring fault (.array values)
  | object _ _ _ members fault => do
    let values ← memberValues members
    barring fault (.object values)
  | broken fault _ => .error fault

def itemValues : List (Reading × Ending) → Except Fault (List Value)
  | [] => .ok []
  | (r, _) :: rest => do
    let v ← value r
    return v :: (← itemValues rest)

def memberValues : List ((String × Ending) × Reading × Ending) → Except Fault (List (String × Value))
  | [] => .ok []
  | ((key, _), r, _) :: rest => do
    let v ← value r
    return (key, v) :: (← memberValues rest)

end

end Reading

/-! ### Records -/

/-- A field of a record: its name, whether it has to be given, and how it enters the record. -/
structure Field (σ : Type) where
  name : String
  required : Bool
  read : Reading → σ → Except Fault σ

/-- How a record is read: its name, its fields in order, and the record before any field is read. -/
structure Record (σ : Type) where
  name : String
  fields : List (Field σ)
  blank : σ

namespace Record

def described (r : Record σ) : String := "struct " ++ r.name

def fieldNames (r : Record σ) : List String := r.fields.map (·.name)

def placed (m : Mark) : Except Fault α → Except Fault α
  | .error f => .error (f.locate m)
  | .ok a => .ok a

/-- Reads members in the order of the text. `seen` names those that came before. -/
def readMembers (r : Record σ) (seen : List String) (acc : σ) : List Member → Except Fault (σ × List String)
  | [] => .ok (acc, seen)
  | ((key, behindKey), value, behind) :: rest =>
    match r.fields.find? (·.name == key) with
    | none => .error ⟨.unknownField key r.fieldNames, some behindKey.reached⟩
    | some field =>
      if seen.contains key then .error ⟨.duplicateField key, some behindKey.reached⟩
      else
        match placed behind.reached (field.read value acc) with
        | .error f => .error f
        | .ok acc => readMembers r (key :: seen) acc rest

/-- The place where an object or a list has been closed, or could not be. -/
def lastEnding (opening : Ending) (endings : List Ending) : Ending := endings.getLast?.getD opening

/-- Reads the fields in order from the items of a list. `opening` is the attempt to close the list before the next
item. A field that is not given keeps its blank if it may. -/
def readItems (r : Record σ) (fault : Option Fault) (count : Nat) (opening : Ending) (acc : σ) :
    List (Field σ) → List (Reading × Ending) → Except Fault σ
  | [], _ => Reading.barring opening.fault acc
  | field :: fields, (value, behind) :: rest =>
    match placed behind.reached (field.read value acc) with
    | .error f => .error f
    | .ok acc => readItems r fault (count + 1) behind acc fields rest
  | field :: fields, [] =>
    match fault with
    | some f => .error f
    | none =>
      if field.required then
        .error ⟨.invalidLength count (r.described ++ " with " ++ toString r.fields.length ++ " elements"),
          some opening.reached⟩
      else readItems r fault (count + 1) opening acc fields []

def read (r : Record σ) : Decoder σ
  | .object _ opening _ members fault => do
    let (acc, seen) ← r.readMembers [] r.blank members
    let acc ← Reading.barring fault acc
    match r.fields.find? fun field => field.required && !seen.contains field.name with
    | some field => .error ⟨.missingField field.name, some (lastEnding opening (members.map (·.2.2))).reached⟩
    | none => .ok acc
  | .array _ opening items fault => r.readItems fault 0 opening r.blank r.fields items
  | other => .error (other.mismatch r.described)

end Record

/-! ### Variants -/

/-- A named alternative. A variant without payload may be given by its name alone, or with `null`. The reader of a
payload sees the reading and where the payload stops. -/
inductive Variant (α : Type) where
  | bare (name : String) (value : α)
  | carrying (name : String) (read : Decoder α)

namespace Variant

def name : Variant α → String
  | bare name _ => name
  | carrying name _ => name

def named (variants : List (Variant α)) (key : String) (m : Mark) : Except Fault (Variant α) :=
  match variants.find? (·.name == key) with
  | some v => .ok v
  | none => .error ⟨.unknownVariant key (variants.map name), some m⟩

def payload (value : Reading) : Variant α → Except Fault α
  | bare _ result =>
    match value with
    | .leaf .null _ => .ok result
    | r => .error (r.mismatch "unit")
  | carrying _ read => read value

/-- What is wrong with an object that has no name in front: nothing but its early end, unless something else has
been found. -/
def nameless (token : Option Token) (fault : Option Fault) : Fault :=
  fault.getD ⟨.expectedValue, token.map (·.next)⟩

/-- Reads one of several variants: a name, or an object with the name as its only key. -/
def read (variants : List (Variant α)) : Decoder α
  | .leaf (.text key) token => do
    match ← named variants key token.stop with
    | bare _ result => .ok result
    | carrying .. => .error ⟨.bareVariant, none⟩
  | .leaf _ token | .array token .. => .error ⟨.expectedValue, some token.next⟩
  | .object _ _ (some first) (((key, _), value, behind) :: _) _ => do
    let variant ← named variants key first.stop
    let result ← variant.payload value
    Reading.barring behind.fault result
  | .object _ _ first _ fault => .error (nameless first fault)
  | .broken fault none => .error fault
  | .broken fault (some token) =>
    match token.lexeme with
    | .broken .text f => .error f
    | .broken .. => .error ⟨.expectedValue, some token.next⟩
    | _ => .error fault

end Variant

/-- Reads a whole text. Nothing but blanks may follow the value. -/
def decode (read : Decoder α) (text : String) : Except Fault α := do
  let document := Document.ofText text
  let result ← read document.root
  Reading.barring document.trailing result

end Lexicon.Json
