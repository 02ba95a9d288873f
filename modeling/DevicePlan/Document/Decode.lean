import DevicePlan.Decimal.Binary
import DevicePlan.Document.Value
import DevicePlan.Text.Quoted

/-!
# Decoding documents

How a value of a document becomes a value of a type. A decoder either succeeds or gives the first
fault in the order in which it visits the document. Records are described once, by their `Fields`,
and can be written as a table of their fields or as an array of them in order. The two formats
differ in what they do with spare array elements and in how they write a choice among names
(`Format`).
-/

namespace DevicePlan

inductive ChoiceFault where
  | neitherTextNorTable
  | noMember
  | manyMembers
  | expectedEmptyTable
  | expectedEmptyArray
  | scalar (kind : String)
deriving DecidableEq

namespace ChoiceFault

def message : ChoiceFault → String
  | neitherTextNorTable => "wanted string or table"
  | noMember => "wanted exactly 1 element, found 0 elements"
  | manyMembers => "wanted exactly 1 element, more than 1 element"
  | expectedEmptyTable => "expected empty table"
  | expectedEmptyArray => "expected empty array"
  | scalar kind => s!"expected table, found {kind}"

end ChoiceFault

inductive Found where
  | null
  | boolean (value : Bool)
  | integer (value : Int)
  | float (bits : UInt64)
  | string (value : String)
  | array
  | table
deriving DecidableEq

def Found.describe (style : Decimal.Style) : Found → String
  | null => "null"
  | boolean value => s!"boolean {Text.ticked (toString value)}"
  | integer value => s!"integer {Text.ticked (toString value)}"
  | float bits => s!"floating point {Text.ticked (Decimal.ofBits style bits)}"
  | string value => s!"string {Text.quote value}"
  | array => "sequence"
  | table => "map"

inductive Format where
  | json
  | toml
deriving DecidableEq

def Format.style : Format → Decimal.Style
  | json => .short
  | toml => .full

/-- Why a value does not decode: the fault itself, as its message tells it. Where in a TOML text the
value stands, the text around it and the keys that lead to it are left out. -/
inductive DecodeError where
  | wrongType (found : Found) (expected : String)
  | wrongValue (found : Found) (expected : String)
  | missingField (name : String)
  | unknownName (text : String) (names : List String)
  | wrongLength (length : Nat) (expected : String)
  | wrongChoice (fault : ChoiceFault)
deriving DecidableEq

namespace DecodeError

def describeNames : List String → String
  | [] => "there are no variants"
  | [name] => s!"expected {Text.ticked name}"
  | [first, second] => s!"expected {Text.ticked first} or {Text.ticked second}"
  | names => "expected one of " ++ ", ".intercalate (names.map Text.ticked)

def message (format : Format) : DecodeError → String
  | wrongType found expected =>
    s!"invalid type: {found.describe format.style}, expected {expected}"
  | wrongValue found expected =>
    s!"invalid value: {found.describe format.style}, expected {expected}"
  | missingField name => s!"missing field {Text.ticked name}"
  | unknownName text names => s!"unknown variant {Text.ticked text}, {describeNames names}"
  | wrongLength length expected => s!"invalid length {length}, expected {expected}"
  | wrongChoice fault => fault.message

end DecodeError

inductive Excess where
  | ignored
  | refused
  | refusedByCount
deriving DecidableEq

def Format.excess : Format → Excess
  | .json => .refused
  | .toml => .ignored

/-- The name of the one member that a moment has when it is read as a table. -/
def Moment.memberName : String := "$__toml_private_datetime"

namespace Value

def found : Value → Found
  | null => .null
  | boolean value => .boolean value
  | integer value => .integer value
  | float value => .float value.toBits
  | string value => .string value
  | array _ | tables _ => .array
  | moment _ | table _ => .table

def members? : Value → Option (List (String × Value))
  | table members => some members
  | moment value => some [(Moment.memberName, string value.text)]
  | _ => none

def elements? : Value → Option (List Value)
  | array elements | tables elements => some elements
  | _ => none

end Value

abbrev Decoder (α : Type) := Value → Except DecodeError α

namespace Decoder

def mismatch {α : Type} (expected : String) (value : Value) : Except DecodeError α :=
  .error (.wrongType value.found expected)

def boolean : Decoder Bool
  | .boolean value => .ok value
  | value => mismatch "a boolean" value

def string : Decoder String
  | .string value => .ok value
  | value => mismatch "a string" value

def integerIn {α : Type} (low high : Int) (expected : String) (make : Int → α) : Decoder α
  | .integer value =>
    if low ≤ value ∧ value ≤ high then .ok (make value)
    else .error (.wrongValue (.integer value) expected)
  | value => mismatch expected value

def int64 : Decoder Int64 := integerIn (-0x8000000000000000) 0x7fffffffffffffff "i64" Int64.ofInt

def uint32 : Decoder UInt32 := integerIn 0 0xffffffff "u32" fun n => UInt32.ofNat n.toNat

def nullable {α : Type} (decoder : Decoder α) : Decoder (Option α)
  | .null => .ok none
  | value => (decoder value).map some

def mapOf {α : Type} (decoder : Decoder α) : Decoder (NameMap α) := fun value =>
  match value.members? with
  | none => mismatch "a map" value
  | some members => do
    let entries ← members.mapM fun (key, value) => do
      let value ← decoder value
      return (key, value)
    return .ofList entries

def named {α : Type} (choices : List (String × α)) (name : String) : Except DecodeError α :=
  match choices.lookup name with
  | some choice => .ok choice
  | none => .error (.unknownName name (choices.map Prod.fst))

def emptyPayload : Format → Value → Except DecodeError Unit
  | .json, .null => .ok ()
  | .json, value => mismatch "unit" value
  | .toml, .table [] => .ok ()
  | .toml, .table _ => .error (.wrongChoice .expectedEmptyTable)
  | .toml, .array [] => .ok ()
  | .toml, .array _ => .error (.wrongChoice .expectedEmptyTable)
  | .toml, .tables [] => .ok ()
  | .toml, .tables _ => .error (.wrongChoice .expectedEmptyArray)
  | .toml, .null => .ok ()
  | .toml, .boolean _ => .error (.wrongChoice (.scalar "boolean"))
  | .toml, .integer _ => .error (.wrongChoice (.scalar "integer"))
  | .toml, .float _ => .error (.wrongChoice (.scalar "float"))
  | .toml, .string _ => .error (.wrongChoice (.scalar "string"))
  | .toml, .moment _ => .error (.wrongChoice (.scalar "datetime"))

def choice {α : Type} (format : Format) (choices : List (String × α)) : Decoder α
  | .string name => named choices name
  | .table [(name, payload)] => do
    let choice ← named choices name
    emptyPayload format payload
    return choice
  | .table members =>
    match format with
    | .json => .error (.wrongValue .table "map with a single key")
    | .toml => .error (.wrongChoice (if members.isEmpty then .noMember else .manyMembers))
  | value =>
    match format with
    | .json => mismatch "string or map" value
    | .toml => .error (.wrongChoice .neitherTextNorTable)

end Decoder

structure Source where
  entries : List (String × Value)
  missing : String → DecodeError
  sparse : Bool

structure FieldCheck where
  name : String
  check : Value → Except DecodeError Unit

structure Fields (α : Type) where
  checks : List FieldCheck
  build : Source → Except DecodeError α

namespace Fields

def checkOf {α : Type} (decoder : Decoder α) (value : Value) : Except DecodeError Unit :=
  (decoder value).map fun _ => ()

def required {α : Type} (name : String) (decoder : Decoder α) : Fields α where
  checks := [⟨name, checkOf decoder⟩]
  build source :=
    match source.entries.lookup name with
    | some value => decoder value
    | none => .error (source.missing name)

def optional {α : Type} (name : String) (decoder : Decoder α) : Fields (Option α) where
  checks := [⟨name, checkOf (Decoder.nullable decoder)⟩]
  build source :=
    match source.entries.lookup name with
    | some value => Decoder.nullable decoder value
    | none => if source.sparse then .ok none else .error (source.missing name)

def defaulted {α : Type} (name : String) (decoder : Decoder α) (standard : α) : Fields α where
  checks := [⟨name, checkOf decoder⟩]
  build source :=
    match source.entries.lookup name with
    | some value => decoder value
    | none => .ok standard

instance : Applicative Fields where
  pure value := ⟨[], fun _ => .ok value⟩
  seq f x := ⟨f.checks ++ (x ()).checks, fun source => do
    let f ← f.build source
    let value ← (x ()).build source
    return f value⟩

def names {α : Type} (fields : Fields α) : List String := fields.checks.map FieldCheck.name

/-- Check the members of a table in order; a member that is no field is passed over. -/
def checkMembers {α : Type} (fields : Fields α) :
    List (String × Value) → Except DecodeError Unit
  | [] => .ok ()
  | (key, value) :: rest => do
    match fields.checks.find? fun field => field.name == key with
    | some field => field.check value
    | none => .ok ()
    fields.checkMembers rest

def ofMembers {α : Type} (fields : Fields α) (members : List (String × Value)) :
    Except DecodeError α := do
  fields.checkMembers members
  fields.build ⟨members, .missingField, true⟩

def ofElements {α : Type} (fields : Fields α) (title : String) (excess : Excess)
    (elements : List Value) : Except DecodeError α := do
  let count := fields.names.length
  let expected := s!"struct {title} with {count} elements"
  let record ← fields.build ⟨fields.names.zip elements,
    fun name => .wrongLength (fields.names.idxOf name) expected, false⟩
  match excess with
  | .ignored => return record
  | .refused =>
    if count < elements.length then
      .error (.wrongLength elements.length "fewer elements in array")
    else return record
  | .refusedByCount =>
    if count < elements.length then
      .error (.wrongLength elements.length s!"{count} elements in sequence")
    else return record

def decoder {α : Type} (fields : Fields α) (title : String) (excess : Excess) : Decoder α :=
  fun value =>
    match value.members?, value.elements? with
    | some members, _ => fields.ofMembers members
    | none, some elements => fields.ofElements title excess elements
    | none, none => Decoder.mismatch s!"struct {title}" value

end Fields

end DevicePlan
