import IndexWatch.Base64
import IndexWatch.Json.Place
import IndexWatch.Text.Quoted

/-! JSON values read as the fields of cluster objects.

A field that is missing or `null` is absent. A field of the wrong type is a `Misfit`, which names the
type that was found and the one that was expected. -/

namespace IndexWatch.Cluster

/-- A value that is not what its field should hold, by the path to it, the last step first. -/
structure Misfit where
  path : List Json.Step
  notice : Json.Notice
  problem : String

abbrev Decode (α : Type) := List Json.Step → Json → Except Misfit α

/-- A value's type, and the value itself where that is short. -/
def found : Json → String
  | .null => "null"
  | .bool b => if b then "boolean \x60true\x60" else "boolean \x60false\x60"
  | .integer n => "integer \x60" ++ toString n ++ "\x60"
  | .real x => "floating point \x60" ++ Json.renderReal x ++ "\x60"
  | .string s => "string " ++ Text.quote s
  | .array _ => "sequence"
  | .object _ => "map"

/-- A value of another type than expected. Text, numbers and names are read before they are found not
to fit, lists and objects are not. -/
def mismatch {α : Type} (expected : String) : Decode α := fun path value =>
  let notice : Json.Notice := match value with
    | .array _ | .object _ => .before
    | _ => .behind
  .error ⟨path, notice, "invalid type: " ++ found value ++ ", expected " ++ expected⟩

def decodeText : Decode String
  | _, .string s => .ok s
  | path, value => mismatch "a string" path value

def decodeInt32 : Decode Int
  | path, .integer n =>
    if -2147483648 ≤ n ∧ n ≤ 2147483647 then .ok n
    else .error ⟨path, .behind, "invalid value: " ++ found (.integer n) ++ ", expected i32"⟩
  | path, value => mismatch "i32" path value

/-- Bytes in base64. -/
def decodeBytes : Decode (List UInt8) := fun path value => do
  match Base64.decode (← decodeText path value).toUTF8.toList with
  | .ok bytes => return bytes
  | .error fault => .error ⟨path, .behind, fault.message⟩

def decodeItems {α : Type} (item : Decode α) (path : List Json.Step) : Nat → List Json →
    Except Misfit (List α)
  | _, [] => .ok []
  | index, value :: rest => do
    let first ← item (.item index :: path) value
    return first :: (← decodeItems item path (index + 1) rest)

def decodeList {α : Type} (item : Decode α) : Decode (List α)
  | path, .array items => decodeItems item path 0 items
  | path, value => mismatch "a sequence" path value

def decodeMembers {α : Type} (item : Decode α) (path : List Json.Step) :
    List (String × Json) → Except Misfit (List (String × α))
  | [] => .ok []
  | (name, value) :: rest => do
    let first ← item (.member name :: path) value
    return (name, first) :: (← decodeMembers item path rest)

/-- An object whose members are all alike. -/
def decodeMap {α : Type} (item : Decode α) : Decode (List (String × α))
  | path, .object members => decodeMembers item path members
  | path, value => mismatch "a map" path value

/-- An object with named fields; `name` is what it is called. -/
def decodeRecord {α : Type} (name : String)
    (fields : List Json.Step → List (String × Json) → Except Misfit α) : Decode α
  | path, .object members => fields path members
  | path, .array items =>
    .error ⟨path, .inside, "invalid type: " ++ found (.array items) ++ ", expected " ++ name⟩
  | path, value => mismatch name path value

/-- A field that may be absent. -/
def field? {α : Type} (decode : Decode α) (name : String) (path : List Json.Step)
    (members : List (String × Json)) : Except Misfit (Option α) :=
  match Json.lookup? members name with
  | none | some .null => .ok none
  | some value => (decode (.member name :: path) value).map some

/-- A field with one possible value, where it is given. -/
def constantField (name expected : String) (path : List Json.Step)
    (members : List (String × Json)) : Except Misfit Unit :=
  match Json.lookup? members name with
  | none => .ok ()
  | some value => do
    let text ← decodeText (.member name :: path) value
    if text = expected then .ok ()
    else .error ⟨.member name :: path, .behindMember,
      "invalid value: " ++ found (.string text) ++ ", expected " ++ expected⟩

/-- The message of a misfit in a text. -/
def Misfit.message (misfit : Misfit) (text : String) : String :=
  Json.located misfit.problem (Json.placeOf misfit.path.reverse misfit.notice text)

end IndexWatch.Cluster
