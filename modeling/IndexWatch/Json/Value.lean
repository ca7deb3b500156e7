import IndexWatch.Decimal.Shortest

/-! JSON values and their compact text.

An object keeps its members as they were given; `get?` finds the last one of a name, and `render`
writes them in the order of their names. -/

namespace IndexWatch

open Decimal

inductive Json where
  | null
  | bool (b : Bool)
  | integer (n : Int)
  /-- A number with a fraction or an exponent, or a whole number out of range. -/
  | real (x : Binary64)
  | string (s : String)
  | array (items : List Json)
  | object (members : List (String × Json))
deriving Inhabited

namespace Json

/-- The last value of a name in a list of members. -/
def lookup? (members : List (String × Json)) (name : String) : Option Json :=
  members.foldl (fun found (key, value) => if key == name then some value else found) none

/-- A member of an object. A value that is no object has none. -/
def get? (value : Json) (name : String) : Option Json :=
  match value with
  | object members => lookup? members name
  | _ => none

/-- A member of an object, `null` where there is none. -/
def get (value : Json) (name : String) : Json := (value.get? name).getD null

def isNull : Json → Bool
  | null => true
  | _ => false

def string? : Json → Option String
  | string s => some s
  | _ => none

def integer? : Json → Option Int
  | integer n => some n
  | _ => none

def bool? : Json → Option Bool
  | bool b => some b
  | _ => none

def items? : Json → Option (List Json)
  | array items => some items
  | _ => none

/-- A number with a fraction: positional near one, with an exponent far from it, and always
recognisable as a fraction. -/
def renderReal : Binary64 → String
  | .nan | .infinite _ => "null"
  | .finite negative units =>
    let sign := if negative then "-" else ""
    if units = 0 then sign ++ "0.0"
    else
      let x := shortest units
      let digits := Nat.toDigits 10 x.significand
      let point : Int := digits.length + x.exponent
      let mark (digits : List Char) : String := String.ofList digits
      if 0 ≤ x.exponent && point ≤ 16 then
        sign ++ mark (digits ++ List.replicate x.exponent.toNat '0') ++ ".0"
      else if 0 < point && point ≤ 16 then
        sign ++ mark (digits.take point.toNat) ++ "." ++ mark (digits.drop point.toNat)
      else if -5 < point && point ≤ 0 then
        sign ++ "0." ++ mark (List.replicate (-point).toNat '0' ++ digits)
      else
        let fraction := if digits.length = 1 then "" else "." ++ mark (digits.drop 1)
        sign ++ mark (digits.take 1) ++ fraction ++ "e" ++ toString (point - 1)

def fourHexDigits (n : Nat) : List Char :=
  let digits := Nat.toDigits 16 n
  List.replicate (4 - digits.length) '0' ++ digits

def escapeChar (c : Char) : List Char :=
  match c with
  | '"' => ['\\', '"']
  | '\\' => ['\\', '\\']
  | '\n' => ['\\', 'n']
  | '\r' => ['\\', 'r']
  | '\t' => ['\\', 't']
  | '\x08' => ['\\', 'b']
  | '\x0c' => ['\\', 'f']
  | c => if c.toNat < 0x20 then ['\\', 'u'] ++ fourHexDigits c.toNat else [c]

def renderString (s : String) : String :=
  String.ofList ('"' :: s.toList.flatMap escapeChar ++ ['"'])

/-- Adds a member to members in the order of their names; a name that is there keeps its place and
takes the new value. -/
def insertMember {β : Type} (name : String) (value : β) : List (String × β) → List (String × β)
  | [] => [(name, value)]
  | (key, old) :: rest =>
    if name == key then (key, value) :: rest
    else if name < key then (name, value) :: (key, old) :: rest
    else (key, old) :: insertMember name value rest

def sortMembers {β : Type} (members : List (String × β)) : List (String × β) :=
  members.foldl (fun sorted (name, value) => insertMember name value sorted) []

mutual

/-- The compact text of a value, members in the order of their names. -/
def render : Json → String
  | null => "null"
  | bool b => if b then "true" else "false"
  | integer n => toString n
  | real x => renderReal x
  | string s => renderString s
  | array items => "[" ++ ",".intercalate (renderAll items) ++ "]"
  | object members =>
    "\x7b" ++ ",".intercalate ((sortMembers (renderMembers members)).map Prod.snd) ++ "\x7d"

def renderAll : List Json → List String
  | [] => []
  | item :: rest => render item :: renderAll rest

/-- Each member's name and its text. -/
def renderMembers : List (String × Json) → List (String × String)
  | [] => []
  | (name, value) :: rest => (name, renderString name ++ ":" ++ render value) :: renderMembers rest

end

end Json

end IndexWatch
