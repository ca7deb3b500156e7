import IndexWatch.Json.Reader

/-! Places in the text of a JSON value.

A value that is well formed but not what was asked for is reported at the place where a reader that
goes from left to right would notice. -/

namespace IndexWatch.Json

/-- A step from a value to one inside it. -/
inductive Step where
  | member (name : String)
  | item (index : Nat)
deriving DecidableEq

/-- Where a reader notices that a value does not fit. -/
inductive Notice where
  /-- Behind a value that it has read. -/
  | behind
  /-- Before a value that it cannot begin. -/
  | before
  /-- Behind the bracket of an array that it cannot read, and behind the end of an empty one. -/
  | inside
  /-- Behind a member that it has read, and behind the end of the object if it was the last one. -/
  | behindMember
deriving DecidableEq

def skipValue (cs : List Char) : List Char :=
  match readNext cs with
  | .ok (_, rest) => rest
  | .error _ => []

/-- Text from the item with an index on, in the inside of an array. -/
def toItem : Nat → List Char → List Char
  | 0, cs => skipSpace cs
  | index + 1, cs => toItem index ((skipSpace (skipValue cs)).drop 1)

/-- Text from the value of the member with a name on, in the inside of an object. The number bounds
the members. -/
def toMember (name : String) : Nat → List Char → List Char
  | 0, cs => cs
  | fuel + 1, cs =>
    match readString ((skipSpace cs).drop 1) with
    | .error _ => []
    | .ok (key, rest) =>
      let value := skipSpace ((skipSpace rest).drop 1)
      if key == name then value else toMember name fuel ((skipSpace (skipValue value)).drop 1)

/-- Text from the value on that a path leads to. -/
def toValue : List Step → List Char → List Char
  | [], cs => skipSpace cs
  | .item index :: path, cs => toValue path (toItem index ((skipSpace cs).drop 1))
  | .member name :: path, cs => toValue path (toMember name cs.length ((skipSpace cs).drop 1))

/-- What is left of a text at the place where a misfit of the value at a path is noticed. -/
def noticedAt (path : List Step) (notice : Notice) (cs : List Char) : List Char :=
  let value := toValue path cs
  let closed (closing : Char) (cs : List Char) : List Char :=
    match skipSpace cs with
    | c :: rest => if c == closing then rest else c :: rest
    | [] => []
  match notice with
  | .behind => skipValue value
  | .before => value
  | .inside => closed ']' (value.drop 1)
  | .behindMember => closed '\x7d' (skipValue value)

/-- The line and the byte where a misfit is noticed. -/
def placeOf (path : List Step) (notice : Notice) (text : String) : Nat × Nat :=
  let cs := text.toList
  position (cs.take (cs.length - (noticedAt path notice cs).length))

end IndexWatch.Json
