import IndexWatch.Http.Status

/-! Responses on the wire.

A response is a head and a body. The body ends where a length says, where a chunk of no bytes says,
or where the connection is closed. `Response.read` takes all that arrives until the connection is
closed; `Response.render` writes a response in each of the three ways. -/

namespace IndexWatch.Http

abbrev Bytes := List UInt8

structure Response where
  status : Nat
  body : Bytes
deriving DecidableEq

/-- Why what arrives is no response. -/
inductive ResponseFault where
  | closedEarly
  | invalidVersion
  | invalidStatus
  | invalidHeader
  | invalidLength
  | incompleteBody
deriving DecidableEq

namespace ResponseFault

def message : ResponseFault → String
  | closedEarly => "connection closed before message completed"
  | invalidVersion => "invalid HTTP version parsed"
  | invalidStatus => "invalid HTTP status-code parsed"
  | invalidHeader => "invalid HTTP header parsed"
  | invalidLength => "invalid content-length parsed"
  | incompleteBody => "error reading a body from connection"

end ResponseFault

/-- Why a response could not be had, and whether not even its status is known. -/
structure Fault where
  early : Bool
  reason : String
deriving DecidableEq

def ascii (s : String) : Bytes := s.toUTF8.toList

def carriageReturn : UInt8 := 13

def lineFeed : UInt8 := 10

def lineEnd : Bytes := [carriageReturn, lineFeed]

/-- A line without its end, and what follows it. -/
def splitLine? : Bytes → Option (Bytes × Bytes)
  | [] => none
  | b :: rest =>
    if b = lineFeed then some ([], rest)
    else match splitLine? rest with
      | none => none
      | some (line, rest) =>
        if b = carriageReturn ∧ line.isEmpty then some ([], rest) else some (b :: line, rest)

def isDigitByte (b : UInt8) : Bool := 0x30 ≤ b && b ≤ 0x39

def decimalOf (digits : Bytes) : Nat := digits.foldl (fun n b => 10 * n + (b.toNat - 0x30)) 0

/-- The lower-case letter of an ASCII letter. -/
def lowerByte (b : UInt8) : UInt8 := if 0x41 ≤ b ∧ b ≤ 0x5A then b + 0x20 else b

def isBlankByte (b : UInt8) : Bool := b == 0x20 || b == 0x09

def trimBlanks (bytes : Bytes) : Bytes :=
  ((bytes.dropWhile isBlankByte).reverse.dropWhile isBlankByte).reverse

/-- The status of a response, and its head fields with lower-case names. -/
structure Head where
  status : Nat
  fields : List (Bytes × Bytes)

/-- All that the fields of a head say under a name. -/
def Head.values (head : Head) (name : String) : List Bytes :=
  (head.fields.filter (·.1 == ascii name)).map Prod.snd

/-- The text must begin with a mark; a text that ends within it has been cut off. -/
def expect (mark : Bytes) (fault : ResponseFault) (text : Bytes) : Except ResponseFault Bytes :=
  if mark.isPrefixOf text then .ok (text.drop mark.length)
  else if text.isPrefixOf mark then .error .closedEarly
  else .error fault

/-- Bytes of the free text on a status line and behind the name of a field. -/
def isReasonByte (b : UInt8) : Bool := b == 0x09 || (0x20 ≤ b && b != 0x7F)

/-- The bytes that names are made of. -/
def isNameByte (b : UInt8) : Bool :=
  isDigitByte b || (0x41 ≤ b && b ≤ 0x5A) || (0x61 ≤ b && b ≤ 0x7A) ||
    [0x21, 0x23, 0x24, 0x25, 0x26, 0x27, 0x2A, 0x2B, 0x2D, 0x2E, 0x5E, 0x5F, 0x60, 0x7C,
      0x7E].contains b

/-- The version at the beginning of a status line, and what follows it. -/
def readVersion (text : Bytes) : Except ResponseFault Bytes := do
  match ← expect (ascii "HTTP/1.") .invalidVersion text with
  | [] => throw .closedEarly
  | minor :: rest =>
    if minor = 0x30 ∨ minor = 0x31 then expect [0x20] .invalidVersion rest
    else throw .invalidVersion

/-- The status code of a status line, and what follows the line. -/
def readStatus (text : Bytes) : Except ResponseFault (Nat × Bytes) := do
  let rest ← readVersion text
  let code := rest.take 3
  if !code.all isDigitByte then throw .invalidStatus
  match splitLine? (rest.drop 3) with
  | none => throw .closedEarly
  | some (reason, rest) =>
    if decimalOf code < 100 || !reason.all isReasonByte || reason.head?.any (· != 0x20) then
      throw .invalidStatus
    return (decimalOf code, rest)

def readField (line : Bytes) : Except ResponseFault (Bytes × Bytes) :=
  let name := line.takeWhile (· != 0x3A)
  let text := line.drop (name.length + 1)
  if name.isEmpty || name.length = line.length || !name.all isNameByte || !text.all isReasonByte then
    .error .invalidHeader
  else .ok (name.map lowerByte, trimBlanks text)

/-- The fields up to the empty line, and what follows it. The number bounds the lines. -/
def readFields : Nat → Bytes → Except ResponseFault (List (Bytes × Bytes) × Bytes)
  | 0, _ => .error .closedEarly
  | fuel + 1, text =>
    match splitLine? text with
    | none => .error .closedEarly
    | some ([], rest) => .ok ([], rest)
    | some (line, rest) => do
      let field ← readField line
      let (fields, rest) ← readFields fuel rest
      return (field :: fields, rest)

/-- A head, and what follows it. Empty lines before it are skipped. -/
def readHead (text : Bytes) : Except ResponseFault (Head × Bytes) := do
  let (status, rest) ← readStatus (text.dropWhile fun b => b == carriageReturn || b == lineFeed)
  let (fields, rest) ← readFields (rest.length + 1) rest
  return (⟨status, fields⟩, rest)

def hexDigit? (b : UInt8) : Option Nat :=
  if isDigitByte b then some (b.toNat - 0x30)
  else if 0x61 ≤ b ∧ b ≤ 0x66 then some (b.toNat - 0x61 + 10)
  else if 0x41 ≤ b ∧ b ≤ 0x46 then some (b.toNat - 0x41 + 10)
  else none

/-- The line of a chunk's size without its end, which is told by both bytes, and what follows it. -/
def splitSizeLine? (text : Bytes) : Option (Bytes × Bytes) :=
  let line := text.takeWhile (· != carriageReturn)
  match text.drop line.length with
  | _ :: b :: rest => if b = lineFeed ∧ !line.contains lineFeed then some (line, rest) else none
  | _ => none

/-- The size of a chunk. Blanks may follow its digits; what follows a semicolon says nothing. -/
def chunkSize? (line : Bytes) : Option Nat :=
  let size := ((line.takeWhile (· != 0x3B)).reverse.dropWhile isBlankByte).reverse
  if size.isEmpty then none
  else size.foldlM (fun n b => (hexDigit? b).map (16 * n + ·)) 0

/-- The bytes of all chunks. The number bounds the chunks. -/
def readChunks : Nat → Bytes → Except ResponseFault Bytes
  | 0, _ => .error .incompleteBody
  | fuel + 1, text =>
    match splitSizeLine? text with
    | none => .error .incompleteBody
    | some (line, rest) =>
      match chunkSize? line with
      | none => .error .incompleteBody
      | some 0 =>
        match readFields (rest.length + 1) rest with
        | .ok _ => .ok []
        | .error _ => .error .incompleteBody
      | some size =>
        if (rest.drop size).take 2 = lineEnd then
          (readChunks fuel (rest.drop (size + 2))).map (rest.take size ++ ·)
        else .error .incompleteBody

/-- Whether a response says that the real one is still to come. -/
def isInterim (status : Nat) : Bool := status < 200 && status != 101

/-- Whether responses with a status have no body, whatever their head says. -/
def isBodiless (status : Nat) : Bool := status == 101 || status == 204 || status == 304

/-- The first head that is not interim. The number bounds the heads. -/
def readFinalHead : Nat → Bytes → Except ResponseFault (Head × Bytes)
  | 0, _ => .error .closedEarly
  | fuel + 1, text => do
    let (head, rest) ← readHead text
    if isInterim head.status then readFinalHead fuel rest else return (head, rest)

/-- Whether the last of the listed encodings is in chunks. -/
def isChunked (encodings : Bytes) : Bool :=
  let last := (encodings.reverse.takeWhile (· != 0x2C)).reverse
  (trimBlanks last).map lowerByte == ascii "chunked"

/-- The number that some digits write. -/
def decimal? (digits : Bytes) : Option Nat :=
  if digits.isEmpty || !digits.all isDigitByte then none else some (decimalOf digits)

/-- The length that is told, which may be told more than once. -/
def contentLength? (values : List Bytes) : Option Nat := do
  match ← (values.flatMap (·.splitOn 0x2C)).mapM (decimal? <| trimBlanks ·) with
  | [] => none
  | length :: others => if others.all (· == length) then some length else none

/-- The body that belongs to a head. -/
def readBody (head : Head) (text : Bytes) : Except ResponseFault Bytes :=
  if isBodiless head.status then .ok []
  else match (head.values "transfer-encoding").getLast?, head.values "content-length" with
    | some encodings, _ =>
      if isChunked encodings then readChunks (text.length + 1) text else .ok text
    | none, [] => .ok text
    | none, values =>
      match contentLength? values with
      | none => .error .invalidLength
      | some length =>
        if text.length < length then .error .incompleteBody else .ok (text.take length)

/-- Whether a fault concerns the response as a whole, so that not even its status is known. -/
def ResponseFault.isEarly (fault : ResponseFault) : Bool := fault != .incompleteBody

/-- The fault as it is told. -/
def ResponseFault.told (fault : ResponseFault) : Fault := ⟨fault.isEarly, fault.message⟩

/-- The response in all that arrived before the connection was closed. -/
def Response.read (text : Bytes) : Except ResponseFault Response := do
  let (head, rest) ← readFinalHead (text.length + 1) text
  let body ← readBody head rest
  return ⟨head.status, body⟩

/-- How the end of a body is told. -/
inductive Framing where
  | length
  /-- Chunks of at most so many bytes, and one more. -/
  | chunked (sizeLessOne : Nat)
  | untilClose
deriving DecidableEq

def hexText (n : Nat) : Bytes := ascii (String.ofList (Nat.toDigits 16 n))

/-- A body in chunks. The first number bounds the chunks. -/
def renderChunks (size : Nat) : Nat → Bytes → Bytes
  | 0, _ => ascii "0" ++ lineEnd ++ lineEnd
  | fuel + 1, body =>
    if body.isEmpty then ascii "0" ++ lineEnd ++ lineEnd
    else
      let chunk := body.take size
      hexText chunk.length ++ lineEnd ++ chunk ++ lineEnd ++ renderChunks size fuel (body.drop size)

/-- A head with one field. -/
def renderHead (status : Nat) (field : Bytes) : Bytes :=
  ascii s!"HTTP/1.1 {statusText status}" ++ lineEnd ++ field ++ lineEnd ++ lineEnd

/-- A response with its body in one of the three ways. -/
def Response.render (framing : Framing) (response : Response) : Bytes :=
  match framing with
  | .length =>
    renderHead response.status (ascii s!"content-length: {response.body.length}") ++ response.body
  | .chunked sizeLessOne =>
    renderHead response.status (ascii "transfer-encoding: chunked") ++
      renderChunks (sizeLessOne + 1) response.body.length response.body
  | .untilClose => renderHead response.status (ascii "connection: close") ++ response.body

end IndexWatch.Http
