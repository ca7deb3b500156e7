import IndexWatch.Base64
import IndexWatch.Text.Quoted
import IndexWatch.Text.Utf8

/-! Sections of text with a label, as keys and certificates are kept in.

A section runs from a line that begins with `-----BEGIN ` to the line that ends it; text between
sections is ignored. Sections with a label that nobody asks for are skipped without being decoded. -/

namespace IndexWatch.Credentials.Pem

/-- The labels of sections that are decoded. -/
inductive Label where
  | certificate
  | publicKey
  | rsaPrivateKey
  | privateKey
  | ecPrivateKey
  | revocationList
  | signingRequest
deriving DecidableEq

def Label.text : Label → String
  | certificate => "CERTIFICATE"
  | publicKey => "PUBLIC KEY"
  | rsaPrivateKey => "RSA PRIVATE KEY"
  | privateKey => "PRIVATE KEY"
  | ecPrivateKey => "EC PRIVATE KEY"
  | revocationList => "X509 CRL"
  | signingRequest => "CERTIFICATE REQUEST"

def Label.all : List Label :=
  [.certificate, .publicKey, .rsaPrivateKey, .privateKey, .ecPrivateKey, .revocationList,
    .signingRequest]

def Label.ofBytes? (bytes : List UInt8) : Option Label :=
  Label.all.find? (·.text.toUTF8.toList == bytes)

structure Section where
  label : Label
  contents : List UInt8
deriving DecidableEq

inductive Fault where
  | illegalStart (line : List UInt8)
  | missingEnd (label : List UInt8)
  | invalidCharacter (symbol : UInt8)
  | prematurePadding
  | invalidTrailingPadding
deriving DecidableEq

def Fault.message : Fault → String
  | illegalStart line => "illegal section start: " ++ Text.quote (Text.Utf8.decodeLossy line)
  | missingEnd label => s!"section end {Text.quote (Text.Utf8.decodeLossy label)} missing"
  | invalidCharacter symbol => s!"InvalidCharacter({symbol})"
  | prematurePadding => "PrematurePadding"
  | invalidTrailingPadding => "InvalidTrailingPadding"

/-! ### Contents -/

def isBlank (b : UInt8) : Bool := (9 ≤ b && b ≤ 13) || b == 0x20

/-- What a character stands for: six bits, or nothing where it is padding. -/
def readSymbol (b : UInt8) : Except Fault (Option Nat) :=
  if b = Base64.padding then .ok none
  else match Base64.value? b with
    | some bits => .ok (some bits)
    | none => .error (.invalidCharacter b)

/-- The bytes of six-bit values, with what is left of the last group. -/
def packValues : List Nat → List UInt8
  | a :: b :: c :: d :: rest => Base64.threeBytes a b c d ++ packValues rest
  | [a, b, c] => (Base64.threeBytes a b c 0).take 2
  | [a, b] => (Base64.threeBytes a b 0 0).take 1
  | _ => []

/-- Whether the last characters of a section, at most four, end it well. Their padding may be left
out. -/
def isTail : List (Option Nat) → Bool
  | [] => true
  | [some _, some _] | [some _, some _, none, none] => true
  | [some _, some _, some _] | [some _, some _, some _, none] => true
  | [some _, some _, some _, some _] => true
  | _ => false

/-- The bytes of the last block. Where it has more than four characters, none of the first four is
padding. -/
def decodeLast (block : List (Option Nat)) : Except Fault (List UInt8) :=
  let front := if block.length > 4 then block.take 4 else []
  if front.any Option.isNone then .error .prematurePadding
  else if isTail (block.drop front.length) then .ok (packValues (block.filterMap id))
  else .error .invalidTrailingPadding

/-- The bytes of a text in blocks of eight characters, of which only the last one holds padding.
`block` holds the characters of the block so far, `done` the bytes before it, the last one first. -/
def decodeBlocks (done : List UInt8) (block : List (Option Nat)) :
    List UInt8 → Except Fault (List UInt8)
  | [] => (decodeLast block).map (done.reverse ++ ·)
  | b :: rest => do
    let symbol ← readSymbol b
    if block.length < 8 then decodeBlocks done (block ++ [symbol]) rest
    else if block.any Option.isNone then .error .prematurePadding
    else decodeBlocks ((packValues (block.filterMap id)).reverse ++ done) [symbol] rest

/-- The bytes of a section; white space in it is skipped. -/
def decodeContents (text : List UInt8) : Except Fault (List UInt8) :=
  decodeBlocks [] [] (text.filter (!isBlank ·))

/-! ### Sections -/

def isLineEnd (b : UInt8) : Bool := b == 0x0A || b == 0x0D

/-- The lines of a text, each with the one character that ends it; `line` holds the bytes of the line
so far, the last one first. -/
def linesFrom (line : List UInt8) : List UInt8 → List (List UInt8)
  | [] => if line.isEmpty then [] else [line.reverse]
  | b :: rest =>
    if isLineEnd b then (b :: line).reverse :: linesFrom [] rest else linesFrom (b :: line) rest

def lines (text : List UInt8) : List (List UInt8) := linesFrom [] text

def beginMark : List UInt8 := "-----BEGIN ".toUTF8.toList

def endMark (label : List UInt8) : List UInt8 :=
  "-----END ".toUTF8.toList ++ label ++ "-----".toUTF8.toList

def dash : UInt8 := 0x2D

/-- The dashes at the end of a line, read backwards over line ends and spaces, and what comes before
the first of them. -/
def splitDashes (line : List UInt8) : Nat × List UInt8 :=
  let skipped (b : UInt8) : Bool := b == dash || isLineEnd b || b == 0x20
  let tail := line.reverse.takeWhile skipped
  let beforeTail := line.length - tail.length
  let keep := match (tail.reverse.findIdx? (· == dash)) with
    | some i => beforeTail + i
    | none => line.length
  (tail.count dash, line.take keep)

/-- The label of a line that begins a section, which ends in five dashes. -/
def readStart (line : List UInt8) : Except Fault (List UInt8) :=
  let (dashes, kept) := splitDashes line
  if dashes = 5 then .ok (kept.drop beginMark.length) else .error (.illegalStart line)

/-- The section that is open: its label, and its text so far, the last line first. Text stays when
another section begins before this one ends. -/
structure Open where
  label : List UInt8
  text : List (List UInt8)

/-- The decoded sections of some lines, in order, with the fault that ended the reading. -/
def sectionsFrom (current : Option Open) : List (List UInt8) → List Section × Option Fault
  | [] => match current with
    | some o => ([], some (.missingEnd o.label))
    | none => ([], none)
  | line :: rest =>
    if beginMark.isPrefixOf line then
      match readStart line with
      | .error fault => ([], some fault)
      | .ok label => sectionsFrom (some ⟨label, (current.map Open.text).getD []⟩) rest
    else match current with
      | none => sectionsFrom none rest
      | some o =>
        if (endMark o.label).isPrefixOf line then
          match Label.ofBytes? o.label with
          | none => sectionsFrom none rest
          | some label =>
            match decodeContents o.text.reverse.flatten with
            | .error fault => ([], some fault)
            | .ok contents =>
              let (sections, fault) := sectionsFrom none rest
              (⟨label, contents⟩ :: sections, fault)
        else sectionsFrom (some ⟨o.label, line :: o.text⟩) rest

/-- The sections of a text up to the first fault, and that fault. -/
def sections (text : List UInt8) : List Section × Option Fault := sectionsFrom none (lines text)

/-- The certificates of a text, all of whose sections must be well formed. -/
def certificates (text : List UInt8) : Except Fault (List (List UInt8)) :=
  match sections text with
  | (_, some fault) => .error fault
  | (sections, none) => .ok ((sections.filter (·.label == .certificate)).map Section.contents)

def Label.isPrivateKey (label : Label) : Bool :=
  label == .rsaPrivateKey || label == .privateKey || label == .ecPrivateKey

/-- The first private key of a text. What comes after it is not looked at. -/
def privateKey? (text : List UInt8) : Except Fault (Option Section) :=
  match sections text with
  | (sections, fault) =>
    match sections.find? (·.label.isPrivateKey), fault with
    | some key, _ => .ok (some key)
    | none, some fault => .error fault
    | none, none => .ok none

end IndexWatch.Credentials.Pem
