import IndexWatch.Text.Unprintable
import IndexWatch.Text.Combining

/-! Texts in double quotes, as error messages show them.

`quote` escapes the quote and the backslash, names the usual control characters, and writes every
other character that cannot be seen on its own by its code point, as in `"a\u{301}"`. -/

namespace IndexWatch.Text

/-- The lower-case hexadecimal digits of a number. -/
def hexDigits (n : Nat) : List Char := Nat.toDigits 16 n

/-- ASCII needs no table; beyond it, what is combining or unprintable is written by number. -/
def needsNumber (c : Char) : Bool :=
  if c.toNat < 0x7F then c.toNat < 0x20 else isCombining c || isUnprintable c

def quoteChar (c : Char) : List Char :=
  match c with
  | '\x00' => ['\\', '0']
  | '\t' => ['\\', 't']
  | '\n' => ['\\', 'n']
  | '\r' => ['\\', 'r']
  | '"' => ['\\', '"']
  | '\\' => ['\\', '\\']
  | c => if needsNumber c then ['\\', 'u', '\x7b'] ++ hexDigits c.toNat ++ ['\x7d'] else [c]

/-- A text in double quotes. -/
def quote (s : String) : String :=
  String.ofList ('"' :: s.toList.flatMap quoteChar ++ ['"'])

end IndexWatch.Text
