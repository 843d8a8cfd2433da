/-!
Character and string literals of the C family. Text is written byte by byte in its UTF-8 form.
A byte that is not printable ASCII is written as a backslash and three octal digits: an octal
escape never reads a fourth digit, so the next byte cannot be drawn into it. Only the zero byte
has the short form of one digit.
-/

namespace TokenTables

def asciiCount : Nat := 128

def isAscii (code : UInt8) : Bool := code.toNat < asciiCount

def utf8Bytes (text : String) : List UInt8 :=
  text.toList.flatMap String.utf8EncodeChar

def firstNonAscii (text : String) : Option Char :=
  text.toList.find? fun c => asciiCount ≤ c.toNat

namespace Literal

def octalDigit (value : Nat) : Char := Char.ofNat ('0'.toNat + value % 8)

def octalEscape (byte : UInt8) : List Char :=
  ['\\', octalDigit (byte.toNat / 64), octalDigit (byte.toNat / 8), octalDigit byte.toNat]

def escape (quote : Char) (byte : UInt8) : List Char :=
  match Char.ofUInt8 byte with
  | '\\' => ['\\', '\\']
  | '\n' => ['\\', 'n']
  | '\t' => ['\\', 't']
  | '\r' => ['\\', 'r']
  | '\x00' => ['\\', '0']
  | c =>
    if c = quote then ['\\', quote]
    else if byte.toNat < 0x20 ∨ 0x7F ≤ byte.toNat then octalEscape byte
    else [c]

def character (code : UInt8) : String :=
  String.ofList ('\'' :: escape '\'' code ++ ['\''])

def string (text : String) : String :=
  String.ofList ('"' :: (utf8Bytes text).flatMap (escape '"') ++ ['"'])

end Literal

end TokenTables
