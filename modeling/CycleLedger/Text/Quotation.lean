import CycleLedger.Text.Shown

/-! # Quoted text in messages

A message quotes a text between double quotes. Backslash and double quote stand behind a backslash,
tab, carriage return, line feed and the null character have a letter, and every other character that
is not shown as itself is written by its code point in hexadecimal braces.
-/

namespace CycleLedger.Text

def quotedChar (c : Char) : List Char :=
  match c with
  | '\t' => ['\\', 't']
  | '\r' => ['\\', 'r']
  | '\n' => ['\\', 'n']
  | '\x00' => ['\\', '0']
  | '\\' => ['\\', '\\']
  | '\x22' => ['\\', '\x22']
  | c =>
    if (0x20 ≤ c.toNat && c.toNat < 0x7F) || isShown c then [c]
    else ['\\', 'u', '{'] ++ Nat.toDigits 16 c.toNat ++ ['}']

def quoted (s : String) : String :=
  String.ofList ('\x22' :: s.toList.flatMap quotedChar ++ ['\x22'])

end CycleLedger.Text
