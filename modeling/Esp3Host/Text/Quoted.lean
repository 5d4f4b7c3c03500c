import Esp3Host.Text.Shown

/-!
# Quoted text

A text between double quotes on one line: quotes, backslashes and the usual controls behind a
backslash, and every other character that does not show by its number.
-/

namespace Esp3Host.Text.Quoted

def encodeChar (c : Char) : List Char :=
  match c with
  | '\x00' => ['\\', '0']
  | '\t' => ['\\', 't']
  | '\n' => ['\\', 'n']
  | '\r' => ['\\', 'r']
  | '\\' => ['\\', '\\']
  | '"' => ['\\', '"']
  | c => if isShown c then [c] else ['\\', 'u', '\x7b'] ++ Nat.toDigits 16 c.toNat ++ ['\x7d']

def encode (text : String) : String :=
  String.ofList ('"' :: text.toList.flatMap encodeChar ++ ['"'])

end Esp3Host.Text.Quoted
