import Blueprint.Text.Hexadecimal
import Blueprint.Text.Hidden

/-!
Text in quotes, as messages show it: quotes and backslashes are escaped, and characters that do not
show are written by their code.
-/

namespace Blueprint.Text

def quotedChar (c : Char) : List Char :=
  match c with
  | '"' => ['\\','"']
  | '\\' => ['\\','\\']
  | '\n' => ['\\','n']
  | '\r' => ['\\','r']
  | '\t' => ['\\','t']
  | '\x00' => ['\\','0']
  | c =>
    if isHidden c then ['\\','u','\x7b'] ++ hexChars c.toNat ++ ['\x7d'] else [c]

def quoted (s : String) : String :=
  String.ofList ('"' :: s.toList.flatMap quotedChar ++ ['"'])

end Blueprint.Text
