import ScreenScript.Text.Hidden

/-!
Quoted text: the surrounding quote and the backslash are escaped, as is every hidden character.
-/

namespace ScreenScript.Text

def hex (n : Nat) : List Char :=
  Nat.toDigits 16 n

def escaped (q c : Char) : List Char :=
  if c = '\x00' then ['\\', '0']
  else if c = '\t' then ['\\', 't']
  else if c = '\r' then ['\\', 'r']
  else if c = '\n' then ['\\', 'n']
  else if c = '\\' ∨ c = q then ['\\', c]
  else if isHidden c then ['\\', 'u', '\x7b'] ++ hex c.toNat ++ ['\x7d']
  else [c]

def quotedChars (q : Char) (s : List Char) : List Char :=
  q :: s.flatMap (escaped q) ++ [q]

def quoted (s : String) : String :=
  String.ofList (quotedChars '"' s.toList)

def quotedChar (c : Char) : String :=
  String.ofList (quotedChars '\'' [c])

end ScreenScript.Text
