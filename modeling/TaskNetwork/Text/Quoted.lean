import TaskNetwork.Text.CharacterClass

/-!
# Strings quoted for a message

A string in a message is put into quotes, with an escape for every character that a reader could not
see or tell apart: quotes, backslashes, line ends, and whatever is invisible or attaches to its
neighbour.
-/

namespace TaskNetwork

namespace Text

def quotedChar (c : Char) : List Char :=
  if c = '\x00' then ['\\', '0']
  else if c = '\t' then ['\\', 't']
  else if c = '\r' then ['\\', 'r']
  else if c = '\n' then ['\\', 'n']
  else if c = '"' then ['\\', '"']
  else if c = '\\' then ['\\', '\\']
  else if isExtending c || isInvisible c then
    "\\u\x7b".toList ++ Nat.toDigits 16 c.toNat ++ ['\x7d']
  else [c]

def quoted (s : String) : String := String.ofList ('"' :: s.toList.flatMap quotedChar ++ ['"'])

end Text

end TaskNetwork
