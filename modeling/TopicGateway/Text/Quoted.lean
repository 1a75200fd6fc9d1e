import TopicGateway.Text.Printable

/-! Quoted text in messages. A text between double quotes as messages show it: the usual backslash
escapes, and a number in braces for a character that could not be seen or would join the one before
it. -/

namespace TopicGateway.Text

def hexDigits (n : Nat) : List Char :=
  Nat.toDigits 16 n

def numbered (c : Char) : List Char :=
  ['\\', 'u', '\x7b'] ++ hexDigits c.toNat ++ ['\x7d']

def quotedChar (c : Char) : List Char :=
  if c = '\x00' then ['\\', '0']
  else if c = '\t' then ['\\', 't']
  else if c = '\r' then ['\\', 'r']
  else if c = '\n' then ['\\', 'n']
  else if c = '"' then ['\\', '"']
  else if c = '\\' then ['\\', '\\']
  else if 0x20 ≤ c.toNat ∧ c.toNat < 0x7f then [c]
  else if inRanges extending c.toNat || inRanges unprintable c.toNat then numbered c
  else [c]

def quoted (s : String) : String :=
  String.ofList ('"' :: (s.toList.flatMap quotedChar ++ ['"']))

end TopicGateway.Text
