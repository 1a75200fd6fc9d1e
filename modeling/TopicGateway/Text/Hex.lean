/-! Hexadecimal digits. A digit is a number below 16; it is written in lower case and read in either
case. -/

namespace TopicGateway.Text

def hexChars : List Char :=
  ['0', '1', '2', '3', '4', '5', '6', '7', '8', '9', 'a', 'b', 'c', 'd', 'e', 'f']

def hexChar (d : Fin 16) : Char :=
  hexChars.getD d.val '0'

def hexDigit? (c : Char) : Option (Fin 16) :=
  let n := c.toNat
  if n < 0x30 then none
  else if h : n < 0x3a then some ⟨n - 0x30, by omega⟩
  else if n < 0x41 then none
  else if h : n < 0x47 then some ⟨n - 0x37, by omega⟩
  else if n < 0x61 then none
  else if h : n < 0x67 then some ⟨n - 0x57, by omega⟩
  else none

theorem hexDigit?_hexChar (d : Fin 16) : hexDigit? (hexChar d) = some d := by
  revert d
  decide

end TopicGateway.Text
