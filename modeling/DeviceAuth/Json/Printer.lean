import DeviceAuth.Json.Value
import DeviceAuth.Number.Shortest
import DeviceAuth.Text.Hexadecimal

/-! The compact form of a JSON value: no space between its parts, members in the
order of the value, and only what has to be escaped is escaped. -/

namespace DeviceAuth

namespace Json

def escapeCharacter (character : Char) : List Char :=
  if character = '"' then ['\\', '"']
  else if character = '\\' then ['\\', '\\']
  else if character = '\x08' then ['\\', 'b']
  else if character = '\x0c' then ['\\', 'f']
  else if character = '\n' then ['\\', 'n']
  else if character = '\r' then ['\\', 'r']
  else if character = '\t' then ['\\', 't']
  else if character.toNat < 0x20 then
    ['\\', 'u', '0', '0'] ++ Hexadecimal.ofOctet .lower (UInt8.ofNat character.toNat)
  else [character]

def stringCharacters (text : String) : List Char :=
  '"' :: text.toList.flatMap escapeCharacter ++ ['"']

def numberCharacters : Number → List Char
  | .whole value => Decimal.signedCharacters value
  | .real value => value.characters

mutual

def Value.characters : Value → List Char
  | .null => ['n', 'u', 'l', 'l']
  | .boolean true => ['t', 'r', 'u', 'e']
  | .boolean false => ['f', 'a', 'l', 's', 'e']
  | .number value => numberCharacters value
  | .string text => stringCharacters text
  | .array [] => ['[', ']']
  | .array (item :: rest) => '[' :: item.characters ++ itemsCharacters rest
  | .object [] => ['\x7b', '\x7d']
  | .object ((name, value) :: rest) =>
      '\x7b' :: stringCharacters name ++ ':' :: value.characters ++ membersCharacters rest

def itemsCharacters : List Value → List Char
  | [] => [']']
  | item :: rest => ',' :: item.characters ++ itemsCharacters rest

def membersCharacters : List (String × Value) → List Char
  | [] => ['\x7d']
  | (name, value) :: rest =>
      ',' :: stringCharacters name ++ ':' :: value.characters ++ membersCharacters rest

end

def Value.text (value : Value) : String := String.ofList value.characters

def Value.octets (value : Value) : Octets := Octets.ofText value.text

example : (Value.array [.null, .string "a\n"]).text = "[null,\"a\\n\"]" := by decide

end Json

end DeviceAuth
