import DeviceAuth.Number.Decimal
import DeviceAuth.Text.Hexadecimal
import DeviceAuth.Text.Printable

/-! Quoted text, as it appears in messages. The text stands between double
quotes; a quote and a backslash are preceded by a backslash, four controls have
letters of their own, and every other character that is not shown as itself is
written by its code point. -/

namespace DeviceAuth

namespace Text

namespace Quoted

def hexadecimal (number : Nat) : List Char :=
  if number < 16 then [Hexadecimal.digit .lower number]
  else hexadecimal (number / 16) ++ [Hexadecimal.digit .lower (number % 16)]

def byCode (character : Char) : List Char :=
  ['\\', 'u', '\x7b'] ++ hexadecimal character.toNat ++ ['\x7d']

def escape (character : Char) : List Char :=
  if character = '"' then ['\\', '"']
  else if character = '\\' then ['\\', '\\']
  else if character = '\t' then ['\\', 't']
  else if character = '\r' then ['\\', 'r']
  else if character = '\n' then ['\\', 'n']
  else if character = '\x00' then ['\\', '0']
  else if isShown character then [character]
  else byCode character

def encode (text : String) : String :=
  String.ofList ('"' :: text.toList.flatMap escape ++ ['"'])

def encodeOption : Option String → String
  | some text => "Some(" ++ encode text ++ ")"
  | none => "None"

end Quoted

end Text

end DeviceAuth
