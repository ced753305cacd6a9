import PostfixCalculator.Text.Printable

/-!
# Quoted text

A text in double quotes, in which a quote, a backslash and every hidden
character is written as an escape. Short escapes exist for the null character,
the tabulator and the line ends; any other hidden character is written by its
code point in hexadecimal.
-/

namespace PostfixCalculator
namespace Text

/-- A character by its code point, in lower-case hexadecimal digits between
braces. -/
def codePointEscape (character : Char) : List Char :=
  ['\\', 'u', '\x7b'] ++ Nat.toDigits 16 character.toNat ++ ['\x7d']

/-- A character as it stands between quotes. -/
def escape (character : Char) : List Char :=
  if character = '\x00' then ['\\', '0']
  else if character = '\t' then ['\\', 't']
  else if character = '\r' then ['\\', 'r']
  else if character = '\n' then ['\\', 'n']
  else if character = '"' then ['\\', '"']
  else if character = '\\' then ['\\', '\\']
  else if isPrintable character then [character]
  else codePointEscape character

/-- A text in double quotes. -/
def quote (text : String) : String :=
  String.ofList ('"' :: text.toList.flatMap escape ++ ['"'])

end Text
end PostfixCalculator
