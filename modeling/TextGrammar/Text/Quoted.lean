import TextGrammar.Unicode.Category

/-!
Text between double quotes, with every character that a reader could not see or could
mistake written as an escape.
-/

namespace TextGrammar.Text

def codePointEscape (c : Char) : List Char :=
  ['\\', 'u', '\x7b'] ++ Nat.toDigits 16 c.toNat ++ ['\x7d']

/-- One character of a quoted text. The quote and the backslash take a backslash, a few
controls have letters, and what is unprintable or joins the character before it is given
by number. -/
def quotedChar (c : Char) : List Char :=
  if c = '"' then ['\\', '"']
  else if c = '\\' then ['\\', '\\']
  else if c = '\n' then ['\\', 'n']
  else if c = '\r' then ['\\', 'r']
  else if c = '\t' then ['\\', 't']
  else if c = '\x00' then ['\\', '0']
  else if Unicode.isPrintable c && !Unicode.extendsGrapheme c then [c]
  else codePointEscape c

def quoted (text : List Char) : String :=
  String.ofList ('"' :: text.flatMap quotedChar ++ ['"'])

end TextGrammar.Text
