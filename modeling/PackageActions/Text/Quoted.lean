import PackageActions.Text.Digit
import PackageActions.Text.Printable

/-!
# Quoted text

Two ways to quote a text. `jsonQuoted` escapes what JSON has to: the quote, the backslash and the control
characters. `visiblyQuoted` is for messages: it also escapes every character without a shape of its own,
by its code point in braces.
-/

namespace PackageActions.Text

/-- The double quote, which both forms put around the text. -/
def quote : Char := '\x22'

/-- Puts quotes around characters. -/
def quoted (body : List Char) : List Char := quote :: body ++ [quote]

/-! ## JSON -/

/-- A character inside a JSON string. -/
def jsonEscape (c : Char) : List Char :=
  if c = quote then ['\\', quote]
  else if c = '\\' then ['\\', '\\']
  else if c = '\x08' then ['\\', 'b']
  else if c = '\t' then ['\\', 't']
  else if c = '\n' then ['\\', 'n']
  else if c = '\x0c' then ['\\', 'f']
  else if c = '\r' then ['\\', 'r']
  else if c.toNat < 0x20 then '\\' :: 'u' :: digitsIn 16 4 c.toNat
  else [c]

/-- The text as a JSON string. -/
def jsonQuoted (text : String) : String :=
  String.ofList (quoted (text.toList.flatMap jsonEscape))

/-! ## Messages -/

/-- A character of a text quoted in a message. -/
def visibleEscape (c : Char) : List Char :=
  if c = quote then ['\\', quote]
  else if c = '\\' then ['\\', '\\']
  else if c = '\x00' then ['\\', '0']
  else if c = '\t' then ['\\', 't']
  else if c = '\n' then ['\\', 'n']
  else if c = '\r' then ['\\', 'r']
  else if isPrintable c then [c]
  else ['\\', 'u', '\x7b'] ++ digitsIn 16 1 c.toNat ++ ['\x7d']

/-- The text as a message shows it. -/
def visiblyQuoted (text : String) : String :=
  String.ofList (quoted (text.toList.flatMap visibleEscape))

end PackageActions.Text
