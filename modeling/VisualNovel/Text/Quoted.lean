import VisualNovel.Text.CodePoint
import VisualNovel.Text.Printable

/-!
# Quoted text

Text inside a message is shown between quotes: single ones, unless the text holds a single quote and
no double one. A backslash, the quote in use, and the line feed, carriage return and tab are escaped
with a backslash, every other hidden character and every half of a surrogate pair by its code point in
hexadecimal.
-/

namespace VisualNovel.Text

/-- The hexadecimal digits of `n`, lower case, filled up with zeros to `width`. -/
def hex (width n : Nat) : List Char :=
  let digits := Nat.toDigits 16 n
  List.replicate (width - digits.length) '0' ++ digits

/-- The quote around a text. -/
def quoteFor (text : Text) : Char :=
  if text.points.contains (.char '\x27') && !text.points.contains (.char '"') then '"' else '\x27'

/-- One character of a quoted text. -/
def quotedChar (quote c : Char) : List Char :=
  if c = '\\' || c = quote then ['\\', c]
  else if c = '\n' then ['\\', 'n']
  else if c = '\r' then ['\\', 'r']
  else if c = '\t' then ['\\', 't']
  else if isPrintable c then [c]
  else if c.toNat < 0x100 then '\\' :: 'x' :: hex 2 c.toNat
  else if c.toNat < 0x10000 then '\\' :: 'u' :: hex 4 c.toNat
  else '\\' :: 'U' :: hex 8 c.toNat

/-- One code point of a quoted text. -/
def quotedPoint (quote : Char) (point : CodePoint) : List Char :=
  match point with
  | .char c => quotedChar quote c
  | .half _ => '\\' :: 'u' :: hex 4 point.toNat

/-- The text between quotes. -/
def literal (text : Text) : String :=
  let quote := quoteFor text
  String.ofList (quote :: (text.points.flatMap (quotedPoint quote) ++ [quote]))

/-- A string between quotes. -/
def quoted (s : String) : String :=
  (ofString s).literal

end VisualNovel.Text
