import MetricCourier.Text.Extending
import MetricCourier.Text.Hexadecimal
import MetricCourier.Text.Ignorable
import MetricCourier.Text.Unprintable

/-!
# Quoted text

Log messages and descriptions quote the text they are about, so that its ends show and nothing in
it is invisible. The quoted form stands in double quotes; a quote, a backslash and the common
control characters are written with a backslash, any other character that is unprintable, shows
nothing or would attach to its neighbour is written by its number in hexadecimal, and the rest
stands as it is. An apostrophe is no quote and stays.
-/

namespace MetricCourier.Quoted

/-- How one character is written inside the quotes. -/
def escape (c : Char) : List Char :=
  if c = '"' then ['\\', '"']
  else if c = '\\' then ['\\', '\\']
  else if c = '\n' then ['\\', 'n']
  else if c = '\r' then ['\\', 'r']
  else if c = '\t' then ['\\', 't']
  else if c.toNat = 0 then ['\\', '0']
  else if Extending.isExtending c || Ignorable.isIgnorable c || Unprintable.isUnprintable c then
    ['\\', 'u', '{'] ++ Hexadecimal.digits c.toNat ++ ['}']
  else [c]

/-- The quoted form of a text. -/
def quote (s : String) : String :=
  String.ofList ('"' :: s.toList.flatMap escape ++ ['"'])

end MetricCourier.Quoted
