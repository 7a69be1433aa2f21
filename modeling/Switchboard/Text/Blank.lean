/-!
# Blank characters

The characters of the Unicode property White_Space. A text is blank when it holds no other
characters; trimming takes them away at both ends.
-/

namespace Switchboard.Text

/-- **The characters of White_Space.** -/
def blanks : List Char :=
  ['\t', '\n', '\x0b', '\x0c', '\r', ' ', '\u0085', '\u00a0', '\u1680', '\u2000', '\u2001',
    '\u2002', '\u2003', '\u2004', '\u2005', '\u2006', '\u2007', '\u2008', '\u2009', '\u200a',
    '\u2028', '\u2029', '\u202f', '\u205f', '\u3000']

/-- Whether a text holds nothing but blank characters. -/
def isBlank (s : String) : Bool :=
  s.toList.all blanks.contains

end Switchboard.Text
