import Switchboard.Url.Ipv4

/-!
# Texts of a TOML document

Blanks, line ends, comments, and the four kinds of quoted text. Every reader takes the characters
from where it stands and gives back what it read with the rest of the document, or nothing if what
it looks for does not stand there.

A line ends with a line feed, alone or after a carriage return; inside quoted text of several lines
either is read as a line feed. No text holds a control character other than the tab.
-/

namespace Switchboard.Toml

/-- What a reader gives back: a value and the rest of the document. -/
abbrev Read (α : Type) := Option (α × List Char)

/-- The rest of a document after its leading blanks. -/
def skipBlanks : List Char → List Char
  | ' ' :: cs => skipBlanks cs
  | '\t' :: cs => skipBlanks cs
  | cs => cs

/-- Whether a character may stand in a comment or a quoted text. -/
def isPrintable (c : Char) : Bool :=
  c = '\t' || (0x20 ≤ c.toNat && c.toNat ≠ 0x7F)

/-- **Reading to the end of a line**, over blanks and a comment. -/
def lineEnd (cs : List Char) : Option (List Char) :=
  let afterComment := match skipBlanks cs with
    | '#' :: cs => cs.dropWhile isPrintable
    | cs => cs
  match afterComment with
  | [] => some []
  | '\n' :: cs => some cs
  | '\r' :: '\n' :: cs => some cs
  | _ => none

/-- The rest of a document after blanks, line ends and comments, as they may stand between the items
of an array. Nothing if a comment holds a control character. -/
def skipFiller (inComment : Bool) : List Char → Option (List Char)
  | [] => some []
  | '\r' :: '\n' :: cs => skipFiller false cs
  | '\n' :: cs => skipFiller false cs
  | c :: cs =>
    if inComment then if isPrintable c then skipFiller true cs else none
    else if c = '#' then skipFiller true cs
    else if c = ' ' ∨ c = '\t' then skipFiller false cs
    else some (c :: cs)

/-! ## Escapes -/

/-- The character of a code point given by hexadecimal digits. -/
def charOfHex? (digits : List Char) : Option Char :=
  match digits? 16 digits with
  | some n => if n < 0xD800 ∨ (0xDFFF < n ∧ n < 0x110000) then some (Char.ofNat n) else none
  | none => none

/-- The character that a one-letter escape stands for. -/
def escaped? : Char → Option Char
  | 'b' => some '\x08'
  | 't' => some '\t'
  | 'n' => some '\n'
  | 'f' => some '\x0c'
  | 'r' => some '\r'
  | '"' => some '"'
  | '\\' => some '\\'
  | _ => none

/-- **Reading an escape** after its backslash. -/
def escape : List Char → Read Char
  | 'u' :: a :: b :: c :: d :: cs => (charOfHex? [a, b, c, d]).map (·, cs)
  | 'U' :: a :: b :: c :: d :: e :: f :: g :: h :: cs =>
    (charOfHex? [a, b, c, d, e, f, g, h]).map (·, cs)
  | c :: cs => (escaped? c).map (·, cs)
  | [] => none

/-- Reading an escape leaves less to read. -/
theorem escape_lt {cs rest : List Char} {c : Char} (h : escape cs = some (c, rest)) :
    rest.length < cs.length := by
  unfold escape at h
  split at h <;> simp at h <;> obtain ⟨_, _, _, rfl⟩ := h <;> simp <;> omega

/-! ## Quoted texts -/

/-- Reads a text in double quotes, after the opening one. -/
def basic (cs : List Char) : Read (List Char) :=
  match cs with
  | [] => none
  | '"' :: cs => some ([], cs)
  | '\\' :: cs =>
    match h : escape cs with
    | some (c, rest) =>
      have : rest.length < cs.length := escape_lt h
      (basic rest).map fun p => (c :: p.1, p.2)
    | none => none
  | c :: cs => if isPrintable c then (basic cs).map fun p => (c :: p.1, p.2) else none
termination_by cs.length
decreasing_by all_goals simp_all <;> omega

/-- Reads a text in single quotes, after the opening one. -/
def literal : List Char → Read (List Char)
  | [] => none
  | '\'' :: cs => some ([], cs)
  | c :: cs => if isPrintable c then (literal cs).map fun p => (c :: p.1, p.2) else none

/-- The document after one line end. -/
def afterNewline? : List Char → Option (List Char)
  | '\n' :: cs => some cs
  | '\r' :: '\n' :: cs => some cs
  | _ => none

/-- The document after an opening of several lines, which a line end may follow. -/
def dropNewline (cs : List Char) : List Char :=
  (afterNewline? cs).getD cs

/-- The document after blanks and line ends. -/
def skipSpace : List Char → List Char
  | ' ' :: cs => skipSpace cs
  | '\t' :: cs => skipSpace cs
  | '\n' :: cs => skipSpace cs
  | '\r' :: '\n' :: cs => skipSpace cs
  | cs => cs

/-- The quotes that still belong to a text of several lines, when its three closing quotes have been
met: up to two. -/
def closingQuotes (q : Char) : List Char → List Char × List Char
  | a :: b :: cs =>
    if a ≠ q then ([], a :: b :: cs) else if b = q then ([q, q], cs) else ([q], b :: cs)
  | [a] => if a = q then ([q], []) else ([], [a])
  | [] => ([], [])

/-- Skipping blanks leaves no more to read. -/
theorem skipBlanks_le (cs : List Char) : (skipBlanks cs).length ≤ cs.length := by
  fun_induction skipBlanks cs <;> simp <;> omega

/-- Skipping blanks and line ends leaves no more to read. -/
theorem skipSpace_le (cs : List Char) : (skipSpace cs).length ≤ cs.length := by
  fun_induction skipSpace cs <;> simp <;> omega

/-- A line end takes something. -/
theorem afterNewline?_lt {cs rest : List Char} (h : afterNewline? cs = some rest) :
    rest.length < cs.length := by
  unfold afterNewline? at h
  split at h <;> simp at h <;> subst h <;> simp only [List.length_cons] <;> omega

/-- Reads a text of several lines in double quotes, after the opening three. A backslash at the end
of a line takes all blanks and line ends after it away. -/
def basicLines (cs : List Char) : Read (List Char) :=
  match cs with
  | [] => none
  | '"' :: '"' :: '"' :: cs => some (closingQuotes '"' cs)
  | '\\' :: cs =>
    match h : escape cs with
    | some (c, rest) =>
      have : rest.length < cs.length := escape_lt h
      (basicLines rest).map fun p => (c :: p.1, p.2)
    | none =>
      match h : afterNewline? (skipBlanks cs) with
      | some rest =>
        have : (skipSpace rest).length < cs.length + 1 := by
          have h₁ := skipSpace_le rest
          have h₂ := afterNewline?_lt h
          have h₃ := skipBlanks_le cs
          omega
        basicLines (skipSpace rest)
      | none => none
  | '\r' :: '\n' :: cs => (basicLines cs).map fun p => ('\n' :: p.1, p.2)
  | '\n' :: cs => (basicLines cs).map fun p => ('\n' :: p.1, p.2)
  | c :: cs => if isPrintable c then (basicLines cs).map fun p => (c :: p.1, p.2) else none
termination_by cs.length
decreasing_by all_goals simp_all <;> omega

/-- Reads a text of several lines in single quotes, after the opening three. -/
def literalLines : List Char → Read (List Char)
  | [] => none
  | '\'' :: '\'' :: '\'' :: cs => some (closingQuotes '\'' cs)
  | '\r' :: '\n' :: cs => (literalLines cs).map fun p => ('\n' :: p.1, p.2)
  | '\n' :: cs => (literalLines cs).map fun p => ('\n' :: p.1, p.2)
  | c :: cs => if isPrintable c then (literalLines cs).map fun p => (c :: p.1, p.2) else none

/-- **Reading a quoted text** of any kind. -/
def quoted : List Char → Read (List Char)
  | '"' :: '"' :: '"' :: cs => basicLines (dropNewline cs)
  | '\'' :: '\'' :: '\'' :: cs => literalLines (dropNewline cs)
  | '"' :: cs => basic cs
  | '\'' :: cs => literal cs
  | _ => none

/-- Whether a character may stand in a key without quotes. -/
def isBareKeyChar (c : Char) : Bool :=
  c.isAlphanum || c = '_' || c = '-'

/-- **Reading one part of a key**, quoted on one line or bare. -/
def keyPart : List Char → Read (List Char)
  | '"' :: cs => basic cs
  | '\'' :: cs => literal cs
  | cs =>
    let name := cs.takeWhile isBareKeyChar
    if name = [] then none else some (name, cs.drop name.length)

end Switchboard.Toml
