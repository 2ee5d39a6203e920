/-!
# Escapes of string literals

A backslash in a string literal gives the character after it another meaning. The written form of
a nested text uses three of these escapes, and reading it back gives the text.
-/

namespace TemplateScript

namespace Escape

/-- The character that a backslash and `c` stand for. -/
def decodeChar (c : Char) : Char :=
  match c with
  | 'n' => '\n'
  | 't' => '\t'
  | 'r' => '\r'
  | 'a' => '\x07'
  | 'b' => '\x08'
  | 'f' => '\x0c'
  | 'v' => '\x0b'
  | '0' => '\x00'
  | c => c

/-- A backslash at the end of the text stands for itself. -/
def decode : List Char → List Char
  | [] => []
  | '\\' :: c :: rest => decodeChar c :: decode rest
  | c :: rest => c :: decode rest

/-- The text with `c` replaced wherever it stands. -/
def replaced (c : Char) (replacement text : List Char) : List Char :=
  text.flatMap fun d => if d = c then replacement else [d]

/-- Backslashes are escaped, then double quotes, then line feeds; all else is kept. -/
def encode (text : List Char) : List Char :=
  replaced '\n' ['\\', 'n'] (replaced '"' ['\\', '"'] (replaced '\\' ['\\', '\\'] text))

end Escape

/-- The text in double quotes, as it shows inside a table. -/
def doubleQuoted (text : String) : String :=
  String.ofList (['"'] ++ Escape.encode text.toList ++ ['"'])

/-- The text that the body of a string literal stands for. -/
def unescape (body : String) : String :=
  String.ofList (Escape.decode body.toList)

end TemplateScript
