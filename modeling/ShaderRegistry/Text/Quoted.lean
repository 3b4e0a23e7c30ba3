import ShaderRegistry.Text.Printable

/-! # Quoted texts

A text between quotes, such that each of its characters shows. Single quotes are used
unless the text has a single quote and no double quote in it.
-/

namespace ShaderRegistry.Text

def quoteOf (text : List Char) : Char :=
  if '\'' ∈ text ∧ '"' ∉ text then '"' else '\''

/-- The hexadecimal digits of a code point, with zeros before them up to a width. -/
def hexadecimal (width code : Nat) : List Char :=
  (Nat.toDigits 16 code).leftpad width '0'

/-- A character that does not show, by its code point in two, four or eight digits. -/
def codeEscape (char : Char) : List Char :=
  let code := char.toNat
  if code < 0x100 then '\\' :: 'x' :: hexadecimal 2 code
  else if code < 0x10000 then '\\' :: 'u' :: hexadecimal 4 code
  else '\\' :: 'U' :: hexadecimal 8 code

/-- How a character is written between these quotes. -/
def escapeChar (quote char : Char) : List Char :=
  if char = quote ∨ char = '\\' then ['\\', char]
  else if char = '\t' then ['\\', 't']
  else if char = '\n' then ['\\', 'n']
  else if char = '\r' then ['\\', 'r']
  else if isPrintable char then [char]
  else codeEscape char

def quoted (text : String) : String :=
  let quote := quoteOf text.toList
  String.ofList (quote :: text.toList.flatMap (escapeChar quote) ++ [quote])

end ShaderRegistry.Text
