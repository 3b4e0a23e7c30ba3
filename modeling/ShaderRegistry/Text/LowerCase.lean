/-! # Lower case, as far as it yields ASCII letters

Two characters beyond ASCII have a lower case with an ASCII letter in it. All others
keep out of ASCII, so they may stay as they are wherever the result is compared with an
ASCII word.
-/

namespace ShaderRegistry.Text

/-- The dotted capital I becomes an i and a combining dot, the Kelvin sign a k. -/
def lowerChar (char : Char) : List Char :=
  if char = '\u0130' then ['i', '\u0307']
  else if char = '\u212a' then ['k']
  else [char.toLower]

def lower (text : List Char) : List Char :=
  text.flatMap lowerChar

end ShaderRegistry.Text
