/-!
# Names in code page 437

Archives that do not say otherwise hold their names in code page 437: ASCII in the lower
half, accented letters, drawing elements and Greek letters in the upper half.
-/

namespace Enhance.Text

/-- The characters of the upper half in order. -/
def upperHalf437 : Array Char := #[
  'Ç', 'ü', 'é', 'â', 'ä', 'à', 'å', 'ç', 'ê', 'ë', 'è', 'ï', 'î', 'ì', 'Ä', 'Å', 'É', 'æ',
  'Æ', 'ô', 'ö', 'ò', 'û', 'ù', 'ÿ', 'Ö', 'Ü', '¢', '£', '¥', '₧', 'ƒ', 'á', 'í', 'ó', 'ú',
  'ñ', 'Ñ', 'ª', 'º', '¿', '⌐', '¬', '½', '¼', '¡', '«', '»', '░', '▒', '▓', '│', '┤', '╡',
  '╢', '╖', '╕', '╣', '║', '╗', '╝', '╜', '╛', '┐', '└', '┴', '┬', '├', '─', '┼', '╞', '╟',
  '╚', '╔', '╩', '╦', '╠', '═', '╬', '╧', '╨', '╤', '╥', '╙', '╘', '╒', '╓', '╫', '╪', '┘',
  '┌', '█', '▄', '▌', '▐', '▀', 'α', 'ß', 'Γ', 'π', 'Σ', 'σ', 'µ', 'τ', 'Φ', 'Θ', 'Ω', 'δ',
  '∞', 'φ', 'ε', '∩', '≡', '±', '≥', '≤', '⌠', '⌡', '÷', '≈', '°', '∙', '·', '√', 'ⁿ', '²',
  '■', '\u00a0']

/-- The character of a byte. -/
def charOf437 (byte : UInt8) : Char :=
  if byte.toNat < 128 then Char.ofNat byte.toNat
  else upperHalf437.getD (byte.toNat - 128) ' '

/-- The text of bytes in code page 437. -/
def decode437 (bytes : List UInt8) : String :=
  String.ofList (bytes.map charOf437)

end Enhance.Text
