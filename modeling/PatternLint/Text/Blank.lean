import PatternLint.Unicode.Property

namespace PatternLint.Text

def dropBlanks (chars : List Char) : List Char := chars.dropWhile Unicode.isBlank

def trimChars (chars : List Char) : List Char := (dropBlanks (dropBlanks chars).reverse).reverse

def trim (text : String) : String := String.ofList (trimChars text.toList)

end PatternLint.Text
