/-!
# Blank characters

The characters with the Unicode property White_Space, and the two uses made of them: a message
loses its blank end, and a command given as one text is cut into words.
-/

set_option autoImplicit false

namespace Proctor

def isBlank (c : Char) : Bool :=
  let n := c.toNat
  (0x9 ≤ n && n ≤ 0xD) || n == 0x20 || n == 0x85 || n == 0xA0 || n == 0x1680 ||
    (0x2000 ≤ n && n ≤ 0x200A) || n == 0x2028 || n == 0x2029 || n == 0x202F || n == 0x205F ||
    n == 0x3000

namespace Blank

def trimEnd (s : List Char) : List Char :=
  (s.reverse.dropWhile isBlank).reverse

/-- Cuts a text at its blanks: the word being read (last character first) and the words after it.
Empty words are dropped. -/
def wordsFrom : List Char → List Char → List (List Char)
  | word, [] => if word.isEmpty then [] else [word.reverse]
  | word, c :: rest =>
    if !isBlank c then wordsFrom (c :: word) rest
    else if word.isEmpty then wordsFrom [] rest
    else word.reverse :: wordsFrom [] rest

end Blank

def trimEnd (s : String) : String :=
  String.ofList (Blank.trimEnd s.toList)

def words (s : String) : List String :=
  (Blank.wordsFrom [] s.toList).map String.ofList

end Proctor
