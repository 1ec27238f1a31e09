set_option autoImplicit false

namespace TopicRouting

def isBlank (c : Char) : Bool :=
  let n := c.toNat
  (0x9 ≤ n && n ≤ 0xD) || n == 0x20 || n == 0x85 || n == 0xA0 || n == 0x1680
    || (0x2000 ≤ n && n ≤ 0x200A) || n == 0x2028 || n == 0x2029 || n == 0x202F
    || n == 0x205F || n == 0x3000

def trimBlanks (text : String) : String :=
  let rest := text.toList.dropWhile isBlank
  String.ofList (rest.reverse.dropWhile isBlank).reverse

def asciiLower (text : String) : String :=
  String.ofList (text.toList.map Char.toLower)

def sameIgnoringCase (a b : String) : Bool :=
  asciiLower a == asciiLower b

end TopicRouting
