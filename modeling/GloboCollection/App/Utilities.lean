import GloboCollection.Lib.Regex

/-!
# The password test

`Utilities.isPasswordValid` matches the whole password against

    ^(?=.*[a-z])(?=.*[$@$#!%*?&])[A-Za-z\d$@$#!%*?&]{8,}

as `NSPredicate` does, that is with ICU's regular expressions. The pattern
stands here construct by construct. What ICU takes for a decimal digit is a
table of Unicode's and is left open: the model is generic in it.
-/

namespace GloboCollection

open GloboCollection.Lib

/-- The characters a dot does not match. -/
def isLineTerminator (c : Char) : Bool :=
  let n := c.toNat
  (0x0A ≤ n && n ≤ 0x0D) || n == 0x85 || n == 0x2028 || n == 0x2029

namespace Utilities

/-- The class `[a-z]`. -/
def isLowercase (c : Char) : Bool := 'a' ≤ c && c ≤ 'z'

/-- The range `A-Z` of a class. -/
def isUppercase (c : Char) : Bool := 'A' ≤ c && c ≤ 'Z'

/-- The class `[$@$#!%*?&]`, the dollar sign twice as in the pattern. -/
def isSymbol (c : Char) : Bool :=
  c ∈ ['$', '@', '$', '#', '!', '%', '*', '?', '&']

variable (isDecimalDigit : Char → Bool)

/-- The class `[A-Za-z\d$@$#!%*?&]`. -/
def isAllowed (c : Char) : Bool :=
  isUppercase c || isLowercase c || isDecimalDigit c || isSymbol c

/-- Anything but a line terminator. -/
def dot : Regex Char := .cls fun c => !isLineTerminator c

/-- The look-ahead `(?=.*[…])` for a class. -/
def somewhereAhead (p : Char → Bool) : Regex Char :=
  .ahead (.seq (.rep 0 dot) (.cls p))

def passwordPattern : Regex Char :=
  .seq .start
    (.seq (somewhereAhead isLowercase)
      (.seq (somewhereAhead isSymbol) (.rep 8 (.cls (isAllowed isDecimalDigit)))))

def isPasswordValid (password : String) : Bool :=
  (passwordPattern isDecimalDigit).fullMatch password.toList

end Utilities

end GloboCollection
