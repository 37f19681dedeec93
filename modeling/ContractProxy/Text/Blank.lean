import ContractProxy.Text.Basic
import ContractProxy.Text.CodePointRange

/-!
Blank characters, those with the White_Space property, and trimming.
-/

set_option autoImplicit false

namespace ContractProxy.Text

def blankRanges : CodePointRanges :=
  [(9, 13), (32, 32), (133, 133), (160, 160), (5760, 5760), (8192, 8202), (8232, 8233),
   (8239, 8239), (8287, 8287), (12288, 12288)]

def isBlank (c : Char) : Bool :=
  blankRanges.contains c.toNat

example : [' ', '\t', '\n', '\r', '\x0b', '\x0c'].all isBlank := by decide

def trim (t : Text) : Text :=
  ((t.dropWhile isBlank).reverse.dropWhile isBlank).reverse

def isBlankText (t : Text) : Bool :=
  t.all isBlank

end ContractProxy.Text
