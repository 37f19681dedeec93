import ContractProxy.Text.Letter

/-!
Names of the C# language: identifiers, reserved words and dotted names. A reserved word can stand
where an identifier is wanted once it is escaped with an at sign.
-/

set_option autoImplicit false

namespace ContractProxy.CSharp

def keywords : List Text :=
  List.map String.toList
  ["abstract", "as", "base", "bool", "break", "byte", "case", "catch", "char", "checked",
   "class", "const", "continue", "decimal", "default", "delegate", "do", "double", "else",
   "enum", "event", "explicit", "extern", "false", "finally", "fixed", "float", "for",
   "foreach", "goto", "if", "implicit", "in", "int", "interface", "internal", "is", "lock",
   "long", "namespace", "new", "null", "object", "operator", "out", "override", "params",
   "private", "protected", "public", "readonly", "ref", "return", "sbyte", "sealed", "short",
   "sizeof", "stackalloc", "static", "string", "struct", "switch", "this", "throw", "true",
   "try", "typeof", "uint", "ulong", "unchecked", "unsafe", "ushort", "using", "virtual",
   "void", "volatile", "while"]

def isKeyword (name : Text) : Bool :=
  keywords.contains name

def startsIdentifier (c : Char) : Bool :=
  c == '_' || Text.isAlphabetic c

def continuesIdentifier (c : Char) : Bool :=
  c == '_' || Text.isAlphanumeric c

/-- A letter or underscore, then letters, numerals and underscores; reserved words are included. -/
def isIdentifier : Text → Bool
  | [] => false
  | c :: rest => startsIdentifier c && rest.all continuesIdentifier

/-- Identifiers separated by dots, none of them reserved. -/
def isDottedName (name : Text) : Bool :=
  (name.splitOn '.').all fun segment => isIdentifier segment && !isKeyword segment

def escaped (name : Text) : Text :=
  if isKeyword name then '@' :: name else name

end ContractProxy.CSharp
