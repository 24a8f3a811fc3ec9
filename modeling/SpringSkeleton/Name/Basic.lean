import SpringSkeleton.Name.Problem
import SpringSkeleton.Path
import SpringSkeleton.Text.Alphabetic
import SpringSkeleton.Text.Blank
import SpringSkeleton.Text.Numeric

namespace SpringSkeleton.Name

def reservedWords : List String :=
  ["abstract", "assert", "boolean", "break", "byte", "case", "catch", "char", "class", "const",
   "continue", "default", "do", "double", "else", "enum", "extends", "final", "finally", "float",
   "for", "goto", "if", "implements", "import", "instanceof", "int", "interface", "long",
   "native", "new", "package", "private", "protected", "public", "return", "short", "static",
   "strictfp", "super", "switch", "synchronized", "this", "throw", "throws", "transient", "try",
   "void", "volatile", "while", "true", "false", "null", "_"]

def isReserved (word : String) : Bool := reservedWords.contains word

def isNameStart (c : Char) : Bool := Text.alphabetic.contains c || c == '_' || c == '$'

def isNamePart (c : Char) : Bool := isNameStart c || Text.numeric.contains c

def isIdentifierChars : List Char → Bool
  | [] => false
  | c :: rest => isNameStart c && rest.all isNamePart

-- Reserved words have the form of an identifier too.
def isIdentifier (name : String) : Bool := isIdentifierChars name.toList

-- A name that can stand where a name is declared.
def isFreeName (name : String) : Bool := isIdentifier name && !isReserved name

def checkTypeName (name : String) : Except NameProblem Unit :=
  if !isIdentifier name then .error (.notTypeName name)
  else if isReserved name then .error (.reservedTypeName name)
  else .ok ()

-- The empty package is the default package.
def checkPackage (package : String) : Except NameProblem Unit :=
  if package = "" then .ok ()
  else match (Text.pieces '.' package).find? (fun segment => !isFreeName segment) with
    | some segment => .error (.badPackage package segment)
    | none => .ok ()

-- A reserved word gets an underscore at its end.
def escapeField (name : String) : Except NameProblem String :=
  if !isIdentifier name then .error (.notFieldName name)
  else .ok (if isReserved name then name ++ "_" else name)

-- Characters that would end a declaration, or open or close a block.
def delimiters : List Char := [';', '\x7b', '\x7d', '\n', '\r']

def isDelimiter (c : Char) : Bool := delimiters.contains c

def checkFragment (role text : String) : Except NameProblem Unit :=
  if Text.isBlankText text then .error (.emptyFragment role)
  else match text.toList.find? isDelimiter with
    | some c => .error (.forbiddenCharacter role (Text.trim text) c)
    | none => .ok ()

-- At most one semicolon at the end is dropped, and the blanks around it.
def signatureChars (signature : List Char) : List Char :=
  let trimmed := Text.trimChars signature
  Text.trimEnd (if trimmed.getLast? = some ';' then trimmed.dropLast else trimmed)

def normalizeSignature (signature : String) : Except NameProblem String :=
  let text := String.ofList (signatureChars signature.toList)
  match checkFragment "repository method" text with
  | .error problem => .error problem
  | .ok () => .ok text

-- `com.acme.app` is the path `com/acme/app`.
def packagePath (package : String) : Path :=
  Path.ofPieces ((Text.pieces '.' package).filter (· ≠ ""))

def joinPackage (base child : String) : String :=
  Text.joined '.' ([base, child].filter (· ≠ ""))

end SpringSkeleton.Name
