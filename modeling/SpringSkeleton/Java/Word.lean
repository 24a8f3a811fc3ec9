import SpringSkeleton.Text.WordPart
import SpringSkeleton.Text.WordStart

namespace SpringSkeleton.Java

def isWordStart (c : Char) : Bool := Text.wordStart.contains c || c == '_' || c == '$'

def isWordPart (c : Char) : Bool :=
  Text.wordPart.contains c || c == '_' || c == '$' || c == '¢'

def isWordChars : List Char → Bool
  | [] => false
  | c :: rest => isWordStart c && rest.all isWordPart

def isWord (text : String) : Bool := isWordChars text.toList

structure Word where
  text : String
  valid : isWord text = true
  deriving DecidableEq

-- The longest word that begins with a given character, and what follows it.
def Word.read? : List Char → Option (Word × List Char)
  | [] => none
  | c :: rest =>
    if start : isWordStart c = true then
      some (⟨String.ofList (c :: rest.takeWhile isWordPart), by simp [isWord, isWordChars, start]⟩,
        rest.dropWhile isWordPart)
    else none

def modifierWords : List String :=
  ["public", "protected", "private", "abstract", "static", "final", "strictfp", "default",
   "synchronized", "native", "transient", "volatile", "sealed"]

def primitiveTypes : List String :=
  ["void", "byte", "short", "int", "long", "char", "float", "double", "boolean"]

-- Words that can be names, though not names of types.
def halfReservedWords : List String := ["open", "module", "record", "with", "sealed", "yield"]

-- Words that begin an operand and are no names.
def operandWords : List String := ["new", "this", "super", "true", "false", "null", "switch"]

-- Words that cannot be names after a dot.
def memberWords : List String := ["new", "this", "super", "class"]

end SpringSkeleton.Java
