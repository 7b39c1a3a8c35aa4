import StagedBuilder.Token.Basic

/-!
# Code and its text

Code is a list of words and groups, written with one space between neighbours. A joint word is
followed at once by the next one: the characters of an operator that was read character by
character stay together that way. Round and square brackets hug what they enclose, braces do
not.
-/

namespace StagedBuilder

/-- A word or a group of generated code. -/
inductive CodeToken where
  | word (text : String)
  | joint (text : String)
  | group (delim : Delim) (inner : List CodeToken)
deriving Repr, Inhabited

abbrev Code := List CodeToken

namespace CodeToken

/-- Whether the next word follows without a space. -/
def isJoint : CodeToken → Bool
  | joint _ => true
  | _ => false

mutual

/-- Appends the text of a token. -/
def write (acc : String) : CodeToken → String
  | word text | joint text => acc ++ text
  | group .paren inner => writeAll (acc ++ "(") inner ++ ")"
  | group .bracket inner => writeAll (acc ++ "[") inner ++ "]"
  | group .brace [] => acc ++ "\x7b \x7d"
  | group .brace inner => writeAll (acc ++ "\x7b ") inner ++ " \x7d"

def writeAll (acc : String) : List CodeToken → String
  | [] => acc
  | [t] => write acc t
  | t :: ts => writeAll (if t.isJoint then write acc t else (write acc t).push ' ') ts

end

end CodeToken

namespace Code

def text (code : Code) : String := CodeToken.writeAll "" code

/-- The code that a text without groups shows, its words between single spaces. -/
def words (text : String) : Code := (text.splitOn " ").map .word

def parens (inner : Code) : Code := [.group .paren inner]

def brackets (inner : Code) : Code := [.group .bracket inner]

def braces (inner : Code) : Code := [.group .brace inner]

/-- Each piece of code with a separator after it, the last one only if `trailing` says so. -/
def interspersed (separator : String) (pieces : List Code) (trailing : Bool) : Code :=
  match pieces with
  | [] => []
  | [last] => if trailing then last ++ [.word separator] else last
  | piece :: more => piece ++ .word separator :: interspersed separator more trailing

/-- Each piece of code with a comma after it. -/
def closed (pieces : List Code) : Code := pieces.flatMap (· ++ [.word ","])

/-- Some code between angle brackets. -/
def angles (inner : Code) : Code := .word "<" :: inner ++ [.word ">"]

end Code

mutual

/-- A token as generated code shows it when it is handed on unread. -/
def TokenTree.code : TokenTree → CodeToken
  | .ident name _ => .word name.text
  | .lifetime name _ => .word ("'" ++ name.text)
  | .literal _ text _ => .word text
  | .punct c isJoint _ =>
    if isJoint then .joint (String.singleton c) else .word (String.singleton c)
  | .group delim inner _ => .group delim (TokenTree.codeAll inner)

def TokenTree.codeAll : List TokenTree → Code
  | [] => []
  | t :: ts => t.code :: TokenTree.codeAll ts

end

end StagedBuilder
