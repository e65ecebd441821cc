/-
  MiniC.Token — tokens and the fixed vocabulary of the language.

  A token is a kind, a lexeme and a position. What a token may stand for is asked through
  the predicates here, and they look at the kind first: an identifier whose lexeme is `if`
  is no keyword.
-/

import MiniC.Position
import MiniC.Text.Quoted

namespace MiniC

inductive TokenKind where
  | keyword
  | identifier
  | number
  | string
  | operator
  | delimiter
  /-- No text is read as one: comments are passed over. A token handed in may be one. -/
  | comment
  deriving DecidableEq, Repr

namespace TokenKind

def all : List TokenKind :=
  [.keyword, .identifier, .number, .string, .operator, .delimiter, .comment]

def name : TokenKind → String
  | .keyword => "keyword"
  | .identifier => "identifier"
  | .number => "number"
  | .string => "string"
  | .operator => "operator"
  | .delimiter => "delimiter"
  | .comment => "comment"

def ofName? (name : String) : Option TokenKind := all.find? (·.name == name)

end TokenKind

namespace Vocabulary

/-- The type names that open a declaration. -/
def typeKeywords : List String := ["int", "float", "bool", "string"]

def booleanLiterals : List String := ["true", "false"]

/-- The reserved words. -/
def keywords : List String :=
  ["if", "else", "while", "for", "return", "break", "continue"]
    ++ typeKeywords ++ ["void"] ++ booleanLiterals ++ ["function"]

/-- The operators of two characters. -/
def pairOperators : List String :=
  ["==", "!=", "<=", ">=", "&&", "||", "++", "--", "+=", "-=", "*=", "/=", "%="]

/-- The operators of one character. -/
def singleOperators : List String :=
  ["+", "-", "*", "/", "%", "=", "<", ">", "!", "&", "|", "^", "~", "?", ":"]

def delimiters : List String := ["(", ")", "\x7b", "\x7d", "[", "]", ",", ";", "."]

/-- The characters between tokens that mean nothing. -/
def isWhitespace (c : Char) : Bool := c == ' ' || c == '\t' || c == '\r' || c == '\n'

def isLetter (c : Char) : Bool :=
  ('a' ≤ c && c ≤ 'z') || ('A' ≤ c && c ≤ 'Z') || c == '_'

def isDigit (c : Char) : Bool := '0' ≤ c && c ≤ '9'

def isWordChar (c : Char) : Bool := isLetter c || isDigit c

/-- The letters as a range of texts, ordered by code point: a longer text counts as a
letter when it lies between two of them. -/
def isLetterText (t : String) : Bool :=
  (decide ("a" ≤ t) && decide (t ≤ "z")) || (decide ("A" ≤ t) && decide (t ≤ "Z")) || t == "_"

/-- The digits as a range of texts, ordered by code point. -/
def isDigitText (t : String) : Bool := decide ("0" ≤ t) && decide (t ≤ "9")

def isWordText (t : String) : Bool := isLetterText t || isDigitText t

end Vocabulary

structure Token where
  kind : TokenKind
  lexeme : String
  position : Position
  deriving DecidableEq, Repr

namespace Token

def isKeyword (t : Token) (word : String) : Bool := t.kind == .keyword && t.lexeme == word

def isDelimiter (t : Token) (mark : String) : Bool := t.kind == .delimiter && t.lexeme == mark

def isAnyOperator (t : Token) : Bool := t.kind == .operator

def isOperator (t : Token) (sign : String) : Bool := t.isAnyOperator && t.lexeme == sign

def isIdentifier (t : Token) : Bool := t.kind == .identifier

def isTypeKeyword (t : Token) : Bool :=
  t.kind == .keyword && Vocabulary.typeKeywords.contains t.lexeme

def isLiteral (t : Token) : Bool :=
  t.kind == .number || t.kind == .string ||
    (t.kind == .keyword && Vocabulary.booleanLiterals.contains t.lexeme)

/-- The token as one line of text: its kind, its quoted lexeme and its position. -/
def describe (t : Token) : String :=
  s!"Token({t.kind.name}, {Text.quote t.lexeme}, {t.position.colon})"

/-- How many tokens there are of each kind, in the order in which the kinds first occur. -/
def countByKind (ts : List Token) : List (TokenKind × Nat) :=
  (ts.map (·.kind)).foldl bump []
where
  bump : List (TokenKind × Nat) → TokenKind → List (TokenKind × Nat)
    | [], k => [(k, 1)]
    | (l, n) :: rest, k => if l = k then (l, n + 1) :: rest else (l, n) :: bump rest k

end Token

end MiniC
