import TextTemplate.Number.Notation
import TextTemplate.Text.Quoted

/-!
# Lexemes of expressions

What an expression is read from: numbers, text, names and punctuation.
-/

namespace TextTemplate.Expr

/-- The punctuation of expressions. -/
inductive Punct where
  | power | floorDivide | equal | notEqual | atMost | atLeast
  | plus | minus | times | divide | remainder | less | greater
  | openParen | closeParen | openBracket | closeBracket | openBrace | closeBrace
  | comma | colon | dot | assign | bang | ampersand | bar | caret
deriving DecidableEq

/-- How a punctuation is written. -/
def Punct.text : Punct → String
  | .power => "**"
  | .floorDivide => "//"
  | .equal => "=="
  | .notEqual => "!="
  | .atMost => "<="
  | .atLeast => ">="
  | .plus => "+"
  | .minus => "-"
  | .times => "*"
  | .divide => "/"
  | .remainder => "%"
  | .less => "<"
  | .greater => ">"
  | .openParen => "("
  | .closeParen => ")"
  | .openBracket => "["
  | .closeBracket => "]"
  | .openBrace => "\x7b"
  | .closeBrace => "\x7d"
  | .comma => ","
  | .colon => ":"
  | .dot => "."
  | .assign => "="
  | .bang => "!"
  | .ampersand => "&"
  | .bar => "|"
  | .caret => "^"

/-- All punctuation, the two-character ones first, so that the first fit is the longest. -/
def Punct.all : List Punct :=
  [.power, .floorDivide, .equal, .notEqual, .atMost, .atLeast, .plus, .minus, .times, .divide,
    .remainder, .less, .greater, .openParen, .closeParen, .openBracket, .closeBracket, .openBrace,
    .closeBrace, .comma, .colon, .dot, .assign, .bang, .ampersand, .bar, .caret]

/-- One lexeme. -/
inductive Lexeme where
  | int (value : Int64)
  | float (value : Float)
  | text (value : String)
  | name (name : String)
  | punct (p : Punct)

/-- How a message refers to a lexeme. -/
def Lexeme.describe : Lexeme → String
  | .int n => "number " ++ toString n.toInt
  | .float x => "number " ++ Number.plainText x
  | .text s => "string " ++ Text.quoted s
  | .name n => "name '" ++ n ++ "'"
  | .punct p => "'" ++ p.text ++ "'"

end TextTemplate.Expr
