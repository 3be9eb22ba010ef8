import TextTemplate.Expr.Lexeme
import TextTemplate.Kind

/-!
# What can go wrong

Faults by their cause: a text that is no template, a value that an operation does not take, a
template that is not found.  A fault on its way out of a template is located once, by the name of
the template and the line of the construct it arose in; from there on it stays as it is.
-/

namespace TextTemplate

/-- Why a text is no template, no expression or no binding target. -/
inductive SyntaxFault where
  -- lexemes
  | badNumber (text : String)
  | largeInt (digits : String)
  | openText
  | badCharacter (c : Char)
  -- expressions
  | emptyExpression
  | emptySubscript
  | tooDeep
  | endOfExpression
  | unexpected (found : Expr.Lexeme)
  | expected (wanted : String) (found : Option Expr.Lexeme)
  -- targets
  | fewNames (text : String)
  | badName (name : String)
  -- tags
  | unknownTag (tag : String)
  | openTag (opening closing : String)
  | elifAfterElse
  | secondElse
  | repeatedBlock (name : String)
  | lateExtends
  /-- A reason given by the program that uses the library. -/
  | custom (message : String)

/-- A tag between its delimiters. -/
def tagText (tag : String) : String := "\x7b% " ++ tag ++ " %\x7d"

/-- How the fault is written. -/
def SyntaxFault.message : SyntaxFault → String
  | .badNumber text => "invalid number literal " ++ Text.quoted text
  | .largeInt digits => "integer literal " ++ digits ++ " is too large"
  | .openText => "unterminated string literal"
  | .badCharacter c => "invalid character " ++ Text.quotedSingle c ++ " in expression"
  | .emptyExpression => "empty expression"
  | .emptySubscript => "empty subscript"
  | .tooDeep => "expression is too deeply nested"
  | .endOfExpression => "unexpected end of expression"
  | .unexpected found => "unexpected " ++ found.describe
  | .expected wanted found =>
    "expected " ++ wanted ++ ", found " ++
      (match found with
        | some lexeme => lexeme.describe
        | none => "end of expression")
  | .fewNames text => Text.quoted text ++ " must name at least two variables to unpack into."
  | .badName name =>
    Text.quoted name ++
      " is not a valid variable name. Only letters, numbers and underscores are allowed."
  | .unknownTag tag => tagText tag ++ " is not a recognized tag."
  | .openTag opening closing =>
    tagText opening ++ " tag could not find a corresponding " ++ tagText closing ++ "."
  | .elifAfterElse => tagText "elif" ++ " tag cannot come after " ++ tagText "else" ++ "."
  | .secondElse =>
    "Only one " ++ tagText "else" ++ " tag is allowed per " ++ tagText "if" ++ " macro."
  | .repeatedBlock name =>
    "Multiple blocks named " ++ Text.quoted name ++ " are not allowed in a child template."
  | .lateExtends => tagText "extends" ++ " must be the first tag in a template."
  | .custom message => message

/-- How many arguments a function takes. -/
inductive Arity where
  | exactly (n : Nat)
  | between (least most : Nat)
  | atLeast (n : Nat)
deriving DecidableEq

/-- Whether a number of arguments is one that the function takes. -/
def Arity.allows : Arity → Nat → Bool
  | .exactly n, k => k = n
  | .between least most, k => least ≤ k && k ≤ most
  | .atLeast n, k => n ≤ k

/-- How an arity is written. -/
def Arity.text : Arity → String
  | .exactly n => toString n
  | .between least most => toString least ++ " to " ++ toString most
  | .atLeast n => "at least " ++ toString n

/-- Why an operation on values failed. -/
inductive EvalFault where
  -- names and access
  | undefined (name : String)
  | noAttribute (of : Kind) (name : String)
  | noKey (key : String)
  | indexRange (of : Kind)
  | indexKind (found : Kind)
  | notSubscriptable (found : Kind)
  | sliceBound (bound : String) (found : Kind)
  | zeroSliceStep
  | keyKind (found : Kind)
  -- operators
  | operands (op : String) (left right : Kind)
  | sign (op : String) (found : Kind)
  | overflow
  | longRepetition
  | zeroDivision
  | zeroIntDivision
  | zeroFloorDivision
  | zeroModulo
  | unordered
  | incomparable (left right : Kind)
  | containment (found : Kind)
  | notContainer (found : Kind)
  | notIterable (found : Kind)
  -- calls
  | notCallable (found : Kind)
  | arity (function : String) (takes : Arity) (given : Nat)
  | intArgument (function : String) (found : Kind)
  | textArgument (function : String) (found : Kind)
  | zeroRangeStep
  | longRange
  | noLength (found : Kind)
  | intNumeral (text : String)
  | intSource (found : Kind)
  | floatNumeral (text : String)
  | floatSource (found : Kind)
  | absOperand (found : Kind)
  | emptySequence (function : String)
  | notInList (item : String)
  -- templates by name
  | noLoader (name : String)
  | lostLoader (name : String)
  | noTemplate (found : Kind)
  /-- A reason given by the program that uses the library. -/
  | custom (message : String)

/-- How the fault is written. -/
def EvalFault.message : EvalFault → String
  | .undefined name => "name '" ++ name ++ "' is not defined"
  | .noAttribute kind name => "'" ++ kind.name ++ "' object has no attribute '" ++ name ++ "'"
  | .noKey key => "KeyError: '" ++ key ++ "'"
  | .indexRange kind =>
    (match kind with
      | .text => "string"
      | _ => "list") ++ " index out of range"
  | .indexKind kind => "indices must be integers, not '" ++ kind.name ++ "'"
  | .notSubscriptable kind => "'" ++ kind.name ++ "' object is not subscriptable"
  | .sliceBound bound kind =>
    "slice " ++ bound ++ " must be an integer or None, not '" ++ kind.name ++ "'"
  | .zeroSliceStep => "slice step cannot be zero"
  | .keyKind kind => "dict keys must be strings, not '" ++ kind.name ++ "'"
  | .operands op left right =>
    "unsupported operand type(s) for " ++ op ++ ": '" ++ left.name ++ "' and '" ++ right.name ++ "'"
  | .sign op kind => "bad operand type for unary " ++ op ++ ": '" ++ kind.name ++ "'"
  | .overflow => "integer overflow"
  | .longRepetition => "repeated sequence is too long"
  | .zeroDivision => "division by zero"
  | .zeroIntDivision => "integer division or modulo by zero"
  | .zeroFloorDivision => "float floor division by zero"
  | .zeroModulo => "float modulo"
  | .unordered => "cannot order NaN"
  | .incomparable left right =>
    "'<' not supported between instances of '" ++ left.name ++ "' and '" ++ right.name ++ "'"
  | .containment kind =>
    "'in <string>' requires string as left operand, not " ++ kind.name
  | .notContainer kind => "argument of type '" ++ kind.name ++ "' is not iterable"
  | .notIterable kind => "'" ++ kind.name ++ "' object is not iterable"
  | .notCallable kind => "'" ++ kind.name ++ "' object is not callable"
  | .arity function takes given =>
    function ++ "() takes " ++ takes.text ++ " argument(s) (" ++ toString given ++ " given)"
  | .intArgument function kind => function ++ "() expected an integer, got '" ++ kind.name ++ "'"
  | .textArgument function kind => function ++ "() expected a string, got '" ++ kind.name ++ "'"
  | .zeroRangeStep => "range() arg 3 must not be zero"
  | .longRange => "range() result is too long"
  | .noLength kind => "object of type '" ++ kind.name ++ "' has no len()"
  | .intNumeral text => "invalid literal for int() with base 10: '" ++ text ++ "'"
  | .intSource kind => "int() argument must be a string or a number, not '" ++ kind.name ++ "'"
  | .floatNumeral text => "could not convert string to float: '" ++ text ++ "'"
  | .floatSource kind => "float() argument must be a string or a number, not '" ++ kind.name ++ "'"
  | .absOperand kind => "bad operand type for abs(): '" ++ kind.name ++ "'"
  | .emptySequence function => function ++ "() arg is an empty sequence"
  | .notInList item => item ++ " is not in list"
  | .noLoader name =>
    "Cannot load " ++ Text.quoted name ++
      " by name, as this template was not compiled using a template loader."
  | .lostLoader name =>
    "Cannot load " ++ Text.quoted name ++
      ", the loader that compiled this template has been dropped."
  | .noTemplate kind => "Expected a template or a template name, found '" ++ kind.name ++ "'."
  | .custom message => message

/-- Why a value cannot be taken apart into several names. -/
inductive UnpackFault where
  | tooFew (expected given : Nat)
  | tooMany (expected : Nat)
deriving DecidableEq

/-- How the fault is written. -/
def UnpackFault.message : UnpackFault → String
  | .tooFew expected given =>
    "not enough values to unpack (expected " ++ toString expected ++ ", got " ++ toString given ++ ")"
  | .tooMany expected => "too many values to unpack (expected " ++ toString expected ++ ")"

/-- Why data from outside is not taken. -/
inductive ValueFault where
  | parameters (found : Kind)
  | noNames
  | largeInt (n : Nat)
  | keyKind (found : Kind)
  | valueWithoutKey
  /-- A reason given by the program that uses the library. -/
  | custom (message : String)

/-- How the fault is written. -/
def ValueFault.message : ValueFault → String
  | .parameters kind => "template parameters must be a map, found '" ++ kind.name ++ "'"
  | .noNames => "You must specify at least one template name."
  | .largeInt n => toString n ++ " does not fit in a template integer"
  | .keyKind kind => "map key must be a string, found '" ++ kind.name ++ "'"
  | .valueWithoutKey => "map value serialized before its key"
  | .custom message => message

/-- A fault, with its place in a template once it has left one. -/
inductive Fault where
  /-- A fault of compiling, located. -/
  | compile (message template : String) (line : Nat)
  /-- A fault of rendering, located. -/
  | render (message template : String) (line : Nat)
  | notFound (names sources : List String)
  | badSyntax (cause : SyntaxFault)
  | eval (cause : EvalFault)
  | unpack (cause : UnpackFault)
  | value (cause : ValueFault)
  | depth (limit : Nat)
  /-- A pattern of a tag that cannot be built. -/
  | pattern (message : String)
  | io (message : String)

namespace Fault

/-- A message with the place of the fault. -/
def locate (message template : String) (line : Nat) : String :=
  message ++ " [" ++ Text.quoted template ++ " on line " ++ toString line ++ "]"

/-- How the fault is written. -/
def message : Fault → String
  | .compile message template line => locate message template line
  | .render message template line => locate message template line
  | .notFound names sources =>
    "Could not find a template named " ++ ", ".intercalate (names.map Text.quoted) ++
      " in any of " ++ ", ".intercalate sources ++ "."
  | .badSyntax cause => cause.message
  | .eval cause => cause.message
  | .unpack cause => cause.message
  | .value cause => "Value Error: " ++ cause.message
  | .depth limit => "maximum template nesting depth exceeded (" ++ toString limit ++ " levels)"
  | .pattern message => "Invalid Macro Pattern: " ++ message
  | .io message => "IO Error: " ++ message

/-- Whether the fault has a place in a template. -/
def isLocated : Fault → Bool
  | .compile .. => true
  | .render .. => true
  | _ => false

/-- The fault at a place where a template was being compiled; a located fault keeps its place. -/
def atCompile (template : String) (line : Nat) (f : Fault) : Fault :=
  if f.isLocated then f else .compile f.message template line

/-- The fault at a place where a template was being rendered; a located fault keeps its place. -/
def atRender (template : String) (line : Nat) (f : Fault) : Fault :=
  if f.isLocated then f else .render f.message template line

end Fault

end TextTemplate
