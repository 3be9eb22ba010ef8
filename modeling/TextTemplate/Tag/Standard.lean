import TextTemplate.Tag.Run

/-!
# The standard tags

The tags that every template may use unless its grammar says otherwise: `set`, `print`, `if`, `for`,
`with`, `include`, `block`, `super` and `extends`.
-/

namespace TextTemplate.Tag

/-- Assigns a value to names. -/
def setTag : Macro where
  name := "set"
  patterns := [[.ofWord "set", .spaces, .text, .spaces, .ofWord "as", .spaces, .text]]
  build _ captures := do
    let e ← expression (captures.group 0)
    let t ← target (captures.group 1)
    return .assign t e

/-- Writes a value without escaping it. -/
def printTag : Macro where
  name := "print"
  patterns := [[.ofWord "print", .spaces, .text]]
  build _ captures := return .print (← expression (captures.group 0))

/-- What may end a body of `if`. -/
inductive Clause where
  | elif (test : String)
  | orelse
  | endif

/-- Reads the end of a body of `if`. -/
def Clause.read? (tag : String) : Option Clause :=
  match fitAny? [[.ofWord "elif", .spaces, .text]] tag with
  | some captures => some (.elif (captures.group 0))
  | none => if tag = "else" then some .orelse else if tag = "endif" then some .endif else none

/-- Parses the body behind `else`. -/
def parseElse (chunk : Run Chunk) : Run Fragment := do
  let (ending, body) ← parseBody chunk "if" "endif" Clause.read?
  match ending.what with
  | .elif _ => atLine ending.line (failSyntax .elifAfterElse)
  | .orelse => atLine ending.line (failSyntax .secondElse)
  | .endif => return body

/-- Parses the clauses of `if`, the first of which has a given test.  Every clause but the last ends
with a tag, so their number is bounded by that of the tokens. -/
def parseClauses (chunk : Run Chunk) :
    Nat → Expression → Run (List (Expression × Fragment) × Option Fragment)
  | 0, _ => failSyntax (.openTag "if" "endif")
  | steps + 1, test => do
    let (ending, body) ← parseBody chunk "if" "endif" Clause.read?
    match ending.what with
    | .elif next =>
      let next ← atLine ending.line (expression next)
      let (clauses, orelse) ← parseClauses chunk steps next
      return ((test, body) :: clauses, orelse)
    | .orelse => return ([(test, body)], some (← parseElse chunk))
    | .endif => return ([(test, body)], none)

/-- The first body whose test holds. -/
def ifTag : Macro where
  name := "if"
  patterns := [[.ofWord "if", .spaces, .text]]
  build chunk captures := do
    let test ← expression (captures.group 0)
    let (clauses, orelse) ← parseClauses chunk ((← get).tokens.length + 1) test
    return .branch clauses orelse

/-- Whether a tag is a given word. -/
def isWord (word tag : String) : Option Unit := if tag = word then some () else none

/-- A body for every item of a value. -/
def forTag : Macro where
  name := "for"
  patterns := [[.ofWord "for", .spaces, .text, .spaces, .ofWord "in", .spaces, .text]]
  build chunk captures := do
    let t ← target (captures.group 0)
    let e ← expression (captures.group 1)
    let (_, body) ← parseBody chunk "for" "endfor" (isWord "endfor")
    return .loop t e body

/-- A body in which names have a value. -/
def withTag : Macro where
  name := "with"
  patterns := [[.ofWord "with", .spaces, .text, .spaces, .ofWord "as", .spaces, .text]]
  build chunk captures := do
    let e ← expression (captures.group 0)
    let t ← target (captures.group 1)
    let (_, body) ← parseBody chunk "with" "endwith" (isWord "endwith")
    return .bind t e body

/-- Another template in this place. -/
def includeTag : Macro where
  name := "include"
  patterns := [[.ofWord "include", .spaces, .text]]
  build _ captures := return .include (← expression (captures.group 0))

/-- Reads the end of a block, which may repeat the name of the block. -/
def readEndblock? (name tag : String) : Option Unit :=
  (fitAny? [[.ofWord "endblock"], [.ofWord "endblock", .spaces, .ofWord name]] tag).map fun _ => ()

/-- Builds what reads the end of a block of a given name, or fails to. -/
abbrev EndBuilder := String → Except Fault (String → Option Unit)

/-- A part that templates which extend this one may replace.  What reads its end is built before its
body is parsed. -/
def blockTagWith (endOf : EndBuilder) : Macro where
  name := "block"
  patterns := [[.ofWord "block", .spaces, .blockName]]
  build chunk captures :=
    let name := captures.group 0
    match endOf name with
    | .error fault => throw fault
    | .ok ending? => do
      let (_, body) ← parseBody chunk "block" "endblock" ending?
      registerBlock name body
      return .block name body

/-- The tag of a block whose end can always be read. -/
def blockTag : Macro := blockTagWith fun name => .ok (readEndblock? name)

/-- The body that the current one replaces. -/
def superTag : Macro where
  name := "super"
  patterns := [[.ofWord "super"]]
  build _ _ := return .super

/-- A parent template.  Of the rest of the template only the blocks count. -/
def extendsTag : Macro where
  name := "extends"
  patterns := [[.ofWord "extends", .spaces, .text]]
  build chunk captures := do
    unless ← atTemplateStart do failSyntax .lateExtends
    let parent ← expression (captures.group 0)
    let _ ← parseAll chunk
    return .extend parent (← get).blocks

/-- The standard tags, in the order in which they are tried. -/
def standardWith (endOf : EndBuilder) : List Macro :=
  [setTag, printTag, ifTag, forTag, withTag, includeTag, blockTagWith endOf, superTag, extendsTag]

/-- The standard tags, where the end of a block can always be read. -/
def standard : List Macro := standardWith fun name => .ok (readEndblock? name)

theorem standard_eq : standard =
    [setTag, printTag, ifTag, forTag, withTag, includeTag, blockTag, superTag, extendsTag] := rfl

end TextTemplate.Tag
