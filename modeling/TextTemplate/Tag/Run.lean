import TextTemplate.Markup.Token
import TextTemplate.Node
import TextTemplate.Tag.Pattern

/-!
# Parsing a template

A run goes through the tokens of one template and keeps the blocks declared so far.  Macros turn tags
into nodes: the first macro whose pattern fits the text of a tag builds its node, and may parse a
body first.  A chunk is what stands in front of the first tag that no macro takes, which is how
bodies find their end.  A fault leaves the run where it arose.
-/

namespace TextTemplate.Tag

open TextTemplate.Markup

/-- How far a template has been parsed. -/
structure RunState where
  /-- The tokens that are left. -/
  tokens : List Token
  /-- The number of lines of the template. -/
  lineCount : Nat
  /-- The name of the template. -/
  name : String
  /-- The blocks declared so far. -/
  blocks : Dictionary Fragment
  /-- Whether a tag, a placeholder or text other than white space has been met. -/
  seenContent : Bool
  /-- How many bodies the run is inside of. -/
  depth : Nat

/-- A step of parsing. -/
abbrev Run := EStateM Fault RunState

/-- Nodes up to a tag that no macro takes. -/
structure Chunk where
  /-- The line of the tag, or the number of lines. -/
  line : Nat
  /-- The tag; nothing at the end of the template. -/
  tag : Option String
  nodes : List (Nat × Node)

/-- A tag that templates may use. -/
structure Macro where
  name : String
  patterns : List Pattern
  /-- Builds the node of a tag; the first argument parses a chunk of a body. -/
  build : Run Chunk → Captures → Run Node

/-- What stands at the end of a body. -/
structure Terminator (α : Type) where
  line : Nat
  /-- What the tag was read as. -/
  what : α

/-- The start of a run. -/
def RunState.start (source name : String) : RunState where
  tokens := tokenize source
  lineCount := Markup.lineCount source
  name := name
  blocks := .empty
  seenContent := false
  depth := 0

/-! ## Steps that macros use -/

/-- Fails with a fault of the template's text. -/
def failSyntax {α : Type} (cause : SyntaxFault) : Run α := throw (.badSyntax cause)

/-- Runs a step and locates a fault of it. -/
def atLine {α : Type} (line : Nat) (step : Run α) : Run α := fun s =>
  match step s with
  | .ok a s => .ok a s
  | .error f s => .error (f.atCompile s.name line) s

/-- Reads an expression. -/
def expression (source : String) : Run Expression :=
  match Expression.compile source with
  | .ok e => return e
  | .error cause => failSyntax cause

/-- Reads a binding target. -/
def target (source : String) : Run Target :=
  match Target.parse source with
  | .ok t => return t
  | .error cause => failSyntax cause

/-- Nodes under the name of the template. -/
def fragment (nodes : List (Nat × Node)) : Run Fragment := return ⟨(← get).name, nodes⟩

/-- Whether nothing but white space has been met, outside of any body. -/
def atTemplateStart : Run Bool := return (← get).depth = 0 && !(← get).seenContent

/-- Runs a step inside of one more body, also if it fails. -/
def inBody {α : Type} (step : Run α) : Run α := fun s =>
  match step { s with depth := s.depth + 1 } with
  | .ok a s => .ok a { s with depth := s.depth - 1 }
  | .error f s => .error f { s with depth := s.depth - 1 }

/-- Parses a body up to a tag that is read as its end. -/
def parseBody {α : Type} (chunk : Run Chunk) (opening closing : String)
    (ending? : String → Option α) : Run (Terminator α × Fragment) := do
  let chunk ← inBody chunk
  match chunk.tag with
  | none => failSyntax (.openTag opening closing)
  | some tag =>
    match ending? tag with
    | none => atLine chunk.line (failSyntax (.unknownTag tag))
    | some what => return (⟨chunk.line, what⟩, ← fragment chunk.nodes)

/-- Parses all that is left. -/
def parseAll (chunk : Run Chunk) : Run Fragment := do
  let chunk ← chunk
  match chunk.tag with
  | some tag => atLine chunk.line (failSyntax (.unknownTag tag))
  | none => fragment chunk.nodes

/-- Declares a block; its name must be new. -/
def registerBlock (name : String) (body : Fragment) : Run Unit := do
  if (← get).blocks.contains name then failSyntax (.repeatedBlock name)
  modify fun s => { s with blocks := s.blocks.insert name body }

/-! ## Chunks -/

/-- Notes that content has been met. -/
def noteContent : Run Unit := modify fun s => { s with seenContent := true }

/-- The node of a tag, built by the first macro that takes it. -/
def dispatch (macros : List Macro) (chunk : Run Chunk) (tag : String) : Run (Option Node) :=
  match macros.findSome? fun m => (fitAny? m.patterns tag).map fun captures => (m, captures) with
  | some (m, captures) => do return some (← m.build chunk captures)
  | none => return none

/-- The node of a token.  A literal may have none, and no macro may take a tag. -/
inductive Step where
  | node (node : Node)
  | nothing
  | unknown (tag : String)

/-- What a token gives. -/
def step (macros : List Macro) (chunk : Run Chunk) (token : Token) : Run Step :=
  match token.kind with
  | .literal => do
    if token.text.isEmpty then return .nothing
    unless (Text.trim token.text.toList).isEmpty do noteContent
    return .node (.text token.text)
  | .expression => do
    noteContent
    return .node (.output (← atLine token.line (expression token.text)))
  | .tag => do
    match ← atLine token.line (dispatch macros chunk token.text) with
    | some node =>
      noteContent
      return .node node
    | none => return .unknown token.text

/-- Parses a chunk.  Every step takes a token, so with more steps than tokens they do not run out;
bodies are parsed with the steps that are left. -/
def parseChunkWithin (macros : List Macro) : Nat → Run Chunk
  | 0 => return ⟨(← get).lineCount, none, []⟩
  | steps + 1 => do
    match (← get).tokens with
    | [] => return ⟨(← get).lineCount, none, []⟩
    | token :: rest =>
      modify fun s => { s with tokens := rest }
      match ← step macros (parseChunkWithin macros steps) token with
      | .unknown tag => return ⟨token.line, some tag, []⟩
      | .nothing => parseChunkWithin macros steps
      | .node node =>
        let chunk ← parseChunkWithin macros steps
        return { chunk with nodes := (token.line, node) :: chunk.nodes }

/-- Parses a chunk. -/
def parseChunk (macros : List Macro) : Run Chunk := do
  parseChunkWithin macros ((← get).tokens.length + 1)

/-- Parses a whole template. -/
def parseTemplate (macros : List Macro) (source name : String) : Except Fault Fragment :=
  match (parseAll (parseChunk macros)).run (.start source name) with
  | .ok fragment _ => .ok fragment
  | .error fault _ => .error fault

end TextTemplate.Tag
