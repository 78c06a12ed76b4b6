import CodeGauge.Value

/-!
# Symbols and edges

The code graph has symbols, each in one file, and edges from a calling symbol to a called one. Where
a symbol begins and ends, what lies above it, and the ends of an edge are values: the graph is kept
in columns, which may hold something else than an integer. Follows section 10.1 of the
specification.
-/

namespace CodeGauge

/-- What a symbol is. -/
inductive SymbolKind where
  | function
  | classDef
  | method
  | variable
  | typeDef
  deriving DecidableEq, Repr

/-- The words for kinds of symbols. -/
instance : Vocabulary SymbolKind where
  title := "SymbolType"
  values := [.function, .classDef, .method, .variable, .typeDef]
  text
    | .function => "function"
    | .classDef => "class"
    | .method => "method"
    | .variable => "variable"
    | .typeDef => "type"

/-- How one symbol refers to another. -/
inductive EdgeKind where
  | call
  | reference
  | importing
  | inheritance
  | containment
  deriving DecidableEq, Repr

/-- The words for kinds of edges. -/
instance : Vocabulary EdgeKind where
  title := "EdgeType"
  values := [.call, .reference, .importing, .inheritance, .containment]
  text
    | .call => "call"
    | .reference => "reference"
    | .importing => "import"
    | .inheritance => "inherit"
    | .containment => "contains"

/-- A symbol with the lines and bytes it spans in its file. -/
structure Symbol where
  id : Int
  name : String
  qualifiedName : String
  file : Path
  line : Value
  endLine : Value
  kind : SymbolKind
  byteStart : Value
  byteEnd : Value
  parent : Value
  deriving DecidableEq

namespace Symbol

/-- The lines from the first to the last, or one line when the last is unknown or before the
first. -/
def lineCount (s : Symbol) : Except Error Value := do
  if s.endLine.isNull then return .int 1
  if (← s.endLine.orderOfLike s.line) = .lt then return .int 1
  (← s.endLine.minus s.line).plus (.int 1)

/-- The bytes of the span, or one when it is unknown or empty. -/
def byteCount (s : Symbol) : Except Error Value := do
  if s.byteStart.isNull || s.byteEnd.isNull then return .int 1
  if (← s.byteEnd.orderOfLike s.byteStart) = .gt then s.byteEnd.minus s.byteStart else return .int 1

end Symbol

/-- A directed relation between two symbols, noted at a line of the caller. An end that is no
integer is no symbol's id. -/
structure Edge where
  id : Int
  caller : Value
  callee : Value
  line : Value
  kind : EdgeKind
  deriving DecidableEq, Repr

/-- What is recorded of an indexed file: the digest of the content its symbols were taken from. -/
structure IndexedFile where
  path : Path
  hash : String
  deriving DecidableEq

end CodeGauge
