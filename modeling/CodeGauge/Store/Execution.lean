import CodeGauge.Store.Opening

/-!
# Running statements

Statements run inside an implicit transaction that the first writing one opens. A method commits
what it wrote when it succeeds; what a failed one wrote before stays pending until it is committed
by a later method or rolled back.
-/

open Std

namespace CodeGauge

namespace Action

variable {ω α : Type}

/-- A successful call forgets the last fault. -/
def succeed : Action ω Unit :=
  onConnection fun c => { c with fault := none }

/-- The tables as the connection sees them. -/
def tables : Action ω Database := do
  let c ← connection
  match (← get).tables c with
  | .ok db => return db
  | .error fault => refuse fault

/-- Fail if a table of the statement is missing. -/
def requireTables (statement : Statement) : Action ω Unit := do
  match (← tables).missing? statement.tables with
  | some table => refuse (.noTable table.text)
  | none => pure ()

/-- Fail if the statement lists more values than the database library allows. -/
def requireListed (statement : Statement) : Action ω Unit := do
  if (← get).capacity.listed < statement.listed then refuse .tooManyValues

/-- Make a statement ready. One that was ready before is used again as it is. -/
def prepare (statement : Statement) : Action ω Unit := do
  unless (← connection).ready.contains statement do
    requireListed statement
    requireTables statement
    if let some column := statement.unknownColumn? then refuse (.noColumn column)
    onConnection fun c => { c with ready := statement :: c.ready, fault := none }

/-- Open a transaction, unless one is open. -/
def openTransaction : Action ω Unit := do
  if (← connection).transaction.isNone then
    onConnection fun c => { c with transaction := some {}, fault := none }

/-- Close the open transaction and keep what it wrote; without one nothing is done. -/
def commit : Action ω Unit := do
  let c ← connection
  if let some t := c.transaction then
    if let some db := t.written then
      change fun w => { w with databases := w.databases.insert c.file db }
    onConnection fun c => { c with transaction := none, fault := none }

/-- Close the open transaction and forget what it wrote; without one nothing is done. -/
def rollback : Action ω Unit := do
  if (← connection).transaction.isSome then
    onConnection fun c => { c with transaction := none, fault := none }

/-- Whether a column can hold the value. -/
def fits : Value → Bool
  | .int n => inColumn n
  | _ => true

/-- Give a statement its values, in order. An integer that no column can hold is an error of its
own, except that at the first place the fault of the last statement, if it is still remembered,
comes out instead. -/
def bind (values : List Value) : Action ω Unit := do
  match values.findIdx? (!fits ·) with
  | none => unless values.isEmpty do succeed
  | some 0 =>
    match (← connection).fault with
    | some fault => throw (.database fault)
    | none => throw .beyondColumn
  | some _ =>
    succeed
    throw .beyondColumn

/-- Run a reading statement. -/
def query (statement : Statement) (values : List Value) (read : Database → α) : Action ω α := do
  prepare statement
  bind values
  requireTables statement
  succeed
  return read (← tables)

/-- Whether running a statement that turns `before` into `after` writes to the file. -/
def writesTo (statement : Statement) (before after : Database) : Bool :=
  statement.alwaysWrites || before != after

/-- Run a writing statement that is ready. A database that is full loses all that is pending. -/
def perform (statement : Statement) (values : List Value)
    (write : Database → Except DatabaseFault (α × Database)) : Action ω α := do
  bind values
  requireTables statement
  let c ← connection
  unless c.writes do refuse .readOnly
  let before ← tables
  match write before with
  | .error .full =>
    onConnection fun c => { c with transaction := none }
    refuse .full
  | .error fault => refuse fault
  | .ok (a, after) =>
    if (← get).hasMoved c && writesTo statement before after then refuse .readOnly
    onConnection fun c => { c with transaction := some ⟨some after⟩, fault := none }
    return a

/-- Run a writing statement inside a transaction that stays open. -/
def update (statement : Statement) (values : List Value)
    (write : Database → Except DatabaseFault (α × Database)) : Action ω α := do
  prepare statement
  openTransaction
  perform statement values write

/-- Run a writing statement and commit. -/
def updateAndCommit (statement : Statement) (values : List Value)
    (write : Database → Except DatabaseFault (α × Database)) : Action ω α := do
  let a ← update statement values write
  commit
  return a

/-- Read with one transaction around all statements. What is pending is committed before, and
what the body leaves pending is forgotten. A body that closes the connection leaves no
transaction to end. -/
def reading (body : Action ω α) : Action ω α := do
  let c ← connection
  commit
  openTransaction
  let r ← body.outcome
  match (← get).repository.connection with
  | some now =>
    if now.serial = c.serial then rollback else throw .closedConnection
  | none => throw .closedConnection
  of r

end Action

end CodeGauge
