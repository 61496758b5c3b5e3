import DataGrid.Column.Typing
import DataGrid.Row
import DataGrid.Selection
import DataGrid.Sql.Params

/-!
# Programs over an engine

What a request does is written as a program that asks a database engine and a
store of selections, and goes on with the answers.  The program does not say
who answers: a database, a script or a proof may.  An engine or store that
fails answers with its failure.
-/

namespace DataGrid

/-- A question that a program asks. -/
inductive Query
  /-- The number in the first column of the only row of a statement. -/
  | count (statement : Sql.Statement)
  /-- Rows of a statement, from a position on and up to a number of them. -/
  | fetch (statement : Sql.Statement) (offset : Int) (limit : Option Int)
  /-- Execute a statement that writes; the answer is the number of rows. -/
  | execute (statement : Sql.Statement)
  /-- The declared columns of a table; none when it does not exist. -/
  | declarations (table : String)
  /-- The selection stored under a key. -/
  | loadSelection (key : SelectionKey)
  /-- Store a selection under a key. -/
  | storeSelection (key : SelectionKey) (selection : Selection)

namespace Query

abbrev Result : Query → Type
  | count _ => Int
  | fetch _ _ _ => List Row
  | execute _ => Nat
  | declarations _ => List ColumnDeclaration
  | loadSelection _ => Selection
  | storeSelection _ _ => Unit

abbrev Answer (query : Query) : Type :=
  Except EngineFailure query.Result

end Query

/-- A computation that asks questions and ends with a value or an error. -/
inductive Program (α : Type)
  | done (value : α)
  | fail (error : Error)
  | ask (query : Query) (next : query.Answer → Program α)

namespace Program

def bind {α β : Type} (program : Program α) (next : α → Program β) :
    Program β :=
  match program with
  | done value => next value
  | fail error => fail error
  | ask query answered => ask query fun answer => (answered answer).bind next

instance : Monad Program where
  pure := done
  bind := bind

/-- Go on with a result, or fail with its error. -/
def ofExcept {α : Type} : Except Error α → Program α
  | .ok value => done value
  | .error error => fail error

instance : MonadLift (Except Error) Program where
  monadLift := ofExcept

/-- Ask a question; a failure of the engine ends the program. -/
def perform (query : Query) : Program query.Result :=
  ask query fun answer =>
    match answer with
    | .ok result => done result
    | .error failure => fail (.engine failure)

/-- Ask a question and go on with its answer, failure or not. -/
def attempt (query : Query) : Program query.Answer :=
  ask query done

def recover {α : Type} (program : Program α) (handle : Error → Program α) :
    Program α :=
  match program with
  | done value => done value
  | fail error => handle error
  | ask query next => ask query fun answer => (next answer).recover handle

abbrev Handler (σ : Type) := (query : Query) → σ → query.Answer × σ

def run {σ α : Type} (handler : Handler σ) :
    Program α → σ → Except Error α × σ
  | done value, state => (.ok value, state)
  | fail error, state => (.error error, state)
  | ask query next, state =>
      let (answer, state) := handler query state
      (next answer).run handler state

end Program

end DataGrid
