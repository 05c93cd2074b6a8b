import DocStore.Compile
import DocStore.Config
import DocStore.Engine
import DocStore.Record

/-!
The store: create, read, update and delete over one engine.

A store connects once, when an operation first needs its engine (`Store.bringUp`); what
came of it holds for all later operations.  Every operation looks at the connection
first, then at identifiers and predicates, and then asks the engine.  Documents come back
as records.
-/

namespace DocStore

open Json (Object)

/-! ## Connection -/

/-- Where an engine comes from: supplied, or made afresh for the configured database. -/
structure Connector where
  failure : Option String := none
  supplied : Option Engine := none

/-- The scheme of the addresses that are served from memory. -/
def memoryScheme : String := "memory://"

/-- The engine that a connection shows: the one supplied, or a fresh one. -/
def Connector.offered (c : Connector) (config : Config) : Engine :=
  c.supplied.getD { database := config.database }

/-- The engine that a connection attempt yields. -/
def Connector.connect (c : Connector) (config : Config) : Except StoreError Engine :=
  match c.failure with
  | some reason => .error (.connectionFailure reason)
  | none =>
    if memoryScheme.toList.isPrefixOf config.url.toList then .ok (c.offered config)
    else .error (.connectionFailure ("unsupported url scheme: " ++ config.url))

/-- What came of the connection attempt. -/
inductive Connection where
  | untried
  | up
  | down (cause : StoreError)

structure Store where
  config : Config
  connector : Connector
  connection : Connection := .untried
  /-- How often the connector was asked. -/
  attempts : Nat := 0
  /-- The engine, once the connection is up. -/
  engine : Engine
  console : Console

namespace Store

/-- A store that has not connected yet. -/
def new (config : Config) (connector : Connector) (console : Console) : Store where
  config := config
  connector := connector
  engine := connector.offered config
  console := console

/-- A store over an empty engine of its own. -/
def inMemory (database : String) (console : Console) : Store :=
  new { url := memoryScheme ++ database, database := database } {} console

/-- A failed bring-up is always a failed connection. -/
def connectionCause : StoreError → StoreError
  | .connectionFailure reason => .connectionFailure reason
  | e => .connectionFailure e.message

def settleDown (s : Store) (e : StoreError) : Store :=
  let cause := connectionCause e
  { s with
    connection := .down cause
    console := s.console.report .connectFailed [("code", cause.code), ("error", cause.message)] }

def settleUp (s : Store) (engine : Engine) : Store :=
  { s with
    connection := .up
    engine := engine
    console := s.console.report .connectComplete [("database", engine.database)] }

def settle (s : Store) : Except StoreError Engine → Store
  | .ok engine => s.settleUp engine
  | .error e => s.settleDown e

/-- The store once the attempt is reported to have begun. -/
def announced (s : Store) (console : Console) : Store :=
  { s with
    console := console.report .connectBegin
      [("database", s.config.database), ("url", s.config.url)] }

/-- The one connection attempt.  The connector is not asked when the configuration is not
valid. -/
def attempt (s : Store) : Store :=
  match s.config.validate with
  | .error e => (s.announced s.console).settleDown e
  | .ok severity =>
    let begun :=
      { s.announced { s.console with threshold := severity } with attempts := s.attempts + 1 }
    begun.settle (s.connector.connect s.config)

/-- The store with its connection settled. -/
def bringUp (s : Store) : Store :=
  match s.connection with
  | .untried => s.attempt
  | _ => s

/-- Run an operation on the engine. -/
def onEngine {α : Type} (s : Store) (f : Engine → Except StoreError α × Engine) :
    Except StoreError α × Store :=
  let s := s.bringUp
  match s.connection with
  | .down cause => (.error cause, s)
  | _ =>
    let (answer, engine) := f s.engine
    (answer, { s with engine := engine })

/-- Ask the engine without changing it. -/
def ask {α : Type} (s : Store) (f : Engine → Except StoreError α) : Except StoreError α × Store :=
  s.onEngine fun e => (f e, e)

/-- An engine's answer as the store's. -/
def answer {α : Type} (r : Except Engine.Fault α) : Except StoreError α :=
  match r with
  | .ok a => .ok a
  | .error e => .error e.toStoreError

def ready (s : Store) : Except StoreError Unit × Store :=
  s.ask fun _ => .ok ()

/-! ## Identifiers -/

def readId (text : String) : Except StoreError Identifier :=
  match Identifier.ofText text with
  | .ok id => .ok id
  | .error e => .error (.invalidIdentifier e.message)

theorem readId_of_ok {text : String} {id : Identifier} (h : Identifier.ofText text = .ok id) :
    readId text = .ok id := by
  unfold readId
  rw [h]

theorem readId_of_error {text : String} {cause : Identifier.Fault}
    (h : Identifier.ofText text = .error cause) :
    readId text = .error (.invalidIdentifier cause.message) := by
  unfold readId
  rw [h]

def readIdJson (v : Json) : Except StoreError Identifier :=
  match Identifier.ofJson v with
  | .ok id => .ok id
  | .error e => .error (.invalidIdentifier e.message)

/-- The filter of the document under an identifier. -/
def idFilter (id : Identifier) : Object :=
  [(idField, id.toJson)]

/-! ## Reads -/

/-- The record of a document, if there is one. -/
def recordOf (doc : Option Object) : Except StoreError (Option Record) :=
  match doc with
  | none => .ok none
  | some doc => (Record.ofDocument doc).map some

def findById (s : Store) (coll id : String) : Except StoreError (Option Record) × Store :=
  s.ask fun e => do
    let id ← readId id
    recordOf (← answer (e.findOne coll { filter := idFilter id }))

/-- The records under any of the identifiers, in the collection's order. -/
def findByIds (s : Store) (coll : String) (ids : List String) :
    Except StoreError (List Record) × Store :=
  s.ask fun e => do
    let ids ← ids.mapM readId
    let oneOf := Json.obj [("$in", .arr (ids.map (·.toJson)))]
    Record.ofDocuments (← answer (e.find coll { filter := [(idField, oneOf)] }))

def find (s : Store) (coll : String) (ps : List Predicate) :
    Except StoreError (List Record) × Store :=
  s.ask fun e => do
    let cursor ← compile coll ps
    Record.ofDocuments (← answer (e.find coll cursor.query))

def findOne (s : Store) (coll : String) (ps : List Predicate) :
    Except StoreError (Option Record) × Store :=
  s.ask fun e => do
    let cursor ← compile coll ps
    recordOf (← answer (e.findOne coll cursor.query))

def count (s : Store) (coll : String) (ps : List Predicate) : Except StoreError Nat × Store :=
  s.ask fun e => do
    let cursor ← compile coll ps
    answer (e.count coll cursor.query)

def sum (s : Store) (coll : String) (ps : List Predicate) (path : String) :
    Except StoreError Number × Store :=
  s.ask fun e => do
    let cursor ← compile coll ps
    answer (e.sum coll cursor.query path)

/-! ## Writes -/

/-- A document as it is handed to the engine: a null identifier left out, another one in
its stored form. -/
def prepared (doc : Object) : Except StoreError Object :=
  match doc.get? idField with
  | none => .ok doc
  | some .null => .ok (doc.erase idField)
  | some v => do return doc.insert idField (← readIdJson v).toJson

/-- Insert a document under its own identifier or the fresh one. -/
def insert (s : Store) (coll : String) (fresh : Identifier) (doc : Object) :
    Except StoreError String × Store :=
  s.onEngine fun e =>
    match prepared doc with
    | .error cause => (.error cause, e)
    | .ok doc =>
      let (id, e) := e.insertOne coll fresh doc
      ((answer id).map (·.hex), e)

/-- A write to the document under an identifier. -/
def onId (s : Store) (id : String) (f : Engine → Object → Except Engine.Fault Nat × Engine) :
    Except StoreError Unit × Store :=
  s.onEngine fun e =>
    match readId id with
    | .error cause => (.error cause, e)
    | .ok id =>
      let (n, e) := f e (idFilter id)
      ((answer n).map fun _ => (), e)

def removeById (s : Store) (coll id : String) : Except StoreError Unit × Store :=
  s.onId id fun e filter => e.deleteOne coll filter

/-- Remove every matching document, whatever slice the query asks for. -/
def remove (s : Store) (coll : String) (ps : List Predicate) : Except StoreError Unit × Store :=
  s.onEngine fun e =>
    match compile coll ps with
    | .error cause => (.error cause, e)
    | .ok cursor =>
      let (n, e) := e.deleteMany coll cursor.filter
      ((answer n).map fun _ => (), e)

def replaceById (s : Store) (coll id : String) (object : Object) :
    Except StoreError Unit × Store :=
  s.onId id fun e filter => e.replaceOne coll filter (object.erase idField)

/-- Write and take out the touched fields; nothing is asked of the engine when there are
none. -/
def updateById (s : Store) (coll id : String) (candidate : Object) (touched : List String) :
    Except StoreError Unit × Store :=
  s.onId id fun e filter =>
    let u := Update.ofTouched candidate touched
    if u.isEmpty then (.ok 0, e) else e.updateOne coll filter u

/-! ## Indexes -/

/-- What is logged of the definition of an index. -/
def indexReport (coll name : String) (answered : Except StoreError Unit) (console : Console) :
    Console :=
  match answered with
  | .ok () => console.report .indexCreated [("collection", coll), ("name", name)]
  | .error e =>
    console.report .indexCreateSkipped
      [("collection", coll), ("error", e.message), ("name", name)]

/-- Define an index if that can be done; what came of it is only logged. -/
def createIndex (s : Store) (coll name : String) (keys : Object) : Store :=
  let (answered, s) := s.onEngine fun e =>
    let (r, e) := e.createIndex coll name keys
    (answer r, e)
  { s with console := indexReport coll name answered s.console }

/-! ## Raw access -/

/-- The query of a whole collection. -/
def rawCursor (s : Store) (coll : String) : Except StoreError Cursor × Store :=
  s.ask fun _ => .ok { collection := coll }

def pipeline (s : Store) (coll : String) (ps : List Predicate) :
    Except StoreError (List Json) × Store :=
  s.ask fun _ => do return (← compile coll ps).pipeline

/-- Documents as they are stored. -/
def rawFind (s : Store) (coll : String) (ps : List Predicate) :
    Except StoreError (List Object) × Store :=
  s.ask fun e => do answer (e.find coll (← compile coll ps).query)

def rawFindOne (s : Store) (coll : String) (ps : List Predicate) :
    Except StoreError (Option Object) × Store :=
  s.ask fun e => do answer (e.findOne coll (← compile coll ps).query)

def rawDeleteMany (s : Store) (coll : String) (ps : List Predicate) :
    Except StoreError Nat × Store :=
  s.onEngine fun e =>
    match compile coll ps with
    | .error cause => (.error cause, e)
    | .ok cursor =>
      let (n, e) := e.deleteMany coll cursor.filter
      (answer n, e)

/-- A single write on the engine. -/
def rawWrite {α : Type} (s : Store) (f : Engine → Except Engine.Fault α × Engine) :
    Except StoreError α × Store :=
  s.onEngine fun e =>
    let (r, e) := f e
    (answer r, e)

end Store

end DocStore
