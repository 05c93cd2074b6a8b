import DocStore.Cursor
import DocStore.Error
import DocStore.Filter
import DocStore.Update

/-!
The in-memory document engine.

An engine holds collections by name, each with its documents in order of insertion and
its indexes.  Reads select the documents that match, sort them, and slice the result
(`Engine.find`); writes return the engine after them, and give back the engine they were
given when they fail, `Engine.deleteMany` apart, which keeps what it has done.

    (e.put n c).collection? n' = if n' = n then some c else e.collection? n'
                                                             (collection?_put)
-/

namespace DocStore

open Json (Object)

structure Collection where
  documents : List Object := []
  indexes : List (String × Object) := []

structure Engine where
  database : String
  collections : List (String × Collection) := []

namespace Engine

/-! ## Faults -/

inductive Fault where
  | filter (cause : Filter.Fault)
  | identifier (cause : Identifier.Fault)
  | duplicate (database collection : String) (id : Identifier)
  | indexNoKeys (name : String)
  | indexDiffers (name : String)

def Fault.toStoreError : Fault → StoreError
  | filter cause => .storage cause.message
  | identifier cause => .storage (StoreError.invalidIdentifier cause.message).message
  | duplicate db coll id =>
    .storage ("duplicate key error: " ++ db ++ "." ++ coll ++ " _id " ++ id.hex)
  | indexNoKeys name => .indexCreation ("index '" ++ name ++ "' has no keys")
  | indexDiffers name =>
    .indexCreation ("index '" ++ name ++ "' already exists with different options")

/-! ## Collections -/

def collection? (e : Engine) (name : String) : Option Collection :=
  e.collections.lookup name

/-- Write a collection under its name. -/
def writeTo (name : String) (c : Collection) :
    List (String × Collection) → List (String × Collection)
  | [] => [(name, c)]
  | (n, d) :: rest => if n = name then (n, c) :: rest else (n, d) :: writeTo name c rest

def put (e : Engine) (name : String) (c : Collection) : Engine :=
  { e with collections := writeTo name c e.collections }

/-- The documents of a collection; none for one that does not exist. -/
def documents (e : Engine) (name : String) : List Object :=
  ((e.collection? name).map (·.documents)).getD []

theorem lookup_writeTo (name : String) (c : Collection) (cs : List (String × Collection))
    (name' : String) :
    (writeTo name c cs).lookup name' = if name' = name then some c else cs.lookup name' := by
  induction cs with
  | nil =>
    unfold writeTo
    rw [List.lookup_cons]
    by_cases h : name' = name
    · simp [h]
    · rw [beq_eq_false_iff_ne.2 h, if_neg h]
  | cons d rest ih =>
    obtain ⟨n, d⟩ := d
    unfold writeTo
    by_cases h : n = name
    · rw [if_pos h, List.lookup_cons, List.lookup_cons, h]
      by_cases h' : name' = name
      · simp [h']
      · rw [beq_eq_false_iff_ne.2 h', if_neg h']
    · rw [if_neg h, List.lookup_cons, List.lookup_cons, ih]
      by_cases h' : name' = n
      · simp [h', h]
      · rw [beq_eq_false_iff_ne.2 h']

theorem collection?_put (e : Engine) (name : String) (c : Collection) (name' : String) :
    (e.put name c).collection? name' = if name' = name then some c else e.collection? name' :=
  lookup_writeTo name c e.collections name'

/-- Names of the collections, ascending. -/
def collectionNames (e : Engine) : List String :=
  sortTexts (e.collections.map (·.1))

/-- Names of the indexes of a collection, ascending. -/
def indexNames (e : Engine) (name : String) : List String :=
  sortTexts (((e.collection? name).map fun c => c.indexes.map (·.1)).getD [])

/-! ## Reads -/

/-- The documents that match a filter, in their order; the first fault decides. -/
def selectMatching (filter : Object) : List Object → Except Fault (List Object)
  | [] => .ok []
  | doc :: rest =>
    match Filter.matches? filter doc with
    | .error e => .error (.filter e)
    | .ok hit =>
      match selectMatching filter rest with
      | .error e => .error e
      | .ok found => .ok (if hit then doc :: found else found)

/-- How two documents stand for a sort key. -/
def sortOrder (key : SortKey) (a b : Object) : Ordering :=
  let o := Json.sortOrder (Json.lookup a key.field) (Json.lookup b key.field)
  if key.descending then o.swap else o

def sorted (key : Option SortKey) (docs : List Object) : List Object :=
  match key with
  | none => docs
  | some key => sortStable (sortOrder key) docs

/-- Drop what is skipped and keep at most `limit`; a limit of zero is none. -/
def slice {α : Type} (skip limit : Option UInt64) (xs : List α) : List α :=
  let rest := xs.drop ((skip.map UInt64.toNat).getD 0)
  match limit with
  | none => rest
  | some n => if n = 0 then rest else rest.take n.toNat

def find (e : Engine) (name : String) (q : Query) : Except Fault (List Object) :=
  match selectMatching q.filter (e.documents name) with
  | .error e => .error e
  | .ok docs => .ok (slice q.skip q.limit (sorted q.sort docs))

def findOne (e : Engine) (name : String) (q : Query) : Except Fault (Option Object) :=
  (e.find name { q with limit := some 1 }).map List.head?

def count (e : Engine) (name : String) (q : Query) : Except Fault Nat :=
  (e.find name q).map List.length

/-- The numbers among values. -/
def numbers (vs : List Json) : List Number :=
  vs.filterMap fun v =>
    match v with
    | .num n => some n
    | _ => none

/-- The sum of the numbers at a path of the documents found. -/
def sum (e : Engine) (name : String) (q : Query) (path : String) : Except Fault Number :=
  (e.find name q).map fun docs => Number.sum (numbers (docs.filterMap (Json.lookup · path)))

/-! ## Writes -/

/-- The identifier of a document to insert: the one it brings, or the fresh one. -/
def idFor (fresh : Identifier) (doc : Object) : Except Identifier.Fault Identifier :=
  match doc.get? idField with
  | none | some .null => .ok fresh
  | some v => Identifier.ofJson v

/-- Whether a document stands under an identifier. -/
def hasId (id : Identifier) (doc : Object) : Bool :=
  (doc.get? idField).any id.toJson.same

/-- Append a document under its identifier, which no other may have. -/
def insertOne (e : Engine) (name : String) (fresh : Identifier) (doc : Object) :
    Except Fault Identifier × Engine :=
  match idFor fresh doc with
  | .error cause => (.error (.identifier cause), e)
  | .ok id =>
    let c := (e.collection? name).getD {}
    if c.documents.any (hasId id) then (.error (.duplicate e.database name id), e)
    else
      let stored := doc.insert idField id.toJson
      (.ok id, e.put name { c with documents := c.documents ++ [stored] })

/-- A document after a change of its fields; the identifier stays. -/
def changed (change : Object → Object) (doc : Object) : Object :=
  match doc.get? idField with
  | some id => (change doc).insert idField id
  | none => change doc

/-- Change the first document that matches: how many did, and the documents after it. -/
def changeFirst (filter : Object) (change : Object → Option Object) :
    List Object → Except Fault (Nat × List Object)
  | [] => .ok (0, [])
  | doc :: rest =>
    match Filter.matches? filter doc with
    | .error e => .error (.filter e)
    | .ok true => .ok (1, (change doc).toList ++ rest)
    | .ok false =>
      match changeFirst filter change rest with
      | .error e => .error e
      | .ok (n, after) => .ok (n, doc :: after)

/-- Change the first matching document of a collection; `none` takes it out. -/
def changeOne (e : Engine) (name : String) (filter : Object)
    (change : Object → Option Object) : Except Fault Nat × Engine :=
  match e.collection? name with
  | none => (.ok 0, e)
  | some c =>
    match changeFirst filter change c.documents with
    | .error cause => (.error cause, e)
    | .ok (n, after) => (.ok n, e.put name { c with documents := after })

def replaceOne (e : Engine) (name : String) (filter replacement : Object) :
    Except Fault Nat × Engine :=
  e.changeOne name filter fun doc => some (changed (fun _ => replacement) doc)

def updateOne (e : Engine) (name : String) (filter : Object) (u : Update) :
    Except Fault Nat × Engine :=
  e.changeOne name filter fun doc => some (changed u.apply doc)

def deleteOne (e : Engine) (name : String) (filter : Object) : Except Fault Nat × Engine :=
  e.changeOne name filter fun _ => none

/-- Take out the documents that match, up to the first at fault: how many went, and what
is left. -/
def sweep (filter : Object) : List Object → Except Fault Nat × List Object
  | [] => (.ok 0, [])
  | doc :: rest =>
    match Filter.matches? filter doc with
    | .error e => (.error (.filter e), doc :: rest)
    | .ok hit =>
      let (n, left) := sweep filter rest
      if hit then (n.map (· + 1), left) else (n, doc :: left)

def deleteMany (e : Engine) (name : String) (filter : Object) : Except Fault Nat × Engine :=
  match e.collection? name with
  | none => (.ok 0, e)
  | some c =>
    let (n, left) := sweep filter c.documents
    (n, e.put name { c with documents := left })

/-- Define an index.  A name is defined once; to define it again with the same keys is no
fault. -/
def createIndex (e : Engine) (name index : String) (keys : Object) : Except Fault Unit × Engine :=
  if keys.isEmpty then (.error (.indexNoKeys index), e)
  else
    let c := (e.collection? name).getD {}
    match c.indexes.lookup index with
    | some existing =>
      if (Json.obj existing).same (.obj keys) then (.ok (), e)
      else (.error (.indexDiffers index), e)
    | none => (.ok (), e.put name { c with indexes := c.indexes ++ [(index, keys)] })

end Engine

end DocStore
