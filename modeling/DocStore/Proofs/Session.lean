import DocStore.Proofs.History
import DocStore.Store

/-!
Sessions: what callers can ask of a store, in any order and with any arguments, from a
store that has not connected yet (`Store.Request`, `Store.handle`, `Store.Reachable`).

A request settles the connection if need be and then does at most one write:

    s.bringUp.engine = s.engine, whatever came of the connection
                                                             (Coherent.bringUp_engine)
    (s.handle r).2.engine = s.bringUp.engine, or that after one write
                                                             (handle_engine)
    the engine of a reachable store is reachable             (Reachable.engine)
-/

namespace DocStore

open Json (Object)

/-! ## Writes with their answers -/

/-- What an engine answers to a write, apart from values, and the engine after it. -/
def Engine.respond (e : Engine) : Call → Except Fault Unit × Engine
  | .insertOne coll fresh doc => (e.insertOne coll fresh doc.fields).map (.map fun _ => ()) id
  | .replaceOne coll filter replacement =>
    (e.replaceOne coll filter replacement.fields).map (.map fun _ => ()) id
  | .updateOne coll filter u => (e.updateOne coll filter u).map (.map fun _ => ()) id
  | .deleteOne coll filter => (e.deleteOne coll filter).map (.map fun _ => ()) id
  | .deleteMany coll filter => (e.deleteMany coll filter).map (.map fun _ => ()) id
  | .createIndex coll index keys => e.createIndex coll index keys

theorem Engine.respond_snd (e : Engine) (call : Call) : (e.respond call).2 = e.after call := by
  cases call <;> rfl

theorem Engine.Reachable.after {e : Engine} (h : e.Reachable) (call : Call) :
    (e.after call).Reachable := by
  obtain ⟨database, calls, rfl⟩ := h
  exact ⟨database, calls ++ [call], by simp [run, List.foldl_append]⟩

namespace Store

/-! ## Requests -/

/-- Every operation of a store; `write` is a single write on its engine, past the store. -/
inductive Request where
  | ready
  | findById (coll id : String)
  | findByIds (coll : String) (ids : List String)
  | find (coll : String) (ps : List Predicate)
  | findOne (coll : String) (ps : List Predicate)
  | count (coll : String) (ps : List Predicate)
  | sum (coll : String) (ps : List Predicate) (path : String)
  | insert (coll : String) (fresh : Identifier) (doc : Document)
  | removeById (coll id : String)
  | remove (coll : String) (ps : List Predicate)
  | replaceById (coll id : String) (object : Document)
  | updateById (coll id : String) (candidate : Document) (touched : List String)
  | createIndex (coll name : String) (keys : Object)
  | rawCursor (coll : String)
  | pipeline (coll : String) (ps : List Predicate)
  | rawFind (coll : String) (ps : List Predicate)
  | rawFindOne (coll : String) (ps : List Predicate)
  | rawDeleteMany (coll : String) (ps : List Predicate)
  | write (call : Engine.Call)

inductive Reply where
  | done
  | id (hex : String)
  | record (r : Option Record)
  | records (rs : List Record)
  | count (n : Nat)
  | total (n : Number)
  | cursor (c : Cursor)
  | stages (ss : List Json)
  | document (d : Option Object)
  | documents (ds : List Object)

/-- A result as a reply. -/
def reply {α : Type} (f : α → Reply) (p : Except StoreError α × Store) :
    Except StoreError Reply × Store :=
  (p.1.map f, p.2)

/-- The reply to a request, and the store after it. -/
def handle (s : Store) : Request → Except StoreError Reply × Store
  | .ready => reply (fun _ => .done) s.ready
  | .findById coll id => reply .record (s.findById coll id)
  | .findByIds coll ids => reply .records (s.findByIds coll ids)
  | .find coll ps => reply .records (s.find coll ps)
  | .findOne coll ps => reply .record (s.findOne coll ps)
  | .count coll ps => reply .count (s.count coll ps)
  | .sum coll ps path => reply .total (s.sum coll ps path)
  | .insert coll fresh doc => reply .id (s.insert coll fresh doc.fields)
  | .removeById coll id => reply (fun _ => .done) (s.removeById coll id)
  | .remove coll ps => reply (fun _ => .done) (s.remove coll ps)
  | .replaceById coll id object => reply (fun _ => .done) (s.replaceById coll id object.fields)
  | .updateById coll id candidate touched =>
    reply (fun _ => .done) (s.updateById coll id candidate.fields touched)
  | .createIndex coll name keys => (.ok .done, s.createIndex coll name keys)
  | .rawCursor coll => reply .cursor (s.rawCursor coll)
  | .pipeline coll ps => reply .stages (s.pipeline coll ps)
  | .rawFind coll ps => reply .documents (s.rawFind coll ps)
  | .rawFindOne coll ps => reply .document (s.rawFindOne coll ps)
  | .rawDeleteMany coll ps => reply .count (s.rawDeleteMany coll ps)
  | .write call => reply (fun _ => .done) (s.rawWrite fun e => e.respond call)

/-- The store after requests, whatever they were answered. -/
def serve (s : Store) (requests : List Request) : Store :=
  requests.foldl (fun s r => (s.handle r).2) s

/-- The stores that some requests make of one that has not connected; an engine that is
supplied may hold what earlier writes left there. -/
def Reachable (s : Store) : Prop :=
  ∃ config connector console requests,
    (∀ e, connector.supplied = some e → e.Reachable) ∧
      s = (new config connector console).serve requests

/-- What every request keeps holds after every session. -/
theorem serve_induction {P : Store → Prop} (hstep : ∀ s r, P s → P (s.handle r).2) :
    ∀ (requests : List Request) (s : Store), P s → P (s.serve requests) := by
  intro requests
  induction requests with
  | nil => exact fun _ h => h
  | cons r requests ih => exact fun s h => ih (s.handle r).2 (hstep s r h)

/-! ## Bring-up -/

/-- Before the connection is tried, the store shows the engine that it would get. -/
structure Coherent (s : Store) : Prop where
  untried : s.connection = .untried → s.engine = s.connector.offered s.config

theorem coherent_new (config : Config) (connector : Connector) (console : Console) :
    (new config connector console).Coherent :=
  ⟨fun _ => rfl⟩

theorem engine_of_connect {c : Connector} {config : Config} {e : Engine}
    (h : c.connect config = .ok e) : e = c.offered config := by
  unfold Connector.connect at h
  split at h
  · cases h
  · split at h
    · cases h
      rfl
    · cases h

theorem attempt_settles (s : Store) : s.attempt.connection ≠ .untried := by
  unfold attempt
  cases s.config.validate with
  | error e => exact nofun
  | ok severity => cases s.connector.connect s.config <;> exact nofun

theorem bringUp_settles (s : Store) : s.bringUp.connection ≠ .untried := by
  unfold bringUp
  split
  · exact s.attempt_settles
  · next hne => exact hne

/-- To settle the connection leaves the engine as it was, also when it fails. -/
theorem Coherent.bringUp_engine {s : Store} (h : s.Coherent) : s.bringUp.engine = s.engine := by
  unfold bringUp
  split
  · next hc =>
    unfold attempt
    cases s.config.validate with
    | error e => rfl
    | ok severity =>
      simp only
      cases he : s.connector.connect s.config with
      | error e => rfl
      | ok e => exact (engine_of_connect he).trans (h.untried hc).symm
  · rfl

/-- A level is known when some severity has its name, in any case. -/
theorem severity_of_find? {level : String} {v : Severity}
    (h : [Severity.trace, .info, .warn, .error].find?
      (fun w => w.name.map Char.toLower == level.map Char.toLower) = some v) :
    Severity.ofText level = .ok v := by
  unfold Severity.ofText
  simp only [h]

theorem validate_of {c : Config} {v : Severity}
    (hurl : (Unicode.trimBlanks c.url).isEmpty = false)
    (hdatabase : (Unicode.trimBlanks c.database).isEmpty = false)
    (hlevel : Severity.ofText c.logLevel = .ok v) : c.validate = .ok v := by
  unfold Config.validate Config.severity
  rw [hurl, hdatabase, hlevel]
  rfl

/-- A valid configuration with an address that is served from memory brings the store up. -/
theorem bringUp_up {s : Store} (hc : s.connection = .untried) {v : Severity}
    (hv : s.config.validate = .ok v) (hf : s.connector.failure = none)
    (hurl : memoryScheme.toList.isPrefixOf s.config.url.toList = true) :
    s.bringUp.connection = .up := by
  have hconnect : s.connector.connect s.config
      = .ok (s.connector.offered s.config) := by
    unfold Connector.connect
    simp only [hf, hurl, if_true]
  unfold bringUp
  simp only [hc]
  unfold attempt
  simp only [hv, hconnect]
  rfl

/-- A store that serves an engine from memory. -/
def serving (e : Engine) : Store :=
  new { url := "memory://app" } { supplied := some e } {}

theorem reachable_serving {e : Engine} (h : e.Reachable) : (serving e).Reachable := by
  refine ⟨_, _, _, [], ?_, rfl⟩
  rintro _ ⟨⟩
  exact h

theorem serving_up (e : Engine) : (serving e).bringUp.connection = .up := by
  have hlower : ∀ s : String, s.map Char.toLower = String.ofList (s.toList.map Char.toLower) := by
    intro s
    rw [← String.toList_inj, String.toList_map, String.toList_ofList]
  have hlevel : Severity.ofText "warn" = .ok .warn :=
    severity_of_find? (by simp [hlower, Severity.name])
  have hurl : (Unicode.trimBlanks "memory://app").isEmpty = false := by decide +kernel
  have hdatabase : (Unicode.trimBlanks "app").isEmpty = false := by decide +kernel
  have hscheme : memoryScheme.toList.isPrefixOf "memory://app".toList = true := by decide +kernel
  exact bringUp_up rfl (validate_of hurl hdatabase hlevel) rfl hscheme

/-- Two books, of which the second has a list of tags. -/
def books : Engine :=
  let tagged (v : Json) : Document := ⟨[("tags", v)], List.pairwise_singleton _ _⟩
  Engine.run { database := "app" }
    [.insertOne "books" (Identifier.Source.take ⟨0, 0⟩).1 (tagged .null),
      .insertOne "books" (Identifier.Source.take ⟨0, 1⟩).1 (tagged (.arr []))]

theorem reachable_books : books.Reachable :=
  ⟨_, _, rfl⟩

/-! ## Operations on the engine -/

section onEngine

variable {α : Type} (s : Store) (f : Engine → Except StoreError α × Engine)

theorem onEngine_of_down {s : Store} {cause : StoreError}
    (h : s.bringUp.connection = .down cause) : s.onEngine f = (.error cause, s.bringUp) := by
  unfold onEngine
  simp only [h]

theorem onEngine_of_up {s : Store} (h : s.bringUp.connection = .up) :
    s.onEngine f
      = ((f s.bringUp.engine).1, { s.bringUp with engine := (f s.bringUp.engine).2 }) := by
  unfold onEngine
  simp only [h]

/-- An operation is refused over a connection that is down, and else done on the engine. -/
theorem onEngine_cases :
    (∃ cause, s.onEngine f = (.error cause, s.bringUp)) ∨
      s.onEngine f
        = ((f s.bringUp.engine).1, { s.bringUp with engine := (f s.bringUp.engine).2 }) := by
  cases h : s.bringUp.connection with
  | untried => exact absurd h s.bringUp_settles
  | up => exact .inr (onEngine_of_up f h)
  | down cause => exact .inl ⟨cause, onEngine_of_down f h⟩

theorem onEngine_connection : (s.onEngine f).2.connection = s.bringUp.connection := by
  rcases s.onEngine_cases f with ⟨cause, h⟩ | h <;> rw [h]

theorem ask_engine (g : Engine → Except StoreError α) :
    (s.ask g).2.engine = s.bringUp.engine := by
  unfold ask
  rcases s.onEngine_cases (fun e => (g e, e)) with ⟨cause, h⟩ | h <;> rw [h]

/-- What is asked over a connection that is up, the engine answers. -/
theorem ask_of_up {s : Store} (h : s.bringUp.connection = .up)
    (g : Engine → Except StoreError α) : (s.ask g).1 = g s.bringUp.engine := by
  unfold ask
  rw [onEngine_of_up _ h]

theorem ask_of_down {s : Store} {cause : StoreError} (h : s.bringUp.connection = .down cause)
    (g : Engine → Except StoreError α) : (s.ask g).1 = .error cause := by
  unfold ask
  rw [onEngine_of_down _ h]

theorem up_of_ask {s : Store} {g : Engine → Except StoreError α} {a : α}
    (h : (s.ask g).1 = .ok a) : s.bringUp.connection = .up := by
  cases hc : s.bringUp.connection with
  | untried => exact absurd hc s.bringUp_settles
  | up => rfl
  | down cause =>
    rw [ask_of_down hc] at h
    cases h

/-- A read by predicates that compile is one by their cursor. -/
theorem ask_compiled {s : Store} (h : s.bringUp.connection = .up) {coll : String}
    {ps : List Predicate} {c : Cursor} (hc : compile coll ps = .ok c)
    (g : Engine → Cursor → Except StoreError α) :
    (s.ask fun e => compile coll ps >>= g e).1 = g s.bringUp.engine c := by
  rw [ask_of_up h, hc]
  rfl

/-- A search by predicates that compile. -/
theorem find_compiled {s : Store} (h : s.bringUp.connection = .up) {coll : String}
    {ps : List Predicate} {c : Cursor} (hc : compile coll ps = .ok c) :
    (s.find coll ps).1
      = answer (s.bringUp.engine.find coll c.query) >>= Record.ofDocuments :=
  ask_compiled h hc fun e c => answer (e.find coll c.query) >>= Record.ofDocuments

/-- An operation on the engine of at most one write. -/
def OneWrite (f : Engine → Except StoreError α × Engine) : Prop :=
  ∀ e, (f e).2 = e ∨ ∃ call, (f e).2 = e.after call

variable {f}

theorem OneWrite.onEngine_engine (h : OneWrite f) :
    (s.onEngine f).2.engine = s.bringUp.engine ∨
    ∃ call, (s.onEngine f).2.engine = s.bringUp.engine.after call := by
  rcases s.onEngine_cases f with ⟨cause, he⟩ | he
  · rw [he]
    exact .inl rfl
  · rw [he]
    exact h s.bringUp.engine

end onEngine

theorem distinct_prepared {doc p : Object} (hd : doc.Distinct) (h : prepared doc = .ok p) :
    p.Distinct := by
  unfold prepared at h
  split at h
  · cases h
    exact hd
  · cases h
    exact hd.erase _
  · next v _ _ =>
    cases hid : readIdJson v with
    | error cause =>
      rw [hid] at h
      cases h
    | ok id =>
      rw [hid] at h
      cases h
      exact hd.insert _ _

theorem oneWrite_onId (id : String) {f : Engine → Object → Except Engine.Fault Nat × Engine}
    (hf : ∀ e filter, (f e filter).2 = e ∨ ∃ call, (f e filter).2 = e.after call) (s : Store) :
    (s.onId id f).2.engine = s.bringUp.engine ∨
    ∃ call, (s.onId id f).2.engine = s.bringUp.engine.after call := by
  refine OneWrite.onEngine_engine s fun e => ?_
  split
  · exact .inl rfl
  · exact hf e _

/-- To define an index is an operation on the engine, whose answer is only logged. -/
theorem createIndex_eq (s : Store) (coll name : String) (keys : Object) :
    let p := s.onEngine fun e => ((answer (e.createIndex coll name keys).1,
      (e.createIndex coll name keys).2) : Except StoreError Unit × Engine)
    (s.createIndex coll name keys).engine = p.2.engine ∧
      (s.createIndex coll name keys).connection = p.2.connection :=
  ⟨rfl, rfl⟩

/-- After a request, the engine is the one before it or that after one write. -/
theorem handle_engine (s : Store) (r : Request) :
    (s.handle r).2.engine = s.bringUp.engine ∨
    ∃ call, (s.handle r).2.engine = s.bringUp.engine.after call := by
  cases r with
  | insert coll fresh doc =>
    refine OneWrite.onEngine_engine s fun e => ?_
    cases hp : prepared doc.fields with
    | error cause => exact .inl rfl
    | ok p => exact .inr ⟨.insertOne coll fresh ⟨p, distinct_prepared doc.distinct hp⟩, rfl⟩
  | removeById coll id => exact oneWrite_onId id (fun _ f => .inr ⟨.deleteOne coll f, rfl⟩) s
  | replaceById coll id object =>
    exact oneWrite_onId id
      (fun _ f => .inr ⟨.replaceOne coll f ⟨_, object.distinct.erase idField⟩, rfl⟩) s
  | updateById coll id candidate touched =>
    refine oneWrite_onId id (fun e f => ?_) s
    simp only
    split
    · exact .inl rfl
    · exact .inr ⟨.updateOne coll f _, rfl⟩
  | remove coll ps | rawDeleteMany coll ps =>
    refine OneWrite.onEngine_engine s fun e => ?_
    split
    · exact .inl rfl
    · exact .inr ⟨.deleteMany coll _, rfl⟩
  | createIndex coll name keys =>
    show (s.createIndex coll name keys).engine = _ ∨
      ∃ call, (s.createIndex coll name keys).engine = s.bringUp.engine.after call
    rw [(s.createIndex_eq coll name keys).1]
    exact OneWrite.onEngine_engine s fun e => .inr ⟨.createIndex coll name keys, rfl⟩
  | write call =>
    exact OneWrite.onEngine_engine s fun e => .inr ⟨call, e.respond_snd call⟩
  | _ => exact .inl (s.ask_engine _)

theorem handle_connection (s : Store) (r : Request) :
    (s.handle r).2.connection = s.bringUp.connection := by
  cases r with
  | createIndex coll name keys =>
    exact (s.createIndex_eq coll name keys).2.trans (s.onEngine_connection _)
  | _ => exact s.onEngine_connection _

/-- Over a connection that is up, the engine answers to a write past the store. -/
theorem handle_write {s : Store} (h : s.bringUp.connection = .up) (call : Engine.Call) :
    (s.handle (.write call)).1
      = (answer (s.bringUp.engine.respond call).1).map fun _ => .done := by
  show (reply _ (s.onEngine _)).1 = _
  rw [onEngine_of_up _ h]
  rfl

theorem coherent_handle (s : Store) (r : Request) : (s.handle r).2.Coherent := by
  refine ⟨fun h => absurd h ?_⟩
  rw [s.handle_connection r]
  exact s.bringUp_settles

/-! ## Reachable stores -/

theorem Reachable.coherent {s : Store} (h : s.Reachable) : s.Coherent := by
  obtain ⟨config, connector, console, requests, -, rfl⟩ := h
  exact serve_induction (fun s r _ => s.coherent_handle r) requests _
    (coherent_new config connector console)

/-- What a store that serves an engine finds, is found by the engine. -/
theorem find_serving {e : Engine} (he : e.Reachable) {coll : String} {ps : List Predicate}
    {c : Cursor} (hc : compile coll ps = .ok c) :
    ((serving e).find coll ps).1 = answer (e.find coll c.query) >>= Record.ofDocuments := by
  rw [find_compiled (serving_up e) hc, (reachable_serving he).coherent.bringUp_engine]
  rfl

theorem Reachable.handle {s : Store} (h : s.Reachable) (r : Request) : (s.handle r).2.Reachable := by
  obtain ⟨config, connector, console, requests, he, rfl⟩ := h
  exact ⟨config, connector, console, requests ++ [r], he, by simp [serve, List.foldl_append]⟩

/-- What a store's engine holds, writes have put there. -/
theorem Reachable.engine {s : Store} (h : s.Reachable) : s.engine.Reachable := by
  obtain ⟨config, connector, console, requests, he, rfl⟩ := h
  have hnew : (new config connector console).engine.Reachable := by
    show (connector.offered config).Reachable
    unfold Connector.offered
    cases hs : connector.supplied with
    | none => exact ⟨config.database, [], rfl⟩
    | some e => exact he e hs
  refine (serve_induction (P := fun s => s.Coherent ∧ s.engine.Reachable) ?_ requests _
    ⟨coherent_new config connector console, hnew⟩).2
  rintro s r ⟨hc, hr⟩
  refine ⟨s.coherent_handle r, ?_⟩
  rw [← hc.bringUp_engine] at hr
  rcases s.handle_engine r with hs | ⟨call, hs⟩
  · rw [hs]
    exact hr
  · rw [hs]
    exact hr.after call

end Store

end DocStore
