import DocStore.Proofs.Session

/-!
Callers who share one connection attempt.

Any number of callers ask a store, at any time and in any order (`Traffic.Move`).  The first
of them that is polled sets the attempt going, the others wait with it, and once it has come
to something, every caller goes on with that.  The attempt falls into two moves, since
callers come, give up and are polled while the connector has not answered:

    s.attempt = s.launch, or s.launch.land       (launch_of_invalid, launch_of_valid)

Whatever the callers do, the store is asked for one engine, and all of them go by what came
of that:

    no engine → every answer is the same refusal             (Orderly.refused)
    an engine → the answers are those of one caller on it    (Orderly.served)
    one move keeps this, and so do all of them               (Shares.step, Shares.run)
    after any moves, and nobody waits for ever               (shares_one_attempt)
-/

namespace DocStore

open Json (Object)

namespace Store

-- which check of a configuration fails makes no difference here
attribute [local irreducible] Config.validate

/-! ## The attempt in two moves -/

/-- The attempt up to where it waits: the connector is asked, unless the configuration is not
valid, which settles it. -/
def launch (s : Store) : Store :=
  match s.config.validate with
  | .error e => (s.announced s.console).settleDown e
  | .ok severity =>
    { s.announced { s.console with threshold := severity } with attempts := s.attempts + 1 }

/-- The attempt from where it waits: the connector answers. -/
def land (s : Store) : Store :=
  s.settle (s.connector.connect s.config)

/-- Where the attempt stands that all callers share.  It is set going once, and who waits for
it goes on with what has come of it. -/
inductive Stage where
  | idle
  | inFlight
  | settled
  deriving DecidableEq

/-- Launched, an attempt waits for the connector or is settled already. -/
def Connection.stage : Connection → Stage
  | .untried => .inFlight
  | _ => .settled

/-- An attempt that is settled when it is launched has come to its end. -/
theorem launch_of_invalid {s : Store} {e : StoreError} (h : s.config.validate = .error e) :
    s.launch = s.attempt ∧ Connection.stage s.launch.connection = .settled := by
  unfold launch attempt
  rw [h]
  exact ⟨rfl, rfl⟩

/-- An attempt that waits for the connector comes to its end when that answers. -/
theorem launch_of_valid {s : Store} {v : Severity} (h : s.config.validate = .ok v) :
    s.launch.land = s.attempt ∧ s.launch.connection = s.connection := by
  unfold launch attempt
  rw [h]
  exact ⟨rfl, rfl⟩

theorem launch_asks {s : Store} {v : Severity} (h : s.config.validate = .ok v) :
    s.launch.engine = s.engine ∧ s.launch.attempts = s.attempts + 1 := by
  unfold launch
  rw [h]
  exact ⟨rfl, rfl⟩

/-! ## What comes of connecting -/

/-- The engine that comes of connecting, or why there is none. -/
def outcome (config : Config) (connector : Connector) : Except StoreError Engine :=
  match config.validate with
  | .error e => .error (connectionCause e)
  | .ok _ => (connector.connect config).mapError connectionCause

def connectionOf : Except StoreError Engine → Connection
  | .ok _ => .up
  | .error cause => .down cause

theorem connectionCause_eq (e : StoreError) :
    ∃ reason, connectionCause e = .connectionFailure reason := by
  cases e <;> exact ⟨_, rfl⟩

theorem outcome_error {config : Config} {connector : Connector} {cause : StoreError}
    (h : outcome config connector = .error cause) :
    ∃ reason, cause = .connectionFailure reason := by
  unfold outcome at h
  split at h
  · next e _ =>
    cases h
    exact connectionCause_eq e
  · cases hc : connector.connect config with
    | ok engine =>
      rw [hc] at h
      cases h
    | error e =>
      rw [hc] at h
      cases h
      exact connectionCause_eq e

theorem outcome_ok {config : Config} {connector : Connector} {engine : Engine}
    (h : outcome config connector = .ok engine) : engine = connector.offered config := by
  unfold outcome at h
  split at h
  · cases h
  · cases hc : connector.connect config with
    | ok e =>
      rw [hc] at h
      cases h
      exact engine_of_connect hc
    | error e =>
      rw [hc] at h
      cases h

theorem attempt_connection (s : Store) :
    s.attempt.connection = connectionOf (outcome s.config s.connector) := by
  unfold attempt outcome
  cases s.config.validate with
  | error e => rfl
  | ok severity =>
    simp only
    cases s.connector.connect s.config with
    | error e => rfl
    | ok engine => rfl

/-- The connector is asked once, and only with a configuration that is valid. -/
theorem attempt_attempts (s : Store) :
    (∃ e, s.config.validate = .error e ∧ s.attempt.attempts = s.attempts) ∨
      ∃ v, s.config.validate = .ok v ∧ s.attempt.attempts = s.attempts + 1 := by
  unfold attempt
  cases s.config.validate with
  | error e => exact .inl ⟨e, rfl, rfl⟩
  | ok severity =>
    refine .inr ⟨severity, rfl, ?_⟩
    simp only
    cases s.connector.connect s.config with
    | error e => rfl
    | ok engine => rfl

/-! ## One request -/

/-- The answer of a request for which there is no engine: the definition of an index only logs
that. -/
def refusal (cause : StoreError) : Request → Except StoreError Reply
  | .createIndex _ _ _ => .ok .done
  | _ => .error cause

/-- Every request is one operation on the engine; what else it changes is what is logged. -/
theorem handle_operates (r : Request) :
    ∃ (α : Type) (f : Engine → Except StoreError α × Engine)
      (g : Except StoreError α → Except StoreError Reply)
      (log : Except StoreError α → Console → Console),
      (∀ cause, g (.error cause) = refusal cause r) ∧
      ∀ s : Store, s.handle r = (g (s.onEngine f).1,
        { (s.onEngine f).2 with console := log (s.onEngine f).1 (s.onEngine f).2.console }) := by
  cases r with
  | createIndex coll name keys =>
    refine ⟨Unit, fun e => (answer (e.createIndex coll name keys).1,
      (e.createIndex coll name keys).2), fun _ => .ok .done, indexReport coll name,
      fun _ => rfl, fun s => ?_⟩
    show (_, s.createIndex coll name keys) = _
    rfl
  | _ => exact ⟨_, _, Except.map _, fun _ console => console, fun _ => rfl, fun s => rfl⟩

theorem serve_nil (s : Store) : s.serve [] = s :=
  rfl

theorem serve_append (s : Store) (rs rs' : List Request) :
    s.serve (rs ++ rs') = (s.serve rs).serve rs' :=
  List.foldl_append

theorem bringUp_of_untried {s : Store} (h : s.connection = .untried) : s.bringUp = s.attempt := by
  unfold bringUp
  rw [h]

theorem bringUp_of_settled {s : Store} (h : s.connection ≠ .untried) : s.bringUp = s := by
  unfold bringUp
  split
  · next hc => exact absurd hc h
  · rfl

theorem onEngine_bringUp {α : Type} (s : Store) (f : Engine → Except StoreError α × Engine) :
    s.bringUp.onEngine f = s.onEngine f := by
  unfold onEngine
  rw [bringUp_of_settled s.bringUp_settles]

/-- A request does not tell whether the connection was settled for it or before it. -/
theorem handle_bringUp (s : Store) (r : Request) : s.bringUp.handle r = s.handle r := by
  obtain ⟨α, f, g, log, -, hr⟩ := handle_operates r
  rw [hr, hr, onEngine_bringUp]

/-- Without an engine, a request is refused whatever it asks, and changes nothing. -/
theorem handle_of_down {s : Store} {cause : StoreError} (h : s.connection = .down cause)
    (r : Request) :
    (s.handle r).1 = refusal cause r ∧ ∃ console, (s.handle r).2 = { s with console } := by
  have hs : s.bringUp = s := bringUp_of_settled (by rw [h]; exact nofun)
  have hdown : s.bringUp.connection = .down cause := by
    rw [hs]
    exact h
  obtain ⟨α, f, g, log, hg, hr⟩ := handle_operates r
  rw [hr, onEngine_of_down f hdown, hs]
  exact ⟨hg cause, _, rfl⟩

/-- A store that is up over an engine. -/
def upWith (e : Engine) : Store where
  config := {}
  connector := {}
  connection := .up
  engine := e
  console := {}

/-- What a request does to an engine: the answer, and the engine after it. -/
def work (r : Request) (e : Engine) : Except StoreError Reply × Engine :=
  (((upWith e).handle r).1, ((upWith e).handle r).2.engine)

/-- Over a connection that is up, a request is a matter of the engine alone. -/
theorem handle_of_up {s : Store} (h : s.connection = .up) (r : Request) :
    (s.handle r).1 = (work r s.engine).1 ∧
      ∃ console, (s.handle r).2 = { s with engine := (work r s.engine).2, console } := by
  have hs : s.bringUp = s := bringUp_of_settled (by rw [h]; exact nofun)
  have hup : s.bringUp.connection = .up := by
    rw [hs]
    exact h
  have hwith : (upWith s.engine).bringUp.connection = .up := rfl
  obtain ⟨α, f, g, log, -, hr⟩ := handle_operates r
  unfold work
  rw [hr, hr, onEngine_of_up f hup, hs, onEngine_of_up f hwith]
  exact ⟨rfl, _, rfl⟩

/-! ## Callers -/

/-- A store and its callers: the requests that wait, in the order in which they came, and those
that are answered, with their answers and in the order of these. -/
structure Traffic where
  store : Store
  stage : Stage := .idle
  waiting : List Request := []
  answered : List (Request × Except StoreError Reply) := []

namespace Traffic

/-- A store that nobody has asked yet. -/
def start (s : Store) : Traffic where
  store := s

inductive Move where
  /-- A caller asks. -/
  | arrive (r : Request)
  /-- The caller at a place among those who wait is polled. -/
  | poll (i : Nat)
  /-- The caller at a place among those who wait gives up. -/
  | leave (i : Nat)
  /-- The connector answers. -/
  | land

/-- The caller with the request `r`, at the place `i`, is polled. -/
def poll (t : Traffic) (i : Nat) (r : Request) : Traffic :=
  match t.stage with
  | .idle => { t with store := t.store.launch, stage := Connection.stage t.store.launch.connection }
  | .inFlight => t
  | .settled =>
    { t with
      store := (t.store.handle r).2
      waiting := t.waiting.eraseIdx i
      answered := t.answered ++ [(r, (t.store.handle r).1)] }

theorem poll_idle {t : Traffic} (h : t.stage = .idle) (i : Nat) (r : Request) :
    t.poll i r
      = { t with store := t.store.launch, stage := Connection.stage t.store.launch.connection } := by
  unfold poll
  rw [h]

theorem poll_inFlight {t : Traffic} (h : t.stage = .inFlight) (i : Nat) (r : Request) :
    t.poll i r = t := by
  unfold poll
  rw [h]

theorem poll_settled {t : Traffic} (h : t.stage = .settled) (i : Nat) (r : Request) :
    t.poll i r
      = { t with
          store := (t.store.handle r).2
          waiting := t.waiting.eraseIdx i
          answered := t.answered ++ [(r, (t.store.handle r).1)] } := by
  unfold poll
  rw [h]

def step (t : Traffic) : Move → Traffic
  | .arrive r => { t with waiting := t.waiting ++ [r] }
  | .poll i =>
    match t.waiting[i]? with
    | none => t
    | some r => t.poll i r
  | .leave i => { t with waiting := t.waiting.eraseIdx i }
  | .land =>
    match t.stage with
    | .inFlight => { t with store := t.store.land, stage := .settled }
    | _ => t

theorem step_land_none {t : Traffic} (h : t.stage ≠ .inFlight) : t.step .land = t := by
  unfold step
  cases hs : t.stage with
  | inFlight => exact absurd hs h
  | idle => rfl
  | settled => rfl

theorem step_poll_none {t : Traffic} {i : Nat} (h : t.waiting[i]? = none) :
    t.step (.poll i) = t := by
  simp only [step, h]

theorem step_land {t : Traffic} (h : t.stage = .inFlight) :
    t.step .land = { t with store := t.store.land, stage := .settled } := by
  simp only [step, h]

theorem step_poll {t : Traffic} {i : Nat} {r : Request} (h : t.waiting[i]? = some r) :
    t.step (.poll i) = t.poll i r := by
  simp only [step, h]

def run (t : Traffic) (moves : List Move) : Traffic :=
  moves.foldl step t

theorem run_cons (t : Traffic) (m : Move) (moves : List Move) :
    t.run (m :: moves) = (t.step m).run moves :=
  rfl

/-! ## One outcome -/

/-- Requests carried out one after the other, each on the engine that the one before has left,
with the answers to them. -/
inductive Serial : Engine → List (Request × Except StoreError Reply) → Engine → Prop
  | nil (e : Engine) : Serial e [] e
  | snoc {e e' : Engine} {answered : List (Request × Except StoreError Reply)} (r : Request) :
      Serial e answered e' → Serial e (answered ++ [(r, (work r e').1)]) (work r e').2

variable {config : Config} {connector : Connector} {console : Console}

/-- A store has asked for one engine at most, and the requests it has answered went by what came
of that. -/
structure Orderly (config : Config) (connector : Connector) (s : Store)
    (answered : List (Request × Except StoreError Reply)) : Prop where
  attempts : s.attempts ≤ 1
  unasked : ∀ e, config.validate = .error e → s.attempts = 0
  refused : ∀ cause, outcome config connector = .error cause →
    s.engine = connector.offered config ∧ ∀ p ∈ answered, p.2 = refusal cause p.1
  served : ∀ engine, outcome config connector = .ok engine → Serial engine answered s.engine

theorem orderly_nil {s : Store} (hattempts : s.attempts ≤ 1)
    (hunasked : ∀ e, config.validate = .error e → s.attempts = 0)
    (hengine : s.engine = connector.offered config) : Orderly config connector s [] where
  attempts := hattempts
  unasked := hunasked
  refused _ _ := ⟨hengine, fun _ hp => absurd hp List.not_mem_nil⟩
  served engine ho := by
    rw [outcome_ok ho, hengine]
    exact .nil _

/-- One more request, over a connection that is settled. -/
theorem Orderly.handle {s : Store} {answered : List (Request × Except StoreError Reply)}
    (h : Orderly config connector s answered)
    (hc : s.connection = connectionOf (outcome config connector)) (r : Request) :
    Orderly config connector (s.handle r).2 (answered ++ [(r, (s.handle r).1)]) := by
  cases ho : outcome config connector with
  | error cause =>
    rw [ho] at hc
    obtain ⟨hanswer, console, hstore⟩ := handle_of_down hc r
    rw [hstore, hanswer]
    refine ⟨h.attempts, h.unasked, fun cause' ho' => ?_, fun engine ho' => ?_⟩
    · rw [ho] at ho'
      cases ho'
      obtain ⟨hengine, hall⟩ := h.refused cause ho
      refine ⟨hengine, fun p hp => ?_⟩
      rcases List.mem_append.1 hp with hp | hp
      · exact hall p hp
      · rw [List.mem_singleton.1 hp]
    · rw [ho] at ho'
      cases ho'
  | ok engine =>
    rw [ho] at hc
    obtain ⟨hanswer, console, hstore⟩ := handle_of_up hc r
    rw [hstore, hanswer]
    refine ⟨h.attempts, h.unasked, fun cause ho' => ?_, fun engine' ho' => ?_⟩
    · rw [ho] at ho'
      cases ho'
    · exact (h.served engine' ho').snoc r

/-- A store whose attempt has come to something, and the requests it has answered since. -/
structure Settled (config : Config) (connector : Connector) (console : Console) (s : Store)
    (answered : List (Request × Except StoreError Reply)) : Prop where
  session : s = (new config connector console).bringUp.serve (answered.map (·.1))
  connection : s.connection = connectionOf (outcome config connector)
  orderly : Orderly config connector s answered

theorem Settled.handle {s : Store} {answered : List (Request × Except StoreError Reply)}
    (h : Settled config connector console s answered) (r : Request) :
    Settled config connector console (s.handle r).2 (answered ++ [(r, (s.handle r).1)]) where
  session := by
    rw [List.map_append, serve_append, ← h.session]
    rfl
  connection := by
    have hsettled : s.connection ≠ .untried := by
      rw [h.connection]
      cases outcome config connector with
      | error cause => exact nofun
      | ok engine => exact nofun
    rw [s.handle_connection, bringUp_of_settled hsettled]
    exact h.connection
  orderly := h.orderly.handle h.connection r

/-- What comes of the attempt stands before any request is answered. -/
theorem settled_attempt :
    Settled config connector console (new config connector console).attempt [] := by
  have hbringUp : (new config connector console).bringUp = (new config connector console).attempt :=
    bringUp_of_untried rfl
  have hengine : (new config connector console).attempt.engine = connector.offered config := by
    rw [← hbringUp]
    exact (coherent_new config connector console).bringUp_engine
  have hconnection : (new config connector console).attempt.connection
      = connectionOf (outcome config connector) :=
    attempt_connection (new config connector console)
  have hattempts : (new config connector console).attempt.attempts ≤ 1 ∧
      ∀ e, config.validate = .error e → (new config connector console).attempt.attempts = 0 := by
    rcases attempt_attempts (new config connector console) with ⟨e, -, h⟩ | ⟨v, hv, h⟩
    · rw [h]
      exact ⟨Nat.zero_le 1, fun _ _ => rfl⟩
    · rw [h]
      refine ⟨Nat.le_refl 1, fun e he => ?_⟩
      have hv' : config.validate = .ok v := hv
      rw [he] at hv'
      cases hv'
  refine ⟨?_, hconnection, orderly_nil hattempts.1 hattempts.2 hengine⟩
  rw [List.map_nil, serve_nil, hbringUp]

/-- How a store stands to its callers at each stage of the attempt. -/
inductive Shares (config : Config) (connector : Connector) (console : Console) (t : Traffic) : Prop
  | idle (stage : t.stage = .idle) (store : t.store = new config connector console)
      (answered : t.answered = [])
  | inFlight (stage : t.stage = .inFlight) {v : Severity} (valid : config.validate = .ok v)
      (store : t.store = (new config connector console).launch) (answered : t.answered = [])
  | settled (stage : t.stage = .settled)
      (settled : Settled config connector console t.store t.answered)

/-- Who waits makes no difference to it. -/
theorem Shares.wait {t : Traffic} (h : Shares config connector console t) (waiting : List Request) :
    Shares config connector console { t with waiting } := by
  cases h with
  | idle hs hstore hnone => exact .idle hs hstore hnone
  | inFlight hs hv hstore hnone => exact .inFlight hs hv hstore hnone
  | settled hs h => exact .settled hs h

theorem Shares.land {t : Traffic} (h : Shares config connector console t) :
    Shares config connector console (t.step .land) := by
  by_cases hs : t.stage = .inFlight
  · rw [step_land hs]
    cases h with
    | idle hidle _ _ => exact absurd (hs.symm.trans hidle) nofun
    | inFlight _ hv hstore hnone =>
      obtain ⟨hland, -⟩ := launch_of_valid (s := new config connector console) hv
      refine .settled rfl ?_
      show Settled config connector console t.store.land t.answered
      rw [hstore, hland, hnone]
      exact settled_attempt
    | settled hsettled _ => exact absurd (hs.symm.trans hsettled) nofun
  · rw [step_land_none hs]
    exact h

theorem Shares.poll {t : Traffic} (h : Shares config connector console t) (i : Nat) (r : Request) :
    Shares config connector console (t.poll i r) := by
  cases h with
  | idle hs hstore hnone =>
    rw [poll_idle hs]
    cases hv : config.validate with
    | error e =>
      obtain ⟨hlaunch, hstage⟩ := launch_of_invalid (s := new config connector console) hv
      rw [← hstore] at hstage
      refine .settled hstage ?_
      show Settled config connector console t.store.launch t.answered
      rw [hstore, hlaunch, hnone]
      exact settled_attempt
    | ok v =>
      obtain ⟨-, hconnection⟩ := launch_of_valid (s := new config connector console) hv
      refine .inFlight ?_ hv (congrArg launch hstore) hnone
      show Connection.stage t.store.launch.connection = .inFlight
      rw [hstore, hconnection]
      rfl
  | inFlight hs hv hstore hnone =>
    rw [poll_inFlight hs]
    exact .inFlight hs hv hstore hnone
  | settled hs h =>
    rw [poll_settled hs]
    exact .settled hs (h.handle r)

theorem Shares.step {t : Traffic} (h : Shares config connector console t) (m : Move) :
    Shares config connector console (t.step m) := by
  cases m with
  | arrive r => exact h.wait (t.waiting ++ [r])
  | leave i => exact h.wait (t.waiting.eraseIdx i)
  | land => exact h.land
  | poll i =>
    cases hr : t.waiting[i]? with
    | none =>
      rw [step_poll_none hr]
      exact h
    | some r =>
      rw [step_poll hr]
      exact h.poll i r

theorem Shares.run {t : Traffic} (h : Shares config connector console t) (moves : List Move) :
    Shares config connector console (t.run moves) := by
  induction moves generalizing t with
  | nil => exact h
  | cons m moves ih => exact ih (h.step m)

theorem Shares.settled_of {t : Traffic} (h : Shares config connector console t)
    (hs : t.stage = .settled) : Settled config connector console t.store t.answered := by
  cases h with
  | idle hidle _ _ => exact absurd (hs.symm.trans hidle) nofun
  | inFlight hflight _ _ _ => exact absurd (hs.symm.trans hflight) nofun
  | settled _ h => exact h

/-- Nothing is answered before the attempt has come to something. -/
theorem Shares.answered_nil {t : Traffic} (h : Shares config connector console t)
    (hs : t.stage ≠ .settled) : t.answered = [] := by
  cases h with
  | idle _ _ hnone => exact hnone
  | inFlight _ _ _ hnone => exact hnone
  | settled hsettled _ => exact absurd hsettled hs

theorem Shares.orderly {t : Traffic} (h : Shares config connector console t) :
    Orderly config connector t.store t.answered := by
  cases h with
  | idle _ hstore hnone =>
    rw [hstore, hnone]
    exact orderly_nil (Nat.zero_le 1) (fun _ _ => rfl) rfl
  | inFlight _ hv hstore hnone =>
    obtain ⟨hengine, hattempts⟩ := launch_asks (s := new config connector console) hv
    rw [hstore, hnone]
    refine orderly_nil (Nat.le_of_eq hattempts) (fun e he => ?_) hengine
    rw [hv] at he
    cases he
  | settled _ h => exact h.orderly

/-! ## Nobody waits for ever -/

/-- Polled before the attempt has come to something, a caller waits until it has. -/
theorem run_poll_land {t : Traffic} {i : Nat} {r : Request} (hs : t.stage ≠ .settled)
    (hr : t.waiting[i]? = some r) :
    ∃ s, t.run [.poll i, .land] = { t with store := s, stage := .settled } := by
  show ∃ s, (t.step (.poll i)).step .land = { t with store := s, stage := .settled }
  rw [step_poll hr]
  cases ht : t.stage with
  | settled => exact absurd ht hs
  | inFlight =>
    rw [poll_inFlight ht, step_land ht]
    exact ⟨_, rfl⟩
  | idle =>
    rw [poll_idle ht]
    cases t.store.launch.connection with
    | untried => exact ⟨_, rfl⟩
    | up => exact ⟨_, rfl⟩
    | down cause => exact ⟨_, rfl⟩

/-- What is answered stays answered. -/
theorem answered_step (t : Traffic) (m : Move) :
    ∃ more, (t.step m).answered = t.answered ++ more := by
  cases m with
  | arrive r => exact ⟨[], (List.append_nil _).symm⟩
  | leave i => exact ⟨[], (List.append_nil _).symm⟩
  | land =>
    by_cases hs : t.stage = .inFlight
    · exact ⟨[], by rw [step_land hs, List.append_nil]⟩
    · exact ⟨[], by rw [step_land_none hs, List.append_nil]⟩
  | poll i =>
    cases hr : t.waiting[i]? with
    | none => exact ⟨[], by rw [step_poll_none hr, List.append_nil]⟩
    | some r =>
      rw [step_poll hr]
      cases ht : t.stage with
      | idle => exact ⟨[], by rw [poll_idle ht, List.append_nil]⟩
      | inFlight => exact ⟨[], by rw [poll_inFlight ht, List.append_nil]⟩
      | settled => exact ⟨_, by rw [poll_settled ht]⟩

/-- A caller who is polled, before and after the connector answers, has an answer. -/
theorem answered_of_polled {t : Traffic} {i : Nat} {r : Request} (hr : t.waiting[i]? = some r) :
    ∃ a more, (t.run [.poll i, .land, .poll i]).answered = t.answered ++ (r, a) :: more := by
  by_cases hs : t.stage = .settled
  · -- the first poll answers already, and another caller may stand at the place then
    have hpoll := poll_settled hs i r
    obtain ⟨more₁, h₁⟩ := answered_step (t.poll i r) .land
    obtain ⟨more₂, h₂⟩ := answered_step ((t.poll i r).step .land) (.poll i)
    refine ⟨(t.store.handle r).1, more₁ ++ more₂, ?_⟩
    show (((t.step (.poll i)).step .land).step (.poll i)).answered = _
    rw [step_poll hr, h₂, h₁, hpoll]
    simp only [List.append_assoc, List.cons_append, List.nil_append]
  · obtain ⟨s, hrun⟩ := run_poll_land hs hr
    refine ⟨(s.handle r).1, [], ?_⟩
    show ((t.run [.poll i, .land]).step (.poll i)).answered = _
    rw [hrun, step_poll (t := { t with store := s, stage := .settled }) hr, poll_settled rfl]

/-- The first caller has the answer that the store gives when it is asked by nobody else. -/
theorem run_alone {s : Store} (hs : s.connection = .untried) (r : Request) :
    (start s).run [.arrive r, .poll 0, .land, .poll 0]
      = { store := (s.handle r).2
          stage := .settled
          answered := [(r, (s.handle r).1)] } := by
  have harrive : (start s).step (.arrive r) = { store := s, waiting := [r] } := rfl
  have hsettled : ((Traffic.mk s .idle [r] []).step (.poll 0)).step .land
      = { store := s.bringUp, stage := .settled, waiting := [r] } := by
    rw [step_poll rfl, poll_idle rfl, bringUp_of_untried hs]
    cases hv : s.config.validate with
    | error e =>
      obtain ⟨hlaunch, hstage⟩ := launch_of_invalid hv
      rw [hstage, hlaunch]
      rfl
    | ok v =>
      obtain ⟨hland, hconnection⟩ := launch_of_valid hv
      rw [step_land (by rw [hconnection, hs]; rfl), hland]
  rw [run_cons, harrive, run_cons, run_cons, hsettled, run_cons, step_poll rfl, poll_settled rfl,
    handle_bringUp]
  rfl

/-- Callers in any number and in any order: the store is asked for one engine at most, and none
while its configuration is not valid.  What comes of that, all of them go by.  Without an engine
they are all refused alike, and one that was supplied is as it was; with one, they are served on
it one after the other, as by a store that is asked by one caller only.  Every caller who waits
and is polled is answered. -/
theorem shares_one_attempt (config : Config) (connector : Connector) (console : Console)
    (moves : List Move) :
    let t := (start (new config connector console)).run moves
    t.store.attempts ≤ 1 ∧ (∀ e, config.validate = .error e → t.store.attempts = 0) ∧
    (t.stage ≠ .settled → t.answered = []) ∧
    (t.stage = .settled → t.store.connection = connectionOf (outcome config connector) ∧
      t.store = (new config connector console).bringUp.serve (t.answered.map (·.1))) ∧
    (∀ cause, outcome config connector = .error cause →
      (∃ reason, cause = .connectionFailure reason) ∧
      (∀ p ∈ t.answered, p.2 = refusal cause p.1) ∧
      ∀ e, connector.supplied = some e → t.store.engine = e) ∧
    (∀ engine, outcome config connector = .ok engine →
      engine = connector.offered config ∧ Serial engine t.answered t.store.engine) ∧
    ∀ i r, t.waiting[i]? = some r →
      ∃ a more, (t.run [.poll i, .land, .poll i]).answered = t.answered ++ (r, a) :: more := by
  intro t
  have hshares : Shares config connector console t := (Shares.idle rfl rfl rfl).run moves
  have horderly := hshares.orderly
  have hsupplied : ∀ e, connector.supplied = some e → connector.offered config = e := by
    intro e he
    unfold Connector.offered
    rw [he]
    rfl
  refine ⟨horderly.attempts, horderly.unasked, hshares.answered_nil, fun hs => ?_,
    fun cause ho => ?_, fun engine ho => ?_, fun i r hr => answered_of_polled hr⟩
  · have hsettled := hshares.settled_of hs
    exact ⟨hsettled.connection, hsettled.session⟩
  · obtain ⟨hengine, hall⟩ := horderly.refused cause ho
    exact ⟨outcome_error ho, hall, fun e he => hengine.trans (hsupplied e he)⟩
  · exact ⟨outcome_ok ho, horderly.served engine ho⟩

end Traffic

end Store

end DocStore
