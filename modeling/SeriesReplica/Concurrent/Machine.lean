import SeriesReplica.Concurrent.Effect

/-!
A machine that runs processes side by side under a virtual clock. Only sleeping and waiting for
nodes takes time; whatever runs keeps running until it has to wait. `resume` lets any fiber take
its next step, so a list of choices is a schedule; `step` takes the fiber that is due first, and
of several the one that has waited longest.
-/
namespace SeriesReplica.Concurrent
open Time

/-- How nodes with states `ν` answer, and how long it takes them. -/
structure Host (ν : Type) where
  connect : String → ν → (Span × Except Node.Error Client) × ν
  call : Client → (c : NodeCall) → ν → (Span × Except Node.Error c.Reply) × ν

/-- A process that is repeated: `hello` runs once before the first tick, `tick` at every tick,
`bye` when the loop is told to stop. A loop that is told to stop before its first tick is due
ends without either. -/
structure Loop (σ ρ : Type) where
  period : Span
  hello : Process σ ρ Unit
  tick : Process σ ρ Unit
  bye : Process σ ρ Unit

namespace Loop
variable {σ ρ : Type}

/-- A tick this late moves the ticks after it. -/
def lateness : Span := .ofMillis 5

/-- When the tick after the one due at `due` and taken at `now` is due. -/
def nextDue (l : Loop σ ρ) (due now : Span) : Span :=
  if due + lateness < now then now + l.period else due + l.period

/-- Lets a loop work on a part of a larger state. -/
def within {τ : Type} (l : Loop τ ρ) (read : σ → τ) (put : τ → σ → σ) : Loop σ ρ where
  period := l.period
  hello := l.hello.within read put
  tick := l.tick.within read put
  bye := l.bye.within read put

end Loop

/-- What follows when a process is done: nothing, or the next tick of a loop. -/
inductive After (σ ρ : Type) where
  | nothing
  | tick (loop : Loop σ ρ) (due : Span)

/-- What a fiber is doing. -/
inductive Body (σ ρ α : Type) where
  /-- Runs a process; a result that is there is kept. -/
  | process (p : Process σ ρ (Option α)) (after : After σ ρ)
  /-- Runs a job of the pool another fiber waits for. -/
  | job (parent index : Nat) (r : Routine ρ)
  /-- Waits for a pool. -/
  | gathering (waiting : List (Nat × Routine ρ)) (results : List (Option ρ))
      (next : List ρ → Process σ ρ (Option α)) (after : After σ ρ)
  /-- Waits for the next tick of a loop, or for its start. -/
  | waiting (loop : Loop σ ρ) (due : Span) (started : Bool)

/-- One strand of execution. It may go on from the moment `wake`; among fibers due at one
moment the lower `turn` comes first. -/
structure Fiber (σ ρ α : Type) where
  id : Nat
  wake : Span
  turn : Nat
  body : Body σ ρ α

namespace Fiber
variable {σ ρ α : Type}

/-- A fiber that waits for its pool cannot go on by itself. -/
def isRunnable (f : Fiber σ ρ α) : Bool :=
  match f.body with
  | .gathering .. => false
  | _ => true

/-- Whether the fiber is due before another one. -/
def isBefore (f g : Fiber σ ρ α) : Bool :=
  decide (f.wake < g.wake) || (decide (f.wake = g.wake) && decide (f.turn < g.turn))

end Fiber

/-- Nodes, a shared state, fibers and the clock. -/
structure Machine (ν σ ρ α : Type) where
  start : Instant
  now : Span
  nodes : ν
  shared : σ
  fibers : List (Fiber σ ρ α)
  /-- The next unused number for fibers and turns. -/
  fresh : Nat
  /-- Whether loops have been told to stop. -/
  stopping : Bool
  /-- Results of fibers by their numbers, the last one first. -/
  answers : List (Nat × α)
  /-- Log lines, the last one first. -/
  log : List Log.Line

namespace Machine
variable {ν σ ρ α : Type}

/-- A machine without fibers. -/
def initial (start : Instant) (nodes : ν) (shared : σ) : Machine ν σ ρ α :=
  ⟨start, .zero, nodes, shared, [], 0, false, [], []⟩

def clock (m : Machine ν σ ρ α) : Clock := ⟨m.start.later m.now, m.now⟩

/-- Replaces a fiber by one with the same number. -/
def put (m : Machine ν σ ρ α) (f : Fiber σ ρ α) : Machine ν σ ρ α :=
  { m with fibers := m.fibers.map fun g => if g.id = f.id then f else g }

def remove (m : Machine ν σ ρ α) (id : Nat) : Machine ν σ ρ α :=
  { m with fibers := m.fibers.filter (·.id ≠ id) }

/-- Adds a fiber that is due now, after all others that are. -/
def spawn (m : Machine ν σ ρ α) (body : Body σ ρ α) : Machine ν σ ρ α :=
  { m with
    fibers := m.fibers ++ [⟨m.fresh, m.now, m.fresh, body⟩]
    fresh := m.fresh + 1 }

/-- Adds a fiber that goes on before all others. -/
def spawnFirst (m : Machine ν σ ρ α) (body : Body σ ρ α) : Machine ν σ ρ α :=
  { m with fibers := m.fibers ++ [⟨m.fresh, .zero, 0, body⟩], fresh := m.fresh + 1 }

/-- Lets a fiber go on after some time; without time in between it keeps its turn. -/
def continueAfter (m : Machine ν σ ρ α) (f : Fiber σ ρ α) (d : Span)
    (body : Body σ ρ α) : Machine ν σ ρ α :=
  if d.nanos = 0 then m.put { f with body := body }
  else { m.put ⟨f.id, m.now + d, m.fresh, body⟩ with fresh := m.fresh + 1 }

/-- What a call that takes a while answers, and when: at its deadline it has failed. -/
def meet {β : Type} (now delay : Span) (deadline : Option Deadline)
    (reply : Except Node.Error β) : Span × Except Node.Error β :=
  match deadline with
  | none => (delay, reply)
  | some dl =>
    if now + delay ≤ dl.moment then (delay, reply)
    else (dl.moment - now, .error (.timeout dl.allowed))

/-- Performs an operation of a routine: the time it takes, its answer and the machine after
it was begun. -/
def perform (host : Host ν) (m : Machine ν σ ρ α) :
    (action : Action) → (Span × action.Answer) × Machine ν σ ρ α
  | .connect node deadline =>
    let ((delay, reply), nodes) := host.connect node m.nodes
    (meet m.now delay deadline reply, { m with nodes := nodes })
  | .call client c deadline =>
    let ((delay, reply), nodes) := host.call client c m.nodes
    (meet m.now delay deadline reply, { m with nodes := nodes })
  | .sleep d => ((d, ()), m)
  | .clock => ((.zero, m.clock), m)
  | .log line => ((.zero, ()), { m with log := line :: m.log })

/-- Starts the next job of a fiber that waits for its pool, or lets it go on once all jobs are
done. -/
def feed (m : Machine ν σ ρ α) (f : Fiber σ ρ α) : Machine ν σ ρ α :=
  match f.body with
  | .gathering ((index, r) :: waiting) results next after =>
    (m.put { f with body := .gathering waiting results next after }).spawn (.job f.id index r)
  | .gathering [] results next after =>
    if results.all (·.isSome) then
      { m.put ⟨f.id, m.now, m.fresh, .process (next (results.filterMap id)) after⟩ with
        fresh := m.fresh + 1 }
    else m
  | _ => m

/-- Hands the result of a job to the fiber that waits for it. -/
def deliver (m : Machine ν σ ρ α) (parent index : Nat) (result : ρ) :
    Machine ν σ ρ α :=
  match m.fibers.find? (·.id = parent) with
  | some f =>
    match f.body with
    | .gathering waiting results next after =>
      let f := { f with body := .gathering waiting (results.set index (some result)) next after }
      (m.put f).feed f
    | _ => m
  | none => m

/-- Opens a pool for a fiber and starts its first jobs. -/
def openPool (m : Machine ν σ ρ α) (f : Fiber σ ρ α) (limit : Nat)
    (jobs : List (Routine ρ)) (next : List ρ → Process σ ρ (Option α)) (after : After σ ρ) :
    Machine ν σ ρ α :=
  let numbered := jobs.zipIdx.map fun (r, i) => (i, r)
  let started := numbered.take (max limit 1)
  let results := jobs.map fun _ => none
  let body := .gathering (numbered.drop (max limit 1)) results next after
  if jobs.isEmpty then m.put { f with body := .process (next []) after }
  else started.foldl (fun m (i, r) => m.spawn (.job f.id i r)) (m.put { f with body := body })

/-- Lets a process of a fiber take its next step. -/
def advanceProcess (host : Host ν) (m : Machine ν σ ρ α) (f : Fiber σ ρ α)
    (p : Process σ ρ (Option α)) (after : After σ ρ) : Machine ν σ ρ α :=
  match p with
  | .done result =>
    let m := { m with answers := (result.map (f.id, ·)).toList ++ m.answers }
    match after with
    | .nothing => m.remove f.id
    | .tick loop due =>
      let wake := if m.stopping ∨ due < m.now then m.now else due
      { m.put ⟨f.id, wake, m.fresh, .waiting loop due true⟩ with fresh := m.fresh + 1 }
  | .perform (.act action) next =>
    let ((d, answer), m) := m.perform host action
    m.continueAfter f d (.process (next answer) after)
  | .perform (.pool limit jobs) next => m.openPool f limit jobs next after
  | .perform (.update change) next =>
    let before := m.shared
    { m.put { f with body := .process (next before) after } with shared := change before }

/-- Wakes a loop: it starts once it is due, ticks, or stops. -/
def wakeLoop (m : Machine ν σ ρ α) (f : Fiber σ ρ α) (loop : Loop σ ρ) (due : Span)
    (started : Bool) : Machine ν σ ρ α :=
  let run (p : Process σ ρ Unit) (after : After σ ρ) : Machine ν σ ρ α :=
    m.put { f with body := .process (p.bind fun _ => .done none) after }
  match m.stopping, started with
  | true, true => run loop.bye .nothing
  | true, false =>
    if m.now < due then m.remove f.id else run (loop.hello.bind fun _ => loop.bye) .nothing
  | false, true => run loop.tick (.tick loop (loop.nextDue due m.now))
  | false, false =>
    if m.now < due then
      { m.put ⟨f.id, due, m.fresh, .waiting loop due false⟩ with fresh := m.fresh + 1 }
    else run (loop.hello.bind fun _ => loop.tick) (.tick loop (loop.nextDue m.now m.now))

/-- Lets a fiber take its next step, not before it is due. -/
def resume (host : Host ν) (m : Machine ν σ ρ α) (f : Fiber σ ρ α) : Machine ν σ ρ α :=
  let m := { m with now := if m.now < f.wake then f.wake else m.now }
  match f.body with
  | .process p after => m.advanceProcess host f p after
  | .job parent index r =>
    match r with
    | .done result => (m.remove f.id).deliver parent index result
    | .perform action next =>
      let ((d, answer), m) := m.perform host action
      m.continueAfter f d (.job parent index (next answer))
  | .gathering .. => m
  | .waiting loop due started => m.wakeLoop f loop due started

/-- The fiber that is due first. -/
def first? (m : Machine ν σ ρ α) : Option (Fiber σ ρ α) :=
  (m.fibers.filter (·.isRunnable)).foldl
    (fun best f => match best with
      | none => some f
      | some g => if f.isBefore g then some f else some g) none

/-- Lets the fiber that is due first take its next step. -/
def step (host : Host ν) (m : Machine ν σ ρ α) : Option (Machine ν σ ρ α) :=
  m.first?.map (m.resume host)

/-- Takes steps until the condition holds, nothing can go on, or the fuel is spent. -/
def runUntil (host : Host ν) (holds : Machine ν σ ρ α → Bool) :
    Nat → Machine ν σ ρ α → Machine ν σ ρ α
  | 0, m => m
  | fuel + 1, m =>
    if holds m then m
    else
      match m.step host with
      | some m => runUntil host holds fuel m
      | none => m

/-- The result of a fiber, if it is done. -/
def answer? (m : Machine ν σ ρ α) (id : Nat) : Option α := m.answers.lookup id

/-- Starts a process in front of the other fibers. -/
def launch (m : Machine ν σ ρ α) (p : Process σ ρ α) : Machine ν σ ρ α :=
  m.spawnFirst (.process (p.bind fun a => .done (some a)) .nothing)

/-- Runs a process in front of the other fibers until it is done. -/
def run (host : Host ν) (fuel : Nat) (m : Machine ν σ ρ α) (p : Process σ ρ α) :
    Option α × Machine ν σ ρ α :=
  let id := m.fresh
  let m := runUntil host (fun m => (m.answer? id).isSome) fuel (m.launch p)
  (m.answer? id, { m with answers := [] })

/-- Starts one process and then another one, and runs both until they are done. -/
def runBoth (host : Host ν) (fuel : Nat) (m : Machine ν σ ρ α) (p q : Process σ ρ α) :
    Option (α × α) × Machine ν σ ρ α :=
  let first := m.fresh
  let second := (m.launch p).fresh
  let results (m : Machine ν σ ρ α) : Option (α × α) := do
    pure (← m.answer? first, ← m.answer? second)
  let m := runUntil host (fun m => (results m).isSome) fuel ((m.launch p).launch q)
  (results m, { m with answers := [] })

/-- Adds a loop whose first tick comes after a delay. -/
def addLoop (m : Machine ν σ ρ α) (loop : Loop σ ρ) (delay : Span) : Machine ν σ ρ α :=
  m.spawn (.waiting loop (m.now + delay) false)

/-- Tells all loops to stop; those that wait are woken. -/
def stopLoops (m : Machine ν σ ρ α) : Machine ν σ ρ α :=
  { m with
    stopping := true
    fibers := m.fibers.map fun f =>
      match f.body with
      | .waiting .. => { f with wake := m.now }
      | _ => f }

/-- Stops all loops and waits for them to end. -/
def awaitLoops (host : Host ν) (fuel : Nat) (m : Machine ν σ ρ α) : Machine ν σ ρ α :=
  { runUntil host (·.fibers.isEmpty) fuel m.stopLoops with stopping := false }

end Machine
end SeriesReplica.Concurrent
