import Mathlib.Logic.Function.Basic
import SeriesReplica.Proofs.Concurrent.Confluence
import SeriesReplica.Proofs.Concurrent.Recording
import SeriesReplica.Proofs.Sync.Passes

/-! What transfers ask. Each asks about its own measurement, first for its rows and then to take
its points batch by batch, so that nodes which keep account of every measurement on its own can tell
what a call is for. A sync asks for nothing else. -/
namespace SeriesReplica.Sync
open Time Concurrent Node Point Query Schema

/-- The calls of a job that are about a measurement: a read of its rows at the source, or a write
of points of it at the destination. -/
def Job.Asks (j : Job) (measurement : String) (client : Client) : NodeCall → Prop
  | .ping => False
  | .query r => client = j.source.client ∧ r.database = some j.sourceDatabase ∧
    ∃ start stop, r.statement = .selectWindow j.sourcePolicy.name measurement start stop
  | .write b => client = j.destination.client ∧ b.database = j.destinationDatabase ∧
    b.policy = j.destinationPolicy ∧ b.points ≠ [] ∧ ∀ p ∈ b.points, p.measurement = measurement

variable {s : Settings} {j : Job} {measurement : String} {Own : String → Client → NodeCall → Prop}

section Transfer

private theorem succeed_keepsTo {ε α : Type} (what : String) (made : Nat) (value : α) :
    (RetryPolicy.attempt.succeed what made value : Routine (Except ε α)).KeepsTo Own
      measurement := by
  rw [RetryPolicy.attempt.succeed]
  split
  · exact (Routine.keepsTo_log _).bind fun _ => trivial
  · trivial

private theorem attempt_keepsTo {ε α : Type} (p : RetryPolicy) (what : String)
    (message : ε → String) {operation : Routine (Except ε α)}
    (h : operation.KeepsTo Own measurement) (made left : Nat) :
    (p.attempt what message operation made left).KeepsTo Own measurement := by
  induction left generalizing made with
  | zero =>
    rw [RetryPolicy.attempt]
    refine h.bind fun result => ?_
    cases result with
    | ok value => exact succeed_keepsTo what made value
    | error e => trivial
  | succ left ih =>
    rw [RetryPolicy.attempt]
    refine h.bind fun result => ?_
    cases result with
    | ok value => exact succeed_keepsTo what made value
    | error e =>
      refine (Routine.keepsTo_log _).bind fun _ => ?_
      exact (Routine.keepsTo_sleep _).bind fun _ => ih _

private theorem writeAll_keepsTo (s : Settings) (j : Job) (what : String) (w : Window)
    (written : Nat) {bs : List Batch}
    (hbs : ∀ b ∈ bs, j.Asks measurement j.destination.client (.write b)) :
    ((j.context s).writeAll what w written bs).KeepsTo j.Asks measurement := by
  induction bs generalizing written with
  | nil => trivial
  | cons b bs ih =>
    have hwrite : (Routine.write j.destination.client b).KeepsTo j.Asks measurement :=
      ⟨⟨hbs b List.mem_cons_self, rfl⟩, fun _ => trivial⟩
    rw [TransferContext.writeAll]
    refine (attempt_keepsTo _ _ _ hwrite _ _).bind fun result => ?_
    cases result with
    | ok _ => exact ih _ fun c hc => hbs c (List.mem_cons_of_mem _ hc)
    | error e => exact (Routine.keepsTo_log _).bind fun _ => trivial

/-- Decoding makes points of the measurement it is told of. -/
private theorem measurement_of_mem_decode {types : FieldTypes} {x : Series} {p : Point}
    (hp : p ∈ (TransferContext.decode measurement types x).1) : p.measurement = measurement := by
  rw [TransferContext.decode] at hp
  split at hp
  case h_2 => simp at hp
  case h_1 d hd =>
    rw [decodeSeries] at hd
    split at hd
    case h_1 => cases hd
    case h_2 time htime =>
      obtain rfl := Except.ok.inj hd
      simp only [DecodedSeries.points, List.mem_filterMap, List.mem_map] at hp
      obtain ⟨_, ⟨row, -, rfl⟩, hpoint⟩ := hp
      rw [decodeRow] at hpoint
      grind

/-- A transfer asks about its measurement only. -/
theorem transfer_keepsTo (s : Settings) (j : Job) (w : Window) (measurement : String)
    (types : FieldTypes) :
    ((j.context s).transfer w measurement types).KeepsTo j.Asks measurement := by
  have hread : (Routine.query j.source.client ((j.context s).select measurement w)
      none).KeepsTo j.Asks measurement :=
    ⟨⟨⟨rfl, rfl, w.start, w.stop, rfl⟩, rfl⟩, fun _ => trivial⟩
  rw [TransferContext.transfer]
  refine (attempt_keepsTo _ _ _ hread _ _).bind fun result => ?_
  cases result with
  | error e => exact (Routine.keepsTo_log _).bind fun _ => trivial
  | ok response =>
    refine (Routine.keepsTo_logAll _).bind fun _ => ?_
    dsimp only
    split
    · trivial
    case isFalse hsome =>
      set ps := (response.series.map (TransferContext.decode measurement types)).flatMap (·.1)
      refine writeAll_keepsTo s j _ w 0 fun b hb => ?_
      obtain ⟨hdatabase, hpolicy⟩ := Batch.place_of_mem_split hb
      refine ⟨rfl, hdatabase, hpolicy,
        Batch.points_ne_nil_of_mem_split (fun hnil => hsome (List.isEmpty_iff.2 hnil)) hb,
        fun p hp => ?_⟩
      have hmem : p ∈ (Batch.split ⟨j.destinationDatabase, j.destinationPolicy, ps⟩
          s.maxPoints).flatMap (·.points) := List.mem_flatMap.2 ⟨b, hb, hp⟩
      rw [Batch.flatMap_split] at hmem
      obtain ⟨x, hx, hp⟩ := List.mem_flatMap.1 hmem
      obtain ⟨y, -, rfl⟩ := List.mem_map.1 hx
      exact measurement_of_mem_decode hp

end Transfer

section Calls
variable {σ : Type} {K : Client → NodeCall → Prop}

/-- A routine that keeps to what is its own makes no other calls. -/
theorem keepsTo_callsOnly {α κ : Type} {Own : κ → Client → NodeCall → Prop} {k : κ}
    {r : Routine α} (h : r.KeepsTo Own k) (hK : ∀ c call, Own k c call → K c call) :
    r.CallsOnly K := by
  induction r with
  | done a => trivial
  | perform action next ih =>
    refine ⟨?_, fun x => ih x (h.2 x)⟩
    cases action with
    | call c call deadline => exact hK c call h.1.1
    | connect | sleep | clock | log => trivial

theorem syncChunk_callsOnly (hK : ∀ m c call, j.Asks m c call → K c call) (pass : Pass)
    (w : Window) : (syncChunk s j pass w : Process σ Outcome _).CallsOnly K := by
  refine Process.callsOnly_clock.bind fun _ => (Process.callsOnly_pool _ fun r hr => ?_).bind
    fun _ => Process.callsOnly_clock.bind fun _ => (Process.callsOnly_log _).bind
      fun _ => Process.callsOnly_pure _
  obtain ⟨x, -, rfl⟩ := List.mem_map.1 hr
  exact keepsTo_callsOnly (transfer_keepsTo s j w x.1 x.2) (hK x.1)

/-- A sync makes no calls but those of its transfers. -/
theorem sync_callsOnly (hK : ∀ m c call, j.Asks m c call → K c call) :
    (sync s j : Process σ Outcome _).CallsOnly K :=
  sync_of_chunks (P := fun p => p.CallsOnly K) ⟨Process.callsOnly_pure,
    Process.CallsOnly.bind, Process.callsOnly_clock, Process.callsOnly_log⟩
    (syncChunk_callsOnly hK)

end Calls

/-- What a call is for: a read of a window of a measurement or a write of one of the batches that
have come of it, and how many attempts have been made before. -/
structure Purpose where
  measurement : String
  start : Instant
  stop : Instant
  isWrite : Bool
  batch : Nat
  attempt : Nat
  deriving DecidableEq

/-- What nodes know of a measurement: what they were last asked for and whether that succeeded, and
the data they hold. -/
structure Standing (τ : Type) where
  last : Option (Purpose × Bool)
  data : τ

variable {τ : Type}

namespace Standing

/-- What a read is for: if it is the one that has just failed and has attempts left, one more. -/
def read (x : Standing τ) (attempts : Nat) (measurement : String) (start stop : Instant) :
    Purpose :=
  let first : Purpose := ⟨measurement, start, stop, false, 0, 0⟩
  match x.last with
  | some (p, false) =>
    if p = { first with attempt := p.attempt } ∧ p.attempt + 1 < attempts then
      { p with attempt := p.attempt + 1 }
    else first
  | _ => first

/-- What a write is for: another attempt if the last one failed, else the next batch. -/
def write (x : Standing τ) (measurement : String) : Purpose :=
  match x.last with
  | some (p, false) => { p with attempt := p.attempt + 1 }
  | some (p, true) =>
    { p with isWrite := true, batch := if p.isWrite then p.batch + 1 else 0, attempt := 0 }
  | none => ⟨measurement, .epoch, .epoch, true, 0, 0⟩

end Standing

/-- Nodes that answer by what a call is for, in so much time; a write that succeeds changes the
data of its measurement. -/
structure Purposes (τ : Type) where
  /-- How often a read is attempted. -/
  attempts : Nat
  onRead : Purpose → Span × Except Error Response
  onWrite : Purpose → Span × Except Error Unit
  store : Batch → τ → τ

namespace Purposes

/-- The answer to a call for a purpose and what is known of the measurement afterwards. -/
private def note {β : Type} (reply : Span × Except Error β) (p : Purpose) (data : τ)
    (change : τ → τ) :
    (Span × Except Error β) × Standing τ :=
  (reply, ⟨some (p, reply.2.isOk), if reply.2.isOk then change data else data⟩)

/-- How nodes answer that keep account of every measurement. -/
def host (x : Purposes τ) : Host (String → Standing τ) where
  connect _ nodes := ((.zero, .error (.unavailable "connected")), nodes)
  call _ call nodes :=
    match call with
    | .ping => ((.zero, .error (.unavailable "ping")), nodes)
    | .query r =>
      match r.statement with
      | .selectWindow _ m start stop =>
        let p := (nodes m).read x.attempts m start stop
        let (reply, standing) := note (x.onRead p) p (nodes m).data id
        (reply, Function.update nodes m standing)
      | _ => ((.zero, .error (.unavailable "statement")), nodes)
    | .write b =>
      match b.points with
      | [] => ((.zero, .ok ()), nodes)
      | q :: _ =>
        let p := (nodes q.measurement).write q.measurement
        let (reply, standing) := note (x.onWrite p) p (nodes q.measurement).data (x.store b)
        (reply, Function.update nodes q.measurement standing)

/-- Whoever answers by purpose answers about a measurement by that measurement alone. -/
theorem independent (x : Purposes τ) (j : Job) :
    Independent x.host j.Asks (fun measurement nodes => nodes measurement) := by
  constructor
  · intro m c call nodes nodes' hcall hnodes
    cases call with
    | ping => exact hcall.elim
    | query r =>
      obtain ⟨-, -, start, stop, hr⟩ := hcall
      simp only [host, hr]
      rw [Function.update_self, Function.update_self, hnodes]
      exact ⟨rfl, rfl⟩
    | write b =>
      obtain ⟨-, -, -, hne, hb⟩ := hcall
      obtain ⟨q, ps, hps⟩ := List.exists_cons_of_ne_nil hne
      obtain rfl : q.measurement = m := hb q (hps ▸ List.mem_cons_self)
      simp only [host, hps]
      rw [Function.update_self, Function.update_self, hnodes]
      exact ⟨rfl, rfl⟩
  · intro m c call nodes l hcall hl
    cases call with
    | ping => exact hcall.elim
    | query r =>
      obtain ⟨-, -, start, stop, hr⟩ := hcall
      simp only [host, hr]
      exact Function.update_of_ne hl _ _
    | write b =>
      obtain ⟨-, -, -, hne, hb⟩ := hcall
      obtain ⟨q, ps, hps⟩ := List.exists_cons_of_ne_nil hne
      obtain rfl : q.measurement = m := hb q (hps ▸ List.mem_cons_self)
      simp only [host, hps]
      exact Function.update_of_ne hl _ _

end Purposes
end SeriesReplica.Sync
