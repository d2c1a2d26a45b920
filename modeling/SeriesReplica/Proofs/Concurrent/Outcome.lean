import SeriesReplica.Concurrent.Machine

/-! What can become of a program. A routine that runs alone has one outcome. The jobs of a pool
take their actions in any order and at any times, and a process goes on from whatever its pools
have left. -/
namespace SeriesReplica.Concurrent
open Time

variable {ν σ τ ρ α β : Type}

/-- How nodes answer an action that is begun at a moment: how long it takes, its answer, and the
nodes afterwards. -/
def Host.answer (host : Host ν) (start : Instant) (now : Span) (nodes : ν) :
    (action : Action) → (Span × action.Answer) × ν
  | .connect node deadline =>
    let ((delay, reply), nodes) := host.connect node nodes
    (Machine.meet now delay deadline reply, nodes)
  | .call client c deadline =>
    let ((delay, reply), nodes) := host.call client c nodes
    (Machine.meet now delay deadline reply, nodes)
  | .sleep d => ((d, ()), nodes)
  | .clock => ((.zero, ⟨start.later now, now⟩), nodes)
  | .log _ => ((.zero, ()), nodes)

/-- The outcome of a routine that runs alone, from nodes and a moment to nodes and a moment. -/
def Host.exec (host : Host ν) (start : Instant) (r : Routine α) (s : ν × Span) : α × ν × Span :=
  r.eval (fun action s =>
    let reply := host.answer start s.2 s.1 action
    (reply.1.2, reply.2, s.2 + reply.1.1)) s

/-- Jobs that run side by side may give these results and leave these nodes: one job after
another takes an action, in any order and each at any moment, until all are done. -/
inductive Interleaved (host : Host ν) (start : Instant) :
    List (Routine ρ) → ν → List ρ → ν → Prop where
  | finished (results : List ρ) (nodes : ν) :
    Interleaved host start (results.map .done) nodes results nodes
  | step {jobs : List (Routine ρ)} {nodes last : ν} {results : List ρ} (i : Nat)
    (action : Action) (next : action.Answer → Routine ρ) (now : Span)
    (taken : jobs[i]? = some (.perform action next))
    (rest : Interleaved host start (jobs.set i (next (host.answer start now nodes action).1.2))
      (host.answer start now nodes action).2 results last) :
    Interleaved host start jobs nodes results last

/-- What a process finds and what it leaves: nodes, the time since the start and the state it
works on. -/
structure Scene (ν σ : Type) where
  nodes : ν
  now : Span
  shared : σ

/-- A process that begins in a scene may give a result and leave another scene. -/
def Process.Yields (host : Host ν) (start : Instant) (result : α) (last : Scene ν σ) :
    Process σ ρ α → Scene ν σ → Prop
  | .done a, s => a = result ∧ s = last
  | .perform (.act action) next, s =>
    Yields host start result last (next (host.answer start s.now s.nodes action).1.2)
      ⟨(host.answer start s.now s.nodes action).2,
        s.now + (host.answer start s.now s.nodes action).1.1, s.shared⟩
  | .perform (.pool _ jobs) next, s =>
    ∃ results nodes now, Interleaved host start jobs s.nodes results nodes ∧ s.now ≤ now ∧
      Yields host start result last (next results) ⟨nodes, now, s.shared⟩
  | .perform (.update change) next, s =>
    Yields host start result last (next s.shared) { s with shared := change s.shared }

variable {host : Host ν} {start : Instant}

section Alone

theorem Host.exec_done (a : α) (s : ν × Span) : host.exec start (.done a) s = (a, s) := rfl

theorem Host.exec_pure (a : α) (s : ν × Span) : host.exec start (pure a) s = (a, s) := rfl

theorem Host.exec_bind (r : Routine α) (f : α → Routine β) (s : ν × Span) :
    host.exec start (r >>= f) s =
      host.exec start (f (host.exec start r s).1) (host.exec start r s).2 :=
  Program.eval_bind _ r f s

@[simp] theorem Host.exec_log (line : Log.Line) (s : ν × Span) :
    host.exec start (Routine.log line) s = ((), s) := rfl

@[simp] theorem Host.exec_logAll (lines : List Log.Line) (s : ν × Span) :
    host.exec start (Routine.logAll lines) s = ((), s) := by
  induction lines with
  | nil => rfl
  | cons line lines ih => rw [Routine.logAll, Host.exec_bind, Host.exec_log, ih]

end Alone

/-- Whatever it is answered, a routine gives a result with a property. -/
def Routine.Returns (Q : α → Prop) : Routine α → Prop
  | .done a => Q a
  | .perform _ next => ∀ x, Returns Q (next x)

namespace Routine
variable {Q : α → Prop}

theorem Returns.exec {r : Routine α} (h : r.Returns Q) (s : ν × Span) :
    Q (host.exec start r s).1 := by
  induction r generalizing s with
  | done a => exact h
  | perform action next ih => exact ih _ (h _) _

theorem Returns.bind {r : Routine α} {f : α → Routine β} {R : β → Prop} (h : r.Returns Q)
    (hf : ∀ a, Q a → (f a).Returns R) : (r >>= f).Returns R := by
  change Returns R (Program.bind r f)
  induction r with
  | done a => exact hf a h
  | perform action next ih => exact fun x => ih x (h x)

theorem Returns.mono {r : Routine α} {R : α → Prop} (h : r.Returns Q) (hR : ∀ a, Q a → R a) :
    r.Returns R := by
  induction r with
  | done a => exact hR a h
  | perform action next ih => exact fun x => ih x (h x)

theorem returns_pure {a : α} (h : Q a) : (pure a : Routine α).Returns Q := h

theorem returns_something (r : Routine α) : r.Returns fun _ => True := by
  induction r with
  | done a => trivial
  | perform action next ih => exact fun x => ih x

end Routine

namespace Process

theorem yields_bind {p : Process σ ρ α} {f : α → Process σ ρ β} {b : β} {s last : Scene ν σ} :
    (p >>= f).Yields host start b last s ↔
      ∃ a mid, p.Yields host start a mid s ∧ (f a).Yields host start b last mid := by
  change Yields host start b last (Program.bind p f) s ↔ _
  induction p generalizing s with
  | done a =>
    constructor
    · exact fun h => ⟨a, s, ⟨rfl, rfl⟩, h⟩
    · rintro ⟨_, _, ⟨rfl, rfl⟩, h⟩
      exact h
  | perform effect next ih =>
    cases effect with
    | act action => simp only [Program.bind, Yields, ih]
    | update change => simp only [Program.bind, Yields, ih]
    | pool limit jobs =>
      simp only [Program.bind, Yields, ih]
      constructor
      · rintro ⟨results, nodes, now, hpool, hnow, a, mid, hp, hf⟩
        exact ⟨a, mid, ⟨results, nodes, now, hpool, hnow, hp⟩, hf⟩
      · rintro ⟨a, mid, ⟨results, nodes, now, hpool, hnow, hp⟩, hf⟩
        exact ⟨results, nodes, now, hpool, hnow, a, mid, hp, hf⟩

@[simp] theorem yields_pure {a b : α} {s last : Scene ν σ} :
    (pure a : Process σ ρ α).Yields host start b last s ↔ a = b ∧ s = last := Iff.rfl

theorem yields_ofRoutine {r : Routine α} {b : α} {s last : Scene ν σ} :
    (ofRoutine r : Process σ ρ α).Yields host start b last s ↔
      last = ⟨(host.exec start r (s.nodes, s.now)).2.1, (host.exec start r (s.nodes, s.now)).2.2,
        s.shared⟩ ∧ (host.exec start r (s.nodes, s.now)).1 = b := by
  induction r generalizing s with
  | done a =>
    simp only [ofRoutine, Yields, Host.exec_done]
    exact ⟨fun h => ⟨h.2.symm, h.1⟩, fun h => ⟨h.2, h.1.symm⟩⟩
  | perform action next ih =>
    simp only [ofRoutine, Yields, ih]
    rfl

@[simp] theorem yields_log {line : Log.Line} {u : Unit} {s last : Scene ν σ} :
    (Process.log line : Process σ ρ Unit).Yields host start u last s ↔ last = s := by
  rw [Process.log, yields_ofRoutine, Host.exec_log]
  exact ⟨fun h => h.1, fun h => ⟨h, rfl⟩⟩

@[simp] theorem yields_logAll {lines : List Log.Line} {u : Unit} {s last : Scene ν σ} :
    (Process.logAll lines : Process σ ρ Unit).Yields host start u last s ↔ last = s := by
  rw [Process.logAll, yields_ofRoutine, Host.exec_logAll]
  exact ⟨fun h => h.1, fun h => ⟨h, rfl⟩⟩

@[simp] theorem yields_clock {c : Clock} {s last : Scene ν σ} :
    (Process.clock : Process σ ρ Clock).Yields host start c last s ↔
      last = s ∧ ⟨start.later s.now, s.now⟩ = c := by
  rw [Process.clock, yields_ofRoutine]
  rfl

@[simp] theorem yields_get {a : σ} {s last : Scene ν σ} :
    (Process.get : Process σ ρ σ).Yields host start a last s ↔ s.shared = a ∧ s = last := Iff.rfl

@[simp] theorem yields_update {change : σ → σ} {u : Unit} {s last : Scene ν σ} :
    (Process.update change : Process σ ρ Unit).Yields host start u last s ↔
      { s with shared := change s.shared } = last :=
  ⟨fun h => h.2, fun h => ⟨rfl, h⟩⟩

@[simp] theorem yields_getAndUpdate {change : σ → σ} {a : σ} {s last : Scene ν σ} :
    (Process.getAndUpdate change : Process σ ρ σ).Yields host start a last s ↔
      s.shared = a ∧ { s with shared := change s.shared } = last := Iff.rfl

theorem yields_pool {limit : Nat} {jobs : List (Routine ρ)} {results : List ρ}
    {s last : Scene ν σ} :
    (Process.pool limit jobs : Process σ ρ (List ρ)).Yields host start results last s ↔
      Interleaved host start jobs s.nodes results last.nodes ∧ s.now ≤ last.now ∧
        last.shared = s.shared := by
  constructor
  · rintro ⟨results, nodes, now, hpool, hnow, rfl, rfl⟩
    exact ⟨hpool, hnow, rfl⟩
  · rintro ⟨hpool, hnow, hshared⟩
    exact ⟨results, last.nodes, last.now, hpool, hnow, rfl, by rw [← hshared]⟩

/-- A process with a state of its own leaves the state of the scene alone. -/
theorem yields_withOwn {p : Process τ ρ α} {own own' : τ} {a : α} {s last : Scene ν σ} :
    (withOwn own p : Process σ ρ (α × τ)).Yields host start (a, own') last s ↔
      p.Yields host start a ⟨last.nodes, last.now, own'⟩ ⟨s.nodes, s.now, own⟩ ∧
        last.shared = s.shared := by
  induction p generalizing own s with
  | done b =>
    simp only [withOwn, Yields, Prod.mk.injEq, Scene.mk.injEq]
    constructor
    · rintro ⟨⟨rfl, rfl⟩, rfl⟩
      exact ⟨⟨rfl, rfl, rfl, rfl⟩, rfl⟩
    · rintro ⟨⟨rfl, hnodes, hnow, rfl⟩, hshared⟩
      exact ⟨⟨rfl, rfl⟩, by cases s; cases last; simp_all⟩
  | perform effect next ih =>
    cases effect with
    | act action => simp only [withOwn, Yields, ih]
    | update change => simp only [withOwn, Yields, ih]
    | pool limit jobs =>
      simp only [withOwn, Yields, ih]
      constructor
      · rintro ⟨results, nodes, now, hpool, hnow, hp, hshared⟩
        exact ⟨⟨results, nodes, now, hpool, hnow, hp⟩, hshared⟩
      · rintro ⟨⟨results, nodes, now, hpool, hnow, hp⟩, hshared⟩
        exact ⟨results, nodes, now, hpool, hnow, hp, hshared⟩

/-- What is made of the result of a process with a state of its own. -/
theorem withOwn_map (p : Process τ ρ α) (f : α → β) (own : τ) :
    (withOwn own (do
      let a ← p
      pure (f a)) : Process σ ρ (β × τ)) = (do
      let x ← withOwn own p
      pure (f x.1, x.2)) := by
  change withOwn own (Program.bind p fun a => .done (f a)) =
    Program.bind (withOwn own p) fun x => .done (f x.1, x.2)
  induction p generalizing own with
  | done a => rfl
  | perform effect next ih =>
    cases effect with
    | act action => exact congrArg (Program.perform _) (funext fun x => ih x own)
    | pool limit jobs => exact congrArg (Program.perform _) (funext fun x => ih x own)
    | update change => exact ih own (change own)

/-- A process that leaves the shared state as it is. -/
def IsReading : Process σ ρ α → Prop
  | .done _ => True
  | .perform (.act _) next => ∀ x, IsReading (next x)
  | .perform (.pool _ _) next => ∀ x, IsReading (next x)
  | .perform (.update change) next => (∀ s, change s = s) ∧ ∀ x, IsReading (next x)

theorem IsReading.shared_eq {p : Process σ ρ α} (h : p.IsReading) {a : α} {s last : Scene ν σ}
    (hp : p.Yields host start a last s) : last.shared = s.shared := by
  induction p generalizing s with
  | done b => exact congrArg Scene.shared hp.2.symm
  | perform effect next ih =>
    cases effect with
    | act action =>
      have hrest := ih _ (h _) hp
      exact hrest
    | pool limit jobs =>
      obtain ⟨results, nodes, now, -, -, hp⟩ := hp
      have hrest := ih _ (h _) hp
      exact hrest
    | update change =>
      have hrest := ih _ (h.2 _) hp
      exact hrest.trans (h.1 s.shared)

theorem IsReading.bind {p : Process σ ρ α} (h : p.IsReading) {f : α → Process σ ρ β}
    (hf : ∀ a, (f a).IsReading) : (p >>= f).IsReading := by
  change IsReading (Program.bind p f)
  induction p with
  | done a => exact hf a
  | perform effect next ih =>
    cases effect with
    | act action => exact fun x => ih x (h x)
    | pool limit jobs => exact fun x => ih x (h x)
    | update change => exact ⟨h.1, fun x => ih x (h.2 x)⟩

theorem isReading_ofRoutine (r : Routine α) : (ofRoutine r : Process σ ρ α).IsReading := by
  induction r with
  | done a => trivial
  | perform action next ih => exact fun x => ih x

theorem isReading_pure (a : α) : (pure a : Process σ ρ α).IsReading := trivial

theorem isReading_log (line : Log.Line) : (Process.log line : Process σ ρ Unit).IsReading :=
  isReading_ofRoutine _

theorem isReading_clock : (Process.clock : Process σ ρ Clock).IsReading := isReading_ofRoutine _

theorem isReading_get : (Process.get : Process σ ρ σ).IsReading :=
  ⟨fun _ => rfl, fun _ => trivial⟩

theorem isReading_pool (limit : Nat) (jobs : List (Routine ρ)) :
    (Process.pool limit jobs : Process σ ρ (List ρ)).IsReading := fun _ => trivial

end Process
end SeriesReplica.Concurrent
