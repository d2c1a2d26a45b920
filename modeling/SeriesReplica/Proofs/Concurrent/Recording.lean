import SeriesReplica.Proofs.Concurrent.Outcome

/-! Which calls a program makes. A host that keeps a record of its calls answers as it does
without one; a program that can be seen to make only calls of a kind adds only such calls to the
record, whatever it is answered and however its jobs are interleaved. -/
namespace SeriesReplica.Concurrent
open Time

variable {ν σ τ ρ α β : Type} {K : Client → NodeCall → Prop} {host : Host ν} {start : Instant}

/-- Whether a call may change its node. -/
def NodeCall.changes : NodeCall → Bool
  | .ping => false
  | .query request => request.statement.isMutation
  | .write _ => true

/-- A call that cannot change its node. -/
def NodeCall.Harmless (_ : Client) (c : NodeCall) : Prop := c.changes = false

/-- A host that keeps the calls it was asked for, the last one first. -/
def Host.recording (host : Host ν) : Host (ν × List (Client × NodeCall)) where
  connect name s := ((host.connect name s.1).1, (host.connect name s.1).2, s.2)
  call client c s :=
    ((host.call client c s.1).1, (host.call client c s.1).2, (client, c) :: s.2)

/-- A record has grown, by calls of a kind. -/
def Recorded (K : Client → NodeCall → Prop) (before after : List (Client × NodeCall)) : Prop :=
  ∃ calls, after = calls ++ before ∧ ∀ x ∈ calls, K x.1 x.2

theorem Recorded.refl (record : List (Client × NodeCall)) : Recorded K record record :=
  ⟨[], rfl, by simp⟩

theorem Recorded.trans {r₁ r₂ r₃ : List (Client × NodeCall)} (h : Recorded K r₁ r₂)
    (h' : Recorded K r₂ r₃) : Recorded K r₁ r₃ := by
  obtain ⟨calls, rfl, hcalls⟩ := h
  obtain ⟨calls', rfl, hcalls'⟩ := h'
  refine ⟨calls' ++ calls, (List.append_assoc ..).symm, fun x hx => ?_⟩
  exact (List.mem_append.1 hx).elim (hcalls' x) (hcalls x)

/-- An action that is a call of a kind, or no call. -/
def Action.IsOf (K : Client → NodeCall → Prop) : Action → Prop
  | .call client c _ => K client c
  | _ => True

/-- A routine all of whose calls are of a kind. -/
def Routine.CallsOnly (K : Client → NodeCall → Prop) : Routine α → Prop
  | .done _ => True
  | .perform action next => action.IsOf K ∧ ∀ x, CallsOnly K (next x)

/-- A process all of whose calls are of a kind, those of its pools included. -/
def Process.CallsOnly (K : Client → NodeCall → Prop) : Process σ ρ α → Prop
  | .done _ => True
  | .perform (.act action) next => action.IsOf K ∧ ∀ x, CallsOnly K (next x)
  | .perform (.pool _ jobs) next =>
    (∀ r ∈ jobs, Routine.CallsOnly K r) ∧ ∀ x, CallsOnly K (next x)
  | .perform (.update _) next => ∀ x, CallsOnly K (next x)

/-- The record does not show in what is answered. -/
theorem Host.recording_answer (host : Host ν) (start : Instant) (now : Span)
    (s : ν × List (Client × NodeCall)) (action : Action) :
    (host.recording.answer start now s action).1 = (host.answer start now s.1 action).1 ∧
      (host.recording.answer start now s action).2.1 = (host.answer start now s.1 action).2 := by
  cases action <;> exact ⟨rfl, rfl⟩

theorem Action.IsOf.recorded {action : Action} (h : action.IsOf K) (now : Span)
    (s : ν × List (Client × NodeCall)) :
    Recorded K s.2 (host.recording.answer start now s action).2.2 := by
  cases action with
  | call client c deadline =>
    refine ⟨[(client, c)], rfl, fun x hx => ?_⟩
    exact List.mem_singleton.1 hx ▸ h
  | connect name deadline => exact .refl _
  | sleep d => exact .refl _
  | clock => exact .refl _
  | log line => exact .refl _

theorem Action.IsOf.mono {K' : Client → NodeCall → Prop} {action : Action} (h : action.IsOf K)
    (hK : ∀ c call, K c call → K' c call) : action.IsOf K' := by
  cases action with
  | call c call deadline => exact hK c call h
  | connect | sleep | clock | log => trivial

namespace Routine

theorem CallsOnly.bind {r : Routine α} {f : α → Routine β} (h : r.CallsOnly K)
    (hf : ∀ a, (f a).CallsOnly K) : (r >>= f).CallsOnly K := by
  change CallsOnly K (Program.bind r f)
  induction r with
  | done a => exact hf a
  | perform action next ih => exact ⟨h.1, fun x => ih x (h.2 x)⟩

theorem CallsOnly.mono {K' : Client → NodeCall → Prop} {r : Routine α} (h : r.CallsOnly K)
    (hK : ∀ c call, K c call → K' c call) : r.CallsOnly K' := by
  induction r with
  | done a => trivial
  | perform action next ih => exact ⟨h.1.mono hK, fun x => ih x (h.2 x)⟩

theorem callsOnly_pure (a : α) : (pure a : Routine α).CallsOnly K := trivial

theorem callsOnly_connect (name : String) (deadline : Option Deadline) :
    (connect name deadline).CallsOnly K := ⟨trivial, fun _ => trivial⟩

theorem callsOnly_ping {client : Client} (deadline : Option Deadline) (h : K client .ping) :
    (ping client deadline).CallsOnly K := ⟨h, fun _ => trivial⟩

theorem callsOnly_query {client : Client} {request : Query.Request} (deadline : Option Deadline)
    (h : K client (.query request)) : (query client request deadline).CallsOnly K :=
  ⟨h, fun _ => trivial⟩

theorem callsOnly_log (line : Log.Line) : (log line).CallsOnly K := ⟨trivial, fun _ => trivial⟩

theorem callsOnly_logAll (lines : List Log.Line) : (logAll lines).CallsOnly K := by
  induction lines with
  | nil => trivial
  | cons line lines ih => exact (callsOnly_log line).bind fun _ => ih

end Routine

/-- Without the record, the jobs may do the same. -/
theorem Interleaved.of_recording {jobs : List (Routine ρ)}
    {s last : ν × List (Client × NodeCall)} {results : List ρ}
    (h : Interleaved host.recording start jobs s results last) :
    Interleaved host start jobs s.1 results last.1 := by
  induction h with
  | finished results nodes => exact .finished results nodes.1
  | @step jobs s last results i action next now taken rest ih =>
    obtain ⟨hreply, hnodes⟩ := host.recording_answer start now s action
    rw [hreply, hnodes] at ih
    exact .step i action next now taken ih

theorem Interleaved.recorded {jobs : List (Routine ρ)}
    {s last : ν × List (Client × NodeCall)} {results : List ρ}
    (h : Interleaved host.recording start jobs s results last)
    (hjobs : ∀ r ∈ jobs, r.CallsOnly K) : Recorded K s.2 last.2 := by
  induction h with
  | finished results nodes => exact .refl _
  | step i action next now taken rest ih =>
    have hjob := hjobs _ (List.mem_of_getElem? taken)
    refine (hjob.1.recorded now _).trans (ih fun r hr => ?_)
    obtain hr | rfl := List.mem_or_eq_of_mem_set hr
    · exact hjobs r hr
    · exact hjob.2 _

namespace Process

theorem CallsOnly.bind {p : Process σ ρ α} {f : α → Process σ ρ β} (h : p.CallsOnly K)
    (hf : ∀ a, (f a).CallsOnly K) : (p >>= f).CallsOnly K := by
  change CallsOnly K (Program.bind p f)
  induction p with
  | done a => exact hf a
  | perform effect next ih =>
    cases effect with
    | act action => exact ⟨h.1, fun x => ih x (h.2 x)⟩
    | pool limit jobs => exact ⟨h.1, fun x => ih x (h.2 x)⟩
    | update change => exact fun x => ih x (h x)

theorem CallsOnly.mono {K' : Client → NodeCall → Prop} {p : Process σ ρ α} (h : p.CallsOnly K)
    (hK : ∀ c call, K c call → K' c call) : p.CallsOnly K' := by
  induction p with
  | done a => trivial
  | perform effect next ih =>
    cases effect with
    | act action => exact ⟨h.1.mono hK, fun x => ih x (h.2 x)⟩
    | pool limit jobs => exact ⟨fun r hr => (h.1 r hr).mono hK, fun x => ih x (h.2 x)⟩
    | update change => exact fun x => ih x (h x)

theorem CallsOnly.withOwn {p : Process τ ρ α} (h : p.CallsOnly K) (own : τ) :
    (withOwn own p : Process σ ρ (α × τ)).CallsOnly K := by
  induction p generalizing own with
  | done a => trivial
  | perform effect next ih =>
    cases effect with
    | act action => exact ⟨h.1, fun x => ih x (h.2 x) own⟩
    | pool limit jobs => exact ⟨h.1, fun x => ih x (h.2 x) own⟩
    | update change => exact ih own (h own) (change own)

theorem callsOnly_ofRoutine {r : Routine α} (h : r.CallsOnly K) :
    (ofRoutine r : Process σ ρ α).CallsOnly K := by
  induction r with
  | done a => trivial
  | perform action next ih => exact ⟨h.1, fun x => ih x (h.2 x)⟩

theorem callsOnly_pure (a : α) : (pure a : Process σ ρ α).CallsOnly K := trivial

theorem callsOnly_get : (get : Process σ ρ σ).CallsOnly K := fun _ => trivial

theorem callsOnly_update (change : σ → σ) : (update change : Process σ ρ Unit).CallsOnly K :=
  fun _ => trivial

theorem callsOnly_clock : (clock : Process σ ρ Clock).CallsOnly K := ⟨trivial, fun _ => trivial⟩

theorem callsOnly_log (line : Log.Line) : (log line : Process σ ρ Unit).CallsOnly K :=
  callsOnly_ofRoutine (Routine.callsOnly_log line)

theorem callsOnly_logAll (lines : List Log.Line) :
    (logAll lines : Process σ ρ Unit).CallsOnly K :=
  callsOnly_ofRoutine (Routine.callsOnly_logAll lines)

theorem callsOnly_pool (limit : Nat) {jobs : List (Routine ρ)} (h : ∀ r ∈ jobs, r.CallsOnly K) :
    (pool limit jobs : Process σ ρ (List ρ)).CallsOnly K := ⟨h, fun _ => trivial⟩

/-- Only calls of its kind have been added to the record when such a process is done. -/
theorem CallsOnly.recorded {p : Process σ ρ α} (h : p.CallsOnly K) {a : α}
    {s last : Scene (ν × List (Client × NodeCall)) σ}
    (hp : p.Yields host.recording start a last s) : Recorded K s.nodes.2 last.nodes.2 := by
  induction p generalizing s with
  | done b => exact hp.2 ▸ .refl _
  | perform effect next ih =>
    cases effect with
    | act action => exact (h.1.recorded s.now s.nodes).trans (ih _ (h.2 _) hp)
    | pool limit jobs =>
      obtain ⟨results, nodes, now, hpool, -, hp⟩ := hp
      exact (hpool.recorded h.1).trans (ih _ (h.2 _) hp)
    | update change =>
      exact ih s.shared (h s.shared) (s := ⟨s.nodes, s.now, change s.shared⟩) hp

/-- Without the record, the process may do the same. -/
theorem Yields.of_recording {p : Process σ ρ α} {a : α}
    {s last : Scene (ν × List (Client × NodeCall)) σ}
    (hp : p.Yields host.recording start a last s) :
    p.Yields host start a ⟨last.nodes.1, last.now, last.shared⟩ ⟨s.nodes.1, s.now, s.shared⟩ := by
  induction p generalizing s with
  | done b => exact ⟨hp.1, hp.2 ▸ rfl⟩
  | perform effect next ih =>
    cases effect with
    | act action =>
      obtain ⟨hreply, hnodes⟩ := host.recording_answer start s.now s.nodes action
      have hrest := ih _ hp
      simp only [hreply, hnodes] at hrest
      exact hrest
    | pool limit jobs =>
      obtain ⟨results, nodes, now, hpool, hnow, hp⟩ := hp
      exact ⟨results, nodes.1, now, hpool.of_recording, hnow, ih _ hp⟩
    | update change => exact ih s.shared (s := ⟨s.nodes, s.now, change s.shared⟩) hp

end Process
end SeriesReplica.Concurrent
