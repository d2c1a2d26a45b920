import SeriesReplica.Proofs.Cluster.Check
import SeriesReplica.Proofs.Time.EpochNanos

/-! What a watch tells of the calls that were made to it. Probes, connects and refreshes come in any
order, at any times and with any outcomes. The latest probe decides whether the node is up, the
latest successful one what else is known of it, and the connection for data is the one that the
latest refresh or connect has put into use, if there was one to put. -/
namespace SeriesReplica
open Concurrent Time

/-- The clock of a routine does not go back. -/
theorem Concurrent.Host.now_le_exec {ν α : Type} (host : Host ν) (start : Instant) (r : Routine α)
    (s : ν × Span) : s.2 ≤ (host.exec start r s).2.2 := by
  induction r generalizing s with
  | done a => exact Nat.le_refl _
  | perform action next ih =>
    refine Nat.le_trans ?_ (ih _ _)
    exact Nat.le_add_right ..

namespace Cluster.Monitor

/-- A probe that has ended. -/
structure Probed where
  found : Except Node.Error (Client × Pong)
  ended : Instant

/-- A call to a watch, with what came of it. -/
inductive Deed where
  | probed (p : Probed)
  | connected (p : Probed)
  | refreshed

/-- What a successful probe has found out. -/
structure Contact where
  client : Client
  pong : Pong
  time : Instant

def Probed.contact? (p : Probed) : Option Contact :=
  match p.found with
  | .ok (client, pong) => some ⟨client, pong, p.ended⟩
  | .error _ => none

def Deed.probe? : Deed → Option Probed
  | .probed p | .connected p => some p
  | .refreshed => none

/-- The latest probe. The latest deed comes first. -/
def latestProbe (h : List Deed) : Option Probed := h.findSome? Deed.probe?

/-- The latest successful probe. -/
def latestContact (h : List Deed) : Option Contact :=
  h.findSome? fun d => d.probe?.bind Probed.contact?

/-- The connection that the latest of these deeds has put into use. -/
def promoted : List Deed → Option Client
  | .refreshed :: h => (latestContact h).map (·.client)
  | .connected p :: _ => p.contact?.map (·.client)
  | .probed _ :: _ | [] => none

/-- The connection that has been put into use last. -/
def inUse : List Deed → Option Client
  | [] => none
  | d :: h => (promoted (d :: h)).or (inUse h)

/-- What a watch tells that began at a moment. -/
structure Tells (created : Instant) (h : List Deed) (m : Monitor) : Prop where
  isUp_iff : m.isUp = true ↔ ∃ p x, latestProbe h = some p ∧ p.found = .ok x
  lastOk_eq : m.lastOk = ((latestContact h).map (·.time)).getD created
  version_eq : m.version = (latestContact h).map (·.pong.version)
  latency_eq : m.latency = ((latestContact h).map (·.pong.latency)).getD .zero
  lastError_iff : ∀ text, m.lastError = some text ↔
    ∃ p e, latestProbe h = some p ∧ p.found = .error e ∧ text = e.message
  probed_eq : m.probed = (latestContact h).map (·.client)
  active_eq : m.active = inUse h

variable {ν : Type} {host : Host ν} {start created : Instant} {h h' : List Deed} {m : Monitor}
  {s s' s'' : Scene ν Monitor}

/-- What a probe finds that begins in a scene. -/
def findings (host : Host ν) (start : Instant) (s : Scene ν Monitor) :
    Except Node.Error (Client × Pong) :=
  (host.exec start (probeOnce s.shared.name ⟨s.now + s.shared.timeout, s.shared.timeout⟩)
    (s.nodes, s.now)).1

/-- A call leads from one scene to another. -/
inductive Does (host : Host ν) (start : Instant) (s : Scene ν Monitor) :
    Deed → Scene ν Monitor → Prop
  | probe {result : Except Node.Error Pong} {last : Scene ν Monitor}
    (yields : (probe : Process Monitor Sync.Outcome _).Yields host start result last s) :
    Does host start s (.probed ⟨findings host start s, start.later last.now⟩) last
  | connect {result : Except Node.Error Pong} {last : Scene ν Monitor}
    (yields : (connect : Process Monitor Sync.Outcome _).Yields host start result last s) :
    Does host start s (.connected ⟨findings host start s, start.later last.now⟩) last
  | refresh {last : Scene ν Monitor}
    (yields : (Process.update refresh : Process Monitor Sync.Outcome Unit).Yields host start () last
      s) : Does host start s .refreshed last

/-- Calls one after another lead from one scene to another, with all that is done. In between time
passes, and nodes change. -/
inductive Lives (host : Host ν) (start : Instant) (s : Scene ν Monitor) :
    List Deed → Scene ν Monitor → Prop
  | begin : Lives host start s [] s
  | pass {h : List Deed} {s' : Scene ν Monitor} (before : Lives host start s h s') (nodes : ν)
    (now : Span) (later : s'.now ≤ now) :
    Lives host start s h { s' with nodes := nodes, now := now }
  | call {h : List Deed} {d : Deed} {s' s'' : Scene ν Monitor} (before : Lives host start s h s')
    (does : Does host start s' d s'') : Lives host start s (d :: h) s''

/-- What becomes of a watch by a probe. -/
def observe (m : Monitor) (p : Probed) : Monitor :=
  match p.found with
  | .ok (client, pong) => m.succeed client pong p.ended
  | .error e => m.fail e

/-- A probe that ends answers what it has found, and the watch takes note of it. -/
theorem probe_observes {ρ : Type} {result : Except Node.Error Pong} {last : Scene ν Monitor}
    (hyields : (probe : Process Monitor ρ _).Yields host start result last s) :
    result = (findings host start s).map (·.2) ∧ s.now ≤ last.now ∧
      last.shared = s.shared.observe ⟨findings host start s, start.later last.now⟩ := by
  obtain ⟨found, hexec, hresult, hshared⟩ := probe_yields hyields
  have hnow := host.now_le_exec start (probeOnce s.shared.name
    ⟨s.now + s.shared.timeout, s.shared.timeout⟩) (s.nodes, s.now)
  rw [hexec] at hnow
  have hfindings : findings host start s = found := congrArg Prod.fst hexec
  rw [hfindings]
  cases found <;> exact ⟨hresult, hnow, hshared⟩

/-- A connect is a probe, and a refresh if that succeeds. -/
theorem connect_observes {ρ : Type} {result : Except Node.Error Pong} {last : Scene ν Monitor}
    (hyields : (connect : Process Monitor ρ _).Yields host start result last s) :
    let p : Probed := ⟨findings host start s, start.later last.now⟩
    s.now ≤ last.now ∧ last.shared =
      if p.contact?.isSome then (s.shared.observe p).refresh else s.shared.observe p := by
  rw [connect] at hyields
  obtain ⟨probed, s₁, hprobe, hyields⟩ := Process.yields_bind.1 hyields
  obtain ⟨rfl, hnow, hshared⟩ := probe_observes hprobe
  cases hfound : findings host start s with
  | ok x =>
    rw [hfound] at hyields hshared
    obtain ⟨u, s₂, hupdate, hyields⟩ := Process.yields_bind.1 hyields
    obtain rfl := Process.yields_update.1 hupdate
    obtain ⟨-, rfl⟩ := hyields
    exact ⟨hnow, congrArg refresh hshared⟩
  | error e =>
    rw [hfound] at hyields hshared
    obtain ⟨-, rfl⟩ := hyields
    exact ⟨hnow, hshared⟩

section Histories
variable {p : Probed} {d : Deed}

theorem observe_active (m : Monitor) (p : Probed) : (m.observe p).active = m.active := by
  rw [observe]
  split <;> rfl

theorem latestProbe_cons (hprobe : d.probe? = some p) (h : List Deed) :
    latestProbe (d :: h) = some p := by
  rw [latestProbe, List.findSome?_cons, hprobe]

theorem latestContact_cons (hprobe : d.probe? = some p) (h : List Deed) :
    latestContact (d :: h) = p.contact?.or (latestContact h) := by
  rw [latestContact, List.findSome?_cons, hprobe]
  cases hcontact : p.contact? <;> simp [hcontact, latestContact]

end Histories

namespace Tells

/-- A watch that has just begun. -/
theorem unseen (name : String) (timeout : Span) (now : Instant) :
    Tells now [] (.unseen name timeout now) where
  isUp_iff := by simp [Monitor.unseen, latestProbe]
  lastOk_eq := rfl
  version_eq := rfl
  latency_eq := rfl
  lastError_iff := by simp [Monitor.unseen, latestProbe]
  probed_eq := rfl
  active_eq := rfl

/-- A probe is taken note of, whatever becomes of the connection for data. -/
theorem observe (htells : Tells created h m) {d : Deed} {p : Probed} (hprobe : d.probe? = some p)
    {active : Option Client} (hactive : active = inUse (d :: h)) :
    Tells created (d :: h) { m.observe p with active := active } := by
  have hlatest := latestProbe_cons hprobe h
  have hcontact := latestContact_cons hprobe h
  obtain ⟨found, ended⟩ := p
  cases found with
  | ok x =>
    have hnew : latestContact (d :: h) = some ⟨x.1, x.2, ended⟩ := hcontact
    constructor
    · exact iff_of_true rfl ⟨_, x, hlatest, rfl⟩
    all_goals simp [hnew, hlatest, Monitor.observe, succeed, hactive]
  | error e =>
    have hold : latestContact (d :: h) = latestContact h := hcontact
    constructor
    · simp [hlatest, Monitor.observe, fail]
    · exact hold ▸ htells.lastOk_eq
    · exact hold ▸ htells.version_eq
    · exact hold ▸ htells.latency_eq
    · simp [hlatest, Monitor.observe, fail, eq_comm]
    · exact hold ▸ htells.probed_eq
    · exact hactive

/-- The connection of the latest successful probe is put into use, if there is one. -/
theorem refresh (htells : Tells created h m) : Tells created (.refreshed :: h) m.refresh := by
  refine ⟨htells.isUp_iff, htells.lastOk_eq, htells.version_eq, htells.latency_eq,
    htells.lastError_iff, htells.probed_eq, ?_⟩
  rw [Monitor.refresh, inUse, promoted, htells.probed_eq, htells.active_eq]
  exact Option.orElse_eq_or ..

/-- What a watch tells is kept by every call. -/
theorem does (htells : Tells created h s.shared) {d : Deed} (hdoes : Does host start s d s') :
    Tells created (d :: h) s'.shared := by
  cases hdoes with
  | probe yields =>
    obtain ⟨-, -, hshared⟩ := probe_observes yields
    rw [hshared]
    exact htells.observe rfl ((observe_active _ _).trans htells.active_eq)
  | connect yields =>
    obtain ⟨-, hshared⟩ := connect_observes yields
    rw [hshared]
    cases hfound : findings host start s with
    | ok x => exact htells.observe rfl rfl
    | error e =>
      have hkept : s.shared.active = inUse (.connected ⟨.error e, start.later s'.now⟩ :: h) :=
        htells.active_eq
      exact htells.observe rfl hkept
  | refresh yields =>
    rw [← Process.yields_update.1 yields]
    exact htells.refresh

end Tells

/-- A call takes its time. -/
theorem Does.now_le {d : Deed} (hdoes : Does host start s d s') : s.now ≤ s'.now := by
  cases hdoes with
  | probe yields => exact (probe_observes yields).2.1
  | connect yields => exact (connect_observes yields).1
  | refresh yields =>
    rw [← Process.yields_update.1 yields]
    exact Nat.le_refl _

theorem lastOk_observe (m : Monitor) (p : Probed) :
    (m.observe p).lastOk = m.lastOk ∨ (m.observe p).lastOk = p.ended := by
  rw [observe]
  split
  · exact .inr rfl
  · exact .inl rfl

/-- A call leaves the time of the last contact, or moves it to the moment of its end. -/
theorem Does.lastOk_eq {d : Deed} (hdoes : Does host start s d s') :
    s'.shared.lastOk = s.shared.lastOk ∨ s'.shared.lastOk = start.later s'.now := by
  cases hdoes with
  | probe yields =>
    rw [(probe_observes yields).2.2]
    exact lastOk_observe _ _
  | connect yields =>
    rw [(connect_observes yields).2]
    split
    · exact lastOk_observe _ _
    · exact lastOk_observe _ _
  | refresh yields =>
    rw [← Process.yields_update.1 yields]
    exact .inl rfl

namespace Lives

/-- What a watch tells is kept by all that is done. -/
theorem tells (hlives : Lives host start s h' s') (htells : Tells created h s.shared) :
    Tells created (h' ++ h) s'.shared := by
  induction hlives with
  | begin => exact htells
  | pass before nodes now later ih => exact ih
  | call before does ih => exact ih.does does

/-- Where the clock does not go back, the time of the last contact does not go back, nor is it past
the present. -/
theorem lastOk_le (hlives : Lives host start s h s')
    (hclock : ∀ a b : Span, a ≤ b → start.later a ≤ start.later b)
    (hnow : s.shared.lastOk ≤ start.later s.now) :
    s.shared.lastOk ≤ s'.shared.lastOk ∧ s'.shared.lastOk ≤ start.later s'.now := by
  induction hlives with
  | begin => exact ⟨s.shared.lastOk.le_refl, hnow⟩
  | pass before nodes now later ih => exact ⟨ih.1, Instant.le_trans ih.2 (hclock _ _ later)⟩
  | call before does ih =>
    have hlater := Instant.le_trans ih.2 (hclock _ _ does.now_le)
    rcases does.lastOk_eq with heq | heq
    · rw [heq]
      exact ⟨ih.1, hlater⟩
    · rw [heq]
      exact ⟨Instant.le_trans ih.1 hlater, Instant.le_refl _⟩

end Lives

end Cluster.Monitor
end SeriesReplica
