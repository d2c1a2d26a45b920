import SeriesReplica.Proofs.Cluster.Enlisted
import SeriesReplica.Proofs.Concurrent.Stepping

/-! A watched cluster on a machine. One fiber checks the cluster and all others leave it alone, so
the state of the cluster tells what that fiber is in the middle of, at every moment and whatever
fiber goes on next. -/
namespace SeriesReplica.Cluster
open Concurrent Time Sync

variable {ν α β : Type} {k n c : Nat}

/-- What a fiber is in the middle of. -/
inductive Role where
  | aside
  | checks
  | recovers
  deriving DecidableEq

/-- A program that one may be in the middle of. -/
def Role.Allows (k : Nat) : Role → Process Roster Outcome α → Prop
  | .aside => Keeps k
  | .checks => Decides k
  | .recovers => Concludes k

/-- What becomes of a role by a step, with the number of recoveries before and after it. Checks are
taken up again only where loops tick. -/
inductive Role.Turns (ticks : Prop) : Role → Nat → Role → Nat → Prop
  | stay {role : Role} {c : Nat} : Turns ticks role c role c
  | settle {c : Nat} : Turns ticks .checks c .aside c
  | begin {c : Nat} : Turns ticks .checks c .recovers c
  | finish {c : Nat} : Turns ticks .recovers c .aside (c + 1)
  | wake {c : Nat} (h : ticks) : Turns ticks .aside c .checks c

namespace Role
variable {role : Role}

theorem Allows.act {action : Action} {next : action.Answer → Process Roster Outcome α}
    (h : role.Allows k (.perform (.act action) next)) (x : action.Answer) :
    role.Allows k (next x) := by
  cases role <;> exact h x

theorem Allows.pool {limit : Nat} {jobs : List (Routine Outcome)}
    {next : List Outcome → Process Roster Outcome α}
    (h : role.Allows k (.perform (.pool limit jobs) next)) (x : List Outcome) :
    role.Allows k (next x) := by
  cases role <;> exact h x

theorem Allows.of_keeps {p : Process Roster Outcome α} (h : Keeps k p) (hrole : role ≠ .recovers) :
    role.Allows k p := by
  cases role with
  | aside => exact h
  | checks => exact h.decides
  | recovers => exact absurd rfl hrole

/-- Who recovers is not done yet. -/
theorem Allows.ne_recovers {a : α} (h : role.Allows k (.done a)) : role ≠ .recovers := by
  rintro rfl
  exact h

/-- A change turns the role as it turns the state. -/
theorem Allows.update {change : Roster → Roster} {next : Roster → Process Roster Outcome α}
    (h : role.Allows k (.perform (.update change) next)) {r : Roster} {s : State}
    (hr : r.standing k = some (s, c)) (hs : s = .recovering ↔ role = .recovers) :
    ∃ role' s' c', (change r).standing k = some (s', c') ∧ (s' = .recovering ↔ role' = .recovers) ∧
      role'.Allows k (next r) ∧ ∀ ticks, role.Turns ticks c role' c' := by
  have hspares : SparesAt k change → role.Allows k (next r) → ∃ role' s' c',
      (change r).standing k = some (s', c') ∧ (s' = .recovering ↔ role' = .recovers) ∧
      role'.Allows k (next r) ∧ ∀ ticks, role.Turns ticks c role' c' := fun hchange hnext =>
    ⟨role, s, c, (hchange r).trans hr, hs, hnext, fun _ => .stay⟩
  cases role with
  | aside =>
    rcases h with ⟨hchange, hnext⟩ | h
    · exact hspares hchange (hnext r)
    · exact h.elim
  | checks =>
    rcases h with ⟨hchange, hnext⟩ | h
    · exact hspares hchange (hnext r)
    · have hne : s ≠ .recovering := fun heq => nomatch hs.1 heq
      obtain ⟨s', hstanding, ⟨hs', hkeeps⟩ | ⟨hs', hconcludes⟩⟩ := h r s c hr hne
      · exact ⟨.aside, s', c, hstanding, iff_of_false hs' nofun, hkeeps, fun _ => .settle⟩
      · exact ⟨.recovers, s', c, hstanding, iff_of_true hs' rfl, hconcludes, fun _ => .begin⟩
  | recovers =>
    rcases h with ⟨hchange, hnext⟩ | h
    · exact hspares hchange (hnext r)
    · obtain ⟨hstanding, hkeeps⟩ := h r s c hr
      exact ⟨.aside, .fine, c + 1, hstanding, iff_of_false nofun nofun, hkeeps, fun _ => .finish⟩

end Role

/-- A loop that may check a cluster when it ticks, if it is to, and else leaves it alone. -/
structure Serves (k : Nat) (checking : Prop) (loop : Loop Roster Outcome) : Prop where
  hello : Keeps k loop.hello
  tick : Decides k loop.tick
  aside : ¬ checking → Keeps k loop.tick
  bye : Keeps k loop.bye

/-- What comes after a process, likewise. -/
def AfterServes (k : Nat) (checking : Prop) : After Roster Outcome → Prop
  | .nothing => True
  | .tick loop _ => Serves k checking loop

/-- What a fiber of a role may be doing. -/
def Plays (k : Nat) (checking : Prop) (role : Role) : Body Roster Outcome α → Prop
  | .process p after => role.Allows k p ∧ AfterServes k checking after
  | .gathering _ _ next after => (∀ x, role.Allows k (next x)) ∧ AfterServes k checking after
  | .job .. => role = .aside
  | .waiting loop _ _ => role ≠ .recovers ∧ Serves k checking loop

/-- The role of a fiber by its number. -/
def Role.of (n : Nat) (role : Role) (i : Nat) : Role := if i = n then role else .aside

@[simp] theorem Role.of_aside (n i : Nat) : Role.of n .aside i = .aside := ite_self _

/-- A machine on which one fiber, of the given role, checks a cluster after so many recoveries. -/
structure Guarded (k n : Nat) (role : Role) (c : Nat) (m : Machine ν Roster Outcome α) : Prop where
  each : m.Each fun i b => Plays k (i = n) (role.of n i) b
  below : n < m.fresh
  present : role = .recovers → n ∈ m.ids
  standing : ∃ s, m.shared.standing k = some (s, c) ∧ (s = .recovering ↔ role = .recovers)

namespace Guarded
variable {role role' : Role} {c' : Nat} {m m' : Machine ν Roster Outcome α}
  {f g : Fiber Roster Outcome α} {host : Host ν}

theorem stable (h : Guarded k n role c m) :
    Machine.Stable (fun i (b : Body Roster Outcome α) => Plays k (i = n) (role.of n i) b)
      m.fresh where
  act h answer := ⟨h.1.act answer, h.2⟩
  pool h _ _ := ⟨h.1.pool, h.2⟩
  gathering h _ _ := h
  gathered h results := ⟨h.1 results, h.2⟩
  job h _ := h
  started _ hi _ _ _ := if_neg (Nat.ne_of_gt (h.below.trans_le hi))

theorem congr (h : Guarded k n role c m) (hbodies : m'.bodies = m.bodies)
    (hfresh : m.fresh ≤ m'.fresh) (hshared : m'.shared = m.shared) : Guarded k n role c m' where
  each := h.each.of_bodies hbodies hfresh
  below := h.below.trans_le hfresh
  present hrole := Machine.ids_of_bodies hbodies ▸ h.present hrole
  standing := hshared ▸ h.standing

/-- A fiber goes on. -/
theorem put (h : Guarded k n role c m) (hf : f ∈ m.fibers) (hid : g.id = f.id)
    (hrole : f.id ≠ n → role' = role) (hg : Plays k (f.id = n) (role'.of n f.id) g.body)
    (hfibers : m'.fibers = (m.put g).fibers) (hfresh : m.fresh ≤ m'.fresh)
    (hstanding : ∃ s, m'.shared.standing k = some (s, c') ∧
      (s = .recovering ↔ role' = .recovers)) : Guarded k n role' c' m' where
  each := by
    refine Machine.Each.congr (h.each.put (g := g) (fun i _ hne hb => ?_) ?_) hfibers hfresh
    · by_cases hn : i = n
      · rwa [← hrole fun heq => hne (hn.trans (heq.symm.trans hid.symm))] at hb
      · rw [Role.of, if_neg hn] at hb ⊢
        exact hb
    · rw [hid]
      exact hg
  below := h.below.trans_le hfresh
  present hrecovers := by
    have hids : m'.ids = m.ids := by
      rw [← Machine.ids_put m g, Machine.ids, Machine.ids, hfibers]
    rw [hids]
    by_cases hn : f.id = n
    · exact hn ▸ Machine.mem_ids hf
    · exact h.present (hrole hn ▸ hrecovers)
  standing := hstanding

/-- The role of a fiber other than the one that checks. -/
private theorem of_ne (hn : f.id ≠ n) : role.of n f.id = .aside := if_neg hn

/-- A fiber takes a step inside its program. -/
private theorem inner (h : Guarded k n role c m) (hf : f ∈ m.fibers) (host : Host ν)
    (hinner : Machine.IsInner f.body) : Guarded k n role c (m.resume host f) := by
  obtain ⟨heach, hshared, -, hfresh, hids⟩ := h.each.resume host h.stable hf hinner
  refine ⟨heach, h.below.trans_le hfresh, fun hrecovers => ?_, hshared ▸ h.standing⟩
  rcases hids n (h.present hrecovers) with hn | ⟨hn, parent, index, r, hbody⟩
  · exact hn
  · have hplays := h.each.holds f hf
    rw [hbody, Role.of, if_pos hn.symm] at hplays
    exact absurd (hplays.symm.trans hrecovers) nofun

/-- A fiber changes the roster. -/
private theorem update (h : Guarded k n role c m) (hf : f ∈ m.fibers) (hid : g.id = f.id)
    {change : Roster → Roster} {next : Roster → Process Roster Outcome (Option α)}
    {after : After Roster Outcome}
    (hbody : f.body = .process (.perform (.update change) next) after)
    (hgbody : g.body = .process (next m.shared) after) (hshared : m'.shared = change m.shared)
    (hfibers : m'.fibers = (m.put g).fibers) (hfresh : m.fresh ≤ m'.fresh) :
    ∃ role' c', Guarded k n role' c' m' ∧ ∀ ticks, role.Turns ticks c role' c' := by
  obtain ⟨s, hstanding, hs⟩ := h.standing
  have hplays := h.each.holds f hf
  rw [hbody] at hplays
  obtain ⟨hallows, hafter⟩ := hplays
  by_cases hn : f.id = n
  · rw [Role.of, if_pos hn] at hallows
    obtain ⟨role', s', c', hstanding', hs', hnext, hturns⟩ := hallows.update hstanding hs
    refine ⟨role', c', h.put hf hid (fun hne => absurd hn hne) ?_ hfibers hfresh
      ⟨s', hshared ▸ hstanding', hs'⟩, hturns⟩
    rw [hgbody, Role.of, if_pos hn]
    exact ⟨hnext, hafter⟩
  · rw [of_ne hn] at hallows
    rcases hallows with ⟨hspares, hnext⟩ | hnot
    · refine ⟨role, c, h.put hf hid (fun _ => rfl) ?_ hfibers hfresh
        ⟨s, by rw [hshared, hspares, hstanding], hs⟩, fun _ => .stay⟩
      rw [hgbody, of_ne hn]
      exact ⟨hnext _, hafter⟩
    · exact hnot.elim

/-- A loop begins a tick. -/
private theorem wakes (h : Guarded k n role c m) (hf : f ∈ m.fibers) (hid : g.id = f.id)
    {loop : Loop Roster Outcome} {due due' : Span} {started : Bool}
    (hbody : f.body = .waiting loop due started) {p : Process Roster Outcome Unit}
    (hdecides : Serves k (f.id = n) loop → Decides k p)
    (hkeeps : f.id ≠ n → Serves k (f.id = n) loop → Keeps k p)
    (hgbody : g.body = .process (p.bind fun _ => .done none) (.tick loop due'))
    (hshared : m'.shared = m.shared) (hfibers : m'.fibers = (m.put g).fibers)
    (hfresh : m.fresh ≤ m'.fresh) {ticks : Prop} (hticks : ticks) :
    ∃ role' c', Guarded k n role' c' m' ∧ role.Turns ticks c role' c' := by
  obtain ⟨s, hstanding, hs⟩ := h.standing
  have hplays := h.each.holds f hf
  rw [hbody] at hplays
  obtain ⟨hrole, hserves⟩ := hplays
  by_cases hn : f.id = n
  · rw [Role.of, if_pos hn] at hrole
    refine ⟨.checks, c, h.put hf hid (fun hne => absurd hn hne) ?_ hfibers hfresh
      ⟨s, hshared ▸ hstanding, iff_of_false (mt hs.1 hrole) nofun⟩, ?_⟩
    · rw [hgbody, Role.of, if_pos hn]
      exact ⟨(hdecides hserves).map, hserves⟩
    · cases role with
      | aside => exact .wake hticks
      | checks => exact .stay
      | recovers => exact absurd rfl hrole
  · refine ⟨role, c, h.put hf hid (fun _ => rfl) ?_ hfibers hfresh ⟨s, hshared ▸ hstanding, hs⟩,
      .stay⟩
    rw [hgbody, of_ne hn]
    exact ⟨(hkeeps hn hserves).bind fun _ => trivial, hserves⟩

/-- A fiber takes a step of its own. -/
private theorem goes (h : Guarded k n role c m) (hf : f ∈ m.fibers) (hid : g.id = f.id)
    {b b' : Body Roster Outcome α} {r r' : Roster} (hb : f.body = b) (hb' : g.body = b')
    (hr : m.shared = r) (hr' : m'.shared = r') (hstep : b.Step m.stopping r b' r')
    (hfibers : m'.fibers = (m.put g).fibers) (hfresh : m.fresh ≤ m'.fresh) :
    ∃ role' c', Guarded k n role' c' m' ∧ role.Turns (m.stopping = false) c role' c' := by
  have hplays := h.each.holds f hf
  rw [hb] at hplays
  have hstays : m'.shared = m.shared → Plays k (f.id = n) (role.of n f.id) g.body →
      ∃ role' c', Guarded k n role' c' m' ∧ role.Turns (m.stopping = false) c role' c' :=
    fun hshared hg => ⟨role, c, h.put hf hid (fun _ => rfl) hg hfibers hfresh
      (hshared ▸ h.standing), .stay⟩
  cases hstep with
  | act answer => exact hstays (hr'.trans hr.symm) (hb' ▸ ⟨hplays.1.act answer, hplays.2⟩)
  | skip => exact hstays (hr'.trans hr.symm) (hb' ▸ ⟨hplays.1.pool [], hplays.2⟩)
  | update =>
    subst hr
    obtain ⟨role', c', hguarded, hturns⟩ := h.update hf hid hb hb' hr' hfibers hfresh
    exact ⟨role', c', hguarded, hturns _⟩
  | rest => exact hstays (hr'.trans hr.symm) (hb' ▸ ⟨hplays.1.ne_recovers, hplays.2⟩)
  | job answer => exact hstays (hr'.trans hr.symm) (hb' ▸ hplays)
  | delay _ => exact hstays (hr'.trans hr.symm) (hb' ▸ hplays)
  | hello hgoing due' =>
    exact h.wakes hf hid hb (fun hs => hs.hello.decides_bind fun _ => hs.tick)
      (fun hn hs => hs.hello.bind fun _ => hs.aside hn) hb' (hr'.trans hr.symm) hfibers hfresh
      hgoing
  | tick hgoing due' =>
    exact h.wakes hf hid hb (fun hs => hs.tick) (fun hn hs => hs.aside hn) hb'
      (hr'.trans hr.symm) hfibers hfresh hgoing
  | leave _ =>
    refine hstays (hr'.trans hr.symm) ?_
    rw [hb']
    have hkeeps := hplays.2.hello.bind fun _ => hplays.2.bye
    exact ⟨.of_keeps (hkeeps.bind fun _ => trivial) hplays.1, trivial⟩
  | bye _ =>
    refine hstays (hr'.trans hr.symm) ?_
    rw [hb']
    exact ⟨.of_keeps (hplays.2.bye.bind fun _ => trivial) hplays.1, trivial⟩

/-- A step of any fiber keeps the guard, whose role may turn. -/
theorem resume (h : Guarded k n role c m) (hf : f ∈ m.fibers) (hrun : f.isRunnable)
    (host : Host ν) : ∃ role' c', Guarded k n role' c' (m.resume host f) ∧
      role.Turns (m.stopping = false) c role' c' := by
  have hplays := h.each.holds f hf
  cases m.resume_stepped host hrun with
  | opens hbody => exact ⟨role, c, h.inner hf host (hbody ▸ trivial), .stay⟩
  | delivers hbody => exact ⟨role, c, h.inner hf host (hbody ▸ trivial), .stay⟩
  | goes g hid hstep hfibers hfresh => exact h.goes hf hid rfl rfl rfl rfl hstep hfibers hfresh
  | quits hquits hshared hfibers hfresh =>
    have hrole : role.of n f.id ≠ .recovers := by
      generalize f.body = b at hplays hquits
      cases hquits with
      | done result => exact hplays.1.ne_recovers
      | unstarted _ => exact hplays.1
    refine ⟨role, c, ⟨?_, hfresh ▸ h.below, fun hrecovers => ?_, hshared ▸ h.standing⟩, .stay⟩
    · exact (h.each.remove fun _ _ _ hb => hb).congr hfibers hfresh.ge
    · have hids : (m.resume host f).ids = (m.remove f.id).ids := by
        rw [Machine.ids, Machine.ids, hfibers]
      rw [hids]
      refine Machine.mem_ids_remove.2 ⟨h.present hrecovers, fun hn => hrole ?_⟩
      rw [Role.of, if_pos hn.symm]
      exact hrecovers

end Guarded
end SeriesReplica.Cluster
