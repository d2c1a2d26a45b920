import SeriesReplica.Node.Network
import SeriesReplica.Proofs.Cluster.Check
import SeriesReplica.Proofs.Sync.Consistent

/-! What a recovery leaves behind. The windows that it could not replay are logged and then
abandoned: the next recovery begins one tick before the slave's contact as of the last check before
it, and that contact is never earlier than the end of the recovery that failed. -/
namespace SeriesReplica.Cluster
open Concurrent Time Sync Schema

variable {ν : Type} {host : Host ν} {begin : Instant}

/-- What the syncs of several policies have not recovered lies in the window they were given. -/
theorem syncPolicies_unrecovered_liesIn {s : Cluster.Settings} {master slave : Endpoint}
    {lo hi : Instant} {ps : List (Schema.Database × Schema.Policy)} {reports : List Report}
    {scene last : Scene ν Cluster}
    (h : (syncPolicies s master slave (fun _ => pure (lo, hi)) ps).Yields host begin reports last
      scene) : ∀ r ∈ reports, ∀ u ∈ r.unrecoveredWindows, u.LiesIn lo hi := by
  induction ps generalizing scene last reports with
  | nil =>
    obtain ⟨rfl, -⟩ := h
    simp
  | cons x ps ih =>
    obtain ⟨d, p⟩ := x
    rw [syncPolicies] at h
    split at h
    case isTrue =>
      obtain ⟨_, _, -, h⟩ := Process.yields_bind.1 h
      exact ih h
    case isFalse =>
      obtain ⟨w, _, ⟨rfl, rfl⟩, h⟩ := Process.yields_bind.1 h
      obtain ⟨result, _, hsync, h⟩ := Process.yields_bind.1 h
      cases result with
      | error e =>
        obtain ⟨_, _, -, h⟩ := Process.yields_bind.1 h
        exact ih h
      | ok report =>
        have hreport := sync_unrecovered_liesIn hsync
        obtain ⟨rest, _, hrest, rfl, -⟩ := Process.yields_bind.1 h
        exact List.forall_mem_cons.2 ⟨hreport, ih hrest⟩

theorem replicateData_unrecovered_liesIn {s : Cluster.Settings} {ds : List Schema.Database}
    {lo hi : Instant} {reports : List Report} {scene last : Scene ν Cluster}
    (h : (replicateData s ds lo hi).Yields host begin (.ok reports) last scene) :
    ∀ r ∈ reports, ∀ u ∈ r.unrecoveredWindows, u.LiesIn lo hi := by
  rw [replicateData, replicateWith] at h
  obtain ⟨_, _, -, h⟩ := Process.yields_bind.1 h
  obtain ⟨_, _, -, h⟩ := Process.yields_bind.1 h
  dsimp only at h
  split at h
  · obtain ⟨_, _, hpolicies, hreports, -⟩ := Process.yields_bind.1 h
    obtain rfl := Except.ok.inj hreports
    exact syncPolicies_unrecovered_liesIn hpolicies
  · cases h.1
  · cases h.1

namespace Watched
variable {tick : Span} {w : Watched} {lo hi now : Instant}

/-- A check that recovers notes the slave's last contact, which is where the recovery ends. -/
theorem next_of_recover (h : w.verdict tick now = .recover lo hi) (later : Instant)
    (master : Sighting) : (w.next tick (later, .checked master)).contact = ⟨hi, hi⟩ := by
  have hlater : w.supervisor.verdict tick (w.slave.sighting later) = .recover lo hi :=
    Supervisor.verdict_eq_recover.2 (Supervisor.verdict_eq_recover.1 h)
  obtain ⟨-, -, rfl⟩ := Supervisor.verdict_eq_recover.1 h
  rw [next, Supervisor.step, hlater]
  rfl

/-- The contact that is noted is at or after a moment, and the last one is at or after it. -/
def NotedSince (w : Watched) (left : Instant) : Prop :=
  left.totalNanos ≤ w.contact.noted.totalNanos ∧
    w.contact.noted.totalNanos ≤ w.contact.last.totalNanos

/-- A check notes the last contact or leaves what is noted, and a contact is later than those
before. -/
theorem NotedSince.next {left : Instant} {e : Instant × Event} (tick : Span)
    (h : w.NotedSince left) (he : w.slave.lastOk.totalNanos ≤ e.1.totalNanos) :
    (w.next tick e).NotedSince left := by
  obtain ⟨hleft, hlast⟩ := h
  obtain ⟨now, event⟩ := e
  cases event with
  | seen client pong => exact ⟨hleft, hlast.trans he⟩
  | missed e => exact ⟨hleft, hlast⟩
  | checked master =>
    rw [Watched.next, Supervisor.step]
    cases w.supervisor.verdict tick (w.slave.sighting now) with
    | steady | slaveDown | stillDown | recover => exact ⟨hleft.trans hlast, le_rfl⟩
    | stillRecovering | overflow => exact ⟨hleft, hlast⟩
  | recovered elapsed =>
    rw [Watched.next]
    split
    · exact ⟨hleft, hlast⟩
    · exact ⟨hleft, hlast⟩

theorem NotedSince.run {left : Instant} {es : History} (tick : Span) (h : w.NotedSince left)
    (hordered : es.IsOrdered w.slave.lastOk.totalNanos) : (w.run tick es).NotedSince left := by
  induction es generalizing w with
  | nil => exact h
  | cons e es ih =>
    have hnext := h.next tick (hordered.1 e List.mem_cons_self)
    exact ih hnext (@History.IsOrdered.after_run tick w [e] es hordered)

/-- A recovery that comes after another one begins one tick before the contact that is noted, which
is not earlier than the end of the first recovery. -/
theorem later_recovery {now' lo' hi' : Instant} {master : Sighting} {before between : History}
    (hordered : (before ++ (now, .checked master) :: between).IsOrdered w.slave.lastOk.totalNanos)
    (hrecovers : (w.run tick before).verdict tick now = .recover lo hi)
    (hlater : (w.run tick (before ++ (now, .checked master) :: between)).verdict tick now' =
      .recover lo' hi') :
    ∃ noted, (w.run tick (before ++ (now, .checked master) :: between)).contact = ⟨hi', noted⟩ ∧
      hi.totalNanos ≤ noted.totalNanos ∧ noted.totalNanos ≤ hi'.totalNanos ∧
      noted.earlier? (Supervisor.margin tick) = some lo' := by
  obtain ⟨-, hstart, hstop⟩ := Supervisor.verdict_eq_recover.1 hlater
  have hcontact := next_of_recover hrecovers now master
  rw [List.append_cons] at hordered hstart hstop ⊢
  have hnoted : (w.run tick (before ++ [(now, .checked master)])).NotedSince hi := by
    rw [NotedSince, run_concat, hcontact]
    exact ⟨le_rfl, le_rfl⟩
  obtain ⟨hleft, hlast⟩ := hnoted.run tick (History.IsOrdered.after_run hordered)
  rw [← run_append] at hleft hlast
  rw [hstop]
  exact ⟨_, rfl, hleft, hlast, hstart⟩

end Watched

/-- A recovery begins at most one tick before the contact that is noted. -/
theorem sub_tick_le_start {tick : Span} {left noted start : Instant}
    (hle : left.totalNanos ≤ noted.totalNanos)
    (hstart : noted.earlier? (Supervisor.margin tick) = some start) :
    left.epochNanos.toInt - tick.nanos ≤ start.epochNanos.toInt := by
  have hmargin := Supervisor.margin_le tick
  have hcount := Instant.toInt_epochNanos_le hle
  have hback := noted.sub_le_toInt_earlier (Supervisor.margin tick)
  rw [hstart, Option.getD_some] at hback
  omega

/-- Nothing that begins more than a tick before the end of a recovery lies in a later one. -/
theorem not_liesIn_later {tick : Span} {w : Watched} {master : Sighting}
    {now now' lo hi lo' hi' : Instant} {before between : History}
    (hordered : (before ++ (now, .checked master) :: between).IsOrdered w.slave.lastOk.totalNanos)
    (hrecovers : (w.run tick before).verdict tick now = .recover lo hi)
    (hlater : (w.run tick (before ++ (now, .checked master) :: between)).verdict tick now' =
      .recover lo' hi') {u : Sync.Window} (hu : u.first < hi.epochNanos.toInt - tick.nanos) :
    ¬ u.LiesIn lo' hi' := by
  obtain ⟨noted, -, hhi, -, hstart⟩ := Watched.later_recovery hordered hrecovers hlater
  have htick := sub_tick_le_start hhi hstart
  rintro ⟨hfirst, -⟩
  omega

/-- A check that recovers answers so and leaves the cluster fine, whatever has become of the data,
and the contact that it has noted is the one with which its window ended. -/
theorem check_recovers {s : Cluster.Settings} {t : Option Transition} {now lo hi : Instant}
    {scene last : Scene ν Cluster} (hverdict : scene.shared.watched.verdict s.tick now =
      .recover lo hi) (h : (check s).Yields host begin t last scene) :
    t = some .recovered ∧ last.shared.supervisor.state = .fine ∧
      last.shared.supervisor.slave.lastOk = hi := by
  obtain ⟨hmid, ⟨lo', hi', -, rfl, hrecover⟩ | ⟨hnever, -⟩⟩ := check_yields h
  · obtain ⟨-, schema, elapsed, hsupervisor⟩ := recover_yields hrecover
    have hcontact := Watched.next_of_recover hverdict (begin.later scene.now)
      (scene.shared.master.sighting (begin.later scene.now))
    rw [← hmid] at hcontact
    rw [hsupervisor]
    exact ⟨rfl, rfl, congrArg Contact.noted hcontact⟩
  · exact absurd (Supervisor.verdict_eq_recover.2 (Supervisor.verdict_eq_recover.1 hverdict))
      (hnever lo hi)

/-- What a recovery has not recovered is abandoned. The check leaves the cluster fine and has noted
the contact with which the window ended. A later recovery reaches back to one tick before the
contact that is noted by then, which is not earlier: it contains a window that was left over if it
reaches back to the start of that, which it never does for one that began more than a tick before
the end of the recovery that failed. -/
theorem unrecovered_contained_iff {s : Cluster.Settings} {w : Watched} {seen : Sighting}
    {now now' lo hi lo' hi' : Instant} {before between : History}
    (hordered : (before ++ (now, .checked seen) :: between).IsOrdered w.slave.lastOk.totalNanos)
    (hrecovers : (w.run s.tick before).verdict s.tick now = .recover lo hi)
    (hlater : (w.run s.tick (before ++ (now, .checked seen) :: between)).verdict s.tick now' =
      .recover lo' hi')
    {ds : List Schema.Database} {reports : List Report} {scene last : Scene ν Cluster}
    (hreports : (replicateData s ds lo hi).Yields host begin (.ok reports) last scene)
    {r : Report} (hr : r ∈ reports) {u : Sync.Window} (hu : u ∈ r.unrecoveredWindows) :
    (∀ t (scene last : Scene ν Cluster), scene.shared.watched = w.run s.tick before →
      (check s).Yields host begin t last scene →
      t = some .recovered ∧ last.shared.supervisor.state = .fine ∧
        last.shared.supervisor.slave.lastOk = hi) ∧
    (∃ noted, (w.run s.tick (before ++ (now, .checked seen) :: between)).contact = ⟨hi', noted⟩ ∧
      hi.totalNanos ≤ noted.totalNanos ∧ noted.totalNanos ≤ hi'.totalNanos ∧
      noted.earlier? (Supervisor.margin s.tick) = some lo') ∧
    (u.LiesIn lo' hi' ↔ lo'.epochNanos.toInt ≤ u.first) ∧
    (u.first < hi.epochNanos.toInt - s.tick.nanos → ¬ u.LiesIn lo' hi') := by
  obtain ⟨noted, hcontact, hhi, hhi', hstart⟩ := Watched.later_recovery hordered hrecovers hlater
  obtain ⟨-, hpast⟩ := replicateData_unrecovered_liesIn hreports r hr u hu
  have hstop := Instant.toInt_epochNanos_le (hhi.trans hhi')
  refine ⟨fun t scene last hwatched h => check_recovers (hwatched ▸ hrecovers) h,
    ⟨noted, hcontact, hhi, hhi', hstart⟩, ⟨fun h => h.1, fun h => ⟨h, hpast.trans hstop⟩⟩,
    not_liesIn_later hordered hrecovers hlater⟩

private def atSecond (n : Int64) : Instant := .ofEpochNanos (n * 1000000000)

private def everyTenSeconds : Cluster.Settings :=
  ⟨.ofSecs 10, .forward, ⟨.ofSecs 3600, .ofSecs 3600, 1, 1000, ⟨1, .zero⟩⟩⟩

private def linked (name : String) (id : Nat) : Monitor :=
  { Monitor.unseen name (.ofSecs 5) (atSecond 0) with active := some ⟨id⟩ }

private def linkedPair : Cluster := .ofMonitors (linked "a" 0) (linked "b" 1) (atSecond 0)

private def masterUp : Sighting := ⟨true, atSecond 0, .zero⟩

/-- The slave is seen at 90 seconds, is found down at 100 and is seen again at 200. -/
private def firstOutage : History :=
  [(atSecond 90, .seen ⟨1⟩ ⟨.zero, ""⟩), (atSecond 98, .missed (.unavailable "b is down")),
    (atSecond 100, .checked masterUp), (atSecond 200, .seen ⟨1⟩ ⟨.zero, ""⟩)]

/-- The first recovery ends, the slave is found down at 215 seconds and is seen again at 300. -/
private def secondOutage : History :=
  [(atSecond 206, .recovered (.ofSecs 1)), (atSecond 210, .missed (.unavailable "b is down")),
    (atSecond 215, .checked masterUp), (atSecond 300, .seen ⟨1⟩ ⟨.zero, ""⟩)]

private def weeklyOf (name : String) : Node.MemoryNode :=
  (Node.MemoryNode.ofName name).addPolicy "app" ⟨"weekly", .zero, .zero, 1⟩ true

/-- The master has a row of the first outage. -/
private def aheadNode : Node.MemoryNode :=
  ((weeklyOf "a").insert ⟨"app", "weekly", [⟨"cpu", ∅,
    (∅ : Point.Fields).insert "load" (.integer 7), 98000000000⟩]⟩).2

private def weeklyApp : Schema.Database :=
  .ofPolicies "app" [⟨"weekly", .zero, .zero, 1, true,
    (∅ : Std.ExtTreeMap String FieldTypes).insert "cpu"
      ((∅ : FieldTypes).insert "load" .integer)⟩]

/-- What was lost in the first outage is replayed while the slave is down again. -/
private def replayWhileDown : Scene Node.Network Cluster :=
  ⟨⟨[.memory aheadNode, .memory ((weeklyOf "b").setOnline false)]⟩, .zero, linkedPair⟩

private def replayMachine : Machine Node.Network Cluster Outcome (Except Fault (List Report)) :=
  (Machine.initial (atSecond 205) replayWhileDown.nodes replayWhileDown.shared).launch
    (replicateData everyTenSeconds [weeklyApp] (atSecond 80) (atSecond 200))

private def replayEnd : Machine Node.Network Cluster Outcome (Except Fault (List Report)) :=
  replayMachine.runUntil Node.Network.host (fun _ => false) 1000

/-- The replay leaves a window that begins where the recovery does. -/
private theorem replay_fails :
    ∃ reports last,
      (replicateData everyTenSeconds [weeklyApp] (atSecond 80) (atSecond 200)).Yields
        Node.Network.host (atSecond 205) (.ok reports) last replayWhileDown ∧
      ∃ r ∈ reports, ∃ u ∈ r.unrecoveredWindows, u.first = 80000000000 := by
  have hend : replayEnd.fibers.isEmpty = true := by decide +kernel
  have hlost : (replayEnd.answers.all fun x => x.2.toOption.any fun reports =>
      reports.any fun r => r.unrecoveredWindows.any fun u => u.first = 80000000000) = true := by
    decide +kernel
  obtain ⟨result, last, hyields, -, hanswers, -⟩ := (Machine.launch_inevitably Node.Network.host
    (atSecond 205) replayWhileDown.nodes replayWhileDown.shared
    (replicateData everyTenSeconds [weeklyApp] (atSecond 80) (atSecond 200))).at_end 1000
    (List.isEmpty_iff.1 hend)
  rw [replayEnd, replayMachine, hanswers] at hlost
  cases result with
  | error e => cases hlost
  | ok reports =>
    simp only [List.all_cons, List.all_nil, Bool.and_true, Except.toOption, Option.any_some,
      List.any_eq_true, decide_eq_true_eq] at hlost
    exact ⟨reports, last, hyields, hlost⟩

private theorem first_recovers :
    (linkedPair.watched.run (.ofSecs 10) firstOutage).verdict (.ofSecs 10) (atSecond 205) =
      .recover (atSecond 80) (atSecond 200) := by decide +kernel

private theorem second_recovers :
    (linkedPair.watched.run (.ofSecs 10)
      (firstOutage ++ (atSecond 205, .checked masterUp) :: secondOutage)).verdict (.ofSecs 10)
        (atSecond 305) = .recover (atSecond 190) (atSecond 300) := by decide +kernel

/-- The slave fails again while 80 to 200 seconds are replayed. The next recovery begins at 190
seconds, and no later one begins earlier. -/
theorem failed_replay_is_abandoned :
    (linkedPair.watched.run everyTenSeconds.tick firstOutage).verdict everyTenSeconds.tick
      (atSecond 205) = .recover (atSecond 80) (atSecond 200) ∧
    (linkedPair.watched.run everyTenSeconds.tick
      (firstOutage ++ (atSecond 205, .checked masterUp) :: secondOutage)).verdict
        everyTenSeconds.tick (atSecond 305) = .recover (atSecond 190) (atSecond 300) ∧
    ∃ reports last,
      (replicateData everyTenSeconds [weeklyApp] (atSecond 80) (atSecond 200)).Yields
        Node.Network.host (atSecond 205) (.ok reports) last replayWhileDown ∧
      ∃ r ∈ reports, ∃ u ∈ r.unrecoveredWindows,
        ∀ between now' lo' hi',
          (firstOutage ++ (atSecond 205, .checked masterUp) :: between).IsOrdered
            linkedPair.watched.slave.lastOk.totalNanos →
          (linkedPair.watched.run everyTenSeconds.tick
            (firstOutage ++ (atSecond 205, .checked masterUp) :: between)).verdict
              everyTenSeconds.tick now' = .recover lo' hi' →
          ¬ u.LiesIn lo' hi' := by
  obtain ⟨reports, last, hyields, r, hr, u, hu, hfirst⟩ := replay_fails
  refine ⟨first_recovers, second_recovers, reports, last, hyields, r, hr, u, hu,
    fun between now' lo' hi' hordered hlater => not_liesIn_later hordered first_recovers hlater ?_⟩
  rw [hfirst]
  decide

/-- The window that is left over begins 110 seconds before the second recovery does. -/
theorem unrecovered_contained_iff_two_outages :
    ∃ reports last,
      (replicateData everyTenSeconds [weeklyApp] (atSecond 80) (atSecond 200)).Yields
        Node.Network.host (atSecond 205) (.ok reports) last replayWhileDown ∧
      ∃ r ∈ reports, ∃ u ∈ r.unrecoveredWindows, u.first = 80000000000 ∧
        (u.LiesIn (atSecond 190) (atSecond 300) ↔ (atSecond 190).epochNanos.toInt ≤ u.first) ∧
        ¬ u.LiesIn (atSecond 190) (atSecond 300) := by
  obtain ⟨reports, last, hyields, r, hr, u, hu, hfirst⟩ := replay_fails
  have hordered : (firstOutage ++ (atSecond 205, .checked masterUp) :: secondOutage).IsOrdered
      linkedPair.watched.slave.lastOk.totalNanos := ⟨by decide +kernel, by decide +kernel⟩
  obtain ⟨-, -, hcontained, hmissed⟩ := unrecovered_contained_iff (s := everyTenSeconds) hordered
    first_recovers second_recovers hyields hr hu
  refine ⟨reports, last, hyields, r, hr, u, hu, hfirst, hcontained, hmissed ?_⟩
  rw [hfirst]
  decide

end SeriesReplica.Cluster
