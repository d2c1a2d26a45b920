import SeriesReplica.Proofs.Cluster.Abandonment

/-! Which outages are replayed. The supervisor looks at the slave at its own ticks and keeps nothing
of what probes have found in between. Once the slave is back, the next check replays the time since
its last contact before the outage if the check before had found it down, and otherwise no recovery
up to that check has done so. -/
namespace SeriesReplica.Cluster
open Time

namespace History

/-- The slave is not seen. -/
def Unseen (es : History) : Prop := ∀ e ∈ es, ∀ client pong, e.2 ≠ .seen client pong

/-- There is no check. -/
def Unchecked (es : History) : Prop := ∀ e ∈ es, ∀ master, e.2 ≠ .checked master

theorem IsOrdered.left {first : Int} {es rest : History} (h : IsOrdered first (es ++ rest)) :
    IsOrdered first es :=
  ⟨fun e he => h.1 e (List.mem_append_left _ he), (List.pairwise_append.1 h.2).1⟩

/-- A check does not lie where there is none. -/
theorem Unchecked.checked_before {away home before : History} {now : Instant} {master : Sighting}
    (hhome : home.Unchecked) (h : before ++ [(now, .checked master)] <+: away ++ home) :
    before ++ [(now, .checked master)] <+: away := by
  rcases List.prefix_or_prefix_of_prefix h (List.prefix_append away home) with h' | ⟨rest, heq⟩
  · exact h'
  · rcases List.eq_nil_or_concat rest with rfl | ⟨rest, e, rfl⟩
    · rw [← heq, List.append_nil]
    · rw [← heq, List.prefix_append_right_inj] at h
      rw [List.concat_eq_append, ← List.append_assoc] at heq
      have hlast := List.singleton_inj.1 (List.append_inj' heq rfl).2
      have hmem : (now, .checked master) ∈ home := h.subset (by simp [hlast])
      exact absurd rfl (hhome _ hmem master)

/-- An outage that is over: the slave has been seen, missed, and not seen again before a later
moment, after which there has been no check. -/
def Returned (left back : Instant) (es : History) : Prop :=
  ∃ before between after : History, ∃ client pong client' pong',
    es = before ++ (left, .seen client pong) :: between ++ (back, .seen client' pong') :: after ∧
    (∃ now e, (now, .missed e) ∈ between) ∧ between.Unseen ∧ after.Unchecked ∧
    left.totalNanos < back.totalNanos

end History

namespace Watched
variable {tick : Span} {w : Watched} {es : History}

/-- A check has begun a recovery whose window holds what lies between two moments. -/
def Replays (tick : Span) (w : Watched) (es : History) (left back : Instant) : Prop :=
  ∃ before now master start stop, before ++ [(now, .checked master)] <+: es ∧
    (w.run tick before).verdict tick now = .recover start stop ∧
    start.totalNanos ≤ left.totalNanos ∧ back.totalNanos ≤ stop.totalNanos

/-- The last check has found the slave down, and not during a recovery. -/
def FoundDown (tick : Span) (w : Watched) (es : History) : Prop :=
  ∃ (before after : History) (now : Instant) (master : Sighting),
    es = before ++ (now, .checked master) :: after ∧ after.Unchecked ∧
    (w.run tick before).slave.isUp = false ∧
    (w.run tick before).supervisor.state ≠ .recovering

/-- The calendar has a moment a tick before the contact that is noted. -/
def ReachesBack (tick : Span) (w : Watched) : Prop :=
  (w.supervisor.slave.lastOk.earlier? (Supervisor.margin tick)).isSome

/-- A check that finds the slave up begins a recovery. -/
def Ready (tick : Span) (w : Watched) : Prop :=
  w.supervisor.state = .slaveSuspected ∧ w.ReachesBack tick

section Suspicion

/-- A check that finds the slave down suspects it, unless a recovery is under way, and notes its
last contact. -/
theorem next_checked_of_down (tick : Span) {w : Watched} (hdown : w.slave.isUp = false)
    (hstate : w.supervisor.state ≠ .recovering) (now : Instant) (master : Sighting) :
    (w.next tick (now, .checked master)).supervisor.state = .slaveSuspected ∧
      (w.next tick (now, .checked master)).supervisor.slave.lastOk = w.slave.lastOk := by
  cases hcases : w.supervisor.state with
  | fine | slaveSuspected =>
    simp [next, Supervisor.step, Supervisor.verdict, Supervisor.enter, Supervisor.track,
      Monitor.sighting, Tracked.ofSighting, hcases, hdown]
  | recovering => exact absurd hcases hstate

/-- Any other check begins a recovery if it can, and otherwise none is ready to begin. -/
theorem not_ready_of_checked {now : Instant} {master : Sighting}
    (h : w.slave.isUp = true ∨ w.supervisor.state = .recovering) :
    ¬ (w.next tick (now, .checked master)).Ready tick := by
  rintro ⟨hsuspected, hback⟩
  cases hstate : w.supervisor.state with
  | fine =>
    obtain hup | hrecovering := h
    · simp [next, Supervisor.step, Supervisor.verdict, Supervisor.enter, Supervisor.track,
        Monitor.sighting, hstate, hup] at hsuspected
    · cases hstate.symm.trans hrecovering
  | slaveSuspected =>
    obtain hup | hrecovering := h
    · cases hstart : w.supervisor.slave.lastOk.earlier? (Supervisor.margin tick) with
      | some start =>
        simp [next, Supervisor.step, Supervisor.verdict, Supervisor.enter, Supervisor.track,
          Monitor.sighting, hstate, hup, hstart] at hsuspected
      | none =>
        simp [ReachesBack, next, Supervisor.step, Supervisor.verdict, Supervisor.enter,
          Monitor.sighting, hstate, hup, hstart] at hback
    · cases hstate.symm.trans hrecovering
  | recovering =>
    simp [next, Supervisor.step, Supervisor.verdict, Supervisor.enter, hstate] at hsuspected

/-- Only checks suspect the slave or cease to, and only they note anything. -/
theorem next_unchecked (tick : Span) (w : Watched) {e : Instant × Event}
    (he : ∀ master, e.2 ≠ .checked master) :
    ((w.next tick e).supervisor.state = .slaveSuspected ↔
        w.supervisor.state = .slaveSuspected) ∧
      (w.next tick e).supervisor.slave = w.supervisor.slave := by
  obtain ⟨now, event⟩ := e
  cases event with
  | seen client pong => exact ⟨.rfl, rfl⟩
  | missed e => exact ⟨.rfl, rfl⟩
  | checked master => exact absurd rfl (he master)
  | recovered elapsed =>
    cases hstate : w.supervisor.state <;> simp [next, Supervisor.finish, hstate]

theorem foundDown_concat_checked (now : Instant) (master : Sighting) :
    w.FoundDown tick (es ++ [(now, .checked master)]) ↔
      (w.run tick es).slave.isUp = false ∧ (w.run tick es).supervisor.state ≠ .recovering := by
  constructor
  · rintro ⟨before, after, t, m, heq, hafter, hdown⟩
    rcases List.eq_nil_or_concat after with rfl | ⟨after, d, rfl⟩
    · obtain ⟨rfl, -⟩ := List.append_inj' heq rfl
      exact hdown
    · rw [List.concat_eq_append, ← List.cons_append, ← List.append_assoc] at heq
      obtain rfl := List.singleton_inj.1 (List.append_inj' heq rfl).2
      exact absurd rfl (hafter (now, .checked master) (by simp) master)
  · exact fun hdown => ⟨es, [], now, master, rfl, fun e he => absurd he List.not_mem_nil, hdown⟩

theorem foundDown_concat_unchecked {e : Instant × Event} (he : ∀ master, e.2 ≠ .checked master) :
    w.FoundDown tick (es ++ [e]) ↔ w.FoundDown tick es := by
  constructor
  · rintro ⟨before, after, now, master, heq, hafter, hdown⟩
    rcases List.eq_nil_or_concat after with rfl | ⟨after, d, rfl⟩
    · obtain rfl := List.singleton_inj.1 (List.append_inj' heq rfl).2
      exact absurd rfl (he master)
    · rw [List.concat_eq_append, ← List.cons_append, ← List.append_assoc] at heq
      exact ⟨before, after, now, master, (List.append_inj' heq rfl).1,
        fun d hd => hafter d (by simp [hd]), hdown⟩
  · rintro ⟨before, after, now, master, rfl, hafter, hdown⟩
    refine ⟨before, after ++ [e], now, master, by simp, fun d hd => ?_, hdown⟩
    rcases List.mem_append.1 hd with hd | hd
    · exact hafter d hd
    · exact List.mem_singleton.1 hd ▸ he

/-- A recovery is ready to begin exactly if the last check has found the slave down, and the
calendar has a moment a tick before the contact that it has noted. -/
theorem ready_iff_foundDown (hw : w.supervisor.state = .fine) :
    (w.run tick es).Ready tick ↔ w.FoundDown tick es ∧ (w.run tick es).ReachesBack tick := by
  induction es using List.reverseRecOn with
  | nil =>
    refine iff_of_false (fun h => ?_) ?_
    · cases hw.symm.trans h.1
    · rintro ⟨⟨before, after, now, master, heq, -⟩, -⟩
      simp at heq
  | append_singleton es e ih =>
    rw [run_concat]
    by_cases hchecked : ∃ master, e.2 = .checked master
    · obtain ⟨master, hevent⟩ := hchecked
      obtain ⟨now, rfl⟩ : ∃ now, e = (now, .checked master) := ⟨e.1, Prod.ext rfl hevent⟩
      rw [foundDown_concat_checked]
      by_cases hdown : (w.run tick es).slave.isUp = false ∧
          (w.run tick es).supervisor.state ≠ .recovering
      · have hsuspected := (next_checked_of_down tick hdown.1 hdown.2 now master).1
        exact ⟨fun h => ⟨hdown, h.2⟩, fun h => ⟨hsuspected, h.2⟩⟩
      · refine iff_of_false (not_ready_of_checked ?_) fun h => hdown h.1
        rwa [not_and_or, Bool.not_eq_false, not_not] at hdown
    · have he : ∀ master, e.2 ≠ .checked master := fun master h => hchecked ⟨master, h⟩
      obtain ⟨hstate, hslave⟩ := next_unchecked tick (w.run tick es) he
      rw [foundDown_concat_unchecked he, Ready, ReachesBack, hstate, hslave]
      exact ih

end Suspicion

section Contacts

/-- While there is no check, what is noted stays. -/
theorem run_unchecked (tick : Span) (w : Watched) (hes : es.Unchecked) :
    (w.run tick es).supervisor.slave = w.supervisor.slave := by
  induction es using List.reverseRecOn with
  | nil => rfl
  | append_singleton es e ih =>
    have hrest := ih fun d hd => hes d (List.mem_append_left _ hd)
    rw [run_concat, (next_unchecked tick _ (hes e (by simp))).2, hrest]

/-- Only a probe that succeeds is a contact. -/
theorem next_unseen (tick : Span) (w : Watched) {e : Instant × Event}
    (he : ∀ client pong, e.2 ≠ .seen client pong) :
    (w.next tick e).slave.lastOk = w.slave.lastOk := by
  obtain ⟨now, event⟩ := e
  cases event with
  | seen client pong => exact absurd rfl (he client pong)
  | missed e => rfl
  | checked master => rfl
  | recovered elapsed =>
    rw [next]
    split
    · rfl
    · rfl

/-- While the slave is not seen, its last contact stays. -/
theorem run_unseen (tick : Span) (w : Watched) (hes : es.Unseen) :
    (w.run tick es).slave.lastOk = w.slave.lastOk := by
  induction es using List.reverseRecOn with
  | nil => rfl
  | append_singleton es e ih =>
    have hrest := ih fun d hd => hes d (List.mem_append_left _ hd)
    rw [run_concat, next_unseen tick _ (hes e (by simp)), hrest]

/-- The last contact does not go back. -/
theorem le_lastOk_run (tick : Span) (hordered : es.IsOrdered w.slave.lastOk.totalNanos) :
    w.slave.lastOk.totalNanos ≤ (w.run tick es).slave.lastOk.totalNanos := by
  induction es using List.reverseRecOn with
  | nil => exact le_rfl
  | append_singleton es e ih =>
    obtain ⟨hes, hfirst, -⟩ := History.isOrdered_concat.1 hordered
    have hrest := ih hes
    rw [run_concat]
    obtain ⟨now, event⟩ := e
    cases event with
    | seen client pong => exact hfirst
    | missed | checked | recovered => rwa [next_unseen tick _ (by simp)]

end Contacts

section Returned
variable {left back : Instant}

theorem notedSince_ofMonitor (slave : Monitor) (master : Sighting) (first : Instant) :
    (ofMonitor slave master first).NotedSince slave.lastOk :=
  ⟨le_rfl, le_rfl⟩

/-- When the slave is about to be back, its last contact is that before the outage. -/
theorem exists_away (tick : Span) (w : Watched) (hreturned : es.Returned left back) :
    ∃ away after : History, ∃ client pong, es = away ++ (back, .seen client pong) :: after ∧
      History.Unchecked ((back, .seen client pong) :: after) ∧
      (w.run tick away).slave.lastOk = left ∧ left.totalNanos < back.totalNanos := by
  obtain ⟨before, between, after, client, pong, client', pong', rfl, -, hbetween, hafter, hlater⟩ :=
    hreturned
  have hhome : History.Unchecked ((back, .seen client' pong') :: after) := by
    refine List.forall_mem_cons.2 ⟨fun master heq => ?_, hafter⟩
    cases heq
  refine ⟨before ++ (left, .seen client pong) :: between, after, client', pong', by simp, hhome,
    ?_, hlater⟩
  rw [List.append_cons, run_append, run_unseen tick _ hbetween, run_concat]
  rfl

/-- When the slave is back, what is noted is no later than its last contact before the outage. -/
theorem noted_le_left (tick : Span) (hnoted : w.NotedSince w.slave.lastOk)
    (hordered : es.IsOrdered w.slave.lastOk.totalNanos) (hreturned : es.Returned left back) :
    (w.run tick es).supervisor.slave.lastOk.totalNanos ≤ left.totalNanos ∧
      back.totalNanos ≤ (w.run tick es).slave.lastOk.totalNanos := by
  obtain ⟨away, after, client, pong, rfl, hhome, hleft, -⟩ := exists_away tick w hreturned
  constructor
  · have hlast := (hnoted.run tick hordered.left).2
    rw [run_append, run_unchecked tick _ hhome, ← hleft]
    exact hlast
  · rw [List.append_cons] at hordered ⊢
    have hrest : after.IsOrdered
        (w.run tick (away ++ [(back, .seen client pong)])).slave.lastOk.totalNanos :=
      hordered.after_run
    have hlast := le_lastOk_run tick hrest
    rw [← run_append, run_concat] at hlast
    exact hlast

/-- What a check has replayed while the slave was not back yet ends at its last contact. -/
theorem verdict_stop_le (hordered : es.IsOrdered w.slave.lastOk.totalNanos)
    (hreturned : es.Returned left back) {before : History} {now start stop : Instant}
    {master : Sighting} (hbefore : before ++ [(now, .checked master)] <+: es)
    (hverdict : (w.run tick before).verdict tick now = .recover start stop) :
    stop.totalNanos ≤ left.totalNanos := by
  obtain ⟨away, after, client, pong, rfl, hhome, rfl, -⟩ := exists_away tick w hreturned
  obtain ⟨-, -, rfl⟩ := Supervisor.verdict_eq_recover.1 hverdict
  obtain ⟨rest, rfl⟩ := hhome.checked_before hbefore
  have haway := hordered.left
  rw [List.append_assoc] at haway ⊢
  have hrest : History.IsOrdered (w.run tick before).slave.lastOk.totalNanos
      ([(now, .checked master)] ++ rest) := haway.after_run
  have hlast := le_lastOk_run tick hrest
  rwa [← run_append] at hlast

/-- The check that finds the slave back replays its outage if a recovery is ready to begin, and no
check has done so before. -/
theorem replays_iff_ready (hnoted : w.NotedSince w.slave.lastOk)
    (hordered : es.IsOrdered w.slave.lastOk.totalNanos) (hreturned : es.Returned left back)
    (hup : (w.run tick es).slave.isUp = true) (now : Instant) (master : Sighting) :
    w.Replays tick (es ++ [(now, .checked master)]) left back ↔
      (w.run tick es).Ready tick := by
  constructor
  · rintro ⟨before, t, m, start, stop, hprefix, hverdict, -, hback⟩
    rcases List.prefix_concat_iff.1 hprefix with heq | hprefix
    · obtain ⟨rfl, -⟩ := List.append_inj' heq rfl
      obtain ⟨⟨hstate, -⟩, hstart, -⟩ := Supervisor.verdict_eq_recover.1 hverdict
      exact ⟨hstate, Option.isSome_of_eq_some hstart⟩
    · have hstop := verdict_stop_le hordered hreturned hprefix hverdict
      obtain ⟨-, -, -, -, -, -, -, hlater⟩ := exists_away tick w hreturned
      omega
  · rintro ⟨hstate, hreaches⟩
    obtain ⟨start, hstart⟩ := Option.isSome_iff_exists.1 hreaches
    obtain ⟨hleft, hback⟩ := noted_le_left tick hnoted hordered hreturned
    have htotal := Instant.totalNanos_of_earlier? hstart
    exact ⟨es, now, master, start, _, List.prefix_refl _,
      Supervisor.verdict_eq_recover.2 ⟨⟨hstate, hup⟩, hstart, rfl⟩, by omega, hback⟩

end Returned

end Watched

/-- Once a slave that was missed is up again at a check, a recovery of this check or an earlier one
has replayed the time since its last contact before the outage exactly if the last check before had
found it down, and the calendar has a moment a tick before the contact that was noted then. So up
to the later one of two checks that find the slave up, nothing is replayed of an outage between
them. -/
theorem outage_is_replayed_iff {tick : Span} {slave : Monitor} {master : Sighting} {first : Instant}
    {es : History} {left back : Instant} (hordered : es.IsOrdered slave.lastOk.totalNanos)
    (hreturned : es.Returned left back)
    (hup : ((Watched.ofMonitor slave master first).run tick es).slave.isUp = true) (now : Instant)
    (seen : Sighting) :
    let w := Watched.ofMonitor slave master first
    (w.Replays tick (es ++ [(now, .checked seen)]) left back ↔
        w.FoundDown tick es ∧ (w.run tick es).ReachesBack tick) ∧
      ((w.run tick es).verdict tick now = .steady →
        ¬ w.Replays tick (es ++ [(now, .checked seen)]) left back) := by
  intro w
  have hreplays : w.Replays tick (es ++ [(now, .checked seen)]) left back ↔
      (w.run tick es).Ready tick :=
    Watched.replays_iff_ready (Watched.notedSince_ofMonitor slave master first) hordered
      hreturned hup now seen
  refine ⟨hreplays.trans (Watched.ready_iff_foundDown rfl), fun hsteady hreplayed => ?_⟩
  obtain ⟨hstate, hreaches⟩ := hreplays.1 hreplayed
  obtain ⟨start, hstart⟩ := Option.isSome_iff_exists.1 hreaches
  have hrecover : (w.run tick es).verdict tick now = .recover start _ :=
    Supervisor.verdict_eq_recover.2 ⟨⟨hstate, hup⟩, hstart, rfl⟩
  exact nomatch hsteady.symm.trans hrecover

private def momentAt (n : Int64) : Instant := .ofEpochNanos (n * 1000000000)

private def primary : Sighting := ⟨true, momentAt 0, .zero⟩

private def standby : Monitor := .unseen "b" (.ofSecs 5) (momentAt 0)

/-- A slave that is down for a while between two checks. -/
private def brief : History :=
  [(momentAt 100, .seen ⟨1⟩ ⟨.zero, ""⟩), (momentAt 101, .checked primary),
    (momentAt 105, .missed (.unavailable "b is down")), (momentAt 110, .seen ⟨1⟩ ⟨.zero, ""⟩)]

/-- A slave that is down when there is a check. -/
private def noticed : History :=
  [(momentAt 100, .seen ⟨1⟩ ⟨.zero, ""⟩), (momentAt 105, .missed (.unavailable "b is down")),
    (momentAt 106, .checked primary), (momentAt 110, .seen ⟨1⟩ ⟨.zero, ""⟩)]

theorem outage_is_replayed_iff_noticed :
    History.IsOrdered standby.lastOk.totalNanos noticed ∧
    noticed.Returned (momentAt 100) (momentAt 110) ∧
    (Watched.ofMonitor standby primary (momentAt 0)).Replays (.ofSecs 20)
      (noticed ++ [(momentAt 120, .checked primary)]) (momentAt 100) (momentAt 110) := by
  have hordered : History.IsOrdered standby.lastOk.totalNanos noticed :=
    ⟨by decide +kernel, by decide +kernel⟩
  have hreturned : noticed.Returned (momentAt 100) (momentAt 110) := by
    refine ⟨[], [_, _], [], _, _, _, _, rfl, ⟨_, _, List.mem_cons_self⟩, ?_, ?_, ?_⟩
    · simp [History.Unseen]
    · simp [History.Unchecked]
    · decide +kernel
  refine ⟨hordered, hreturned, (outage_is_replayed_iff hordered hreturned rfl _ _).1.2 ⟨?_, rfl⟩⟩
  exact ⟨[_, _], [_], _, _, rfl, by simp [History.Unchecked], rfl, nofun⟩

/-- Both checks find the slave up and all fine, and up to the later one nothing is replayed of what
was missed in between. -/
theorem brief_outage_is_not_replayed :
    brief.Returned (momentAt 100) (momentAt 110) ∧
    ((Watched.ofMonitor standby primary (momentAt 0)).run (.ofSecs 20) (brief.take 1)).verdict
      (.ofSecs 20) (momentAt 101) = .steady ∧
    ((Watched.ofMonitor standby primary (momentAt 0)).run (.ofSecs 20) brief).verdict (.ofSecs 20)
      (momentAt 120) = .steady ∧
    ¬ (Watched.ofMonitor standby primary (momentAt 0)).Replays (.ofSecs 20)
      (brief ++ [(momentAt 120, .checked primary)]) (momentAt 100) (momentAt 110) := by
  have hordered : History.IsOrdered standby.lastOk.totalNanos brief :=
    ⟨by decide +kernel, by decide +kernel⟩
  have hreturned : brief.Returned (momentAt 100) (momentAt 110) := by
    refine ⟨[], [_, _], [], _, _, _, _, rfl, ⟨_, _, List.mem_cons_of_mem _ List.mem_cons_self⟩,
      ?_, ?_, ?_⟩
    · simp [History.Unseen]
    · simp [History.Unchecked]
    · decide +kernel
  refine ⟨hreturned, rfl, rfl, fun hreplays => ?_⟩
  have hnoted := Watched.notedSince_ofMonitor standby primary (momentAt 0)
  have hready := (Watched.replays_iff_ready hnoted hordered hreturned rfl _ _).1 hreplays
  cases hready.1

end SeriesReplica.Cluster
