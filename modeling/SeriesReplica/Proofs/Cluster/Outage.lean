import Mathlib.Data.List.Induction
import SeriesReplica.Cluster.Supervisor
import SeriesReplica.Proofs.Time.EpochNanos

/-! Outages of a slave. Probes and checks come in any order. What a recovery replays begins at the
slave's last contact as of the last check before it, which is that of the beginning of the outage
unless a check came after the slave had been seen again for a while. -/
namespace SeriesReplica.Cluster
open Concurrent Time

/-- What happens to a slave and to its supervisor. -/
inductive Event where
  /-- A probe that succeeds. -/
  | seen (client : Client) (pong : Pong)
  /-- A probe that fails. -/
  | missed (error : Node.Error)
  | checked (master : Sighting)
  /-- The end of a recovery. -/
  | recovered (elapsed : Span)

/-- What happens, each at its moment. -/
abbrev History := List (Instant × Event)

/-- Moments that do not go back, from a count of nanoseconds on. -/
def History.IsOrdered (first : Int) (es : History) : Prop :=
  (∀ e ∈ es, first ≤ e.1.totalNanos) ∧ es.Pairwise fun a b => a.1.totalNanos ≤ b.1.totalNanos

/-- A watched slave and its supervisor. -/
structure Watched where
  slave : Monitor
  supervisor : Supervisor

namespace Watched

/-- A watch of a slave that begins while all is fine. -/
def ofMonitor (slave : Monitor) (master : Sighting) (now : Instant) : Watched :=
  ⟨slave, .ofSightings master (slave.sighting now)⟩

/-- What becomes of a watch by one event. -/
def next (tick : Span) (w : Watched) : Instant × Event → Watched
  | (now, .seen client pong) => { w with slave := w.slave.succeed client pong now }
  | (_, .missed e) => { w with slave := w.slave.fail e }
  | (now, .checked master) =>
    { w with supervisor := w.supervisor.step tick master (w.slave.sighting now) }
  | (_, .recovered elapsed) =>
    if w.supervisor.state = .recovering then
      { w with supervisor := w.supervisor.finish elapsed }
    else w

def run (tick : Span) (w : Watched) (es : History) : Watched := es.foldl (next tick) w

/-- What a check finds. -/
def verdict (tick : Span) (w : Watched) (now : Instant) : Verdict :=
  w.supervisor.verdict tick (w.slave.sighting now)

variable {tick : Span} {w : Watched}

@[simp] theorem run_nil : w.run tick [] = w := rfl

theorem run_append (es rest : History) :
    w.run tick (es ++ rest) = (w.run tick es).run tick rest :=
  List.foldl_append

@[simp] theorem run_concat (es : History) (e : Instant × Event) :
    w.run tick (es ++ [e]) = (w.run tick es).next tick e :=
  run_append es [e]

end Watched

/-- When a slave was last seen, and when as of the last check. -/
structure Contact where
  last : Instant
  noted : Instant

namespace Contact

def next (c : Contact) : Instant × Event → Contact
  | (now, .seen ..) => { c with last := now }
  | (_, .checked _) => { c with noted := c.last }
  | _ => c

/-- The contact with a slave after a history that begins with a check. -/
def after (left : Instant) (es : History) : Contact := es.foldl next ⟨left, left⟩

@[simp] theorem after_nil (left : Instant) : after left [] = ⟨left, left⟩ := rfl

@[simp] theorem after_concat (left : Instant) (es : History) (e : Instant × Event) :
    after left (es ++ [e]) = (after left es).next e := by
  rw [after, List.foldl_append]
  rfl

end Contact

namespace History

/-- The slave is seen again after a moment. -/
def SeenAfter (left : Instant) (es : History) : Prop :=
  ∃ now client pong, (now, .seen client pong) ∈ es ∧ left.totalNanos < now.totalNanos

/-- The slave is seen again after a moment, and then there is a check. -/
def NotedAfter (left : Instant) (es : History) : Prop :=
  ∃ before now master rest, es = before ++ (now, .checked master) :: rest ∧
    SeenAfter left before

variable {left : Instant} {es : History}

theorem isOrdered_concat {first : Int} {e : Instant × Event} :
    IsOrdered first (es ++ [e]) ↔
      IsOrdered first es ∧ first ≤ e.1.totalNanos ∧ ∀ d ∈ es, d.1.totalNanos ≤ e.1.totalNanos := by
  simp only [IsOrdered, List.pairwise_append, List.mem_append, List.mem_singleton,
    List.pairwise_singleton, true_and]
  constructor
  · rintro ⟨hfirst, hes, hlast⟩
    exact ⟨⟨fun d hd => hfirst d (.inl hd), hes⟩, hfirst e (.inr rfl),
      fun d hd => hlast d hd e rfl⟩
  · rintro ⟨⟨hfirst, hes⟩, he, hlast⟩
    refine ⟨fun d hd => ?_, hes, fun d hd d' hd' => ?_⟩
    · rcases hd with hd | rfl
      · exact hfirst d hd
      · exact he
    · subst hd'
      exact hlast d hd

theorem seenAfter_concat {e : Instant × Event} :
    SeenAfter left (es ++ [e]) ↔ SeenAfter left es ∨
      ∃ client pong, e.2 = .seen client pong ∧ left.totalNanos < e.1.totalNanos := by
  constructor
  · rintro ⟨now, client, pong, hmem, hlt⟩
    rcases List.mem_append.1 hmem with hmem | hmem
    · exact .inl ⟨now, client, pong, hmem, hlt⟩
    · obtain rfl := List.mem_singleton.1 hmem
      exact .inr ⟨client, pong, rfl, hlt⟩
  · rintro (⟨now, client, pong, hmem, hlt⟩ | ⟨client, pong, he, hlt⟩)
    · exact ⟨now, client, pong, List.mem_append_left _ hmem, hlt⟩
    · exact ⟨e.1, client, pong, List.mem_append_right _ (List.mem_singleton.2 (he ▸ rfl)), hlt⟩

theorem NotedAfter.seenAfter (h : NotedAfter left es) : SeenAfter left es := by
  obtain ⟨before, now, master, rest, rfl, t, client, pong, hmem, hlt⟩ := h
  exact ⟨t, client, pong, List.mem_append_left _ hmem, hlt⟩

theorem notedAfter_concat {e : Instant × Event} :
    NotedAfter left (es ++ [e]) ↔ NotedAfter left es ∨
      (∃ master, e.2 = .checked master) ∧ SeenAfter left es := by
  constructor
  · rintro ⟨before, now, master, rest, heq, hseen⟩
    rcases List.eq_nil_or_concat rest with rfl | ⟨rest, d, rfl⟩
    · obtain ⟨rfl, rfl⟩ := List.append_inj' heq rfl |>.imp id List.singleton_inj.1
      exact .inr ⟨⟨master, rfl⟩, hseen⟩
    · rw [List.concat_eq_append, ← List.cons_append, ← List.append_assoc] at heq
      exact .inl ⟨before, now, master, rest, (List.append_inj' heq rfl).1, hseen⟩
  · rintro (⟨before, now, master, rest, rfl, hseen⟩ | ⟨⟨master, he⟩, hseen⟩)
    · exact ⟨before, now, master, rest ++ [e], by simp, hseen⟩
    · exact ⟨es, e.1, master, [], by rw [← he], hseen⟩

end History

/-- The slave's last contact is later than a moment if it has been seen since, and so is the last
noted contact if a check has come after that. -/
theorem Contact.after_spec {left : Instant} {es : History}
    (h : History.IsOrdered left.totalNanos es) :
    (left.totalNanos ≤ (after left es).noted.totalNanos ∧
      left.totalNanos ≤ (after left es).last.totalNanos) ∧
    (left.totalNanos < (after left es).last.totalNanos ↔ History.SeenAfter left es) ∧
    (left.totalNanos < (after left es).noted.totalNanos ↔ History.NotedAfter left es) := by
  induction es using List.reverseRecOn with
  | nil => simp [History.SeenAfter, History.NotedAfter]
  | append_singleton es e ih =>
    obtain ⟨hes, hleft, hlast⟩ := History.isOrdered_concat.1 h
    obtain ⟨⟨hnoted, hseen⟩, hlast_iff, hnoted_iff⟩ := ih hes
    obtain ⟨now, event⟩ := e
    rw [after_concat, History.seenAfter_concat, History.notedAfter_concat, ← hlast_iff,
      ← hnoted_iff]
    cases event with
    | seen client pong =>
      have hlater (h : History.SeenAfter left es) : left.totalNanos < now.totalNanos := by
        obtain ⟨t, client, pong, hmem, hlt⟩ := h
        exact Int.lt_of_lt_of_le hlt (hlast _ hmem)
      rw [hlast_iff]
      simpa [next, hnoted, hleft] using hlater
    | missed e => simp [next, hnoted, hseen]
    | checked master =>
      have hboth (h : History.NotedAfter left es) := hlast_iff.2 h.seenAfter
      rw [hnoted_iff]
      simpa [next, hseen] using hboth
    | recovered elapsed => simp [next, hnoted, hseen]

namespace Supervisor
variable {s : Supervisor} {tick : Span} {slave : Sighting}

/-- A recovery begins when a slave that was suspected to be down is up, one tick before the contact
that is noted. -/
theorem verdict_eq_recover {start stop : Instant} : s.verdict tick slave = .recover start stop ↔
    (s.state = .slaveSuspected ∧ slave.isUp = true) ∧
      s.slave.lastOk.earlier? (margin tick) = some start ∧ stop = slave.lastOk := by
  rw [verdict]
  cases s.state <;> cases slave.isUp <;> try simp
  cases s.slave.lastOk.earlier? (margin tick) <;> simp [eq_comm]

/-- A check fails where a recovery would begin before the calendar. -/
theorem verdict_eq_overflow : s.verdict tick slave = .overflow ↔
    (s.state = .slaveSuspected ∧ slave.isUp = true) ∧
      s.slave.lastOk.earlier? (margin tick) = none := by
  rw [verdict]
  cases s.state <;> cases slave.isUp <;> try simp
  cases s.slave.lastOk.earlier? (margin tick) <;> simp

theorem margin_le (tick : Span) : (margin tick).nanos ≤ tick.nanos := by
  rw [margin]
  split
  · exact Nat.le_refl _
  · exact Nat.zero_le _

/-- No check fails, from 1970 on, once a tick has passed since the contact that is noted. So where
one check follows another after a tick, as those of a loop do, the other one does not fail. -/
theorem verdict_ne_overflow {now : Instant} (hepoch : 0 ≤ s.slave.lastOk.totalNanos)
    (hpassed : s.slave.lastOk.totalNanos + tick.nanos ≤ now.totalNanos) :
    s.verdict tick slave ≠ .overflow := by
  intro h
  have hmargin : s.slave.lastOk.totalNanos + (margin tick).nanos ≤ now.totalNanos := by
    have hle := margin_le tick
    omega
  have hsome := Instant.isSome_earlier? hepoch hmargin
  rw [(verdict_eq_overflow.1 h).2] at hsome
  cases hsome

end Supervisor

namespace Watched
variable {tick : Span} {w : Watched} {e : Instant × Event}

/-- The contact with the slave. -/
def contact (w : Watched) : Contact := ⟨w.slave.lastOk, w.supervisor.slave.lastOk⟩

/-- Only a check that finds the slave down begins an outage, and it notes the last contact. -/
theorem next_of_fine (hfine : w.supervisor.state = .fine)
    (hnext : (w.next tick e).supervisor.state = .slaveSuspected) :
    (∃ master, e.2 = .checked master) ∧ w.slave.isUp = false ∧
      (w.next tick e).contact = ⟨w.slave.lastOk, w.slave.lastOk⟩ := by
  obtain ⟨now, event⟩ := e
  cases event with
  | seen client pong => simp [next, hfine] at hnext
  | missed e => simp [next, hfine] at hnext
  | checked master =>
    cases hup : w.slave.isUp with
    | true => simp [next, Supervisor.step, Supervisor.verdict, Supervisor.enter, Supervisor.track,
        Monitor.sighting, hfine, hup] at hnext
    | false => simp [next, Supervisor.step, Supervisor.verdict, Supervisor.enter,
        Supervisor.track, Monitor.sighting, contact, Tracked.ofSighting, hfine, hup]
  | recovered elapsed => simp [next, hfine] at hnext

/-- While an outage lasts, only checks note the last contact, and all do that do not fail. -/
theorem next_of_suspected (hstate : w.supervisor.state = .slaveSuspected)
    (hnext : (w.next tick e).supervisor.state = .slaveSuspected) :
    (w.next tick e).contact = w.contact.next e ∨ (∃ master, e.2 = .checked master) ∧
      (w.next tick e).contact = w.contact ∧
      w.contact.noted.earlier? (Supervisor.margin tick) = none := by
  obtain ⟨now, event⟩ := e
  cases event with
  | seen client pong => exact .inl rfl
  | missed e => exact .inl rfl
  | checked master =>
    cases hup : w.slave.isUp with
    | true =>
      cases hstart : w.supervisor.slave.lastOk.earlier? (Supervisor.margin tick) with
      | some start =>
        simp [next, Supervisor.step, Supervisor.verdict, Supervisor.enter, Supervisor.track,
          Monitor.sighting, hstate, hup, hstart] at hnext
      | none =>
        refine .inr ⟨⟨master, rfl⟩, ?_, hstart⟩
        simp [next, Supervisor.step, Supervisor.verdict, Supervisor.enter, Monitor.sighting,
          contact, hstate, hup, hstart]
    | false =>
      left
      simp [next, Supervisor.step, Supervisor.verdict, Supervisor.enter,
        Supervisor.track, Monitor.sighting, contact, Contact.next, Tracked.ofSighting, hstate, hup]
  | recovered elapsed =>
    left
    simp [next, hstate, contact, Contact.next]

/-- A recovery ends in a state in which all is fine. -/
theorem next_of_recovering (hstate : w.supervisor.state = .recovering) :
    (w.next tick e).supervisor.state ≠ .slaveSuspected := by
  obtain ⟨now, event⟩ := e
  cases event <;> simp [next, Supervisor.step, Supervisor.verdict, Supervisor.enter,
    Supervisor.finish, hstate]

end Watched

/-- An outage in progress: the check `leaving` has found the slave down, after `before`, and no
check `during` the outage has begun a recovery. -/
structure Outage (tick : Span) (w : Watched) (before : History) (leaving : Instant × Event)
    (during : History) : Prop where
  fine : (w.run tick before).supervisor.state = .fine
  suspected : ∀ middle, middle <+: during →
    (w.run tick (before ++ leaving :: middle)).supervisor.state = .slaveSuspected

namespace Outage
variable {tick : Span} {w : Watched} {before during : History} {leaving : Instant × Event}

theorem of_concat {e : Instant × Event} (h : Outage tick w before leaving (during ++ [e])) :
    Outage tick w before leaving during :=
  ⟨h.fine, fun middle hmiddle => h.suspected middle (hmiddle.trans (List.prefix_append _ _))⟩

theorem concat {e : Instant × Event} (h : Outage tick w before leaving during)
    (he : (w.run tick (before ++ leaving :: (during ++ [e]))).supervisor.state =
      .slaveSuspected) : Outage tick w before leaving (during ++ [e]) := by
  refine ⟨h.fine, fun middle hmiddle => ?_⟩
  rcases List.prefix_concat_iff.1 hmiddle with rfl | hmiddle
  · exact he
  · exact h.suspected middle hmiddle

/-- The contact with the slave depends on its last contact before the outage and on what has
happened since. What is noted may be older, but then no recovery can begin before a check has noted
the last contact. -/
theorem contact_spec (h : Outage tick w before leaving during) :
    (w.run tick (before ++ leaving :: during)).contact.last =
        (Contact.after (w.run tick before).slave.lastOk during).last ∧
      ((w.run tick (before ++ leaving :: during)).contact.noted =
          (Contact.after (w.run tick before).slave.lastOk during).noted ∨
        (w.run tick (before ++ leaving :: during)).contact.noted.earlier?
          (Supervisor.margin tick) = none) := by
  induction during using List.reverseRecOn with
  | nil =>
    have hstate := h.suspected [] (List.prefix_refl [])
    rw [Watched.run_concat] at hstate ⊢
    rw [(Watched.next_of_fine h.fine hstate).2.2]
    exact ⟨rfl, .inl rfl⟩
  | append_singleton during e ih =>
    have hprevious := h.suspected during (List.prefix_append _ _)
    have hstate := h.suspected _ (List.prefix_refl _)
    obtain ⟨hlast, hnoted⟩ := ih h.of_concat
    rw [← List.cons_append, ← List.append_assoc, Watched.run_concat] at hstate ⊢
    rw [Contact.after_concat]
    obtain hnext | ⟨⟨master, hchecked⟩, hsame, hnone⟩ := Watched.next_of_suspected hprevious hstate
    · obtain ⟨now, event⟩ := e
      rw [hnext]
      cases event with
      | seen client pong => exact ⟨rfl, hnoted⟩
      | missed e => exact ⟨hlast, hnoted⟩
      | checked master => exact ⟨hlast, .inl hlast⟩
      | recovered elapsed => exact ⟨hlast, hnoted⟩
    -- A check that fails notes nothing.
    · obtain ⟨now, event⟩ := e
      obtain rfl : event = .checked master := hchecked
      rw [hsame]
      exact ⟨hlast, .inr hnone⟩

end Outage

/-- A slave that is suspected to be down is in an outage, which a check has begun. -/
theorem exists_outage {tick : Span} {w : Watched} (hw : w.supervisor.state = .fine)
    {es : History} (h : (w.run tick es).supervisor.state = .slaveSuspected) :
    ∃ before leaving during, es = before ++ leaving :: during ∧
      Outage tick w before leaving during := by
  induction es using List.reverseRecOn with
  | nil => simp [hw] at h
  | append_singleton es e ih =>
    rw [Watched.run_concat] at h
    match hstate : (w.run tick es).supervisor.state with
    | .fine =>
      refine ⟨es, e, [], rfl, hstate, fun middle hmiddle => ?_⟩
      rw [List.prefix_nil.1 hmiddle, Watched.run_concat]
      exact h
    -- An outage that was in progress goes on, as the slave is still suspected to be down.
    | .slaveSuspected =>
      obtain ⟨before, leaving, during, rfl, houtage⟩ := ih hstate
      refine ⟨before, leaving, during ++ [e], by simp, houtage.concat ?_⟩
      rw [← List.cons_append, ← List.append_assoc, Watched.run_concat]
      exact h
    | .recovering => exact absurd h (Watched.next_of_recovering hstate)

/-- The slave has not been seen later than all that has happened. -/
theorem Watched.lastOk_le {tick : Span} {w : Watched} {es : History} {bound : Int}
    (hw : w.slave.lastOk.totalNanos ≤ bound) (hes : ∀ e ∈ es, e.1.totalNanos ≤ bound) :
    (w.run tick es).slave.lastOk.totalNanos ≤ bound := by
  induction es using List.reverseRecOn with
  | nil => exact hw
  | append_singleton es e ih =>
    have hrest := ih fun d hd => hes d (List.mem_append_left _ hd)
    have hlast := hes e (List.mem_append_right _ List.mem_cons_self)
    rw [run_concat]
    obtain ⟨now, event⟩ := e
    cases event with
    | seen client pong => exact hlast
    | missed e => exact hrest
    | checked master => exact hrest
    | recovered elapsed =>
      rw [next]
      split
      · exact hrest
      · exact hrest

/-- What follows some part of a history comes after the slave was last seen in that part. -/
theorem History.IsOrdered.after_run {tick : Span} {w : Watched} {before rest : History}
    (h : IsOrdered w.slave.lastOk.totalNanos (before ++ rest)) :
    IsOrdered (w.run tick before).slave.lastOk.totalNanos rest := by
  obtain ⟨hfirst, hpairs⟩ := h
  obtain ⟨-, hrest, hbetween⟩ := List.pairwise_append.1 hpairs
  exact ⟨fun e he => Watched.lastOk_le (hfirst e (List.mem_append_right _ he))
    fun d hd => hbetween d hd e he, hrest⟩

/-- A window that begins at `start` reaches back to one tick before the moment `left`. -/
def Covers (tick : Span) (left start : Instant) : Prop :=
  start.totalNanos ≤ left.totalNanos - tick.nanos

/-- A window reaches back to one tick before an earlier moment only if it is taken from that moment,
and by a whole tick. -/
private theorem covers_iff {tick : Span} {left noted start : Instant}
    (hle : left.totalNanos ≤ noted.totalNanos)
    (hstart : noted.earlier? (Supervisor.margin tick) = some start) :
    Covers tick left start ↔ ¬ left.totalNanos < noted.totalNanos ∧ tick.fitsCalendar = true := by
  have htotal := Instant.totalNanos_of_earlier? hstart
  rw [Covers, htotal, Supervisor.margin]
  by_cases hfits : tick.fitsCalendar = true
  · simp only [hfits, if_true, and_true]
    omega
  · have htick : maxShiftNanos < tick.nanos := by simpa [Span.fitsCalendar] using hfits
    refine iff_of_false ?_ fun hcovers => hfits hcovers.2
    rw [if_neg hfits]
    simp only [Span.zero]
    omega

/-- Whenever a recovery begins, it replays what has happened up to the slave's last contact, and
the window reaches back to one tick before the outage unless a check came after the slave had been
seen again, or the tick is longer than the calendar takes. -/
theorem recovery_covers_iff {tick : Span} {slave : Monitor} {master : Sighting} {first : Instant}
    {es : History} (hordered : es.IsOrdered slave.lastOk.totalNanos) {now start stop : Instant}
    (hverdict : ((Watched.ofMonitor slave master first).run tick es).verdict tick now =
      .recover start stop) :
    ∃ before leaving during, es = before ++ leaving :: during ∧
      Outage tick (.ofMonitor slave master first) before leaving during ∧
      stop = ((Watched.ofMonitor slave master first).run tick es).slave.lastOk ∧
      (Contact.after ((Watched.ofMonitor slave master first).run tick before).slave.lastOk
        during).noted.earlier? (Supervisor.margin tick) = some start ∧
      (Covers tick ((Watched.ofMonitor slave master first).run tick before).slave.lastOk start ↔
        ¬ History.NotedAfter ((Watched.ofMonitor slave master first).run tick before).slave.lastOk
          during ∧
        tick.fitsCalendar = true) := by
  set w := Watched.ofMonitor slave master first with hw
  obtain ⟨⟨hstate, -⟩, hstart, hstop⟩ := Supervisor.verdict_eq_recover.1 hverdict
  obtain ⟨before, leaving, during, rfl, houtage⟩ := exists_outage (w := w) rfl hstate
  have hnoted : (w.run tick (before ++ leaving :: during)).supervisor.slave.lastOk =
      (Contact.after (w.run tick before).slave.lastOk during).noted := by
    obtain hnoted | hnone := houtage.contact_spec.2
    · exact hnoted
    · cases hnone.symm.trans hstart
  have hrest : History.IsOrdered (w.run tick before).slave.lastOk.totalNanos
      (leaving :: during) := History.IsOrdered.after_run hordered
  have hduring : History.IsOrdered (w.run tick before).slave.lastOk.totalNanos during :=
    ⟨fun e he => hrest.1 e (List.mem_cons_of_mem _ he), (List.pairwise_cons.1 hrest.2).2⟩
  obtain ⟨⟨hle, -⟩, -, hnoted_iff⟩ := Contact.after_spec hduring
  rw [hnoted] at hstart
  refine ⟨before, leaving, during, rfl, houtage, hstop, hstart, ?_⟩
  rw [covers_iff hle hstart, hnoted_iff]

private def second (n : Int64) : Instant := .ofEpochNanos (n * 1000000000)

private def sampleMaster : Sighting := ⟨true, second 0, .zero⟩

private def sampleSlave : Monitor := .unseen "b" (.ofSecs 5) (second 0)

private abbrev sampleWatch : Watched := .ofMonitor sampleSlave sampleMaster (second 0)

/-- The slave is seen once and then lost. -/
private def lost : History :=
  [(second 100, .seen ⟨1⟩ ⟨.zero, ""⟩), (second 110, .missed (.unavailable "b is down"))]

/-- The slave is back for a moment, and is lost when the next check comes. -/
private def flapping : History :=
  [(second 120, .seen ⟨1⟩ ⟨.zero, ""⟩), (second 125, .missed (.unavailable "b is down")),
    (second 130, .checked sampleMaster), (second 140, .seen ⟨1⟩ ⟨.zero, ""⟩)]

/-- A slave that is lost at 100 seconds and back for a moment at 120: what is replayed begins one
tick before 120 instead of one tick before 100. -/
theorem flapping_slave_is_not_covered :
    Outage (.ofSecs 10) sampleWatch lost (second 111, .checked sampleMaster) flapping ∧
    (sampleWatch.run (.ofSecs 10) lost).slave.lastOk = second 100 ∧
    (sampleWatch.run (.ofSecs 10) (lost ++ (second 111, .checked sampleMaster) :: flapping)).verdict
      (.ofSecs 10) (second 141) = .recover (second 110) (second 140) ∧
    ¬ Covers (.ofSecs 10) (second 100) (second 110) := by
  refine ⟨⟨rfl, fun middle hmiddle => ?_⟩, rfl, by decide +kernel, ?_⟩
  · rw [List.prefix_iff_eq_take.1 hmiddle]
    have hlength : middle.length ≤ 4 := hmiddle.length_le
    obtain h | h | h | h | h : middle.length = 0 ∨ middle.length = 1 ∨ middle.length = 2 ∨
        middle.length = 3 ∨ middle.length = 4 := by omega
    all_goals
      rw [h]
      rfl
  · rw [Covers]
    decide +kernel

/-- The check after the slave was seen again is what costs the window its beginning. -/
theorem recovery_covers_iff_flapping :
    ∃ before leaving during, lost ++ (second 111, .checked sampleMaster) :: flapping =
        before ++ leaving :: during ∧
      Outage (.ofSecs 10) sampleWatch before leaving during ∧
      second 140 = (sampleWatch.run (.ofSecs 10)
        (lost ++ (second 111, .checked sampleMaster) :: flapping)).slave.lastOk ∧
      (Contact.after (sampleWatch.run (.ofSecs 10) before).slave.lastOk during).noted.earlier?
        (Supervisor.margin (.ofSecs 10)) = some (second 110) ∧
      (Covers (.ofSecs 10) (sampleWatch.run (.ofSecs 10) before).slave.lastOk (second 110) ↔
        ¬ History.NotedAfter (sampleWatch.run (.ofSecs 10) before).slave.lastOk during ∧
        (Span.ofSecs 10).fitsCalendar = true) :=
  have hverdict : (sampleWatch.run (.ofSecs 10)
      (lost ++ (second 111, .checked sampleMaster) :: flapping)).verdict (.ofSecs 10)
      (second 141) = .recover (second 110) (second 140) := by decide +kernel
  have hordered : History.IsOrdered sampleSlave.lastOk.totalNanos
      (lost ++ (second 111, .checked sampleMaster) :: flapping) :=
    ⟨by decide +kernel, by decide +kernel⟩
  recovery_covers_iff hordered hverdict

end SeriesReplica.Cluster
