import Mathlib.Data.List.Induction
import SeriesReplica.Proofs.Cluster.Noninterference

/-! Windows of recoveries. Where checks run one after another and the clock does not go back, each
window ends at the slave's latest contact, begins a tick before the contact that the check before
has noted, and is never empty; and no window ends before an earlier one. -/
namespace SeriesReplica.Cluster
open Concurrent Time Sync

section Histories

/-- The moments at which a slave is seen. -/
def seenMoments (is : List Stimulus) : List Instant :=
  is.filterMap fun
    | .seen now => some now
    | .missed | .looked => none

/-- When a slave was last seen. -/
def lastContact (left : Instant) (is : List Stimulus) : Instant :=
  (seenMoments is).getLast?.getD left

/-- What has been learned of a slave before each look at it, if some has been before. -/
def pasts (before : List Stimulus) : List Stimulus → List (List Stimulus)
  | [] => []
  | .looked :: is => before :: pasts (before ++ [.looked]) is
  | i :: is => pasts (before ++ [i]) is

/-- What checks have come to. -/
def verdicts (rs : List Reaction) : List Verdict :=
  rs.filterMap fun
    | .decided v _ => some v
    | .finished _ | .answered _ => none

/-- The window that is to be recovered. -/
def Verdict.window? : Verdict → Option (Instant × Instant)
  | .recover start stop => some (start, stop)
  | .steady | .slaveDown | .stillDown | .stillRecovering | .overflow => none

/-- The windows that checks hand to their recoveries. -/
def windows (rs : List Reaction) : List (Instant × Instant) :=
  (verdicts rs).filterMap Verdict.window?

/-- The window of a check that looks at a slave after this: it ends with the contact that is the
last thing learned of the slave, and begins a tick before the one the check before has noted. -/
def IsWindow (tick : Span) (left : Instant) (past : List Stimulus) (start stop : Instant) : Prop :=
  ∃ earlier between, past = earlier ++ .looked :: (between ++ [.seen stop]) ∧ .looked ∉ between ∧
    (lastContact left earlier).earlier? (Supervisor.margin tick) = some start

/-- What is known of a verdict that is come to by looking at a slave after this: a window that it
tells is the one of the look, and if it fails, some contact is too early for its margin. -/
def Belongs (tick : Span) (left : Instant) (past : List Stimulus) : Verdict → Prop
  | .recover start stop => IsWindow tick left past start stop
  | .overflow => ∃ earlier, earlier <+: past ∧
    (lastContact left earlier).earlier? (Supervisor.margin tick) = none
  | .steady | .slaveDown | .stillDown | .stillRecovering => True

variable {left : Instant} {is before : List Stimulus}

@[simp] theorem seenMoments_append (is js : List Stimulus) :
    seenMoments (is ++ js) = seenMoments is ++ seenMoments js := List.filterMap_append

theorem verdicts_append (rs qs : List Reaction) :
    verdicts (rs ++ qs) = verdicts rs ++ verdicts qs := List.filterMap_append

theorem seenMoments_mono {past : List Stimulus} (h : past <+: is) :
    seenMoments past <+: seenMoments is := h.filterMap _

theorem Verdict.eq_recover_of_window? {v : Verdict} {window : Instant × Instant}
    (h : v.window? = some window) : v = .recover window.1 window.2 := by
  cases v with
  | recover start stop =>
    obtain rfl := Option.some.inj h
    rfl
  | steady | slaveDown | stillDown | stillRecovering | overflow => cases h

@[simp] theorem lastContact_seen (now : Instant) : lastContact left (is ++ [.seen now]) = now := by
  rw [lastContact, seenMoments_append]
  exact congrArg (·.getD left) List.getLast?_concat

theorem lastContact_concat {i : Stimulus} (hi : ∀ now, i ≠ .seen now) :
    lastContact left (is ++ [i]) = lastContact left is := by
  have hnone : seenMoments [i] = [] := by
    cases i with
    | seen now => exact absurd rfl (hi now)
    | missed | looked => rfl
  rw [lastContact, seenMoments_append, hnone, List.append_nil]
  rfl

theorem lastContact_mem (left : Instant) (is : List Stimulus) :
    lastContact left is ∈ left :: seenMoments is := by
  rw [lastContact]
  cases h : (seenMoments is).getLast? with
  | none => exact List.mem_cons_self
  | some now => exact List.mem_cons_of_mem left (List.mem_of_getLast? h)

theorem pasts_append (before is js : List Stimulus) :
    pasts before (is ++ js) = pasts before is ++ pasts (before ++ is) js := by
  induction is generalizing before with
  | nil => rw [List.append_nil]; rfl
  | cons i is ih => cases i <;> simp [pasts, ih]

/-- A look comes after what was before, and within what there is. -/
theorem between_of_mem_pasts {past : List Stimulus} (h : past ∈ pasts before is) :
    before <+: past ∧ past ++ [.looked] <+: before ++ is := by
  induction is generalizing before with
  | nil => cases h
  | cons i is ih =>
    have htail (h : past ∈ pasts (before ++ [i]) is) :
        before <+: past ∧ past ++ [.looked] <+: before ++ i :: is := by
      rw [List.append_cons before]
      exact (ih h).imp_left (List.prefix_append before [i]).trans
    cases i with
    | looked =>
      obtain rfl | h := List.mem_cons.1 h
      · exact ⟨List.prefix_rfl, is, (List.append_cons past _ is).symm⟩
      · exact htail h
    | seen | missed => exact htail h

/-- What was learned before a look is learned before each later one. -/
theorem pasts_pairwise (before is : List Stimulus) : (pasts before is).Pairwise (· <+: ·) := by
  induction is generalizing before with
  | nil => exact .nil
  | cons i is ih =>
    cases i with
    | looked =>
      refine .cons (fun past h => ?_) (ih _)
      exact (List.prefix_append before [.looked]).trans (between_of_mem_pasts h).1
    | seen | missed => exact ih _

end Histories

/-- What a check comes to that looks at a slave while no recovery is under way: its verdict, and the
view at its end. -/
inductive Judged (tick : Span) (v : View) (slave : Tracked) : Verdict → View → Prop
  | steady {after : View} (hfine : after.state = .fine) : Judged tick v slave .steady after
  /-- The slave is down, and suspected from now on. -/
  | down {verdict : Verdict} {after : View} (hdown : slave.isUp = false)
    (hverdict : verdict = .slaveDown ∨ verdict = .stillDown)
    (hsuspected : after.state = .slaveSuspected) (hslave : after.slave = slave) :
    Judged tick v slave verdict after
  /-- The slave was suspected, and is up. -/
  | recover {start : Instant} {after : View} (hup : slave.isUp = true)
    (hsuspected : v.state = .slaveSuspected)
    (hstart : v.slave.lastOk.earlier? (Supervisor.margin tick) = some start)
    (hfine : after.state = .fine) : Judged tick v slave (.recover start slave.lastOk) after
  | overflow (hsuspected : v.state = .slaveSuspected)
    (hnone : v.slave.lastOk.earlier? (Supervisor.margin tick) = none) :
    Judged tick v slave .overflow v

private theorem rest_judges (tick : Span) (v : View) (slave : Tracked) (h : v.state ≠ .recovering) :
    ∃ verdict view closing after,
      (Stage.judges slave).rest tick v = (after, .decided verdict view :: closing) ∧
      verdicts closing = [] ∧ Judged tick v slave verdict after := by
  obtain ⟨state, recoveries, tracked⟩ := v
  obtain ⟨isUp, lastOk⟩ := slave
  cases state with
  | recovering => exact absurd rfl h
  | fine =>
    cases isUp with
    | true => exact ⟨.steady, _, _, _, rfl, rfl, .steady rfl⟩
    | false => exact ⟨.slaveDown, _, _, _, rfl, rfl, .down rfl (.inl rfl) rfl rfl⟩
  | slaveSuspected =>
    cases isUp with
    | false => exact ⟨.stillDown, _, _, _, rfl, rfl, .down rfl (.inr rfl) rfl rfl⟩
    | true =>
      set before : View := ⟨.slaveSuspected, recoveries, tracked⟩
      cases hstart : tracked.lastOk.earlier? (Supervisor.margin tick) with
      | some start =>
        have hverdict : before.verdict tick ⟨true, lastOk⟩ = .recover start lastOk :=
          Supervisor.verdict_eq_recover.2 ⟨⟨rfl, rfl⟩, hstart, rfl⟩
        refine ⟨.recover start lastOk, _, _, _, by rw [Stage.rest, hverdict], rfl, ?_⟩
        exact .recover rfl rfl hstart rfl
      | none =>
        have hverdict : before.verdict tick ⟨true, lastOk⟩ = .overflow :=
          Supervisor.verdict_eq_overflow.2 ⟨⟨rfl, rfl⟩, hstart⟩
        have hstep : before.step tick ⟨true, lastOk⟩ = before :=
          congrArg (fun v => (before.supervisor.enter v _ _).view) hverdict
        refine ⟨.overflow, before, [], before, by rw [Stage.rest, hverdict, hstep]; rfl, rfl, ?_⟩
        exact .overflow rfl hstart

/-- What a supervisor makes of what is learned of a slave: it knows the latest contact, it has noted
the contact before the outage while it suspects the slave, and each of its verdicts belongs to its
look. After a check that has failed, every other one fails until the slave is down again. -/
structure Oversees (tick : Span) (left : Instant) (is : List Stimulus) (x : Story) : Prop where
  contact : x.slave.lastOk = lastContact left is
  suspicion : x.view.state = .fine ∨ x.view.state = .slaveSuspected ∧
    ∃ earlier between, is = earlier ++ .looked :: between ∧
      x.view.slave.lastOk = lastContact left earlier ∧
      ((lastContact left earlier).earlier? (Supervisor.margin tick) = none ∨
        .looked ∉ between ∧
          (x.slave.isUp = true → ∃ rest, between = rest ++ [.seen x.slave.lastOk]))
  handed : List.Forall₂ (Belongs tick left) (pasts [] is) (verdicts x.reactions)

namespace Oversees
variable {tick : Span} {left : Instant} {is : List Stimulus} {x : Story}

theorem start (tick : Span) (slave : Tracked) :
    Oversees tick slave.lastOk [] ⟨slave, ⟨.fine, 0, slave⟩, []⟩ :=
  ⟨rfl, .inl rfl, .nil⟩

/-- Between two looks nothing is decided. -/
private theorem probed (h : Oversees tick left is x) {i : Stimulus} (hlook : i ≠ .looked)
    {slave : Tracked} (hcontact : slave.lastOk = lastContact left (is ++ [i]))
    (hup : slave.isUp = true → i = .seen slave.lastOk) :
    Oversees tick left (is ++ [i]) { x with slave := slave } where
  contact := hcontact
  suspicion := by
    refine h.suspicion.imp_right fun ⟨hstate, earlier, between, his, hnoted, hlooks⟩ => ?_
    refine ⟨hstate, earlier, between ++ [i], ?_, hnoted, hlooks.imp_right fun ⟨hbetween, _⟩ => ?_⟩
    · rw [his, List.append_assoc, List.cons_append]
    · rw [List.mem_append, List.mem_singleton]
      exact ⟨not_or.2 ⟨hbetween, hlook.symm⟩, fun h => ⟨between, by rw [hup h]⟩⟩
  handed := by
    have hpasts : pasts [] (is ++ [i]) = pasts [] is := by
      rw [pasts_append]
      cases i with
      | looked => exact absurd rfl hlook
      | seen | missed => exact List.append_nil _
    rw [hpasts]
    exact h.handed

/-- The verdict of a check that looks belongs to its look. -/
private theorem belongs (h : Oversees tick left is x) {verdict : Verdict} {after : View}
    (hjudged : Judged tick x.view x.slave verdict after) : Belongs tick left is verdict := by
  have hsuspicion := h.suspicion
  cases hjudged with
  | steady => trivial
  | down _ hverdict => rcases hverdict with rfl | rfl <;> trivial
  | recover hup hstate hstart =>
    rw [hstate] at hsuspicion
    obtain ⟨-, earlier, between, rfl, hnoted, hlooks⟩ := hsuspicion.resolve_left nofun
    rw [hnoted] at hstart
    obtain ⟨hbetween, hseen⟩ := hlooks.resolve_left (by rw [hstart]; nofun)
    obtain ⟨rest, rfl⟩ := hseen hup
    exact ⟨earlier, rest, rfl, fun hrest => hbetween (List.mem_append_left _ hrest), hstart⟩
  | overflow hstate hnone =>
    rw [hstate] at hsuspicion
    obtain ⟨-, earlier, between, rfl, hnoted, -⟩ := hsuspicion.resolve_left nofun
    exact ⟨earlier, List.prefix_append _ _, hnoted ▸ hnone⟩

/-- A check looks, and the story tells it to its end. -/
private theorem looked (h : Oversees tick left is x) :
    Oversees tick left (is ++ [.looked]) (x.next tick .looked) := by
  have hidle : x.view.state ≠ .recovering := by
    rcases h.suspicion with hstate | ⟨hstate, -⟩ <;> rw [hstate] <;> decide
  obtain ⟨verdict, view, closing, after, hrest, hclosing, hjudged⟩ :=
    rest_judges tick x.view x.slave hidle
  have hcontact : lastContact left (is ++ [.looked]) = lastContact left is :=
    lastContact_concat fun _ heq => nomatch heq
  have hnext : x.next tick .looked =
      ⟨x.slave, after, x.reactions ++ .decided verdict view :: closing⟩ := by
    simp only [Story.next, hrest]
  have hverdicts : verdicts (x.reactions ++ .decided verdict view :: closing) =
      verdicts x.reactions ++ [verdict] := by
    rw [verdicts_append]
    exact congrArg (_ ++ verdict :: ·) hclosing
  rw [hnext]
  refine ⟨h.contact.trans hcontact.symm, ?_, ?_⟩
  · cases hjudged with
    | steady hfine | recover _ _ _ hfine => exact .inl hfine
    | down hdown _ hsuspected hslave =>
      refine .inr ⟨hsuspected, is, [], rfl, ?_, .inr ⟨List.not_mem_nil, fun hup => ?_⟩⟩
      · exact (congrArg Tracked.lastOk hslave).trans h.contact
      · exact absurd (hdown.symm.trans hup) Bool.false_ne_true
    | overflow hstate hnone =>
      -- Nothing has changed, and what was too early stays so.
      have hsuspicion := h.suspicion
      rw [hstate] at hsuspicion
      obtain ⟨-, earlier, between, his, hnoted, -⟩ := hsuspicion.resolve_left nofun
      refine .inr ⟨hstate, earlier, between ++ [.looked], ?_, hnoted, .inl (hnoted ▸ hnone)⟩
      rw [his, List.append_assoc, List.cons_append]
  · rw [pasts_append, hverdicts]
    exact List.rel_append h.handed (.cons (h.belongs hjudged) .nil)

theorem next (h : Oversees tick left is x) (i : Stimulus) :
    Oversees tick left (is ++ [i]) (x.next tick i) := by
  cases i with
  | seen now =>
    exact h.probed (i := .seen now) (fun heq => nomatch heq) (lastContact_seen now).symm
      fun _ => rfl
  | missed =>
    have hcontact : lastContact left (is ++ [.missed]) = lastContact left is :=
      lastContact_concat fun _ heq => nomatch heq
    exact h.probed (i := .missed) (fun heq => nomatch heq) (h.contact.trans hcontact.symm)
      fun hup => nomatch hup
  | looked => exact h.looked

theorem run (tick : Span) (slave : Tracked) (is : List Stimulus) :
    Oversees tick slave.lastOk is (Story.run tick ⟨slave, ⟨.fine, 0, slave⟩, []⟩ is) := by
  induction is using List.reverseRecOn with
  | nil => exact start tick slave
  | append_singleton is i ih =>
    rw [Story.run_append]
    exact ih.next i

end Oversees

/-- A window that is replayed: it is not empty, it ends with the contact that is the last thing
learned of the slave before the check looks, and begins a tick before the contact that the check
before has noted. -/
structure Replays (s : Cluster.Settings) (left : Instant) (past : List Stimulus)
    (start stop : Instant) : Prop where
  nonempty : start < stop
  bounds : ∃ earlier between, past = earlier ++ .looked :: (between ++ [.seen stop]) ∧
    .looked ∉ between ∧ (lastContact left earlier).earlier? s.tick = some start ∧
    start.totalNanos = (lastContact left earlier).totalNanos - s.tick.nanos
  /-- It is never found that there is nothing to replay. -/
  replayed : ∃ notice : Except Fault (List Report) → Log.Line, ∀ ds, replay s ds start stop =
    (replicateData s ds start stop).bind fun result => Process.log (notice result)

/-- A clock that does not go back, and from whose moments a tick can be counted back. -/
structure GoesForward (tick : Span) (moments : List Instant) : Prop where
  ordered : moments.Pairwise (· ≤ ·)
  inRange : ∀ t ∈ moments, (t.earlier? tick).isSome

theorem GoesForward.of_prefix {tick : Span} {left : Instant} {is past : List Stimulus}
    (h : GoesForward tick (left :: seenMoments is)) (hpast : past ++ [.looked] <+: is) :
    GoesForward tick (left :: seenMoments past) := by
  have hbefore : left :: seenMoments past <+: left :: seenMoments is :=
    List.cons_prefix_cons.2 ⟨rfl, seenMoments_mono ((List.prefix_append past _).trans hpast)⟩
  exact ⟨h.ordered.sublist hbefore.sublist, fun t ht => h.inRange t (hbefore.subset ht)⟩

namespace IsWindow
variable {s : Cluster.Settings} {left start stop : Instant} {past : List Stimulus}

theorem seenMoments_eq {tick : Span} (h : IsWindow tick left past start stop) :
    ∃ rest, seenMoments past = rest ++ [stop] := by
  obtain ⟨earlier, between, rfl, -, -⟩ := h
  refine ⟨seenMoments (earlier ++ .looked :: between), ?_⟩
  rw [← List.cons_append, ← List.append_assoc, seenMoments_append]
  rfl

theorem replays (h : IsWindow s.tick left past start stop) (htick : s.tick.nanos ≠ 0)
    (hfits : s.tick.fitsCalendar = true) (hclock : GoesForward s.tick (left :: seenMoments past)) :
    Replays s left past start stop := by
  obtain ⟨earlier, between, rfl, hbetween, hstart⟩ := h
  have hmargin : Supervisor.margin s.tick = s.tick := if_pos hfits
  rw [hmargin] at hstart
  set contact := lastContact left earlier with hcontact
  have hsplit : left :: seenMoments (earlier ++ .looked :: (between ++ [.seen stop])) =
      (left :: seenMoments earlier) ++ (seenMoments (.looked :: between) ++ [stop]) := by
    rw [← List.cons_append, seenMoments_append, seenMoments_append]
    rfl
  rw [hsplit] at hclock
  have hnoted : contact ∈ left :: seenMoments earlier := lastContact_mem left earlier
  have hle : contact ≤ stop := (List.pairwise_append.1 hclock.ordered).2.2 contact hnoted stop
    (List.mem_append_right _ (List.mem_singleton.2 rfl))
  have hlt : start < stop := by
    refine Instant.not_le_iff.1 fun hback => ?_
    exact Instant.not_le_iff.2 (Instant.earlier?_lt htick hstart) (Instant.le_trans hle hback)
  obtain ⟨notice, hnotice⟩ := replay_of_lt hlt
  exact ⟨hlt, ⟨earlier, between, rfl, hbetween, hstart, Instant.totalNanos_of_earlier? hstart⟩,
    notice, hnotice s⟩

/-- A later window does not end before an earlier one. -/
theorem stop_le {tick : Span} {start' stop' : Instant} {past' : List Stimulus}
    (h : IsWindow tick left past start stop) (h' : IsWindow tick left past' start' stop')
    (hpast : past <+: past') (hordered : (seenMoments past').Pairwise (· ≤ ·)) : stop ≤ stop' := by
  obtain ⟨rest, hrest⟩ := h.seenMoments_eq
  obtain ⟨rest', hrest'⟩ := h'.seenMoments_eq
  have hmem : stop ∈ rest' ++ [stop'] := by
    rw [← hrest']
    refine (seenMoments_mono hpast).subset ?_
    exact hrest ▸ List.mem_append_right rest List.mem_cons_self
  rw [hrest'] at hordered
  obtain hmem | hmem := List.mem_append.1 hmem
  · exact (List.pairwise_append.1 hordered).2.2 stop hmem stop' List.mem_cons_self
  · rw [List.mem_singleton.1 hmem]
    exact Instant.le_refl stop'

end IsWindow

/-- Where a tick can be counted back from every contact, no check fails. -/
theorem Belongs.ne_overflow {s : Cluster.Settings} {left : Instant} {past : List Stimulus}
    {v : Verdict} (h : Belongs s.tick left past v) (hfits : s.tick.fitsCalendar = true)
    (hclock : GoesForward s.tick (left :: seenMoments past)) : v ≠ .overflow := by
  rintro rfl
  obtain ⟨earlier, hearlier, hnone⟩ := h
  have hmargin : Supervisor.margin s.tick = s.tick := if_pos hfits
  have hbefore : left :: seenMoments earlier <+: left :: seenMoments past :=
    List.cons_prefix_cons.2 ⟨rfl, seenMoments_mono hearlier⟩
  have hsome := hclock.inRange _ (hbefore.subset (lastContact_mem left earlier))
  rw [← hmargin, hnone] at hsome
  cases hsome

/-- What belongs to the elements of an ordered list is ordered as they are. -/
private theorem pairwise_of_forall₂ {α β : Type} {R : α → β → Prop} {S : α → α → Prop}
    {T : β → β → Prop} {as : List α} {bs : List β} (h : List.Forall₂ R as bs) (hS : as.Pairwise S)
    (hT : ∀ a a' b b', S a a' → R a b → R a' b' → T b b') : bs.Pairwise T := by
  obtain ⟨hlength, hR⟩ := List.forall₂_iff_get.1 h
  rw [List.pairwise_iff_getElem] at hS ⊢
  intro i j hi hj hij
  exact hT _ _ _ _ (hS i j (hlength ▸ hi) (hlength ▸ hj) hij) (hR i _ hi) (hR j _ hj)

section Runs
variable {ν : Type} {s : Cluster.Settings} {host : Host ν}

variable {start now : Instant} {nodes : ν} {master slave : Monitor} {is : List Stimulus}
  {rs : List Reaction} {w : Option Nat} {m : Machine ν Cluster Outcome Transition}

/-- Each verdict of a check belongs to a look at the slave, in their order. -/
theorem exists_looks
    (hrun : Sequential s host (.initial start nodes (.ofMonitors master slave now)) is rs w m) :
    ∃ looks, looks <+: pasts [] is ∧
      List.Forall₂ (Belongs s.tick slave.lastOk) looks (verdicts rs) := by
  obtain ⟨_, -, htold⟩ := (Told.initial s start now nodes master slave).run hrun
  obtain ⟨rest, hrest⟩ := htold.isPrefix
  have hhanded := (Oversees.run s.tick slave.tracked is).handed
  rw [← hrest, verdicts_append] at hhanded
  exact ⟨_, List.take_prefix _ _, List.forall₂_take_append _ _ _ hhanded⟩

/-- Probes and checks one after another, under a clock that does not go back. Each verdict of a
check belongs to a look at the slave, in their order; no check fails, and a window that a check
recovers is replayed and ends with the slave's latest contact. The ends of the windows never go
back. -/
theorem recovery_windows_never_empty
    (hrun : Sequential s host (.initial start nodes (.ofMonitors master slave now)) is rs w m)
    (htick : s.tick.nanos ≠ 0) (hfits : s.tick.fitsCalendar = true)
    (hclock : GoesForward s.tick (slave.lastOk :: seenMoments is)) :
    (∃ looks, looks <+: pasts [] is ∧ List.Forall₂
      (fun past v => past ++ [.looked] <+: is ∧ v ≠ .overflow ∧
        ∀ start stop, v = .recover start stop → Replays s slave.lastOk past start stop)
      looks (verdicts rs)) ∧
    (windows rs).Pairwise (·.2 ≤ ·.2) := by
  obtain ⟨looks, hlooks, hhanded⟩ := exists_looks hrun
  have hlook : ∀ past ∈ looks, past ++ [.looked] <+: is := fun past hpast =>
    (between_of_mem_pasts (hlooks.subset hpast)).2
  replace hhanded := (List.forall₂_and_left looks (verdicts rs)).2 ⟨hlook, hhanded⟩
  refine ⟨⟨looks, hlooks, hhanded.imp ?replayed⟩, ?ordered⟩
  case replayed =>
    rintro past v ⟨hpast, hv⟩
    refine ⟨hpast, hv.ne_overflow hfits (hclock.of_prefix hpast), ?_⟩
    rintro start stop rfl
    exact IsWindow.replays hv htick hfits (hclock.of_prefix hpast)
  case ordered =>
    rw [windows, List.pairwise_filterMap]
    refine pairwise_of_forall₂ hhanded ((pasts_pairwise [] is).sublist hlooks.sublist) ?_
    rintro past past' v v' hle ⟨-, hv⟩ ⟨hpast', hv'⟩ window heq window' heq'
    have hordered := (List.pairwise_cons.1 (hclock.of_prefix hpast').ordered).2
    rw [Verdict.eq_recover_of_window? heq] at hv
    rw [Verdict.eq_recover_of_window? heq'] at hv'
    exact IsWindow.stop_le hv hv' hle hordered

/-- A slave that is suspected and seen again is recovered by the check after. -/
private theorem Sequential.exists_window {m₀ : Machine ν Cluster Outcome Transition}
    (h : Sequential s host m₀ is rs none m)
    (hsuspected : m.shared.supervisor.view.state = .slaveSuspected) {left : Instant}
    (hleft : m.shared.supervisor.slave.lastOk.earlier? (Supervisor.margin s.tick) = some left)
    (now : Instant) :
    ∃ rs' w m', Sequential s host m₀ (is ++ [.seen now, .looked]) rs' w m' ∧
      windows rs' = windows rs ++ [(left, now)] := by
  obtain ⟨m₁, hrun₁, hshared₁⟩ := h.exists_probed (.seen ⟨1⟩ ⟨.zero, ""⟩ now)
  obtain ⟨m₂, _, _, master, slave, hslave, hrun₂, -⟩ := hrun₁.exists_decided
  rw [hshared₁] at hslave hrun₂
  rw [List.append_assoc] at hrun₂
  refine ⟨_, _, m₂, hrun₂, ?_⟩
  have hup : slave.isUp = true := congrArg Tracked.isUp hslave
  have hlast : slave.lastOk = now := congrArg Tracked.lastOk hslave
  have hstate : m.shared.supervisor.state = .slaveSuspected := hsuspected
  rw [windows, verdicts_append, List.filterMap_append]
  refine congrArg (windows rs ++ ·) ?_
  simp only [verdicts, List.filterMap_cons, List.filterMap_nil, Supervisor.verdict, hstate, hup,
    hlast, hleft, Verdict.window?]

end Runs

private def minuteTicks : Cluster.Settings :=
  ⟨.ofSecs 60, .forward, ⟨.ofSecs 3600, .ofSecs 3600, 1, 1000, ⟨1, .zero⟩⟩⟩

private def unseenSlave : Monitor := .unseen "b" .zero .epoch

private def returning : Instant := ⟨10, 0, by decide⟩

private def minuteBefore : Instant := ⟨-60, 0, by decide⟩

/-- A slave that is down from the beginning and seen after ten seconds is recovered from a minute
before the beginning on. -/
theorem recovery_windows_never_empty_first_contact :
    ∃ (rs : List Reaction) (w : Option Nat) (m : Machine Node.Network Cluster Outcome Transition),
      Sequential minuteTicks Node.Network.host
        (.initial .epoch ⟨[]⟩ (.ofMonitors (.unseen "a" .zero .epoch) unseenSlave .epoch))
        [.looked, .seen returning, .looked] rs w m ∧
      minuteTicks.tick.nanos ≠ 0 ∧ minuteTicks.tick.fitsCalendar = true ∧
      GoesForward minuteTicks.tick [.epoch, returning] ∧
      windows rs = [(minuteBefore, returning)] ∧
      (∃ looks, looks <+: [[], [.looked, .seen returning]] ∧ List.Forall₂
        (fun past v => past ++ [.looked] <+: [.looked, .seen returning, .looked] ∧
          v ≠ .overflow ∧ ∀ start stop, v = .recover start stop →
            Replays minuteTicks .epoch past start stop) looks (verdicts rs)) ∧
      (windows rs).Pairwise (·.2 ≤ ·.2) := by
  have hbegin : Sequential minuteTicks Node.Network.host
    (.initial .epoch ⟨[]⟩ (.ofMonitors (.unseen "a" .zero .epoch) unseenSlave .epoch))
    [] [] none _ := .start
  obtain ⟨rs₁, m₁, hrun₁, hstate, -, hleft⟩ := hbegin.exists_suspected rfl rfl
  obtain ⟨_, hnone, htold⟩ := (Told.initial minuteTicks _ _ _ _ _).run hrun₁
  obtain rfl := Option.map_eq_none_iff.1 hnone
  obtain ⟨hreactions, -⟩ := htold.complete
  have hstart : m₁.shared.supervisor.slave.lastOk.earlier? (Supervisor.margin minuteTicks.tick) =
      some minuteBefore := by
    rw [hleft]
    rfl
  obtain ⟨rs, w, m, hrun, hwindows⟩ := hrun₁.exists_window hstate hstart returning
  have htick : minuteTicks.tick.nanos ≠ 0 := by decide
  have hfits : minuteTicks.tick.fitsCalendar = true := by decide
  have hclock : GoesForward minuteTicks.tick [.epoch, returning] := ⟨by decide, by decide⟩
  rw [hreactions] at hwindows
  exact ⟨rs, w, m, hrun, htick, hfits, hclock, hwindows,
    recovery_windows_never_empty hrun htick hfits hclock⟩

end SeriesReplica.Cluster
