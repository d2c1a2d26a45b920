import SeriesReplica.Proofs.Concurrent.Adequacy
import SeriesReplica.Proofs.Concurrent.Fibers
import SeriesReplica.Proofs.Concurrent.Trace

/-! The discipline of schedules. Whatever the schedule of a process that leaves all calls to jobs,
no more jobs run at a time than its pools allow, and the trace of its calls falls into phases that
the process goes through, each of them over before the next one begins. -/
namespace SeriesReplica.Concurrent
open Time

variable {ν σ ρ α : Type} {host : Host ν}

namespace Machine

variable {m m' : Machine ν σ ρ α}

theorem dueAt_mono (h : m.now ≤ m'.now) (wake : Span) : m.dueAt wake ≤ m'.dueAt wake := by
  by_cases hwake : m.now < wake
  · rw [dueAt, if_pos hwake]
    exact m'.le_dueAt wake
  · rw [dueAt, if_neg hwake]
    exact Nat.le_trans h (m'.now_le_dueAt wake)

theorem perform_fst (host : Host ν) (m : Machine ν σ ρ α) (action : Action) :
    (m.perform host action).1 = (host.answer m.start m.now m.nodes action).1 := by
  obtain ⟨log, h⟩ := perform_eq host m action
  rw [h]

/-- A worker's action may be a call of its job. -/
theorem calls_worker (m : Machine ν σ ρ α) (id : Nat) {w : Worker ρ} {action : Action}
    {next : action.Answer → Routine ρ} (h : w.routine = .perform action next) :
    m.calls host (w.fiber id) = action.events (some w.index) (m.dueAt w.wake)
      (host.answer m.start (m.dueAt w.wake) m.nodes action).1 := by
  simp only [calls, Worker.fiber, h, perform_fst]

theorem calls_worker_done (m : Machine ν σ ρ α) (id : Nat) {w : Worker ρ} {v : ρ}
    (h : w.routine = .done v) : m.calls host (w.fiber id) = [] := by
  simp only [calls, Worker.fiber, h]

end Machine

/-- The phases that lie behind a process that has come as far as `p`: each was over before the next
one began, all are over at a moment, and what `p` still goes through comes after them. -/
structure Behind (origin p : Process σ ρ α) (qs : List (Phase ρ)) (moment : Span) : Prop where
  ordered : qs.Pairwise fun q q' => Precedes q.events q'.events
  ended : ∀ q ∈ qs, ∀ e ∈ q.events, e.ended ≤ moment
  goes : ∀ a rest, p.GoesThrough a rest → origin.GoesThrough a (qs ++ rest)

namespace Behind
variable {origin p : Process σ ρ α} {qs : List (Phase ρ)} {moment moment' : Span}

/-- A process that goes on without a pool leaves the same phases behind. -/
theorem goOn (h : Behind origin p qs moment) {p' : Process σ ρ α}
    (hp : ∀ a rest, p'.GoesThrough a rest → p.GoesThrough a rest) (hle : moment ≤ moment') :
    Behind origin p' qs moment' where
  ordered := h.ordered
  ended q hq e he := Nat.le_trans (h.ended q hq e he) hle
  goes a rest hrest := h.goes a rest (hp a rest hrest)

/-- A pool that is over is one more phase. -/
theorem close {n : Nat} {jobs : List (Routine ρ)} {next : List ρ → Process σ ρ α}
    (h : Behind origin (.perform (.pool n jobs) next) qs moment) {q : Phase ρ}
    (hq : q.IsComplete (max n 1))
    (hjobs : q.jobs = jobs) (hbegun : ∀ e ∈ q.events, moment ≤ e.begun)
    (hended : ∀ e ∈ q.events, e.ended ≤ moment') (hle : moment ≤ moment') :
    Behind origin (next q.results) (qs ++ [q]) moment' where
  ordered := by
    refine List.pairwise_append.2 ⟨h.ordered, List.pairwise_singleton _ _, ?_⟩
    rintro q₀ hq₀ q' hq' e he e' he'
    obtain rfl := List.mem_singleton.1 hq'
    exact Nat.le_trans (h.ended q₀ hq₀ e he) (hbegun e' he')
  ended q' hq' e he := by
    rcases List.mem_append.1 hq' with hq' | hq'
    · exact Nat.le_trans (h.ended q' hq' e he) hle
    · obtain rfl := List.mem_singleton.1 hq'
      exact hended e he
  goes a rest hrest := by
    rw [List.append_assoc]
    exact h.goes a _ ⟨q, rest, rfl, hq, hjobs, hrest⟩

end Behind

/-- A job had begun to make calls at a moment, and had one under way then or still has a worker. -/
def Pool.IsBusy (p : Pool σ ρ α) (es : List Event) (moment : Span) (i : Nat) : Prop :=
  (∃ e ∈ es, e.job = some i ∧ e.begun ≤ moment) ∧
    ((∃ e ∈ es, e.job = some i ∧ moment < e.ended) ∨ i ∈ p.workers.map Worker.index)

/-- The trace of a pool that is being run, since it was opened: what its jobs still have to do comes
after the calls they have made, and a call that has not ended keeps the worker busy who made it. -/
structure Underway (limit : Nat) (p : Pool σ ρ α) (m : Machine ν σ ρ α)
    (jobs left : List (Routine ρ)) (opened : Span) (es : List Event) : Prop where
  opened_le : opened ≤ m.now
  length : left.length = jobs.length
  workers_le : p.workers.length ≤ limit
  owned : ∀ e ∈ es, ∃ i < jobs.length, e.job = some i
  unbegun : ∀ e ∈ es, ∀ x ∈ p.waiting, e.job ≠ some x.1
  talks : ∀ (i : Nat) (r r' : Routine ρ) (a : ρ) (xs : List Exchange), jobs[i]? = some r →
    left[i]? = some r' → r'.Talks a xs → r.Talks a ((Event.ofJob i es).map Event.exchange ++ xs)
  inTurn : ∀ i, (Event.ofJob i es).Pairwise fun e e' => e.ended ≤ e'.begun
  begun : ∀ e ∈ es, opened ≤ e.begun
  ended : ∀ e ∈ es, e.ended ≤ m.now ∨
    ∃ w ∈ p.workers, e.job = some w.index ∧ e.ended ≤ m.dueAt w.wake
  few : ∀ (moment : Span) (is : List Nat), is.Nodup → (∀ i ∈ is, p.IsBusy es moment i) →
    is.length ≤ limit

/-- No job of an empty trace is in flight. -/
theorem Event.atMost_nil (limit : Nat) : Event.AtMost limit [] := by
  intro moment is _ hflight
  have hnone : is = [] := List.eq_nil_iff_forall_not_mem.2 fun i hi => by
    simpa using (hflight i hi).1
  simp [hnone]

namespace Underway
variable {limit : Nat} {p p' : Pool σ ρ α} {m m' : Machine ν σ ρ α} {jobs left : List (Routine ρ)}
  {opened : Span} {es es' : List Event} {w : Worker ρ} {l r : List (Worker ρ)}

/-- The jobs of a pool that has just been opened have made no calls. -/
theorem nil (hopened : opened ≤ m.now) (hworkers : p.workers.length ≤ limit) :
    Underway limit p m jobs jobs opened [] := by
  refine ⟨hopened, rfl, hworkers, by simp, by simp, fun i r r' a xs hr hr' h => ?_,
    fun _ => .nil, by simp, by simp, fun moment is hnodup hbusy => ?_⟩
  · obtain rfl := Option.some.inj (hr.symm.trans hr')
    exact h
  · refine Event.atMost_nil _ moment is hnodup fun i hi => ?_
    simpa using (hbusy i hi).1

/-- When a worker goes on, its calls have ended. -/
theorem ended_le (h : Underway limit p m jobs left opened es) (hserves : p.Serves m left)
    (hw : w ∈ p.workers) {e : Event} (he : e ∈ es) (hjob : e.job = some w.index) :
    e.ended ≤ m.dueAt w.wake := by
  rcases h.ended e he with hle | ⟨v, hv, hvjob, hle⟩
  · exact Nat.le_trans hle (m.now_le_dueAt w.wake)
  · have hindex : v.index = w.index := Option.some.inj (hvjob.symm.trans hjob)
    exact hserves.worker_eq hv hw hindex ▸ hle

/-- A worker goes on at the moment it is due: its calls have ended, and those that have not are of
workers that are still there. -/
theorem ended_later (h : Underway limit p m jobs left opened es) (hlr : p.workers = l ++ w :: r)
    (hnow : m'.now = m.dueAt w.wake) {e : Event} (he : e ∈ es) :
    e.ended ≤ m'.now ∨ ∃ v ∈ l ++ r, e.job = some v.index ∧ e.ended ≤ m'.dueAt v.wake := by
  have hle : m.now ≤ m'.now := hnow ▸ m.now_le_dueAt w.wake
  rcases h.ended e he with hended | ⟨v, hv, hjob, hended⟩
  · exact .inl (Nat.le_trans hended hle)
  · rw [hlr, List.perm_middle.mem_iff, List.mem_cons] at hv
    rcases hv with rfl | hv
    · exact .inl (hnow ▸ hended)
    · exact .inr ⟨v, hv, hjob, Nat.le_trans hended (Machine.dueAt_mono hle v.wake)⟩

/-- At a moment that has not passed only jobs with a worker are busy, and at a moment that has
passed none comes in addition. -/
private theorem few_later (h : Underway limit p m jobs left opened es)
    (hworkers : p'.workers.length ≤ limit)
    (hended : ∀ e ∈ es', e.ended ≤ m'.now ∨
      ∃ v ∈ p'.workers, e.job = some v.index ∧ e.ended ≤ m'.dueAt v.wake)
    (hpast : ∀ moment i, moment < m'.now → p'.IsBusy es' moment i → p.IsBusy es moment i)
    (moment : Span) (is : List Nat) (hnodup : is.Nodup)
    (hbusy : ∀ i ∈ is, p'.IsBusy es' moment i) : is.length ≤ limit := by
  by_cases hmoment : moment < m'.now
  · exact h.few moment is hnodup fun i hi => hpast moment i hmoment (hbusy i hi)
  · have hsubset : is ⊆ p'.workers.map Worker.index := by
      intro i hi
      rcases (hbusy i hi).2 with ⟨e, he, hjob, hlt⟩ | hi
      · rcases hended e he with hle | ⟨v, hv, hvjob, -⟩
        · exact absurd (Nat.lt_of_lt_of_le hlt hle) hmoment
        · exact List.mem_map.2 ⟨v, hv, Option.some.inj (hvjob.symm.trans hjob)⟩
      · exact hi
    have hlength := (hnodup.subperm hsubset).length_le
    rw [List.length_map] at hlength
    exact hlength.trans hworkers

section Action
variable {action : Action} {next : action.Answer → Routine ρ} {news : List Event}

/-- What a job still has to do comes after its new call, too. -/
private theorem talks_act (h : Underway limit p m jobs left opened es)
    (hleft : left[w.index]? = some (.perform action next)) (now : Span)
    (reply : Span × action.Answer) (i : Nat) (t t' : Routine ρ) (a : ρ) (xs : List Exchange)
    (ht : jobs[i]? = some t) (ht' : (left.set w.index (next reply.2))[i]? = some t')
    (htalks : t'.Talks a xs) :
    t.Talks a ((Event.ofJob i (es ++ action.events (some w.index) now reply)).map
      Event.exchange ++ xs) := by
  rw [Event.ofJob_append, Action.ofJob_events]
  by_cases hi : some w.index = some i
  · obtain rfl := Option.some.inj hi
    rw [List.getElem?_set_self (List.getElem?_eq_some_iff.1 hleft).1] at ht'
    obtain rfl := Option.some.inj ht'
    rw [if_pos rfl, List.map_append, Action.events_map_exchange, List.append_assoc]
    exact h.talks w.index t _ a _ ht hleft ⟨reply.2, xs, rfl, htalks⟩
  · rw [List.getElem?_set_ne fun heq => hi (congrArg some heq)] at ht'
    rw [if_neg hi, List.append_nil]
    exact h.talks i t t' a xs ht ht' htalks

/-- A worker that goes on calls after its calls have ended. -/
private theorem inTurn_act (h : Underway limit p m jobs left opened es) (hserves : p.Serves m left)
    (hw : w ∈ p.workers) (hpairwise : news.Pairwise fun e e' => e.ended ≤ e'.begun)
    (hnews : ∀ e ∈ news, e.job = some w.index ∧ e.begun = m.dueAt w.wake) (i : Nat) :
    (Event.ofJob i (es ++ news)).Pairwise fun e e' => e.ended ≤ e'.begun := by
  rw [Event.ofJob_append]
  refine List.pairwise_append.2 ⟨h.inTurn i, hpairwise.filter _, fun e he e' he' => ?_⟩
  obtain ⟨he, hjob⟩ := Event.mem_ofJob.1 he
  obtain ⟨he', hjob'⟩ := Event.mem_ofJob.1 he'
  obtain ⟨howner, hbegun⟩ := hnews e' he'
  rw [hbegun]
  exact h.ended_le hserves hw he (hjob.trans (hjob'.symm.trans howner))

/-- A new call of a worker makes no job busy at a moment that has passed. -/
private theorem isBusy_act (hw : w ∈ p.workers)
    (hindices : p'.workers.map Worker.index = p.workers.map Worker.index)
    (hnews : ∀ e ∈ news, e.job = some w.index ∧ e.begun = m.dueAt w.wake) {moment : Span} {i : Nat}
    (hmoment : moment < m.dueAt w.wake) (hbusy : p'.IsBusy (es ++ news) moment i) :
    p.IsBusy es moment i := by
  obtain ⟨⟨e, he, hjob, hbegun⟩, hbusy⟩ := hbusy
  rw [hindices] at hbusy
  constructor
  · refine ⟨e, (List.mem_append.1 he).resolve_right fun he => ?_, hjob, hbegun⟩
    rw [(hnews e he).2] at hbegun
    exact absurd hmoment (Nat.not_lt.2 hbegun)
  · rcases hbusy with ⟨e', he', hjob', hlate⟩ | hi
    · rcases List.mem_append.1 he' with he' | he'
      · exact .inl ⟨e', he', hjob', hlate⟩
      · obtain rfl := Option.some.inj ((hnews e' he').1.symm.trans hjob')
        exact .inr (List.mem_map_of_mem hw)
    · exact .inr hi

/-- A worker takes an action, which may be a call of its job. -/
theorem act (h : Underway limit p m jobs left opened es) (host : Host ν) (hserves : p.Serves m left)
    (hlr : p.workers = l ++ w :: r) (hroutine : w.routine = .perform action next) :
    ∃ w' : Worker ρ, let p' : Pool σ ρ α := { p with workers := l ++ w' :: r }
      let reply := (host.answer m.start (m.dueAt w.wake) m.nodes action).1
      p'.Serves (m.resume host (w.fiber p.parent)) (left.set w.index (next reply.2)) ∧
      Underway limit p' (m.resume host (w.fiber p.parent)) jobs (left.set w.index (next reply.2))
        opened (es ++ m.calls host (w.fiber p.parent)) := by
  have hw : w ∈ p.workers := hlr ▸ List.mem_append_right l List.mem_cons_self
  obtain ⟨w', hindex, hdue, hserves', -, hnow, -⟩ := hserves.act host hlr hroutine
  refine ⟨w', hserves', ?_⟩
  rw [m.calls_worker p.parent hroutine]
  set m' := m.resume host (w.fiber p.parent)
  set reply := (host.answer m.start (m.dueAt w.wake) m.nodes action).1
  set news := action.events (some w.index) (m.dueAt w.wake) reply
  let p' : Pool σ ρ α := { p with workers := l ++ w' :: r }
  have hindices : p'.workers.map Worker.index = p.workers.map Worker.index := by
    simp [p', hlr, hindex]
  have hworkers : p'.workers.length ≤ limit := by
    rw [← List.length_map Worker.index, hindices, List.length_map]
    exact h.workers_le
  have hnews : ∀ e ∈ news, e.job = some w.index ∧ e.begun = m.dueAt w.wake :=
    fun e he => ⟨(Action.mem_events he).1, (Action.mem_events he).2.1⟩
  have hended : ∀ e ∈ es ++ news, e.ended ≤ m'.now ∨
      ∃ v ∈ p'.workers, e.job = some v.index ∧ e.ended ≤ m'.dueAt v.wake := by
    intro e he
    rcases List.mem_append.1 he with he | he
    · refine (h.ended_later hlr hnow he).imp_right fun ⟨v, hv, hjob, hle⟩ => ?_
      exact ⟨v, List.perm_middle.mem_iff.2 (List.mem_cons_of_mem w' hv), hjob, hle⟩
    · obtain ⟨hjob, -, hat⟩ := Action.mem_events he
      refine .inr ⟨w', List.mem_append_right l List.mem_cons_self, hindex ▸ hjob, ?_⟩
      rw [hat, hdue]
      exact Nat.le_refl _
  have hleft : left[w.index]? = some (.perform action next) := hroutine ▸ hserves.running w hw
  have hopened : opened ≤ m.dueAt w.wake := Nat.le_trans h.opened_le (m.now_le_dueAt w.wake)
  refine ⟨hnow ▸ hopened, by rw [List.length_set, h.length], hworkers, ?_, ?_,
    h.talks_act hleft (m.dueAt w.wake) reply,
    h.inTurn_act hserves hw (Action.events_pairwise _) hnews, ?_, hended,
    h.few_later hworkers hended fun moment i hmoment => isBusy_act hw hindices hnews (hnow ▸ hmoment)⟩
  · refine List.forall_mem_append.2 ⟨h.owned, fun e he => ⟨w.index, ?_, (hnews e he).1⟩⟩
    exact h.length ▸ (List.getElem?_eq_some_iff.1 hleft).1
  · refine List.forall_mem_append.2 ⟨h.unbegun, fun e he x hx => ?_⟩
    rw [(hnews e he).1]
    exact fun heq => hserves.index_ne hw hx (Option.some.inj heq)
  · exact List.forall_mem_append.2 ⟨h.begun, fun e he => (hnews e he).2 ▸ hopened⟩

end Action

/-- A worker is gone, and a new one may have taken its place. -/
theorem deliver (h : Underway limit p m jobs left opened es) (hlr : p.workers = l ++ w :: r)
    (hnow : m'.now = m.dueAt w.wake) {started : List (Worker ρ)}
    (hrefill : p.Refill p' (l ++ r) started) : Underway limit p' m' jobs left opened es := by
  have hworkers := hrefill.workers_eq
  have hwaits : ∀ {i}, i ∈ started.map Worker.index ++ p'.waiting.map Prod.fst →
      ∀ e ∈ es, e.job ≠ some i := by
    intro i hi e he
    rw [← hrefill.waiting_eq] at hi
    obtain ⟨x, hx, rfl⟩ := List.mem_map.1 hi
    exact h.unbegun e he x hx
  have hended : ∀ e ∈ es, e.ended ≤ m'.now ∨
      ∃ v ∈ p'.workers, e.job = some v.index ∧ e.ended ≤ m'.dueAt v.wake := by
    intro e he
    refine (h.ended_later hlr hnow he).imp_right fun ⟨v, hv, hrest⟩ => ⟨v, ?_, hrest⟩
    rw [hworkers]
    exact List.mem_append_left started hv
  have hlength : p'.workers.length ≤ limit := by
    have hle := h.workers_le
    have hone := hrefill.started_le
    rw [hlr, List.length_append, List.length_cons] at hle
    rw [hworkers, List.length_append, List.length_append]
    omega
  refine ⟨?_, h.length, hlength, h.owned, fun e he x hx => ?_, h.talks, h.inTurn, h.begun, hended,
    h.few_later hlength hended ?_⟩
  · exact hnow ▸ Nat.le_trans h.opened_le (m.now_le_dueAt w.wake)
  · exact hwaits (List.mem_append_right _ (List.mem_map_of_mem hx)) e he
  · rintro moment i - ⟨⟨e, he, hjob, hbegun⟩, hbusy⟩
    refine ⟨⟨e, he, hjob, hbegun⟩, hbusy.imp_right fun hi => ?_⟩
    rw [hworkers, List.map_append, List.mem_append] at hi
    rcases hi with hi | hi
    · obtain ⟨v, hv, rfl⟩ := List.mem_map.1 hi
      refine List.mem_map_of_mem ?_
      rw [hlr]
      exact List.perm_middle.mem_iff.2 (List.mem_cons_of_mem w hv)
    · exact absurd hjob (hwaits (List.mem_append_left _ hi) e he)

/-- Once all jobs are done, the pool is over. -/
theorem isComplete (h : Underway limit p m jobs left opened es) {results : List ρ}
    (hleft : left = results.map .done) : (⟨jobs, es, results⟩ : Phase ρ).IsComplete limit where
  length := by rw [← h.length, hleft, List.length_map]
  owned := h.owned
  talks i r a hr ha := by
    have hdone : left[i]? = some (.done a) := by
      rw [hleft, List.getElem?_map, ha, Option.map_some]
    simpa using h.talks i r _ a [] hr hdone ⟨rfl, rfl⟩
  inTurn := h.inTurn
  atMost moment is hnodup hflight :=
    h.few moment is hnodup fun i hi => (hflight i hi).imp_right .inl

end Underway

/-- A pool of no jobs is over at once. -/
theorem Phase.isComplete_nil (limit : Nat) : (⟨[], [], []⟩ : Phase ρ).IsComplete limit :=
  ⟨rfl, by simp, by simp, fun _ => .nil, Event.atMost_nil limit⟩

/-- How a machine and its trace stand to a process that has been launched as the fiber `id`: the
process goes on alone, or waits for a pool, or has ended. -/
inductive Follows (origin : Process σ ρ α) (limit id : Nat) :
    List Event → Machine ν σ ρ α → Prop where
  | alone {m : Machine ν σ ρ α} (p : Process σ ρ α) (qs : List (Phase ρ)) (wake : Span)
    (turn : Nat)
    (fibers : m.fibers = [⟨id, wake, turn, .process (p.bind fun a => .done (some a)) .nothing⟩])
    (fresh : id < m.fresh) (delegates : p.Delegates limit)
    (behind : Behind origin p qs (m.dueAt wake)) :
    Follows origin limit id (qs.flatMap Phase.events) m
  | pooling {m : Machine ν σ ρ α} (pool : Pool σ ρ α) (n : Nat) (jobs left : List (Routine ρ))
    (next : List ρ → Process σ ρ α) (qs : List (Phase ρ)) (opened : Span) (es : List Event)
    (serves : pool.Serves m left) (parent_eq : pool.parent = id)
    (next_eq : pool.next = fun results => (next results).bind fun a => .done (some a))
    (delegates : Process.Delegates limit (.perform (.pool n jobs) next))
    (behind : Behind origin (.perform (.pool n jobs) next) qs opened)
    (underway : Underway (max n 1) pool m jobs left opened es) :
    Follows origin limit id (qs.flatMap Phase.events ++ es) m
  | ended {m : Machine ν σ ρ α} (a : α) (qs : List (Phase ρ)) (fibers : m.fibers = [])
    (answer : m.answer? id = some a) (goes : origin.GoesThrough a qs)
    (ordered : qs.Pairwise fun q q' => Precedes q.events q'.events) :
    Follows origin limit id (qs.flatMap Phase.events) m

namespace Follows
variable {origin : Process σ ρ α} {limit id : Nat} {es : List Event} {m : Machine ν σ ρ α}

/-- No more jobs run than a pool allows. -/
theorem running_le (h : Follows origin limit id es m) : m.running ≤ limit := by
  cases h with
  | alone _ _ _ _ fibers => simp [Machine.running, fibers]
  | pooling pool _ _ _ _ _ _ _ serves _ _ delegates _ underway =>
    rw [Machine.running, serves.fibers, List.countP_cons, List.countP_map]
    simpa [Pool.main, Worker.fiber, Function.comp_def] using
      underway.workers_le.trans delegates.1
  | ended _ _ fibers => simp [Machine.running, fibers]

private theorem flatMap_concat (qs : List (Phase ρ)) (q : Phase ρ) :
    (qs ++ [q]).flatMap Phase.events = qs.flatMap Phase.events ++ q.events := by simp

/-- A process that goes on alone takes a step. -/
private theorem step_alone {p : Process σ ρ α} {qs : List (Phase ρ)} {wake : Span} {turn : Nat}
    (hfibers : m.fibers =
      [⟨id, wake, turn, .process (p.bind fun a => .done (some a)) .nothing⟩])
    (hfresh : id < m.fresh) (hdelegates : p.Delegates limit)
    (hbehind : Behind origin p qs (m.dueAt wake)) (host : Host ν) :
    let f : Fiber σ ρ α := ⟨id, wake, turn, .process (p.bind fun a => .done (some a)) .nothing⟩
    Follows origin limit id (qs.flatMap Phase.events ++ m.calls host f) (m.resume host f) := by
  intro f
  let m₁ : Machine ν σ ρ α := { m with now := m.dueAt wake }
  cases p with
  | done a =>
    have hgoes := hbehind.goes a [] ⟨rfl, rfl⟩
    rw [List.append_nil] at hgoes
    have hbody : f.body = .process (.done (some a)) .nothing := rfl
    rw [show m.calls host f = [] from rfl, List.append_nil, Machine.resume_done hbody]
    refine .ended a qs ?_ ?_ hgoes hbehind.ordered
    · simp [Machine.remove, hfibers, f]
    · simp [Machine.answer?, Machine.remove, f]
  | perform effect next =>
    cases effect with
    | act action =>
      obtain ⟨log, wake', turn', fresh, hfresh', hdue, hresume⟩ :=
        Machine.resume_act host m id turn wake action fun a => (next a).bind fun b => .done (some b)
      set answer := (host.answer m.start (m.dueAt wake) m.nodes action).1
      have hcalls : m.calls host f = [] := congrArg (List.map _) (hdelegates.1 _)
      rw [hcalls, List.append_nil]
      refine (congrArg (Follows origin limit id _) hresume).mpr ?_
      refine .alone (next answer.2) qs wake' turn' (Machine.put_single hfibers rfl)
        (Nat.lt_of_lt_of_le hfresh hfresh') (hdelegates.2 answer.2) ?_
      exact hbehind.goOn (fun a rest h => ⟨answer.2, h⟩) (hdue ▸ Nat.le_add_right _ _)
    | update change =>
      rw [show m.calls host f = [] from rfl, List.append_nil]
      refine .alone (next m.shared) qs wake turn (Machine.put_single (m := m₁) hfibers rfl)
        hfresh (hdelegates m.shared) ?_
      exact hbehind.goOn (fun a rest h => ⟨m.shared, h⟩) (m₁.now_le_dueAt wake)
    | pool n jobs =>
      rw [show m.calls host f = [] from rfl]
      let next' (results : List ρ) : Process σ ρ (Option α) :=
        (next results).bind fun a => .done (some a)
      change Follows origin limit id _ (m₁.openPool f n jobs next' .nothing)
      -- Without jobs the pool is a phase of its own at once.
      by_cases hjobs : jobs = []
      · subst hjobs
        have hclose := hbehind.close (Phase.isComplete_nil _) rfl (by simp) (by simp)
          (m₁.now_le_dueAt wake)
        rw [← flatMap_concat qs ⟨[], [], []⟩]
        exact .alone (next []) _ wake turn (Machine.put_single (m := m₁) hfibers rfl) hfresh
          (hdelegates.2 []) hclose
      · obtain ⟨hserves, -, hfew, hlater, -⟩ :=
          Machine.openPool_serves (m := m₁) (f := f) n next' hfibers hfresh hjobs
        exact .pooling (m₁.opened f n jobs next') n jobs jobs next qs (m.dueAt wake) [] hserves
          rfl rfl hdelegates hbehind (.nil hlater.now hfew)

/-- A worker of a pool takes a step. -/
private theorem step_worker {pool : Pool σ ρ α} {n : Nat} {jobs left : List (Routine ρ)}
    {next : List ρ → Process σ ρ α} {qs : List (Phase ρ)} {opened : Span}
    (hserves : pool.Serves m left) (hparent : pool.parent = id)
    (hnext : pool.next = fun results => (next results).bind fun a => .done (some a))
    (hdelegates : Process.Delegates limit (.perform (.pool n jobs) next))
    (hbehind : Behind origin (.perform (.pool n jobs) next) qs opened)
    (hunderway : Underway (max n 1) pool m jobs left opened es) (host : Host ν) {w : Worker ρ}
    (hw : w ∈ pool.workers) :
    Follows origin limit id (qs.flatMap Phase.events ++ es ++ m.calls host (w.fiber pool.parent))
      (m.resume host (w.fiber pool.parent)) := by
  obtain ⟨l, r, hlr⟩ := List.append_of_mem hw
  cases hroutine : w.routine with
  | perform action next' =>
    obtain ⟨w', hserves', hunderway'⟩ := hunderway.act host hserves hlr hroutine
    rw [List.append_assoc]
    exact .pooling _ n jobs _ next qs opened _ hserves' hparent hnext hdelegates hbehind hunderway'
  | done v =>
    obtain ⟨hdone, hlater, hnow, -⟩ := hserves.deliver host hlr hroutine
    rw [m.calls_worker_done pool.parent hroutine, List.append_nil]
    set m' := m.resume host (w.fiber pool.parent)
    rcases hdone with ⟨p', started, hserves', hrefill, -⟩ |
      ⟨hnone, results, wake, turn, hleft, hfresh, hfibers⟩
    · exact .pooling p' n jobs left next qs opened es hserves' (hrefill.parent_eq.trans hparent)
        (hrefill.next_eq.trans hnext) hdelegates hbehind (hunderway.deliver hlr hnow hrefill)
    · have hopened : opened ≤ m'.now := Nat.le_trans hunderway.opened_le hlater.now
      have hover : ∀ e ∈ es, e.ended ≤ m'.dueAt wake := by
        intro e he
        rcases hunderway.ended_later hlr hnow he with hle | ⟨v, hv, -⟩
        · exact Nat.le_trans hle (m'.now_le_dueAt wake)
        · simp [hnone] at hv
      have hclose := hbehind.close (hunderway.isComplete hleft) rfl hunderway.begun hover
        (Nat.le_trans hopened (m'.now_le_dueAt wake))
      rw [hnext, hparent] at hfibers
      rw [← flatMap_concat qs ⟨jobs, es, results⟩]
      exact .alone (next results) _ wake turn hfibers (hparent ▸ hfresh) (hdelegates.2 results)
        hclose

/-- What a process that has been launched is known by is kept by every step. -/
theorem step (h : Follows origin limit id es m) (host : Host ν) {f : Fiber σ ρ α}
    (hf : f ∈ m.fibers) (hrun : f.isRunnable) :
    Follows origin limit id (es ++ m.calls host f) (m.resume host f) := by
  cases h with
  | alone p qs wake turn fibers fresh delegates behind =>
    rw [fibers, List.mem_singleton] at hf
    subst hf
    exact step_alone fibers fresh delegates behind host
  | pooling pool n jobs left next qs opened es serves parent_eq next_eq delegates behind
      underway =>
    rw [serves.fibers, List.mem_cons, List.mem_map] at hf
    obtain rfl | ⟨w, hw, rfl⟩ := hf
    · simp [Fiber.isRunnable, Pool.main] at hrun
    · exact step_worker serves parent_eq next_eq delegates behind underway host hw
  | ended _ _ fibers => simp [fibers] at hf

/-- Where no fiber is left, the process has come to its result, and the trace is that of phases
one after another. -/
theorem at_end (h : Follows origin limit id es m) (hfibers : m.fibers = []) :
    ∃ a qs, m.answer? id = some a ∧ origin.GoesThrough a qs ∧ es = qs.flatMap Phase.events ∧
      qs.Pairwise fun q q' => Precedes q.events q'.events := by
  cases h with
  | alone _ _ _ _ fibers => simp [fibers] at hfibers
  | pooling _ _ _ _ _ _ _ _ serves => simp [serves.fibers] at hfibers
  | ended a qs _ answer goes ordered => exact ⟨a, qs, answer, goes, rfl, ordered⟩

end Follows

namespace Machine

/-- Whatever the schedule of a process that leaves all calls to jobs, machine and trace are at every
moment as the process has brought them about. -/
theorem Traced.follows {p : Process σ ρ α} {limit : Nat} (hp : p.Delegates limit) {start : Instant}
    {nodes : ν} {shared : σ} {es : List Event} {m : Machine ν σ ρ α}
    (h : Traced host ((initial start nodes shared).launch p) es m) :
    Follows p limit 0 es m := by
  induction h with
  | refl =>
    exact .alone p [] .zero 0 rfl Nat.zero_lt_one hp ⟨.nil, by simp, fun a rest h => h⟩
  | step _ member runnable ih => exact ih.step host member runnable

end Machine
end SeriesReplica.Concurrent
