import SeriesReplica.Proofs.Concurrent.Schedule

/-! Pools on the machine. While a fiber waits for its pool, each step is an action of one of the
jobs or hands in a result; no job is lost, and once all are done the fiber goes on with their
results in order. -/
namespace SeriesReplica.Concurrent
open Time

variable {ν σ ρ α : Type}

namespace Machine

/-- A later moment of a machine whose shared state and answers have stayed the same. -/
structure Later (m m' : Machine ν σ ρ α) : Prop where
  start : m'.start = m.start
  shared : m'.shared = m.shared
  answers : m'.answers = m.answers
  now : m.now ≤ m'.now

theorem Later.trans {m m' m'' : Machine ν σ ρ α} (h : m.Later m') (h' : m'.Later m'') :
    m.Later m'' :=
  ⟨h'.start.trans h.start, h'.shared.trans h.shared, h'.answers.trans h.answers,
    Nat.le_trans h.now h'.now⟩

variable {m : Machine ν σ ρ α} {l r : List (Fiber σ ρ α)} {f g : Fiber σ ρ α}

private theorem map_replace (hne : ∀ k ∈ l, k.id ≠ g.id) :
    l.map (fun k => if k.id = g.id then g else k) = l := by
  induction l with
  | nil => rfl
  | cons k l ih =>
    rw [List.map_cons, if_neg (hne k List.mem_cons_self),
      ih fun k' hk' => hne k' (List.mem_cons_of_mem k hk')]

theorem put_fibers (h : m.fibers = l ++ f :: r) (hid : g.id = f.id)
    (hne : ∀ k ∈ l ++ r, k.id ≠ f.id) : (m.put g).fibers = l ++ g :: r := by
  have hl := map_replace fun k hk => hid ▸ hne k (List.mem_append_left r hk)
  have hr := map_replace fun k hk => hid ▸ hne k (List.mem_append_right l hk)
  simp only [put, h, List.map_append, List.map_cons, hl, hr, if_pos hid.symm]

theorem remove_fibers (h : m.fibers = l ++ f :: r) (hne : ∀ k ∈ l ++ r, k.id ≠ f.id) :
    (m.remove f.id).fibers = l ++ r := by
  have hl : l.filter (fun k => k.id ≠ f.id) = l :=
    List.filter_eq_self.2 fun k hk => by simpa using hne k (List.mem_append_left r hk)
  have hr : r.filter (fun k => k.id ≠ f.id) = r :=
    List.filter_eq_self.2 fun k hk => by simpa using hne k (List.mem_append_right l hk)
  simp only [remove, h, List.filter_append, List.filter_cons, hl, hr]
  simp

theorem feed_later (m : Machine ν σ ρ α) (f : Fiber σ ρ α) :
    m.Later (m.feed f) ∧ (m.feed f).now = m.now ∧ (m.feed f).nodes = m.nodes := by
  unfold feed
  split
  · exact ⟨⟨rfl, rfl, rfl, Nat.le_refl _⟩, rfl, rfl⟩
  · split <;> exact ⟨⟨rfl, rfl, rfl, Nat.le_refl _⟩, rfl, rfl⟩
  · exact ⟨⟨rfl, rfl, rfl, Nat.le_refl _⟩, rfl, rfl⟩

/-- A fiber that takes an action gets the host's answer and is put back with what follows. -/
theorem perform_continueAfter (host : Host ν) (m : Machine ν σ ρ α) (f : Fiber σ ρ α)
    (action : Action) (body : action.Answer → Body σ ρ α) :
    ∃ log wake turn fresh, m.fresh ≤ fresh ∧
      (f.wake ≤ m.now → m.dueAt wake = m.now + (host.answer m.start m.now m.nodes action).1.1) ∧
      (m.perform host action).2.continueAfter f (m.perform host action).1.1
          (body (m.perform host action).1.2) =
        { m.put ⟨f.id, wake, turn, body (host.answer m.start m.now m.nodes action).1.2⟩ with
          nodes := (host.answer m.start m.now m.nodes action).2
          log := log
          fresh := fresh } := by
  obtain ⟨log, hlog⟩ := perform_eq host m action
  rw [hlog]
  set answer := host.answer m.start m.now m.nodes action
  by_cases hd : answer.1.1.nanos = 0
  · refine ⟨log, f.wake, f.turn, m.fresh, Nat.le_refl _, fun hwake => ?_, ?_⟩
    · rw [show answer.1.1 = .zero from congrArg Span.mk hd]
      exact if_neg (Nat.not_lt.2 hwake)
    · rw [continueAfter, if_pos hd]
      rfl
  · refine ⟨log, m.now + answer.1.1, m.fresh, m.fresh + 1, Nat.le_succ _, fun _ => ?_, ?_⟩
    · exact if_pos (Nat.lt_add_of_pos_right (Nat.pos_of_ne_zero hd))
    · rw [continueAfter, if_neg hd]
      rfl

end Machine

/-- A fiber that runs a job of a pool. -/
structure Worker (ρ : Type) where
  id : Nat
  wake : Span
  turn : Nat
  index : Nat
  routine : Routine ρ

def Worker.fiber (parent : Nat) (w : Worker ρ) : Fiber σ ρ α :=
  ⟨w.id, w.wake, w.turn, .job parent w.index w.routine⟩

/-- A fiber that waits for its pool, with the fibers that run jobs of the pool. -/
structure Pool (σ ρ α : Type) where
  parent : Nat
  wake : Span
  turn : Nat
  waiting : List (Nat × Routine ρ)
  results : List (Option ρ)
  next : List ρ → Process σ ρ (Option α)
  workers : List (Worker ρ)

namespace Pool

def main (p : Pool σ ρ α) : Fiber σ ρ α :=
  ⟨p.parent, p.wake, p.turn, .gathering p.waiting p.results p.next .nothing⟩

def ids (p : Pool σ ρ α) : List Nat := p.parent :: p.workers.map Worker.id

/-- The jobs without a result, by their positions. -/
def unfinished (p : Pool σ ρ α) : List Nat :=
  p.waiting.map Prod.fst ++ p.workers.map Worker.index

/-- A machine works on a pool, whose jobs have come as far as the given ones. -/
structure Serves (p : Pool σ ρ α) (m : Machine ν σ ρ α) (jobs : List (Routine ρ)) : Prop where
  fibers : m.fibers = p.main :: p.workers.map (Worker.fiber p.parent)
  nodup : p.ids.Nodup
  fresh : ∀ n ∈ p.ids, n < m.fresh
  length : p.results.length = jobs.length
  finished : ∀ (i : Nat) (v : ρ), p.results[i]? = some (some v) → jobs[i]? = some (.done v)
  unique : p.unfinished.Nodup
  unfinished_iff : ∀ i : Nat, p.results[i]? = some none ↔ i ∈ p.unfinished
  waiting : ∀ w ∈ p.waiting, jobs[w.1]? = some w.2
  running : ∀ w ∈ p.workers, jobs[w.index]? = some w.routine

/-- A pool is closed: all jobs are done, and the fiber goes on with their results. -/
def Closed (p : Pool σ ρ α) (m : Machine ν σ ρ α) (jobs : List (Routine ρ)) : Prop :=
  ∃ results wake turn, jobs = results.map .done ∧ p.parent < m.fresh ∧
    m.fibers = [⟨p.parent, wake, turn, .process (p.next results) .nothing⟩]

variable {p : Pool σ ρ α} {m m' : Machine ν σ ρ α} {jobs : List (Routine ρ)} {host : Host ν}

/-- The fibers other than a worker's have other numbers. -/
private theorem others_ne {w : Worker ρ} {l r : List (Worker ρ)} (hnodup : p.ids.Nodup)
    (hw : p.workers = l ++ w :: r) :
    ∀ k ∈ (p.main :: l.map (Worker.fiber p.parent)) ++ r.map (Worker.fiber p.parent),
      Fiber.id k ≠ w.id := by
  rw [ids, hw] at hnodup
  simp only [List.map_append, List.map_cons, List.nodup_cons, List.mem_append, List.mem_map,
    List.mem_cons, List.nodup_append] at hnodup
  obtain ⟨hmain, hl, ⟨hwr, hr⟩, hlr⟩ := hnodup
  intro k hk
  simp only [List.mem_append, List.mem_cons, List.mem_map] at hk
  rcases hk with (rfl | ⟨v, hv, rfl⟩) | ⟨v, hv, rfl⟩
  · exact fun h => hmain (.inr (.inl h))
  · exact hlr _ ⟨v, hv, rfl⟩ _ (.inl rfl)
  · exact fun h => hwr ⟨v, hv, h⟩

/-- The fiber that waits differs from its workers. -/
private theorem workers_ne (hnodup : p.ids.Nodup) :
    ∀ k ∈ [] ++ p.workers.map (Worker.fiber p.parent), Fiber.id (k : Fiber σ ρ α) ≠ p.main.id := by
  rw [ids, List.nodup_cons] at hnodup
  intro k hk
  obtain ⟨w, hw, rfl⟩ := List.mem_map.1 hk
  exact fun h => hnodup.1 (List.mem_map.2 ⟨w, hw, h⟩)

/-- A worker that takes an action is put back with the rest of its routine. -/
private theorem resume_worker (m : Machine ν σ ρ α) (id : Nat) {w : Worker ρ} {action : Action}
    {next : action.Answer → Routine ρ} (hroutine : w.routine = .perform action next) :
    ∃ log wake turn fresh, m.fresh ≤ fresh ∧
      Machine.dueAt { m with now := m.dueAt w.wake } wake =
        m.dueAt w.wake + (host.answer m.start (m.dueAt w.wake) m.nodes action).1.1 ∧
      m.resume host (w.fiber id) =
        { m.put (Worker.fiber id ⟨w.id, wake, turn, w.index,
            next (host.answer m.start (m.dueAt w.wake) m.nodes action).1.2⟩) with
          now := m.dueAt w.wake
          nodes := (host.answer m.start (m.dueAt w.wake) m.nodes action).2
          log := log
          fresh := fresh } := by
  obtain ⟨log, wake, turn, fresh, hfresh, hdue, hput⟩ := Machine.perform_continueAfter host
    { m with now := m.dueAt w.wake } (w.fiber id) action fun a => .job id w.index (next a)
  refine ⟨log, wake, turn, fresh, hfresh, hdue (m.le_dueAt w.wake), ?_⟩
  simp only [Machine.resume, Worker.fiber, hroutine]
  exact hput

/-- The unfinished jobs are a worker's job and others. -/
private theorem unfinished_of_workers {w : Worker ρ} {l r : List (Worker ρ)}
    (hunique : p.unfinished.Nodup) (hw : p.workers = l ++ w :: r) :
    p.unfinished.Perm
        (w.index :: ({ p with workers := l ++ r } : Pool σ ρ α).unfinished) ∧
      w.index ∉ ({ p with workers := l ++ r } : Pool σ ρ α).unfinished ∧
      ({ p with workers := l ++ r } : Pool σ ρ α).unfinished.Nodup := by
  have hperm : p.unfinished.Perm
      (w.index :: ({ p with workers := l ++ r } : Pool σ ρ α).unfinished) := by
    simp only [unfinished, hw, List.map_append, List.map_cons, ← List.append_assoc]
    exact List.perm_middle
  exact ⟨hperm, List.nodup_cons.1 (hperm.nodup hunique)⟩

/-- No two workers have the same job. -/
theorem Serves.worker_eq (h : p.Serves m jobs) {v w : Worker ρ} (hv : v ∈ p.workers)
    (hw : w ∈ p.workers) (heq : v.index = w.index) : v = w :=
  List.inj_on_of_nodup_map (List.nodup_append.1 h.unique).2.1 hv hw heq

/-- A job that a worker has does not wait for one. -/
theorem Serves.index_ne (h : p.Serves m jobs) {w : Worker ρ} (hw : w ∈ p.workers)
    {x : Nat × Routine ρ} (hx : x ∈ p.waiting) : w.index ≠ x.1 :=
  fun heq => (List.nodup_append.1 h.unique).2.2 x.1 (List.mem_map_of_mem hx) w.index
    (List.mem_map_of_mem hw) heq.symm

/-- An action of one worker, who is busy with it until the host has answered. -/
theorem Serves.act (h : p.Serves m jobs) (host : Host ν) {w : Worker ρ} {l r : List (Worker ρ)}
    (hlr : p.workers = l ++ w :: r) {action : Action} {next : action.Answer → Routine ρ}
    (hroutine : w.routine = .perform action next) :
    ∃ w' : Worker ρ, w'.index = w.index ∧
      (m.resume host (w.fiber p.parent)).dueAt w'.wake =
        m.dueAt w.wake + (host.answer m.start (m.dueAt w.wake) m.nodes action).1.1 ∧
      ({ p with workers := l ++ w' :: r } : Pool σ ρ α).Serves (m.resume host (w.fiber p.parent))
        (jobs.set w.index (next (host.answer m.start (m.dueAt w.wake) m.nodes action).1.2)) ∧
      m.Later (m.resume host (w.fiber p.parent)) ∧
      (m.resume host (w.fiber p.parent)).now = m.dueAt w.wake ∧
      (m.resume host (w.fiber p.parent)).nodes =
        (host.answer m.start (m.dueAt w.wake) m.nodes action).2 := by
  have hw : w ∈ p.workers := hlr ▸ List.mem_append_right l List.mem_cons_self
  obtain ⟨log, wake, turn, fresh, hfresh, hdue, hresume⟩ := resume_worker m p.parent hroutine
  rw [hresume]
  set answer := host.answer m.start (m.dueAt w.wake) m.nodes action
  let w' : Worker ρ := ⟨w.id, wake, turn, w.index, next answer.1.2⟩
  have hids : ({ p with workers := l ++ w' :: r } : Pool σ ρ α).ids = p.ids := by
    simp [ids, hlr, w']
  have hunfinished : ({ p with workers := l ++ w' :: r } : Pool σ ρ α).unfinished =
      p.unfinished := by
    simp [unfinished, hlr, w']
  obtain ⟨hperm, hindex, -⟩ := unfinished_of_workers h.unique hlr
  have hset : ∀ i ≠ w.index, (jobs.set w.index (next answer.1.2))[i]? = jobs[i]? :=
    fun i hi => List.getElem?_set_ne hi.symm
  have hthis := h.running w hw
  refine ⟨w', rfl, hdue, ⟨?_, ?_, ?_, ?_, ?_, ?_, ?_, ?_, ?_⟩,
    ⟨rfl, rfl, rfl, m.now_le_dueAt w.wake⟩, rfl, rfl⟩
  · have hfibers : m.fibers = (p.main :: l.map (Worker.fiber p.parent)) ++
        w.fiber p.parent :: r.map (Worker.fiber p.parent) := by
      simp [h.fibers, hlr]
    have hput := Machine.put_fibers (g := w'.fiber p.parent) hfibers rfl (others_ne h.nodup hlr)
    exact hput.trans (by rw [List.map_append, List.map_cons]; rfl)
  · rw [hids]
    exact h.nodup
  · rw [hids]
    exact fun n hn => Nat.lt_of_lt_of_le (h.fresh n hn) hfresh
  · rw [List.length_set]
    exact h.length
  · intro i v hv
    rw [hset i, h.finished i v hv]
    rintro rfl
    have hnone := (h.unfinished_iff w.index).2 (hperm.mem_iff.2 List.mem_cons_self)
    simp [hnone] at hv
  · rw [hunfinished]
    exact h.unique
  · rw [hunfinished]
    exact h.unfinished_iff
  · intro v hv
    rw [hset v.1, h.waiting v hv]
    rintro heq
    exact hindex (heq ▸ List.mem_append_left _ (List.mem_map_of_mem hv))
  · have hother : ∀ v ∈ l ++ r, jobs[v.index]? = some v.routine ∧ v.index ≠ w.index := by
      intro v hv
      refine ⟨h.running v ?_, ?_⟩
      · rw [hlr]
        exact List.mem_append.2 ((List.mem_append.1 hv).imp_right (List.mem_cons_of_mem w))
      · exact fun heq => hindex (heq ▸ List.mem_append_right _ (List.mem_map_of_mem hv))
    intro v hv
    rcases List.mem_cons.1 (List.perm_middle.mem_iff.1 hv) with rfl | hv
    · have hlt : w.index < jobs.length := (List.getElem?_eq_some_iff.1 (h.running w hw)).1
      exact List.getElem?_set_self hlt
    · rw [hset v.index (hother v hv).2]
      exact (hother v hv).1

/-- Once all results are there, they are the results of the jobs in order. -/
private theorem Serves.jobs_done (h : p.Serves m jobs) (hall : ∀ x ∈ p.results, x.isSome) :
    jobs = (p.results.filterMap id).map .done := by
  have hsome : p.results = (p.results.filterMap id).map some := by
    clear h
    generalize p.results = results at hall
    induction results with
    | nil => rfl
    | cons x results ih =>
      obtain ⟨v, rfl⟩ := Option.isSome_iff_exists.1 (hall x List.mem_cons_self)
      rw [List.filterMap_cons_some (f := id) (b := v) rfl, List.map_cons,
        ← ih fun y hy => hall y (List.mem_cons_of_mem _ hy)]
  have hlength := h.length
  rw [hsome, List.length_map] at hlength
  refine List.ext_getElem? fun i => ?_
  by_cases hi : i < (p.results.filterMap id).length
  · have hv : p.results[i]? = some (some (p.results.filterMap id)[i]) := by
      conv_lhs => rw [hsome]
      rw [List.getElem?_map, List.getElem?_eq_getElem hi, Option.map_some]
    rw [h.finished i _ hv, List.getElem?_map, List.getElem?_eq_getElem hi, Option.map_some]
  · have hi' : ((p.results.filterMap id).map (.done : ρ → Routine ρ)).length ≤ i := by
      rw [List.length_map]
      exact Nat.le_of_not_lt hi
    rw [List.getElem?_eq_none (by omega), List.getElem?_eq_none hi']

/-- A pool of whose waiting jobs at most one has been given to a new worker, in addition to workers
that it keeps; some worker runs. -/
structure Refill (p p' : Pool σ ρ α) (kept started : List (Worker ρ)) : Prop where
  parent_eq : p'.parent = p.parent
  next_eq : p'.next = p.next
  workers_eq : p'.workers = kept ++ started
  started_le : started.length ≤ 1
  waiting_eq : p.waiting.map Prod.fst = started.map Worker.index ++ p'.waiting.map Prod.fst
  working : p'.workers ≠ []

/-- Where no job is waiting and all results are there, the pool is closed. -/
private theorem Serves.close (h : p.Serves m jobs) (hwaiting : p.waiting = [])
    (hall : p.results.all (·.isSome)) : p.workers = [] ∧ p.Closed (m.feed p.main) jobs := by
  have hworkers : p.workers = [] := by
    refine List.eq_nil_iff_forall_not_mem.2 fun w hw => ?_
    have hmem : w.index ∈ p.unfinished := List.mem_append_right _ (List.mem_map_of_mem hw)
    have hnone := (h.unfinished_iff w.index).2 hmem
    simpa using List.all_eq_true.1 hall _ (List.mem_of_getElem? hnone)
  have hfresh : p.parent < m.fresh := h.fresh p.parent List.mem_cons_self
  refine ⟨hworkers, p.results.filterMap id, m.now, m.fresh,
    h.jobs_done (by simpa using hall), ?_, ?_⟩
  · simpa [Machine.feed, main, hwaiting, hall, Machine.put] using Nat.lt_succ_of_lt hfresh
  · have hput := Machine.put_fibers (m := m) (f := p.main) (l := [])
      (g := ⟨p.parent, m.now, m.fresh, .process (p.next (p.results.filterMap id)) .nothing⟩)
      h.fibers rfl (workers_ne h.nodup)
    simpa [Machine.feed, main, hwaiting, hall, hworkers] using hput

/-- The first of the jobs that wait is given to a new worker. -/
private theorem Serves.start (h : p.Serves m jobs) {i : Nat} {r : Routine ρ}
    {waiting : List (Nat × Routine ρ)} (hwaiting : p.waiting = (i, r) :: waiting) :
    ∃ w : Worker ρ, w.index = i ∧
      ({ p with waiting := waiting, workers := p.workers ++ [w] } : Pool σ ρ α).Serves
        (m.feed p.main) jobs := by
  let w : Worker ρ := ⟨m.fresh, m.now, m.fresh, i, r⟩
  let p' : Pool σ ρ α := { p with waiting := waiting, workers := p.workers ++ [w] }
  have hids : p'.ids = p.ids ++ [m.fresh] := by simp [p', ids, w]
  have hunfinished : p.unfinished.Perm p'.unfinished := by
    simp only [p', unfinished, hwaiting, List.map_append, List.map_cons, List.map_nil,
      List.cons_append, ← List.append_assoc]
    exact (List.perm_append_singleton i _).symm
  refine ⟨w, rfl, ⟨?_, ?_, ?_, h.length, h.finished, hunfinished.nodup h.unique, ?_, ?_, ?_⟩⟩
  · have hput := Machine.put_fibers (m := m) (f := p.main) (g := p'.main) (l := [])
      h.fibers rfl (workers_ne h.nodup)
    have hfeed : (m.feed p.main).fibers = (m.put p'.main).fibers ++ [w.fiber p.parent] := by
      simp only [Machine.feed, main, hwaiting]
      rfl
    rw [hfeed, hput, List.map_append]
    rfl
  · rw [hids]
    refine List.Nodup.append h.nodup (List.nodup_singleton _) fun n hn hn' => ?_
    have hlt := h.fresh n hn
    rw [List.mem_singleton.1 hn'] at hlt
    exact Nat.lt_irrefl _ hlt
  · have hnext : (m.feed p.main).fresh = m.fresh + 1 := by
      simp only [Machine.feed, main, hwaiting]
      rfl
    rw [hids, hnext]
    intro n hn
    rcases List.mem_append.1 hn with hn | hn
    · exact Nat.lt_succ_of_lt (h.fresh n hn)
    · rw [List.mem_singleton.1 hn]
      exact Nat.lt_succ_self _
  · exact fun j => (h.unfinished_iff j).trans hunfinished.mem_iff
  · exact fun v hv => h.waiting v (hwaiting ▸ List.mem_cons_of_mem _ hv)
  · intro v hv
    rcases List.mem_append.1 hv with hv | hv
    · exact h.running v hv
    · obtain rfl := List.mem_singleton.1 hv
      exact h.waiting (i, r) (hwaiting ▸ List.mem_cons_self)

/-- Once its workers have been given jobs, a pool that has a result for each job is closed;
otherwise some worker runs. -/
theorem Serves.feed (h : p.Serves m jobs) :
    (∃ (p' : Pool σ ρ α) (started : List (Worker ρ)), p'.Serves (m.feed p.main) jobs ∧
      p.Refill p' p.workers started ∧ p'.unfinished.length = p.unfinished.length) ∨
    p.workers = [] ∧ p.Closed (m.feed p.main) jobs := by
  match hwaiting : p.waiting with
  | [] =>
    by_cases hall : p.results.all (·.isSome)
    · exact .inr (h.close hwaiting hall)
    · have hfeed : m.feed p.main = m := by simp [Machine.feed, main, hwaiting, hall]
      refine .inl ⟨p, [], by rw [hfeed]; exact h, ⟨rfl, rfl, (List.append_nil _).symm,
        Nat.zero_le 1, rfl, ?_⟩, rfl⟩
      obtain ⟨x, hx, hnone⟩ : ∃ x ∈ p.results, x = none := by simpa using hall
      obtain ⟨i, hi⟩ := List.getElem?_of_mem hx
      have hmem := (h.unfinished_iff i).1 (hnone ▸ hi)
      rw [unfinished, hwaiting, List.map_nil, List.nil_append] at hmem
      exact fun hnil => by simp [hnil] at hmem
  | (i, r) :: waiting =>
    obtain ⟨w, rfl, hserves⟩ := h.start hwaiting
    refine .inl ⟨_, [w], hserves, ⟨rfl, rfl, rfl, Nat.le_refl 1, by rw [hwaiting]; rfl, by simp⟩, ?_⟩
    simp only [unfinished, hwaiting, List.map_append, List.length_append, List.map_cons,
      List.length_cons, List.map_nil, List.length_nil]
    omega

/-- A worker that is done is taken away, and its result is put in its place. -/
private theorem Serves.take (h : p.Serves m jobs) (host : Host ν) {w : Worker ρ}
    {l r : List (Worker ρ)} (hlr : p.workers = l ++ w :: r) {v : ρ} (hroutine : w.routine = .done v) :
    let p' : Pool σ ρ α := { p with results := p.results.set w.index (some v), workers := l ++ r }
    let m' : Machine ν σ ρ α := Machine.remove { m with now := m.dueAt w.wake } w.id
    m.resume host (w.fiber p.parent) = (m'.put p'.main).feed p'.main ∧
      p'.Serves (m'.put p'.main) jobs ∧ p'.unfinished.length < p.unfinished.length := by
  intro p' m'
  have hw : w ∈ p.workers := hlr ▸ List.mem_append_right l List.mem_cons_self
  obtain ⟨hperm, hindex, hunique⟩ := unfinished_of_workers h.unique hlr
  have hfibers : m'.fibers = p.main :: (l ++ r).map (Worker.fiber p.parent) := by
    have hbefore : m.fibers = (p.main :: l.map (Worker.fiber p.parent)) ++
        w.fiber p.parent :: r.map (Worker.fiber p.parent) := by
      rw [h.fibers, hlr, List.map_append, List.map_cons]
      rfl
    have hremove := Machine.remove_fibers (m := { m with now := m.dueAt w.wake }) hbefore
      (others_ne h.nodup hlr)
    rw [List.map_append]
    exact hremove
  have hids : p.ids.Perm (w.id :: p'.ids) := by
    simp only [ids, hlr, p', List.map_append, List.map_cons]
    exact (List.perm_middle.cons _).trans (.swap _ _ _)
  have hput := Machine.put_fibers (f := p.main) (g := p'.main) (l := []) hfibers rfl
    (workers_ne (p := p') (hids.nodup h.nodup).of_cons)
  have hlt : w.index < p.results.length := by
    rw [h.length]
    exact (List.getElem?_eq_some_iff.1 (h.running w hw)).1
  refine ⟨?_, ⟨hput, (hids.nodup h.nodup).of_cons,
    fun n hn => h.fresh n (hids.mem_iff.2 (List.mem_cons_of_mem _ hn)), ?_, ?_, hunique, ?_,
    h.waiting, ?_⟩, hperm.length_eq ▸ Nat.lt_succ_self _⟩
  · have hfind : m'.fibers.find? (·.id = p.parent) = some p.main := by
      rw [hfibers, List.find?_cons_of_pos]
      exact decide_eq_true rfl
    simp only [Machine.resume, Worker.fiber, hroutine]
    change Machine.deliver m' p.parent w.index v = _
    rw [Machine.deliver, hfind]
    rfl
  · rw [List.length_set]
    exact h.length
  · intro i u hu
    by_cases hi : w.index = i
    · rw [← hi, List.getElem?_set_self hlt] at hu
      rw [← hi, h.running w hw, hroutine, ← Option.some.inj (Option.some.inj hu)]
    · rw [List.getElem?_set_ne hi] at hu
      exact h.finished i u hu
  · intro i
    by_cases hi : w.index = i
    · rw [← hi, List.getElem?_set_self hlt]
      exact iff_of_false (by simp) hindex
    · rw [List.getElem?_set_ne hi, h.unfinished_iff, hperm.mem_iff]
      exact List.mem_cons.trans (or_iff_right (Ne.symm hi))
  · intro u hu
    refine h.running u ?_
    rw [hlr]
    exact List.mem_append.2 ((List.mem_append.1 hu).imp_right (List.mem_cons_of_mem w))

/-- A worker hands in its result, and a new one may take its place. -/
theorem Serves.deliver (h : p.Serves m jobs) (host : Host ν) {w : Worker ρ}
    {l r : List (Worker ρ)} (hlr : p.workers = l ++ w :: r) {v : ρ}
    (hroutine : w.routine = .done v) :
    ((∃ (p' : Pool σ ρ α) (started : List (Worker ρ)),
      p'.Serves (m.resume host (w.fiber p.parent)) jobs ∧ p.Refill p' (l ++ r) started ∧
      p'.unfinished.length < p.unfinished.length) ∨
    l ++ r = [] ∧ p.Closed (m.resume host (w.fiber p.parent)) jobs) ∧
      m.Later (m.resume host (w.fiber p.parent)) ∧
      (m.resume host (w.fiber p.parent)).now = m.dueAt w.wake ∧
      (m.resume host (w.fiber p.parent)).nodes = m.nodes := by
  obtain ⟨hresume, hserves, hless⟩ := h.take host hlr hroutine
  set p' : Pool σ ρ α :=
    { p with results := p.results.set w.index (some v), workers := l ++ r }
  let m' : Machine ν σ ρ α :=
    (Machine.remove { m with now := m.dueAt w.wake } w.id).put p'.main
  have hlater : m.Later m' := ⟨rfl, rfl, rfl, m.now_le_dueAt w.wake⟩
  obtain ⟨hfeed, hnow, hnodes⟩ := Machine.feed_later m' p'.main
  rw [hresume]
  refine ⟨hserves.feed.imp_left ?_, hlater.trans hfeed, hnow, hnodes⟩
  rintro ⟨q, started, hq, hrefill, hlength⟩
  exact ⟨q, started, hq, ⟨hrefill.parent_eq, hrefill.next_eq, hrefill.workers_eq,
    hrefill.started_le, hrefill.waiting_eq, hrefill.working⟩, hlength ▸ hless⟩

/-- Every schedule of a pool comes to the point where all jobs are done. -/
theorem Serves.inevitably {P : Machine ν σ ρ α → Prop} (h : p.Serves m jobs)
    (hworking : p.workers ≠ [])
    (hP : ∀ (m' : Machine ν σ ρ α) results wake turn, m.Later m' → p.parent < m'.fresh →
      Interleaved host m.start jobs m.nodes results m'.nodes →
      m'.fibers = [⟨p.parent, wake, turn, .process (p.next results) .nothing⟩] →
      m'.Inevitably host P) :
    m.Inevitably host P := by
  induction jobStep_acc jobs generalizing m p with
  | intro jobs _ ihjobs =>
  -- Between two actions of jobs only finitely many results are handed in.
  induction hlength : p.unfinished.length using Nat.strong_induction_on generalizing m p with
  | h n ihlength =>
    subst hlength
    refine .intro ?_ fun hstuck => ?_
    · rintro m' ⟨f, hf, hrun, rfl⟩
      rw [h.fibers, List.mem_cons, List.mem_map] at hf
      obtain rfl | ⟨w, hw, rfl⟩ := hf
      · simp [Fiber.isRunnable, main] at hrun
      · obtain ⟨l, r, hlr⟩ := List.append_of_mem hw
        match hroutine : w.routine with
        | .done v =>
          obtain ⟨hdone, hlater, -, hnodes⟩ := h.deliver host hlr hroutine
          rcases hdone with ⟨q, started, hq, hrefill, hlt⟩ | ⟨-, hclosed⟩
          · refine ihlength _ hlt hq hrefill.working
              (fun m' results wake turn hm hfresh hint hfibers => ?_) rfl
            rw [hrefill.parent_eq] at hfresh hfibers
            rw [hrefill.next_eq] at hfibers
            rw [hlater.start, hnodes] at hint
            exact hP m' results wake turn (hlater.trans hm) hfresh hint hfibers
          · obtain ⟨results, wake, turn, rfl, hfresh, hfibers⟩ := hclosed
            refine hP _ results wake turn hlater hfresh ?_ hfibers
            rw [hnodes]
            exact .finished results m.nodes
        | .perform action next =>
          obtain ⟨w', -, -, hq, hlater, -, hnodes⟩ := h.act host hlr hroutine
          have htaken : jobs[w.index]? = some (.perform action next) := by
            rw [h.running w hw, hroutine]
          refine ihjobs _ ⟨w.index, action, next, _, htaken, rfl⟩ hq (by simp)
            fun m' results wake turn hm hfresh hint hfibers => ?_
          rw [hlater.start, hnodes] at hint
          exact hP m' results wake turn (hlater.trans hm) hfresh
            (.step w.index action next (m.dueAt w.wake) htaken hint) hfibers
    · obtain ⟨w, hw⟩ := List.exists_mem_of_ne_nil _ hworking
      have hmem : w.fiber p.parent ∈ m.fibers := by
        rw [h.fibers]
        exact List.mem_cons_of_mem _ (List.mem_map_of_mem hw)
      exact absurd ⟨_, hmem, rfl, rfl⟩ (hstuck _)

end Pool
end SeriesReplica.Concurrent
