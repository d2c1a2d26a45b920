import Mathlib.Algebra.BigOperators.Group.List.Basic
import SeriesReplica.Proofs.Concurrent.Fibers

/-! Steps of any fiber. A step goes on with its fiber, or takes it away, or opens a pool for it, or
hands in the result of a job; and what is counted over all fibers changes accordingly. -/
namespace SeriesReplica.Concurrent
open Time

variable {ν σ ρ α : Type}

/-- What a fiber may become by a step of its own, with the shared state before and after the step.
A loop ticks only as long as it is not told to stop. -/
inductive Body.Step (stopping : Bool) : Body σ ρ α → σ → Body σ ρ α → σ → Prop
  | act {action next after s} (answer : action.Answer) :
    Step stopping (.process (.perform (.act action) next) after) s
      (.process (next answer) after) s
  | skip {limit next after s} :
    Step stopping (.process (.perform (.pool limit []) next) after) s (.process (next []) after) s
  | update {change next after s} :
    Step stopping (.process (.perform (.update change) next) after) s
      (.process (next s) after) (change s)
  | rest {result loop due s} :
    Step stopping (.process (.done result) (.tick loop due)) s (.waiting loop due true) s
  | job {parent index action next s} (answer : action.Answer) :
    Step stopping (.job parent index (.perform action next)) s
      (.job parent index (next answer)) s
  | delay {loop due s} (hgoing : stopping = false) :
    Step stopping (.waiting loop due false) s (.waiting loop due false) s
  | hello {loop due s} (hgoing : stopping = false) (due' : Span) :
    Step stopping (.waiting loop due false) s
      (.process ((loop.hello.bind fun _ => loop.tick).bind fun _ => .done none)
        (.tick loop due')) s
  | tick {loop due s} (hgoing : stopping = false) (due' : Span) :
    Step stopping (.waiting loop due true) s
      (.process (loop.tick.bind fun _ => .done none) (.tick loop due')) s
  | leave {loop due s} (hstopping : stopping = true) :
    Step stopping (.waiting loop due false) s
      (.process ((loop.hello.bind fun _ => loop.bye).bind fun _ => .done none) .nothing) s
  | bye {loop due s} (hstopping : stopping = true) :
    Step stopping (.waiting loop due true) s
      (.process (loop.bye.bind fun _ => .done none) .nothing) s

/-- A fiber that is taken away by its next step. -/
inductive Body.Quits (stopping : Bool) : Body σ ρ α → Prop
  | done (result : Option α) : Quits stopping (.process (.done result) .nothing)
  | unstarted {loop due} (hstopping : stopping = true) : Quits stopping (.waiting loop due false)

namespace Machine
variable {m : Machine ν σ ρ α} {f g : Fiber σ ρ α}

/-- What a step does to a machine. -/
inductive Stepped (m : Machine ν σ ρ α) (f : Fiber σ ρ α) (m' : Machine ν σ ρ α) : Prop
  /-- The fiber goes on. -/
  | goes (g : Fiber σ ρ α) (hid : g.id = f.id)
    (hstep : f.body.Step m.stopping m.shared g.body m'.shared)
    (hfibers : m'.fibers = (m.put g).fibers) (hfresh : m.fresh ≤ m'.fresh)
    (hstopping : m'.stopping = m.stopping)
  /-- The fiber is at its end. -/
  | quits (hquits : f.body.Quits m.stopping) (hshared : m'.shared = m.shared)
    (hfibers : m'.fibers = (m.remove f.id).fibers) (hfresh : m'.fresh = m.fresh)
    (hstopping : m'.stopping = m.stopping)
  /-- The fiber waits for a pool. -/
  | opens {limit jobs next after}
    (hbody : f.body = .process (.perform (.pool limit jobs) next) after) (hjobs : jobs ≠ [])
    (hopen : m' = ({ m with now := m.dueAt f.wake } : Machine ν σ ρ α).openPool f limit jobs next
      after)
  /-- The fiber hands in a result. -/
  | delivers {parent index result} (hbody : f.body = .job parent index (.done result))
    (hdeliver : m' = (({ m with now := m.dueAt f.wake } : Machine ν σ ρ α).remove f.id).deliver
      parent index result)

private theorem Stepped.of_put {m' : Machine ν σ ρ α} {b b' : Body σ ρ α} {wake : Span}
    {turn : Nat} (hbody : f.body = b) (hstep : b.Step m.stopping m.shared b' m'.shared)
    (hfibers : m'.fibers = (m.put ⟨f.id, wake, turn, b'⟩).fibers) (hfresh : m.fresh ≤ m'.fresh)
    (hstopping : m'.stopping = m.stopping) : m.Stepped f m' :=
  .goes ⟨f.id, wake, turn, b'⟩ rfl (hbody.symm ▸ hstep) hfibers hfresh hstopping

/-- A loop that wakes goes on unless it has not started yet and is told to stop. -/
private theorem wakeLoop_stepped {loop : Loop σ ρ} {due : Span} {started : Bool}
    (hbody : f.body = .waiting loop due started) :
    m.Stepped f (({ m with now := m.dueAt f.wake } : Machine ν σ ρ α).wakeLoop f loop due
      started) := by
  cases hstopping : m.stopping <;> cases started <;> simp only [wakeLoop]
  case false.false =>
    split
    · exact .of_put hbody (.delay hstopping) rfl (Nat.le_succ _) hstopping.symm
    · exact .of_put hbody (.hello hstopping _) rfl (Nat.le_refl _) hstopping.symm
  case false.true =>
    exact .of_put hbody (.tick hstopping _) rfl (Nat.le_refl _) hstopping.symm
  case true.false =>
    split
    · exact .quits (hbody ▸ .unstarted hstopping) rfl rfl rfl hstopping.symm
    · exact .of_put hbody (.leave hstopping) rfl (Nat.le_refl _) hstopping.symm
  case true.true =>
    exact .of_put hbody (.bye hstopping) rfl (Nat.le_refl _) hstopping.symm

theorem resume_stepped (host : Host ν) (m : Machine ν σ ρ α) (hrun : f.isRunnable) :
    m.Stepped f (m.resume host f) := by
  set later : Machine ν σ ρ α := { m with now := m.dueAt f.wake } with hlater
  match hbody : f.body with
  | .process (.done result) .nothing =>
    rw [resume_done hbody]
    exact .quits (hbody ▸ .done result) rfl rfl rfl rfl
  | .process (.done result) (.tick loop due) =>
    have hresume : m.resume host f = { later.put ⟨f.id,
        if m.stopping ∨ due < later.now then later.now else due, m.fresh,
        .waiting loop due true⟩ with
        fresh := m.fresh + 1
        answers := (result.map (f.id, ·)).toList ++ m.answers } := by
      simp only [resume, hbody, advanceProcess]
      rfl
    rw [hresume]
    exact .of_put hbody .rest rfl (Nat.le_succ _) rfl
  | .process (.perform (.act action) next) after =>
    have hresume : m.resume host f = (later.perform host action).2.continueAfter f
        (later.perform host action).1.1
        (.process (next (later.perform host action).1.2) after) := by
      simp only [resume, hbody, advanceProcess]
      rfl
    obtain ⟨log, wake, turn, fresh, hfresh, -, heq⟩ := perform_continueAfter host later f action
      fun answer => .process (next answer) after
    rw [hresume, heq]
    exact .of_put hbody (.act _) rfl hfresh rfl
  | .process (.perform (.pool limit []) next) after =>
    have hresume : m.resume host f = later.put { f with body := .process (next []) after } := by
      simp only [resume, hbody, advanceProcess]
      rfl
    rw [hresume]
    exact .of_put hbody .skip rfl (Nat.le_refl _) rfl
  | .process (.perform (.pool limit (job :: jobs)) next) after =>
    refine .opens hbody (List.cons_ne_nil _ _) ?_
    simp only [resume, hbody, advanceProcess]
    rfl
  | .process (.perform (.update change) next) after =>
    rw [resume_update hbody]
    exact .of_put hbody .update rfl (Nat.le_refl _) rfl
  | .job parent index (.perform action next) =>
    have hresume : m.resume host f = (later.perform host action).2.continueAfter f
        (later.perform host action).1.1
        (.job parent index (next (later.perform host action).1.2)) := by
      simp only [resume, hbody]
      rfl
    obtain ⟨log, wake, turn, fresh, hfresh, -, heq⟩ := perform_continueAfter host later f action
      fun answer => .job parent index (next answer)
    rw [hresume, heq]
    exact .of_put hbody (.job _) rfl hfresh rfl
  | .job parent index (.done result) =>
    refine .delivers hbody ?_
    simp only [resume, hbody]
    rfl
  | .gathering waiting results next after =>
    rw [Fiber.isRunnable, hbody] at hrun
    exact absurd hrun Bool.false_ne_true
  | .waiting loop due started =>
    have hresume : m.resume host f = later.wakeLoop f loop due started := by
      simp only [resume, hbody]
      rfl
    rw [hresume]
    exact wakeLoop_stepped hbody

section Stopping

@[simp] theorem spawnAll_stopping (m : Machine ν σ ρ α) (parent : Nat)
    (js : List (Nat × Routine ρ)) :
    (js.foldl (fun m (i, r) => m.spawn (.job parent i r)) m).stopping = m.stopping := by
  induction js generalizing m with
  | nil => rfl
  | cons j js ih => exact ih _

theorem openPool_stopping (m : Machine ν σ ρ α) (f : Fiber σ ρ α) (limit : Nat)
    (jobs : List (Routine ρ)) (next : List ρ → Process σ ρ (Option α)) (after : After σ ρ) :
    (m.openPool f limit jobs next after).stopping = m.stopping := by
  rw [openPool]
  dsimp only
  split
  · rfl
  · rw [spawnAll_stopping]
    rfl

theorem deliver_stopping (m : Machine ν σ ρ α) (parent index : Nat) (result : ρ) :
    (m.deliver parent index result).stopping = m.stopping := by
  have hdelivered := m.deliver_delivered parent index result
  generalize m.deliver parent index result = m' at hdelivered ⊢
  cases hdelivered <;> rfl

/-- Whether loops are to stop is not up to the fibers. -/
theorem Stepped.stopping_eq {m' : Machine ν σ ρ α} (h : m.Stepped f m') :
    m'.stopping = m.stopping := by
  cases h with
  | goes _ _ _ _ _ hstopping => exact hstopping
  | quits _ _ _ _ hstopping => exact hstopping
  | opens _ _ hopen => rw [hopen, openPool_stopping]
  | delivers _ hdeliver => rw [hdeliver, deliver_stopping]; rfl

end Stopping

section Bodies

/-- What the fibers are doing, by their numbers. -/
def bodies (m : Machine ν σ ρ α) : List (Nat × Body σ ρ α) := m.fibers.map fun f => (f.id, f.body)

/-- Loops that are told to stop are woken, and nothing else. -/
@[simp] theorem bodies_stopLoops (m : Machine ν σ ρ α) : m.stopLoops.bodies = m.bodies := by
  rw [bodies, stopLoops, List.map_map]
  refine List.map_congr_left fun f _ => ?_
  rw [Function.comp_apply]
  split <;> rfl

variable {m' : Machine ν σ ρ α}

theorem ids_of_bodies (h : m'.bodies = m.bodies) : m'.ids = m.ids := by
  have hids := congrArg (List.map Prod.fst) h
  rwa [bodies, bodies, List.map_map, List.map_map] at hids

theorem exists_of_bodies (h : m'.bodies = m.bodies) (hf : f ∈ m'.fibers) :
    ∃ k ∈ m.fibers, k.id = f.id ∧ k.body = f.body := by
  have hmem : (f.id, f.body) ∈ m.bodies := h ▸ List.mem_map_of_mem hf
  obtain ⟨k, hk, heq⟩ := List.mem_map.1 hmem
  exact ⟨k, hk, congrArg Prod.fst heq, congrArg Prod.snd heq⟩

theorem Each.of_bodies {P : Nat → Body σ ρ α → Prop} (heach : m.Each P)
    (h : m'.bodies = m.bodies) (hfresh : m.fresh ≤ m'.fresh) : m'.Each P where
  holds f hf := by
    obtain ⟨k, hk, hid, hbody⟩ := exists_of_bodies h hf
    exact hid ▸ hbody ▸ heach.holds k hk
  nodup := ids_of_bodies h ▸ heach.nodup
  below i hi := (heach.below i (ids_of_bodies h ▸ hi)).trans_le hfresh

end Bodies

section Total
variable {M : Type} [AddCommMonoid M]

/-- What is counted over all fibers. -/
def total (h : Body σ ρ α → M) (m : Machine ν σ ρ α) : M :=
  (m.fibers.map fun f => h f.body).sum

/-- A fiber of a machine, between the others. -/
theorem exists_split (hnodup : m.ids.Nodup) (hf : f ∈ m.fibers) :
    ∃ l r, m.fibers = l ++ f :: r ∧ ∀ k ∈ l ++ r, k.id ≠ f.id := by
  obtain ⟨l, r, hsplit⟩ := List.append_of_mem hf
  refine ⟨l, r, hsplit, fun k hk => ?_⟩
  rw [ids, hsplit, List.map_append, List.map_cons, List.nodup_middle, ← List.map_append] at hnodup
  exact fun heq => (List.nodup_cons.1 hnodup).1 (heq ▸ List.mem_map_of_mem hk)

theorem total_put (h : Body σ ρ α → M) (hnodup : m.ids.Nodup) (hf : f ∈ m.fibers)
    (hid : g.id = f.id) : (m.put g).total h + h f.body = m.total h + h g.body := by
  obtain ⟨l, r, hsplit, hne⟩ := exists_split hnodup hf
  rw [total, total, put_fibers hsplit hid hne, hsplit]
  simp only [List.map_append, List.map_cons, List.sum_append, List.sum_cons]
  ac_rfl

theorem total_remove (h : Body σ ρ α → M) (hnodup : m.ids.Nodup) (hf : f ∈ m.fibers) :
    (m.remove f.id).total h + h f.body = m.total h := by
  obtain ⟨l, r, hsplit, hne⟩ := exists_split hnodup hf
  rw [total, total, remove_fibers hsplit hne, hsplit]
  simp only [List.map_append, List.map_cons, List.sum_append, List.sum_cons]
  ac_rfl

theorem total_spawn (h : Body σ ρ α → M) (m : Machine ν σ ρ α) (body : Body σ ρ α) :
    (m.spawn body).total h = m.total h + h body := by
  simp only [total, spawn, List.map_append, List.map_cons, List.map_nil, List.sum_append,
    List.sum_cons, List.sum_nil, add_zero]

theorem total_openPool (h : Body σ ρ α → M) (m : Machine ν σ ρ α) (f : Fiber σ ρ α) (limit : Nat)
    {jobs : List (Routine ρ)} (hjobs : jobs ≠ []) (next : List ρ → Process σ ρ (Option α))
    (after : After σ ρ) :
    let numbered := jobs.zipIdx.map fun x => (x.2, x.1)
    let body := .gathering (numbered.drop (max limit 1)) (jobs.map fun _ => none) next after
    (m.openPool f limit jobs next after).total h = (m.put { f with body := body }).total h +
      ((numbered.take (max limit 1)).map fun j => h (.job f.id j.1 j.2)).sum := by
  obtain ⟨extra, hfibers, hbodies⟩ := fibers_openPool m f limit hjobs next after
  have hextra := congrArg (List.map h) hbodies
  rw [List.map_map, List.map_map] at hextra
  rw [total, hfibers, List.map_append, List.sum_append]
  exact congrArg (_ + List.sum ·) hextra

theorem total_congr (h : Body σ ρ α → M) {m' : Machine ν σ ρ α} (hfibers : m'.fibers = m.fibers) :
    m'.total h = m.total h := by
  rw [total, total, hfibers]

theorem total_of_bodies (h : Body σ ρ α → M) {m' : Machine ν σ ρ α}
    (hbodies : m'.bodies = m.bodies) : m'.total h = m.total h := by
  have htotal := congrArg (fun bs => (bs.map fun b => h b.2).sum) hbodies
  simp only [bodies, List.map_map] at htotal
  exact htotal

end Total

end Machine
end SeriesReplica.Concurrent
