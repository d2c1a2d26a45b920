import Mathlib.Logic.Hydra
import SeriesReplica.Proofs.Concurrent.Nesting

/-! Loops that are told to stop. What fibers have still to do gets less with every step, as a head
of a hydra is replaced by smaller ones, so every schedule of such a machine comes to an end, and
then no fiber is left. -/
namespace SeriesReplica.Concurrent
open Time Relation

variable {ν σ ρ α : Type}

/-- What is still to be done on a machine whose loops are told to stop. -/
inductive Task (σ ρ α : Type) where
  | run (p : Process σ ρ (Option α)) (after : After σ ρ)
  | job (r : Routine ρ)
  /-- To go on with the results of a pool. -/
  | collect (next : List ρ → Process σ ρ (Option α)) (after : After σ ρ)
  /-- To end a loop. -/
  | close (loop : Loop σ ρ)

namespace Task

/-- A task comes to others by its next step. -/
inductive Follows : Task σ ρ α → Task σ ρ α → Prop
  | act {action next after} (answer : action.Answer) :
    Follows (.run (next answer) after) (.run (.perform (.act action) next) after)
  | update {change next after} (s : σ) :
    Follows (.run (next s) after) (.run (.perform (.update change) next) after)
  | collect {limit jobs next after} :
    Follows (.collect next after) (.run (.perform (.pool limit jobs) next) after)
  | start {p after} (r : Routine ρ) : Follows (.job r) (.run p after)
  | collected {next after} (results : List ρ) :
    Follows (.run (next results) after) (.collect next after)
  | skip {limit jobs next after} (results : List ρ) :
    Follows (.run (next results) after) (.run (.perform (.pool limit jobs) next) after)
  | job {action next} (answer : action.Answer) :
    Follows (.job (next answer)) (.job (.perform action next))
  | rest {result loop due} : Follows (.close loop) (.run (.done result) (.tick loop due))
  | leave {loop} :
    Follows (.run ((loop.hello.bind fun _ => loop.bye).bind fun _ => .done none) .nothing)
      (.close loop)
  | bye {loop} : Follows (.run (loop.bye.bind fun _ => .done none) .nothing) (.close loop)

theorem acc_job (r : Routine ρ) : Acc Follows (.job r : Task σ ρ α) := by
  induction r with
  | done result => exact .intro _ nofun
  | perform action next ih =>
    refine .intro _ fun t h => ?_
    cases h with
    | job answer => exact ih answer

/-- A process takes finitely many steps, and so does what comes after it. -/
theorem acc_run {after : After σ ρ}
    (hafter : ∀ loop due, after = .tick loop due → Acc Follows (.close loop : Task σ ρ α))
    (p : Process σ ρ (Option α)) : Acc Follows (.run p after) := by
  induction p with
  | done result =>
    refine .intro _ fun t h => ?_
    cases h with
    | start r => exact acc_job r
    | rest => exact hafter _ _ rfl
  | perform effect next ih =>
    refine .intro _ fun t h => ?_
    cases h with
    | act answer => exact ih answer
    | update s => exact ih s
    | skip results => exact ih results
    | start r => exact acc_job r
    | collect =>
      refine .intro _ fun t h => ?_
      cases h with
      | collected results => exact ih results

theorem acc_close (loop : Loop σ ρ) : Acc Follows (.close loop : Task σ ρ α) := by
  refine .intro _ fun t h => ?_
  cases h with
  | leave => exact acc_run (by rintro _ _ ⟨⟩) _
  | bye => exact acc_run (by rintro _ _ ⟨⟩) _

theorem wellFounded_follows : WellFounded (Follows (σ := σ) (ρ := ρ) (α := α)) := by
  refine ⟨fun t => ?_⟩
  have hrun : ∀ (p : Process σ ρ (Option α)) (after : After σ ρ), Acc Follows (.run p after) :=
    fun p after => acc_run (fun loop _ _ => acc_close loop) p
  cases t with
  | run p after => exact hrun p after
  | job r => exact acc_job r
  | close loop => exact acc_close loop
  | collect next after =>
    refine .intro _ fun t h => ?_
    cases h with
    | collected results => exact hrun _ _

end Task

/-- Jobs that are to be done. -/
def Task.jobs (js : List (Nat × Routine ρ)) : Multiset (Task σ ρ α) :=
  (js.map fun x => (.job x.2 : Task σ ρ α) : List (Task σ ρ α))

@[simp] theorem Task.jobs_cons (j : Nat × Routine ρ) (js : List (Nat × Routine ρ)) :
    (Task.jobs (j :: js) : Multiset (Task σ ρ α)) = .job j.2 ::ₘ Task.jobs js := rfl

theorem Task.mem_jobs {js : List (Nat × Routine ρ)} {t : Task σ ρ α} (h : t ∈ Task.jobs js) :
    ∃ r, t = .job r := by
  obtain ⟨j, -, rfl⟩ := List.mem_map.1 (Multiset.mem_coe.1 h)
  exact ⟨j.2, rfl⟩

/-- What a fiber has still to do, with the jobs that it has not started yet. -/
def Body.tasks : Body σ ρ α → Multiset (Task σ ρ α)
  | .process p after => {.run p after}
  | .job _ _ r => {.job r}
  | .gathering queue _ next after => .collect next after ::ₘ Task.jobs queue
  | .waiting loop _ _ => {.close loop}

theorem Task.sum_jobs (parent : Nat) (js : List (Nat × Routine ρ)) :
    (js.map fun x => (.job parent x.1 x.2 : Body σ ρ α).tasks).sum = Task.jobs js := by
  induction js with
  | nil => rfl
  | cons j js ih =>
    rw [List.map_cons, List.sum_cons, ih]
    rfl

/-- A fiber of a machine whose loops are to stop comes closer to its end. -/
theorem Body.Step.follows {b b' : Body σ ρ α} {s s' : σ} (h : b.Step true s b' s') :
    ∃ t t', b.tasks = {t} ∧ b'.tasks = {t'} ∧ Task.Follows t' t := by
  cases h with
  | act answer => exact ⟨_, _, rfl, rfl, .act answer⟩
  | skip => exact ⟨_, _, rfl, rfl, .skip _⟩
  | update => exact ⟨_, _, rfl, rfl, .update _⟩
  | rest => exact ⟨_, _, rfl, rfl, .rest⟩
  | job answer => exact ⟨_, _, rfl, rfl, .job answer⟩
  | delay hgoing | hello hgoing | tick hgoing => cases hgoing
  | leave => exact ⟨_, _, rfl, rfl, .leave⟩
  | bye => exact ⟨_, _, rfl, rfl, .bye⟩

theorem Body.Quits.exists_task {b : Body σ ρ α} {stopping : Bool} (h : b.Quits stopping) :
    ∃ t, b.tasks = {t} := by
  cases h <;> exact ⟨_, rfl⟩

namespace Machine
variable {m m' : Machine ν σ ρ α} {f g : Fiber σ ρ α}

/-- What all fibers have still to do. -/
def tasks (m : Machine ν σ ρ α) : Multiset (Task σ ρ α) := m.total Body.tasks

/-- One task gives way to tasks that follow it. -/
private theorem lessens {s s' t : Multiset (Task σ ρ α)} {a : Task σ ρ α}
    (ht : ∀ b ∈ t, Task.Follows b a) (h : s' + {a} = s + t) : CutExpand Task.Follows s' s :=
  ⟨t, a, ht, h⟩

private theorem deliver_lessens (hnodup : m.ids.Nodup) (parent index : Nat) (result : ρ) :
    ReflGen (CutExpand Task.Follows) (m.deliver parent index result).tasks m.tasks := by
  have hdelivered := m.deliver_delivered parent index result
  generalize m.deliver parent index result = m' at hdelivered ⊢
  cases hdelivered with
  | @starts g i r waiting results next after hg hid hbody =>
    set k : Fiber σ ρ α :=
      { g with body := .gathering waiting (results.set index (some result)) next after }
    have htasks : ((m.put k).spawn (.job g.id i r)).tasks = m.tasks := by
      have hput := total_put (g := k) Body.tasks hnodup hg rfl
      rw [hbody] at hput
      rw [tasks, total_spawn]
      refine add_right_cancel (b := Task.collect next after ::ₘ Task.jobs waiting) ?_
      refine Eq.trans ?_ hput
      simp only [Body.tasks, Task.jobs_cons, ← Multiset.singleton_add]
      ac_rfl
    rw [htasks]
  | @gathers g results next after hg hid hbody hall =>
    set values := (results.set index (some result)).filterMap id
    refine .single (lessens (t := {.run (next values) after}) (a := .collect next after)
      (fun b hb => ?_) ?_)
    · rw [Multiset.mem_singleton.1 hb]
      exact .collected _
    · have hput := total_put (g := ⟨g.id, m.now, m.fresh, .process (next values) after⟩)
        Body.tasks hnodup hg rfl
      rw [hbody] at hput
      exact hput
  | @waits g results next after hg hid hbody hall =>
    set k : Fiber σ ρ α :=
      { g with body := .gathering [] (results.set index (some result)) next after }
    have htasks : (m.put k).tasks = m.tasks := by
      have hput := total_put (g := k) Body.tasks hnodup hg rfl
      rw [hbody] at hput
      exact add_right_cancel hput
    rw [htasks]
  | unclaimed => exact .refl

private theorem openPool_lessens (hnodup : m.ids.Nodup) (hf : f ∈ m.fibers) {limit : Nat}
    {jobs : List (Routine ρ)} {next : List ρ → Process σ ρ (Option α)} {after : After σ ρ}
    (hbody : f.body = .process (.perform (.pool limit jobs) next) after) (hjobs : jobs ≠ []) :
    CutExpand Task.Follows (m.openPool f limit jobs next after).tasks m.tasks := by
  set numbered := jobs.zipIdx.map fun x => (x.2, x.1)
  set g : Fiber σ ρ α := { f with
    body := .gathering (numbered.drop (max limit 1)) (jobs.map fun _ => none) next after }
  have hopen : (m.openPool f limit jobs next after).tasks =
      (m.put g).tasks + Task.jobs (numbered.take (max limit 1)) := by
    rw [tasks, total_openPool _ m f limit hjobs, Task.sum_jobs]
    rfl
  have hput := total_put (g := g) Body.tasks hnodup hf rfl
  rw [hbody] at hput
  refine lessens (t := (.collect next after ::ₘ Task.jobs (numbered.drop (max limit 1))) +
    Task.jobs (numbered.take (max limit 1))) (a := .run (.perform (.pool limit jobs) next) after)
    (fun b hb => ?_) ?_
  · rcases Multiset.mem_add.1 hb with hb | hb
    · rcases Multiset.mem_cons.1 hb with rfl | hb
      · exact .collect
      · obtain ⟨r, rfl⟩ := Task.mem_jobs hb
        exact .start r
    · obtain ⟨r, rfl⟩ := Task.mem_jobs hb
      exact .start r
  · rw [hopen, ← add_assoc, add_right_comm]
    exact congrArg (· + _) hput

/-- Every step leaves less to be done. -/
theorem Stepped.lessens (h : m.Nested) (hstopping : m.stopping = true) (hf : f ∈ m.fibers)
    (hstepped : m.Stepped f m') : TransGen (CutExpand Task.Follows) m'.tasks m.tasks := by
  have hnodup : ({ m with now := m.dueAt f.wake } : Machine ν σ ρ α).ids.Nodup := h.nodup
  cases hstepped with
  | goes g hid hstep hfibers =>
    rw [hstopping] at hstep
    obtain ⟨t, t', ht, ht', hfollows⟩ := hstep.follows
    have hput := total_put Body.tasks h.nodup hf hid
    rw [ht, ht', ← total_congr Body.tasks hfibers] at hput
    refine .single (Machine.lessens (fun b hb => ?_) hput)
    rwa [Multiset.mem_singleton.1 hb]
  | quits hquits _ hfibers =>
    obtain ⟨t, ht⟩ := hquits.exists_task
    have hremove := total_remove Body.tasks h.nodup hf
    rw [ht, ← total_congr Body.tasks hfibers, ← add_zero (m.total Body.tasks)] at hremove
    exact .single (Machine.lessens (fun b hb => absurd hb (Multiset.notMem_zero b)) hremove)
  | @opens limit jobs next after hbody hjobs hopen =>
    rw [hopen]
    exact .single (openPool_lessens hnodup hf hbody hjobs)
  | @delivers parent index result hbody hdeliver =>
    rw [hdeliver]
    have hremove := total_remove Body.tasks hnodup hf
    rw [hbody, ← add_zero (total _ { m with now := m.dueAt f.wake })] at hremove
    have hcut := Machine.lessens (fun b hb => absurd hb (Multiset.notMem_zero b)) hremove
    have hnodup' : (({ m with now := m.dueAt f.wake } : Machine ν σ ρ α).remove f.id).ids.Nodup :=
      (h.each.remove (n := f.id) fun _ _ _ h => h).nodup
    exact .tail' (deliver_lessens hnodup' parent index result).to_reflTransGen hcut

/-- Once its loops are told to stop, every schedule of a machine ends, and no fiber is left. -/
theorem Nested.inevitably {host : Host ν} {I : Machine ν σ ρ α → Prop} (h : m.Nested)
    (hstopping : m.stopping = true) (hI : I m)
    (hmoves : ∀ m m', m.stopping = true → I m → m.Moves host m' → I m') :
    m.Inevitably host fun m' => m'.fibers = [] ∧ I m' := by
  have hwf : WellFounded (TransGen (CutExpand (Task.Follows (σ := σ) (ρ := ρ) (α := α)))) :=
    Task.wellFounded_follows.cutExpand.transGen
  have hacc := hwf.apply m.tasks
  generalize htasks : m.tasks = tasks at hacc
  induction hacc generalizing m with
  | intro tasks _ ih =>
    subst htasks
    refine .intro (fun m' hmove => ?_) fun hstuck => ⟨h.fibers_eq_nil hstuck, hI⟩
    obtain ⟨f, hf, hrun, rfl⟩ := id hmove
    have hstepped := m.resume_stepped host hrun
    exact ih _ (hstepped.lessens h hstopping hf) (h.stepped hf hstepped)
      (hstepped.stopping_eq.trans hstopping) (hmoves _ _ hstopping hI hmove) rfl

/-- If no fiber is due, then nothing can go on. -/
theorem not_moves_of_first? {host : Host ν} (h : m.first? = none) (m' : Machine ν σ ρ α) :
    ¬ m.Moves host m' := by
  rintro ⟨f, hf, hrun, -⟩
  rw [first?] at h
  rcases List.eq_nil_or_concat (m.fibers.filter (·.isRunnable)) with hnil | ⟨fs, g, hconcat⟩
  · exact List.not_mem_nil (hnil ▸ List.mem_filter.2 ⟨hf, hrun⟩)
  · rw [hconcat, List.concat_eq_append, List.foldl_append, List.foldl_cons, List.foldl_nil] at h
    split at h
    · cases h
    · split at h <;> cases h

/-- What every schedule ends with is what a run by the clock ends with, once it has fuel enough. -/
theorem Inevitably.exists_fuel {host : Host ν} {P : Machine ν σ ρ α → Prop}
    (h : m.Inevitably host fun m' => m'.fibers = [] ∧ P m') :
    ∃ n, ∀ fuel, n ≤ fuel → (m.runUntil host (·.fibers.isEmpty) fuel).fibers = [] ∧
      P (m.runUntil host (·.fibers.isEmpty) fuel) := by
  induction h with
  | @intro m moves ends ih =>
    by_cases hfibers : m.fibers = []
    · refine ⟨0, fun fuel _ => ?_⟩
      have hrun : m.runUntil host (·.fibers.isEmpty) fuel = m := by
        cases fuel with
        | zero => rfl
        | succ fuel => rw [runUntil, hfibers]; rfl
      rw [hrun]
      exact ends (not_moves hfibers)
    · cases hfirst : m.first? with
      | none => exact absurd (ends (not_moves_of_first? hfirst)).1 hfibers
      | some f =>
        obtain ⟨hf, hrunnable⟩ := first?_eq_some hfirst
        obtain ⟨n, hn⟩ := ih _ ⟨f, hf, hrunnable, rfl⟩
        refine ⟨n + 1, fun fuel hfuel => ?_⟩
        obtain ⟨fuel, rfl⟩ := Nat.exists_eq_add_of_le' hfuel
        have hrun : m.runUntil host (·.fibers.isEmpty) (fuel + (n + 1)) =
            (m.resume host f).runUntil host (·.fibers.isEmpty) (fuel + n) := by
          have hempty : m.fibers.isEmpty = false := by
            rw [List.isEmpty_eq_false_iff]
            exact hfibers
          rw [← Nat.add_assoc, runUntil]
          simp only [hempty, Bool.false_eq_true, if_false, step, hfirst, Option.map_some]
        rw [hrun]
        exact hn _ (Nat.le_add_left _ _)

end Machine
end SeriesReplica.Concurrent
