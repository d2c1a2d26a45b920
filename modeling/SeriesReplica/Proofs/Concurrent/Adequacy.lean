import SeriesReplica.Proofs.Concurrent.Pool

/-! Schedules against outcomes. Whatever the schedule, a process that is launched on a machine of
its own comes to its end, and the machine then shows an outcome of the process. -/
namespace SeriesReplica.Concurrent
open Time

variable {ν σ ρ α : Type} {host : Host ν}

namespace Machine

/-- The workers that a pool starts with. -/
private def openers (m : Machine ν σ ρ α) (started : List (Nat × Routine ρ)) : List (Worker ρ) :=
  (started.zipIdx m.fresh).map fun (w, n) => ⟨n, m.now, n, w.1, w.2⟩

private theorem spawn_all (m : Machine ν σ ρ α) (id : Nat) (started : List (Nat × Routine ρ)) :
    started.foldl (fun m (i, r) => m.spawn (.job id i r)) m =
      { m with
        fibers := m.fibers ++ (m.openers started).map (Worker.fiber id)
        fresh := m.fresh + started.length } := by
  induction started generalizing m with
  | nil => simp [openers]
  | cons w started ih =>
    rw [List.foldl_cons, ih]
    simp only [spawn, openers, List.zipIdx_cons, List.map_cons, List.append_assoc,
      List.length_cons, Nat.add_assoc, Nat.add_comm 1, Worker.fiber]
    rfl

private theorem openers_map_id (m : Machine ν σ ρ α) (started : List (Nat × Routine ρ)) :
    (m.openers started).map Worker.id = List.range' m.fresh started.length := by
  rw [openers, List.map_map, ← List.zipIdx_map_snd m.fresh started]
  rfl

private theorem openers_map_job (m : Machine ν σ ρ α) (started : List (Nat × Routine ρ)) :
    (m.openers started).map (fun w => (w.index, w.routine)) = started := by
  conv_rhs => rw [← List.zipIdx_map_fst m.fresh started]
  rw [openers, List.map_map]
  rfl

private theorem openers_map_index (m : Machine ν σ ρ α) (started : List (Nat × Routine ρ)) :
    (m.openers started).map Worker.index = started.map Prod.fst := by
  conv_rhs => rw [← m.openers_map_job started, List.map_map]
  rfl

/-- The jobs of a pool with their positions. -/
private def numbered (jobs : List (Routine ρ)) : List (Nat × Routine ρ) :=
  jobs.zipIdx.map fun (r, i) => (i, r)

private theorem length_numbered (jobs : List (Routine ρ)) :
    (numbered jobs).length = jobs.length := by
  rw [numbered, List.length_map, List.length_zipIdx]

private theorem numbered_map_fst (jobs : List (Routine ρ)) :
    (numbered jobs).map Prod.fst = List.range jobs.length := by
  rw [numbered, List.map_map, List.range_eq_range', ← List.zipIdx_map_snd 0 jobs]
  rfl

private theorem mem_numbered {jobs : List (Routine ρ)} {w : Nat × Routine ρ}
    (h : w ∈ numbered jobs) : jobs[w.1]? = some w.2 := by
  obtain ⟨x, hx, rfl⟩ := List.mem_map.1 h
  exact List.mem_zipIdx_iff_getElem?.1 hx

/-- The pool that is opened for a fiber. -/
def opened (m : Machine ν σ ρ α) (f : Fiber σ ρ α) (limit : Nat) (jobs : List (Routine ρ))
    (next : List ρ → Process σ ρ (Option α)) : Pool σ ρ α where
  parent := f.id
  wake := f.wake
  turn := f.turn
  waiting := (numbered jobs).drop (max limit 1)
  results := jobs.map fun _ => none
  next := next
  workers := m.openers ((numbered jobs).take (max limit 1))

/-- An open pool has workers, as many as its limit allows. -/
theorem openPool_serves {m : Machine ν σ ρ α} {f : Fiber σ ρ α} (limit : Nat)
    {jobs : List (Routine ρ)} (next : List ρ → Process σ ρ (Option α))
    (hfibers : m.fibers = [f]) (hfresh : f.id < m.fresh) (hjobs : jobs ≠ []) :
    (m.opened f limit jobs next).Serves (m.openPool f limit jobs next .nothing) jobs ∧
      (m.opened f limit jobs next).workers ≠ [] ∧
      (m.opened f limit jobs next).workers.length ≤ max limit 1 ∧
      m.Later (m.openPool f limit jobs next .nothing) ∧
      (m.openPool f limit jobs next .nothing).nodes = m.nodes := by
  set p := m.opened f limit jobs next with hp
  have hperm : p.unfinished.Perm (List.range jobs.length) := by
    rw [Pool.unfinished, hp, opened, openers_map_index, ← numbered_map_fst, ← List.map_append]
    refine List.Perm.map _ (List.perm_append_comm.trans ?_)
    rw [List.take_append_drop]
  have hopen : m.openPool f limit jobs next .nothing =
      { m with
        fibers := p.main :: p.workers.map (Worker.fiber p.parent)
        fresh := m.fresh + ((numbered jobs).take (max limit 1)).length } := by
    have hput := put_fibers (g := p.main) (l := []) (r := []) hfibers rfl (by simp)
    have hopen : m.openPool f limit jobs next .nothing =
        ((numbered jobs).take (max limit 1)).foldl (fun m (i, r) => m.spawn (.job f.id i r))
          (m.put p.main) := by
      rw [openPool, if_neg (by simpa using hjobs)]
      rfl
    rw [hopen, spawn_all, hput]
    rfl
  have hlength : p.workers.length = min (max limit 1) jobs.length := by
    have hjob := congrArg List.length (m.openers_map_job ((numbered jobs).take (max limit 1)))
    rw [List.length_map, List.length_take, length_numbered] at hjob
    exact hjob
  have hpos := List.length_pos_iff.2 hjobs
  rw [hopen]
  refine ⟨⟨rfl, ?_, ?_, ?_, ?_, ?_, ?_, ?_, ?_⟩, List.length_pos_iff.1 (by omega), by omega,
    ⟨rfl, rfl, rfl, Nat.le_refl _⟩, rfl⟩
  · rw [Pool.ids, hp, opened, openers_map_id, List.nodup_cons]
    refine ⟨fun h => ?_, List.nodup_range'⟩
    have hle := (List.mem_range'_1.1 h).1
    exact Nat.not_lt.2 hle hfresh
  · rw [Pool.ids, hp, opened, openers_map_id]
    intro n hn
    rcases List.mem_cons.1 hn with rfl | hn
    · exact Nat.lt_add_right _ hfresh
    · exact (List.mem_range'_1.1 hn).2
  · exact List.length_map _
  · intro i v hv
    simp [hp, opened, List.getElem?_replicate] at hv
  · exact hperm.symm.nodup List.nodup_range
  · intro i
    rw [hperm.mem_iff, List.mem_range]
    simp [hp, opened, List.getElem?_replicate]
  · exact fun w hw => mem_numbered (List.mem_of_mem_drop hw)
  · intro w hw
    have hmem : (w.index, w.routine) ∈ (numbered jobs).take (max limit 1) := by
      rw [← m.openers_map_job ((numbered jobs).take (max limit 1))]
      exact List.mem_map_of_mem hw
    exact mem_numbered (List.mem_of_mem_take hmem)

theorem put_single {m : Machine ν σ ρ α} {f g : Fiber σ ρ α} (hfibers : m.fibers = [f])
    (hid : g.id = f.id) : (m.put g).fibers = [g] :=
  put_fibers (l := []) (r := []) hfibers hid (by simp)

/-- A process that takes an action goes on once the host has answered. -/
theorem resume_act (host : Host ν) (m : Machine ν σ ρ α) (id turn : Nat) (wake : Span)
    (action : Action) (next : action.Answer → Process σ ρ (Option α)) :
    ∃ log wake' turn' fresh, m.fresh ≤ fresh ∧
      dueAt { m with now := m.dueAt wake } wake' =
        m.dueAt wake + (host.answer m.start (m.dueAt wake) m.nodes action).1.1 ∧
      m.resume host ⟨id, wake, turn, .process (.perform (.act action) next) .nothing⟩ =
        { m.put ⟨id, wake', turn',
            .process (next (host.answer m.start (m.dueAt wake) m.nodes action).1.2) .nothing⟩ with
          now := m.dueAt wake
          nodes := (host.answer m.start (m.dueAt wake) m.nodes action).2
          log := log
          fresh := fresh } := by
  obtain ⟨log, wake', turn', fresh, hfresh, hdue, hput⟩ := perform_continueAfter host
    { m with now := m.dueAt wake }
    ⟨id, wake, turn, .process (.perform (.act action) next) .nothing⟩ action
    fun a => .process (next a) .nothing
  exact ⟨log, wake', turn', fresh, hfresh, hdue (m.le_dueAt wake), hput⟩

/-- Every schedule of a single fiber that runs a process ends with an outcome of the process. -/
theorem inevitably_of_process {p : Process σ ρ α} {m : Machine ν σ ρ α} {id turn : Nat}
    {wake : Span}
    (hfibers : m.fibers =
      [⟨id, wake, turn, .process (p.bind fun b => .done (some b)) .nothing⟩])
    (hfresh : id < m.fresh) :
    m.Inevitably host fun m' => ∃ b last,
      p.Yields host m.start b last ⟨m.nodes, m.dueAt wake, m.shared⟩ ∧ m'.fibers = [] ∧
        m'.answers = (id, b) :: m.answers ∧ m'.nodes = last.nodes ∧
        m'.shared = last.shared ∧ m'.now = last.now := by
  induction p generalizing m wake turn with
  | done b =>
    refine .of_single hfibers rfl (.of_no_fibers ?_ ?_)
    · simp [resume, advanceProcess, Program.bind, remove, hfibers]
    · exact ⟨b, _, ⟨rfl, rfl⟩, by simp [resume, advanceProcess, Program.bind, remove, hfibers],
        rfl, rfl, rfl, rfl⟩
  | perform effect next ih =>
    refine .of_single hfibers rfl ?_
    cases effect with
    | act action =>
      obtain ⟨log, wake', turn', fresh, hfresh', hdue, hresume⟩ :=
        resume_act host m id turn wake action fun a => (next a).bind fun b => .done (some b)
      set answer := host.answer m.start (m.dueAt wake) m.nodes action with hanswer
      let m₁ : Machine ν σ ρ α :=
        { m.put ⟨id, wake', turn',
            .process ((next answer.1.2).bind fun b => .done (some b)) .nothing⟩ with
          now := m.dueAt wake
          nodes := answer.2
          log := log
          fresh := fresh }
      have hm₁ : m₁.fibers = [⟨id, wake', turn',
          .process ((next answer.1.2).bind fun b => .done (some b)) .nothing⟩] :=
        put_single hfibers rfl
      refine (congrArg (Inevitably host _) hresume).mpr
        ((ih _ hm₁ (Nat.lt_of_lt_of_le hfresh hfresh')).mono ?_)
      rintro m' ⟨b, last, hyields, hend⟩
      rw [show m₁.dueAt wake' = m.dueAt wake + answer.1.1 from hdue] at hyields
      exact ⟨b, last, hyields, hend⟩
    | update change =>
      let m₁ : Machine ν σ ρ α :=
        { m.put ⟨id, wake, turn,
            .process ((next m.shared).bind fun b => .done (some b)) .nothing⟩ with
          now := m.dueAt wake
          shared := change m.shared }
      have hm₁ : m₁.fibers =
          [⟨id, wake, turn, .process ((next m.shared).bind fun b => .done (some b)) .nothing⟩] :=
        put_single hfibers rfl
      change Inevitably host _ m₁
      refine (ih m.shared hm₁ hfresh).mono ?_
      rintro m' ⟨b, last, hyields, hend⟩
      rw [dueAt_of_le (m.le_dueAt wake)] at hyields
      exact ⟨b, last, hyields, hend⟩
    | pool limit jobs =>
      let m₁ : Machine ν σ ρ α := { m with now := m.dueAt wake }
      let main : Fiber σ ρ α :=
        ⟨id, wake, turn, .process ((Program.perform (.pool limit jobs) next).bind fun b =>
          .done (some b)) .nothing⟩
      let next' (results : List ρ) : Process σ ρ (Option α) :=
        (next results).bind fun b => .done (some b)
      change Inevitably host _ (m₁.openPool main limit jobs next' .nothing)
      -- Without jobs the fiber goes on at once; otherwise it waits until all of them are done.
      by_cases hjobs : jobs = []
      · subst hjobs
        let m₂ : Machine ν σ ρ α := m₁.put ⟨id, wake, turn, .process (next' []) .nothing⟩
        have hm₂ : m₂.fibers = [⟨id, wake, turn, .process (next' []) .nothing⟩] :=
          put_single hfibers rfl
        change Inevitably host _ m₂
        refine (ih [] hm₂ hfresh).mono ?_
        rintro m' ⟨b, last, hyields, hend⟩
        rw [dueAt_of_le (m := m₂) (m.le_dueAt wake)] at hyields
        exact ⟨b, last, ⟨[], m.nodes, m.dueAt wake, .finished [] m.nodes, Nat.le_refl _, hyields⟩,
          hend⟩
      · obtain ⟨hserves, hworking, -, hlater, hnodes⟩ :=
          openPool_serves (m := m₁) (f := main) limit next' hfibers hfresh hjobs
        refine hserves.inevitably hworking
          fun m' results wake' turn' hlater' hfresh' hint hfibers' => ?_
        refine (ih results hfibers' hfresh').mono ?_
        rintro m'' ⟨b, last, hyields, hend⟩
        have hm' := hlater.trans hlater'
        rw [hm'.start, hm'.shared] at hyields
        rw [hm'.answers] at hend
        rw [hlater.start, hnodes] at hint
        refine ⟨b, last, ⟨results, m'.nodes, m'.dueAt wake', hint, ?_, hyields⟩, hend⟩
        exact Nat.le_trans hm'.now (m'.now_le_dueAt wake')

/-- Every schedule of a process that is launched on a machine of its own ends, and then the
machine shows an outcome of the process. -/
theorem launch_inevitably (host : Host ν) (start : Instant) (nodes : ν) (shared : σ)
    (p : Process σ ρ α) :
    ((initial start nodes shared).launch p).Inevitably host fun m => ∃ a last,
      p.Yields host start a last ⟨nodes, .zero, shared⟩ ∧ m.fibers = [] ∧
        m.answers = [(0, a)] ∧ m.nodes = last.nodes ∧ m.shared = last.shared ∧
        m.now = last.now :=
  inevitably_of_process (m := (initial start nodes shared).launch p) rfl Nat.zero_lt_one

/-- A routine that is launched on a machine of its own ends as it does alone. -/
theorem launch_ofRoutine (host : Host ν) (start : Instant) (nodes : ν) (shared : σ)
    (r : Routine α) :
    ((initial start nodes shared).launch (.ofRoutine r : Process σ ρ α)).Inevitably host fun m =>
      m.answer? 0 = some (host.exec start r (nodes, .zero)).1 ∧
        m.nodes = (host.exec start r (nodes, .zero)).2.1 := by
  refine (launch_inevitably host start nodes shared _).mono ?_
  rintro m ⟨a, last, hyields, -, hanswers, hnodes, -⟩
  obtain ⟨rfl, rfl⟩ := Process.yields_ofRoutine.1 hyields
  refine ⟨?_, hnodes⟩
  rw [answer?, hanswers]
  rfl

end Machine
end SeriesReplica.Concurrent
