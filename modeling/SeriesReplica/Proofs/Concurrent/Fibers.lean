import SeriesReplica.Proofs.Concurrent.Pool

/-! Many fibers. What is known of every fiber by its number stays known while fibers take steps
that leave the shared state alone: a step goes on with one fiber, or starts a job for one that
waits, and the others are as they were. -/
namespace SeriesReplica.Concurrent
open Time

variable {ν σ ρ α : Type}

namespace Machine

/-- The numbers of the fibers. -/
def ids (m : Machine ν σ ρ α) : List Nat := m.fibers.map (·.id)

/-- Something holds of every fiber by its number, and the numbers are unique and not to be used
again. -/
structure Each (P : Nat → Body σ ρ α → Prop) (m : Machine ν σ ρ α) : Prop where
  holds : ∀ f ∈ m.fibers, P f.id f.body
  nodup : m.ids.Nodup
  below : ∀ i ∈ m.ids, i < m.fresh

/-- What holds of fibers does not depend on how far they have come with what is answered to them
alone, and holds of the jobs that are started. -/
structure Stable (P : Nat → Body σ ρ α → Prop) (fresh : Nat) : Prop where
  act : ∀ {i action next after}, P i (.process (.perform (.act action) next) after) →
    ∀ answer, P i (.process (next answer) after)
  pool : ∀ {i limit jobs next after}, P i (.process (.perform (.pool limit jobs) next) after) →
    ∀ waiting results, P i (.gathering waiting results next after)
  gathering : ∀ {i waiting results next after}, P i (.gathering waiting results next after) →
    ∀ waiting' results', P i (.gathering waiting' results' next after)
  gathered : ∀ {i waiting results next after}, P i (.gathering waiting results next after) →
    ∀ results', P i (.process (next results') after)
  job : ∀ {i parent index r}, P i (.job parent index r) → ∀ r', P i (.job parent index r')
  started : ∀ i, fresh ≤ i → ∀ parent index r, P i (.job parent index r)

theorem Stable.later {P : Nat → Body σ ρ α → Prop} {n n' : Nat} (h : Stable P n) (hn : n ≤ n') :
    Stable P n' :=
  { h with started := fun i hi => h.started i (Nat.le_trans hn hi) }

/-- A later moment of a machine whose fibers are all still there, and with the same shared state
and answers. -/
structure Grows (m m' : Machine ν σ ρ α) : Prop where
  shared_eq : m'.shared = m.shared
  answers_eq : m'.answers = m.answers
  fresh_le : m.fresh ≤ m'.fresh
  ids_subset : ∀ i ∈ m.ids, i ∈ m'.ids

theorem Grows.refl (m : Machine ν σ ρ α) : m.Grows m :=
  ⟨rfl, rfl, Nat.le_refl _, fun _ hi => hi⟩

theorem Grows.trans {m m₁ m₂ : Machine ν σ ρ α} (h : m.Grows m₁) (h' : m₁.Grows m₂) :
    m.Grows m₂ :=
  ⟨h'.shared_eq.trans h.shared_eq, h'.answers_eq.trans h.answers_eq,
    Nat.le_trans h.fresh_le h'.fresh_le, fun i hi => h'.ids_subset i (h.ids_subset i hi)⟩

variable {P Q : Nat → Body σ ρ α → Prop} {m m' : Machine ν σ ρ α} {f g : Fiber σ ρ α}

@[simp] theorem ids_put (m : Machine ν σ ρ α) (g : Fiber σ ρ α) : (m.put g).ids = m.ids := by
  rw [ids, put, List.map_map]
  refine List.map_congr_left fun f _ => ?_
  rw [Function.comp_apply]
  split
  · exact Eq.symm ‹_›
  · rfl

theorem mem_put (hf : f ∈ m.fibers) (hid : f.id = g.id) : g ∈ (m.put g).fibers :=
  List.mem_map.2 ⟨f, hf, if_pos hid⟩

@[simp] theorem put_put {k : Fiber σ ρ α} (hid : k.id = g.id) : (m.put g).put k = m.put k := by
  simp only [put, List.map_map]
  refine congrArg (fun fibers => { m with fibers := fibers }) (List.map_congr_left fun f _ => ?_)
  by_cases heq : f.id = g.id <;> simp [heq, hid]

/-- What becomes of a machine when the result of a job is handed in. -/
inductive Delivered (m : Machine ν σ ρ α) (parent index : Nat) (result : ρ) :
    Machine ν σ ρ α → Prop
  /-- The fiber that waits for it starts its next job. -/
  | starts {g : Fiber σ ρ α} {i r waiting results next after} (hg : g ∈ m.fibers)
    (hid : g.id = parent) (hbody : g.body = .gathering ((i, r) :: waiting) results next after) :
    Delivered m parent index result ((m.put { g with
      body := .gathering waiting (results.set index (some result)) next after }).spawn
        (.job g.id i r))
  /-- The fiber has all results and goes on. -/
  | gathers {g : Fiber σ ρ α} {results next after} (hg : g ∈ m.fibers) (hid : g.id = parent)
    (hbody : g.body = .gathering [] results next after)
    (hall : (results.set index (some result)).all (·.isSome) = true) :
    Delivered m parent index result { m.put ⟨g.id, m.now, m.fresh,
      .process (next ((results.set index (some result)).filterMap id)) after⟩ with
      fresh := m.fresh + 1 }
  /-- The fiber still waits for jobs that run. -/
  | waits {g : Fiber σ ρ α} {results next after} (hg : g ∈ m.fibers) (hid : g.id = parent)
    (hbody : g.body = .gathering [] results next after)
    (hall : ¬ (results.set index (some result)).all (·.isSome) = true) :
    Delivered m parent index result (m.put { g with
      body := .gathering [] (results.set index (some result)) next after })
  /-- No fiber waits for it. -/
  | unclaimed (hnone : ∀ g, m.fibers.find? (·.id = parent) = some g →
      ∀ waiting results next after, g.body ≠ .gathering waiting results next after) :
    Delivered m parent index result m

theorem deliver_delivered (m : Machine ν σ ρ α) (parent index : Nat) (result : ρ) :
    m.Delivered parent index result (m.deliver parent index result) := by
  unfold Machine.deliver
  split
  case h_2 hnone =>
    refine .unclaimed fun g hg => ?_
    rw [hnone] at hg
    cases hg
  case h_1 f hfind =>
    have hf := List.mem_of_find?_eq_some hfind
    have hid : f.id = parent := by simpa using List.find?_some hfind
    split
    case h_2 hother =>
      refine .unclaimed fun g hg waiting results next after hbody => ?_
      obtain rfl := Option.some.inj (hfind.symm.trans hg)
      exact hother waiting results next after hbody
    case h_1 waiting results next after hbody =>
      cases waiting with
      | cons w waiting =>
        simp only [Machine.feed]
        rw [put_put]
        · exact .starts hf hid hbody
        · rfl
      | nil =>
        simp only [Machine.feed]
        split
        case isTrue hall =>
          rw [put_put]
          · exact .gathers hf hid hbody hall
          · rfl
        case isFalse hall => exact .waits hf hid hbody hall

theorem mem_spawnFirst (m : Machine ν σ ρ α) (body : Body σ ρ α) :
    ⟨m.fresh, .zero, 0, body⟩ ∈ (m.spawnFirst body).fibers :=
  List.mem_append_right _ (List.mem_singleton_self _)

theorem mem_ids (hf : f ∈ m.fibers) : f.id ∈ m.ids := List.mem_map_of_mem hf

/-- Only one fiber changes, and only of this one something else may be claimed. -/
theorem Each.put (h : m.Each P) (hother : ∀ i b, i ≠ g.id → P i b → Q i b)
    (hg : Q g.id g.body) : (m.put g).Each Q where
  holds f hf := by
    obtain ⟨k, hk, rfl⟩ := List.mem_map.1 hf
    split
    · exact hg
    · exact hother _ _ ‹_› (h.holds k hk)
  nodup := by rw [ids_put]; exact h.nodup
  below := by rw [ids_put]; exact h.below

theorem mem_ids_remove {n i : Nat} : i ∈ (m.remove n).ids ↔ i ∈ m.ids ∧ i ≠ n := by
  simp only [ids, remove, List.mem_map, List.mem_filter, decide_eq_true_eq]
  constructor
  · rintro ⟨f, ⟨hf, hne⟩, rfl⟩
    exact ⟨⟨f, hf, rfl⟩, hne⟩
  · rintro ⟨⟨f, hf, rfl⟩, hne⟩
    exact ⟨f, ⟨hf, hne⟩, rfl⟩

theorem Each.remove (h : m.Each P) {n : Nat} (hother : ∀ i b, i ≠ n → P i b → Q i b) :
    (m.remove n).Each Q where
  holds f hf := by
    obtain ⟨hf, hne⟩ := List.mem_filter.1 hf
    exact hother _ _ (of_decide_eq_true hne) (h.holds f hf)
  nodup := h.nodup.sublist ((List.filter_sublist).map _)
  below i hi := h.below i (mem_ids_remove.1 hi).1

/-- The rest of the machine does not matter. -/
theorem Each.congr (h : m.Each P) (hfibers : m'.fibers = m.fibers) (hfresh : m.fresh ≤ m'.fresh) :
    m'.Each P := by
  have hids : m'.ids = m.ids := by rw [ids, ids, hfibers]
  exact ⟨hfibers ▸ h.holds, hids ▸ h.nodup, fun i hi => (h.below i (hids ▸ hi)).trans_le hfresh⟩

/-- A number to come is not that of a fiber. -/
theorem Each.ne_of_fresh_le (h : m.Each P) (hf : f ∈ m.fibers) {i : Nat} (hi : m.fresh ≤ i) :
    i ≠ f.id :=
  ((h.below f.id (mem_ids hf)).trans_le hi).ne'

/-- A new fiber takes the next number. -/
theorem Each.add (h : m.Each P) {wake : Span} {turn : Nat} {body : Body σ ρ α}
    (hbody : P m.fresh body) :
    ({ m with fibers := m.fibers ++ [⟨m.fresh, wake, turn, body⟩], fresh := m.fresh + 1 } :
      Machine ν σ ρ α).Each P where
  holds f hf := by
    rcases List.mem_append.1 hf with hf | hf
    · exact h.holds f hf
    · rw [List.mem_singleton.1 hf]
      exact hbody
  nodup := by
    rw [ids, List.map_append, List.nodup_append]
    refine ⟨h.nodup, List.nodup_singleton _, fun i hi k hk => ?_⟩
    rw [List.mem_singleton.1 hk]
    exact Nat.ne_of_lt (h.below i hi)
  below i hi := by
    rw [ids, List.map_append, List.mem_append] at hi
    rcases hi with hi | hi
    · exact Nat.lt_succ_of_lt (h.below i hi)
    · rw [List.mem_singleton.1 hi]
      exact Nat.lt_succ_self m.fresh

theorem spawn_grows (m : Machine ν σ ρ α) (body : Body σ ρ α) : m.Grows (m.spawn body) :=
  ⟨rfl, rfl, Nat.le_succ _, fun _ hi => by
    rw [ids, spawn, List.map_append]
    exact List.mem_append_left _ hi⟩

/-- A fiber is put back, and the next number may be another one. -/
theorem put_grows (m : Machine ν σ ρ α) (g : Fiber σ ρ α) {fresh : Nat} (hfresh : m.fresh ≤ fresh) :
    m.Grows { m.put g with fresh := fresh } :=
  ⟨rfl, rfl, hfresh, fun _ hi => (ids_put m g).symm ▸ hi⟩

/-- A result is handed to the fiber that waits for it. -/
theorem Each.deliver (h : m.Each P) (hstable : Stable P m.fresh) (parent index : Nat) (result : ρ) :
    (m.deliver parent index result).Each P ∧ m.Grows (m.deliver parent index result) := by
  have hdelivered := m.deliver_delivered parent index result
  generalize m.deliver parent index result = m' at hdelivered ⊢
  cases hdelivered with
  | @starts g i r waiting results next after hg hid hbody =>
    have hwaits := hstable.gathering (hbody ▸ h.holds g hg) waiting
      (results.set index (some result))
    exact ⟨(h.put (g := { g with body := _ }) (fun _ _ _ h => h) hwaits).add
      (hstable.started _ (Nat.le_refl _) _ _ _),
      (put_grows m _ (Nat.le_refl _)).trans (spawn_grows _ _)⟩
  | @gathers g results next after hg hid hbody hall =>
    have hgoes := hstable.gathered (hbody ▸ h.holds g hg)
      ((results.set index (some result)).filterMap id)
    exact ⟨(h.put (g := ⟨g.id, m.now, m.fresh, _⟩) (fun _ _ _ h => h) hgoes).congr rfl
      (Nat.le_succ _), put_grows m _ (Nat.le_succ _)⟩
  | @waits g results next after hg hid hbody hall =>
    have hwaits := hstable.gathering (hbody ▸ h.holds g hg) [] (results.set index (some result))
    exact ⟨h.put (g := { g with body := _ }) (fun _ _ _ h => h) hwaits,
      put_grows m _ (Nat.le_refl _)⟩
  | unclaimed => exact ⟨h, .refl m⟩

/-- The fibers of jobs that are started come behind the ones that are there. -/
theorem fibers_spawnAll (m : Machine ν σ ρ α) (parent : Nat) (js : List (Nat × Routine ρ)) :
    ∃ extra, (js.foldl (fun m (i, r) => m.spawn (.job parent i r)) m).fibers = m.fibers ++ extra ∧
      extra.map (·.body) = js.map fun j => .job parent j.1 j.2 := by
  induction js generalizing m with
  | nil => exact ⟨[], (List.append_nil _).symm, rfl⟩
  | cons j js ih =>
    obtain ⟨extra, hfibers, hbodies⟩ := ih (m.spawn (.job parent j.1 j.2))
    refine ⟨⟨m.fresh, m.now, m.fresh, .job parent j.1 j.2⟩ :: extra, ?_,
      congrArg (List.cons _) hbodies⟩
    rw [List.foldl_cons, hfibers, spawn, List.append_assoc]
    rfl

/-- When a pool with jobs is opened, its fiber comes to wait for it, and the first jobs start. -/
theorem fibers_openPool (m : Machine ν σ ρ α) (f : Fiber σ ρ α) (limit : Nat)
    {jobs : List (Routine ρ)} (hjobs : jobs ≠ []) (next : List ρ → Process σ ρ (Option α))
    (after : After σ ρ) :
    let numbered := jobs.zipIdx.map fun x => (x.2, x.1)
    let body := .gathering (numbered.drop (max limit 1)) (jobs.map fun _ => none) next after
    ∃ extra, (m.openPool f limit jobs next after).fibers =
        (m.put { f with body := body }).fibers ++ extra ∧
      extra.map (·.body) = (numbered.take (max limit 1)).map fun j => .job f.id j.1 j.2 := by
  rw [openPool, if_neg (by simpa using hjobs)]
  exact fibers_spawnAll ..

theorem spawnAll_grows (m : Machine ν σ ρ α) (parent : Nat) (js : List (Nat × Routine ρ)) :
    m.Grows (js.foldl (fun m (i, r) => m.spawn (.job parent i r)) m) := by
  induction js generalizing m with
  | nil => exact .refl m
  | cons j js ih => exact (spawn_grows m _).trans (ih _)

theorem Each.spawnAll (h : m.Each P) (hstable : Stable P m.fresh) (parent : Nat)
    (js : List (Nat × Routine ρ)) :
    (js.foldl (fun m (i, r) => m.spawn (.job parent i r)) m).Each P := by
  induction js generalizing m with
  | nil => exact h
  | cons j js ih =>
    exact ih (h.add (hstable.started _ (Nat.le_refl _) _ _ _))
      (hstable.later (spawn_grows m (.job parent j.1 j.2)).fresh_le)

/-- A fiber that takes an action goes on with the answer. -/
theorem Each.perform (h : m.Each P) (host : Host ν) {action : Action}
    (body : action.Answer → Body σ ρ α) (hbody : ∀ answer, P f.id (body answer)) :
    let m' := (m.perform host action).2.continueAfter f (m.perform host action).1.1
      (body (m.perform host action).1.2)
    m'.Each P ∧ m.Grows m' := by
  obtain ⟨log, wake, turn, fresh, hfresh, -, heq⟩ := perform_continueAfter host m f action body
  rw [heq]
  set g : Fiber σ ρ α :=
    ⟨f.id, wake, turn, body (host.answer m.start m.now m.nodes action).1.2⟩
  have hput := h.put (g := g) (fun _ _ _ h => h) (hbody _)
  have hgrows := put_grows m g hfresh
  exact ⟨hput.congr rfl hfresh,
    ⟨hgrows.shared_eq, hgrows.answers_eq, hgrows.fresh_le, hgrows.ids_subset⟩⟩

/-- An open pool starts jobs of its fiber, which waits for them. -/
theorem Each.openPool (h : m.Each P) (hstable : Stable P m.fresh) {limit : Nat}
    {jobs : List (Routine ρ)} {next : List ρ → Process σ ρ (Option α)} {after : After σ ρ}
    (hf : ∀ waiting results, P f.id (.gathering waiting results next after)) :
    (m.openPool f limit jobs next after).Each P ∧ m.Grows (m.openPool f limit jobs next after) := by
  rw [Machine.openPool]
  dsimp only
  split
  · have hnext := hstable.gathered (hf [] []) []
    exact ⟨h.put (g := { f with body := .process (next []) after }) (fun _ _ _ h => h) hnext,
      put_grows m _ (Nat.le_refl _)⟩
  · have hput := fun waiting results => h.put (Q := P)
      (g := { f with body := .gathering waiting results next after }) (fun _ _ _ h => h)
      (hf waiting results)
    exact ⟨(hput _ _).spawnAll hstable f.id _,
      (put_grows m _ (Nat.le_refl _)).trans (spawnAll_grows _ f.id _)⟩

variable {host : Host ν}

/-- A process that is done is taken away with its result, if it has one. -/
theorem resume_done {result : Option α} (h : f.body = .process (.done result) .nothing) :
    m.resume host f = ({ m with
      now := m.dueAt f.wake
      answers := (result.map (f.id, ·)).toList ++ m.answers } : Machine ν σ ρ α).remove f.id := by
  simp only [resume, h, advanceProcess]
  rfl

/-- A change of the shared state is one step. -/
theorem resume_update {change : σ → σ} {next : σ → Process σ ρ (Option α)} {after : After σ ρ}
    (h : f.body = .process (.perform (.update change) next) after) :
    m.resume host f = { m.put { f with body := .process (next m.shared) after } with
      now := m.dueAt f.wake
      shared := change m.shared } := by
  simp only [resume, h, advanceProcess]
  rfl

/-- A step that neither ends a process nor changes the shared state, nor wakes a loop. -/
def IsInner : Body σ ρ α → Prop
  | .process (.perform (.act _) _) _ => True
  | .process (.perform (.pool _ _) _) _ => True
  | .job .. => True
  | .gathering .. => True
  | _ => False

/-- After such a step all fibers are as they should be, and only that of a job may be gone. -/
theorem Each.resume (h : m.Each P) (host : Host ν) (hstable : Stable P m.fresh) (hf : f ∈ m.fibers)
    (hinner : IsInner f.body) :
    (m.resume host f).Each P ∧ (m.resume host f).shared = m.shared ∧
      (m.resume host f).answers = m.answers ∧ m.fresh ≤ (m.resume host f).fresh ∧
      ∀ i ∈ m.ids, i ∈ (m.resume host f).ids ∨
        i = f.id ∧ ∃ parent index r, f.body = .job parent index r := by
  have hholds := h.holds f hf
  set later : Machine ν σ ρ α := { m with now := m.dueAt f.wake } with hlater
  have heach : later.Each P := h.congr rfl (Nat.le_refl _)
  have hgrown : ∀ {m' : Machine ν σ ρ α}, m'.Each P ∧ later.Grows m' → m'.Each P ∧
      m'.shared = m.shared ∧ m'.answers = m.answers ∧ m.fresh ≤ m'.fresh ∧
      ∀ i ∈ m.ids, i ∈ m'.ids ∨ i = f.id ∧ ∃ parent index r, f.body = .job parent index r :=
    fun ⟨heach', hgrows⟩ => ⟨heach', hgrows.shared_eq, hgrows.answers_eq, hgrows.fresh_le,
      fun i hi => .inl (hgrows.ids_subset i hi)⟩
  match hbody : f.body with
  | .process (.perform (.act action) next) after =>
    rw [hbody] at hholds hgrown
    have hresume : m.resume host f = (later.perform host action).2.continueAfter f
        (later.perform host action).1.1
        (.process (next (later.perform host action).1.2) after) := by
      simp only [Machine.resume, hbody, advanceProcess]
      rfl
    rw [hresume]
    exact hgrown (heach.perform host (fun answer => .process (next answer) after)
      (hstable.act hholds))
  | .process (.perform (.pool limit jobs) next) after =>
    rw [hbody] at hholds hgrown
    have hresume : m.resume host f = later.openPool f limit jobs next after := by
      simp only [Machine.resume, hbody, advanceProcess]
      rfl
    rw [hresume]
    exact hgrown (heach.openPool hstable (hstable.pool hholds))
  | .job parent index (.perform action next) =>
    rw [hbody] at hholds hgrown
    have hresume : m.resume host f = (later.perform host action).2.continueAfter f
        (later.perform host action).1.1
        (.job parent index (next (later.perform host action).1.2)) := by
      simp only [Machine.resume, hbody]
      rfl
    rw [hresume]
    exact hgrown (heach.perform host (fun answer => .job parent index (next answer))
      fun answer => hstable.job hholds _)
  | .job parent index (.done result) =>
    have hresume : m.resume host f = (later.remove f.id).deliver parent index result := by
      simp only [Machine.resume, hbody]
      rfl
    have hremoved : (later.remove f.id).Each P := heach.remove fun _ _ _ h => h
    obtain ⟨hdelivered, hgrows⟩ := hremoved.deliver hstable parent index result
    rw [hresume]
    refine ⟨hdelivered, hgrows.shared_eq, hgrows.answers_eq, hgrows.fresh_le, fun i hi => ?_⟩
    by_cases hif : i = f.id
    · exact .inr ⟨hif, parent, index, _, rfl⟩
    · exact .inl (hgrows.ids_subset i (mem_ids_remove.2 ⟨hi, hif⟩))
  | .gathering waiting results next after =>
    rw [hbody] at hgrown
    have hresume : m.resume host f = later := by
      simp only [Machine.resume, hbody]
      rfl
    rw [hresume]
    exact hgrown ⟨heach, .refl later⟩
  | .process (.done _) _ | .process (.perform (.update _) _) _ | .waiting .. =>
    rw [hbody] at hinner
    exact hinner.elim

end Machine
end SeriesReplica.Concurrent
