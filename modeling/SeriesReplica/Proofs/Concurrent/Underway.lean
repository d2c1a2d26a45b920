import SeriesReplica.Proofs.Concurrent.Notes

/-! A fiber among others. Whatever else is going on, what a fiber has noted since it came to a
process is an account of that process, until it goes on with what follows: steps of other fibers
leave alone what it does and what its jobs have still to note, and its own steps and those of its
jobs are steps of the account. -/
namespace SeriesReplica.Concurrent
open Time

variable {ν σ ρ α β : Type} {host : Host ν}

namespace Machine
variable {m m' m₁ m₂ : Machine ν σ ρ α}

section Others

@[simp] theorem bodies_spawn (m : Machine ν σ ρ α) (body : Body σ ρ α) :
    (m.spawn body).bodies = m.bodies ++ [(m.fresh, body)] :=
  List.map_append

theorem bodies_congr (h : m'.fibers = m.fibers) : m'.bodies = m.bodies := by
  rw [bodies, bodies, h]

theorem mem_bodies {f : Fiber σ ρ α} (hf : f ∈ m.fibers) : (f.id, f.body) ∈ m.bodies :=
  List.mem_map_of_mem hf

theorem mem_bodies_put {g : Fiber σ ρ α} {x : Nat × Body σ ρ α} (hx : x ∈ (m.put g).bodies) :
    x = (g.id, g.body) ∨ x ∈ m.bodies ∧ x.1 ≠ g.id := by
  obtain ⟨k, hk, rfl⟩ := List.mem_map.1 hx
  rcases mem_of_mem_put hk with rfl | ⟨hk, hne⟩
  · exact .inl rfl
  · exact .inr ⟨mem_bodies hk, hne⟩

theorem mem_bodies_put_of_ne {g : Fiber σ ρ α} {i : Nat} {b : Body σ ρ α} (h : (i, b) ∈ m.bodies)
    (hne : i ≠ g.id) : (i, b) ∈ (m.put g).bodies := by
  obtain ⟨k, hk, heq⟩ := List.mem_map.1 h
  obtain ⟨rfl, rfl⟩ := Prod.mk.inj heq
  exact mem_bodies (mem_put_of_ne hk hne)

theorem mem_bodies_remove {n i : Nat} {b : Body σ ρ α} :
    (i, b) ∈ (m.remove n).bodies ↔ (i, b) ∈ m.bodies ∧ i ≠ n := by
  simp only [bodies, remove, List.mem_map, List.mem_filter, decide_eq_true_eq]
  constructor
  · rintro ⟨k, ⟨hk, hne⟩, heq⟩
    obtain ⟨rfl, rfl⟩ := Prod.mk.inj heq
    exact ⟨⟨k, hk, rfl⟩, hne⟩
  · rintro ⟨⟨k, hk, heq⟩, hne⟩
    obtain ⟨rfl, rfl⟩ := Prod.mk.inj heq
    exact ⟨k, ⟨hk, hne⟩, rfl⟩

/-- A pool that is opened: its fiber waits for it, and the first jobs have started. -/
theorem bodies_openPool (m : Machine ν σ ρ α) (f : Fiber σ ρ α) (limit : Nat)
    {jobs : List (Routine ρ)} (hjobs : jobs ≠ []) (next : List ρ → Process σ ρ (Option α))
    (after : After σ ρ) :
    ∃ waiting results extra, (m.openPool f limit jobs next after).bodies =
        (m.put { f with body := .gathering waiting results next after }).bodies ++ extra ∧
      (∀ w ∈ waiting, w.2 ∈ jobs) ∧ ∀ x ∈ extra, ∃ index, ∃ r ∈ jobs, x.2 = .job f.id index r := by
  obtain ⟨extra, hfibers, hextra⟩ := fibers_openPool m f limit hjobs next after
  set numbered := jobs.zipIdx.map fun x => (x.2, x.1) with hnumbered
  have hmem : ∀ j ∈ numbered, j.2 ∈ jobs := by
    intro j hj
    obtain ⟨x, hx, rfl⟩ := List.mem_map.1 hj
    exact List.fst_mem_of_mem_zipIdx hx
  refine ⟨numbered.drop (max limit 1), jobs.map fun _ => none,
    extra.map fun k => (k.id, k.body), ?_, fun w hw => hmem w (List.mem_of_mem_drop hw),
    fun x hx => ?_⟩
  · rw [bodies, hfibers, List.map_append]
    rfl
  · obtain ⟨k, hk, rfl⟩ := List.mem_map.1 hx
    obtain ⟨j, hj, hbody⟩ := List.mem_map.1 (hextra ▸ List.mem_map_of_mem hk)
    exact ⟨j.1, j.2, hmem j (List.mem_of_mem_take hj), hbody.symm⟩

/-- What concerns a fiber is kept: it does what it did, and its jobs have no more to note. -/
structure Keeps (i : Nat) (m m' : Machine ν σ ρ α) : Prop where
  body : ∀ b, (i, b) ∈ m.bodies → (i, b) ∈ m'.bodies
  jobs : ∀ k index r, (k, .job i index r) ∈ m'.bodies → ∃ k' index' r',
    (k', .job i index' r') ∈ m.bodies ∧ ∀ n : Note σ, r.MayNote n → r'.MayNote n

namespace Keeps
variable {i : Nat} {f g : Fiber σ ρ α}

theorem of_bodies (h : m'.bodies = m.bodies) : m.Keeps i m' :=
  ⟨fun _ hb => h ▸ hb, fun k index r hr => ⟨k, index, r, h ▸ hr, fun _ hn => hn⟩⟩

/-- Fibers are added that are no jobs of this one. -/
theorem of_append {extra : List (Nat × Body σ ρ α)} (h : m'.bodies = m.bodies ++ extra)
    (hextra : ∀ x ∈ extra, ∀ index r, x.2 ≠ .job i index r) : m.Keeps i m' := by
  refine ⟨fun b hb => h ▸ List.mem_append_left _ hb, fun k index r hr => ?_⟩
  rw [h] at hr
  rcases List.mem_append.1 hr with hr | hr
  · exact ⟨k, index, r, hr, fun _ hn => hn⟩
  · exact absurd rfl (hextra _ hr index r)

theorem spawn {body : Body σ ρ α} (hbody : ∀ index r, body ≠ .job i index r) :
    m.Keeps i (m.spawn body) :=
  of_append (bodies_spawn m body) fun x hx => by
    rw [List.mem_singleton.1 hx]
    exact hbody

theorem trans (h : m.Keeps i m₁) (h' : m₁.Keeps i m₂) : m.Keeps i m₂ := by
  refine ⟨fun b hb => h'.body b (h.body b hb), fun k index r hr => ?_⟩
  obtain ⟨k₁, index₁, r₁, hr₁, hle₁⟩ := h'.jobs k index r hr
  obtain ⟨k₂, index₂, r₂, hr₂, hle₂⟩ := h.jobs k₁ index₁ r₁ hr₁
  exact ⟨k₂, index₂, r₂, hr₂, fun n hn => hle₂ n (hle₁ n hn)⟩

theorem remove {n : Nat} (hne : i ≠ n) : m.Keeps i (m.remove n) :=
  ⟨fun _ hb => mem_bodies_remove.2 ⟨hb, hne⟩,
    fun k index r hr => ⟨k, index, r, (mem_bodies_remove.1 hr).1, fun _ hn => hn⟩⟩

/-- Another fiber is put back, which is a job of this one only if it was one. -/
theorem put (hne : i ≠ g.id) (hjob : ∀ index r, g.body = .job i index r → ∃ k' index' r',
    (k', .job i index' r') ∈ m.bodies ∧ ∀ n : Note σ, r.MayNote n → r'.MayNote n) :
    m.Keeps i (m.put g) := by
  refine ⟨fun b hb => mem_bodies_put_of_ne hb hne, fun k index r hr => ?_⟩
  rcases mem_bodies_put hr with heq | ⟨hr, -⟩
  · exact hjob index r (Prod.mk.inj heq).2.symm
  · exact ⟨k, index, r, hr, fun _ hn => hn⟩

/-- Another fiber is put back that is no job. -/
theorem put_of_not_isJob (hne : i ≠ g.id) (hjob : ¬ g.body.IsJob) : m.Keeps i (m.put g) :=
  put hne fun _ _ hbody => absurd (hbody ▸ trivial) hjob

/-- A result is handed to another fiber. -/
theorem deliver {parent : Nat} (hne : i ≠ parent) (index : Nat) (result : ρ) :
    m.Keeps i (m.deliver parent index result) := by
  have hdelivered := m.deliver_delivered parent index result
  generalize m.deliver parent index result = m' at hdelivered ⊢
  cases hdelivered with
  | @starts g j r waiting results next after hg hid hbody =>
    refine (put_of_not_isJob (g := { g with body := _ }) (hid ▸ hne) id).trans
      (spawn fun index' r' heq => ?_)
    injection heq with hparent
    exact hne (hparent.symm.trans hid)
  | @gathers g results next after hg hid hbody hall =>
    exact (put_of_not_isJob (g := ⟨g.id, m.now, m.fresh, _⟩) (hid ▸ hne) id).trans (of_bodies rfl)
  | @waits g results next after hg hid hbody hall =>
    exact put_of_not_isJob (g := { g with body := _ }) (hid ▸ hne) id
  | unclaimed => exact of_bodies rfl

/-- A pool is opened for another fiber. -/
theorem openPool (hne : i ≠ f.id) (limit : Nat) {jobs : List (Routine ρ)} (hjobs : jobs ≠ [])
    (next : List ρ → Process σ ρ (Option α)) (after : After σ ρ) :
    m.Keeps i (m.openPool f limit jobs next after) := by
  obtain ⟨waiting, results, extra, hbodies, -, hextra⟩ := bodies_openPool m f limit hjobs next after
  refine (put_of_not_isJob (g := { f with body := .gathering waiting results next after })
    hne id).trans (of_append hbodies fun x hx index r heq => ?_)
  obtain ⟨j, r', -, hj⟩ := hextra x hx
  injection hj.symm.trans heq with hid
  exact hne hid.symm

/-- A step of another fiber that is no job of this one. -/
theorem of_stepped (hstepped : m.Stepped f m') (hne : i ≠ f.id)
    (hjob : ∀ index r, f.body ≠ .job i index r) : m.Keeps i m' := by
  have hlater : m.Keeps i { m with now := m.dueAt f.wake } := of_bodies rfl
  cases hstepped with
  | goes g hid hstep hfibers =>
    refine (put (g := g) (hid ▸ hne) fun index r hbody => ?_).trans
      (of_bodies (bodies_congr hfibers))
    rw [hbody] at hstep
    generalize hfbody : f.body = b, m'.shared = s' at hstep
    cases hstep with
    | job answer => exact absurd hfbody (hjob _ _)
  | quits hquits hshared hfibers =>
    exact (remove hne).trans (of_bodies (bodies_congr hfibers))
  | opens hbody hjobs hopen =>
    rw [hopen]
    exact hlater.trans (openPool hne _ hjobs _ _)
  | @delivers parent index result hbody hdeliver =>
    rw [hdeliver]
    have hparent : i ≠ parent := fun heq => hjob index (.done result) (heq ▸ hbody)
    exact (hlater.trans (remove hne)).trans (deliver hparent index result)

end Keeps

end Others

section Underway

/-- All that a routine may note one of these jobs may note. -/
def IsRestOf (σ : Type) (jobs : List (Routine ρ)) (r : Routine ρ) : Prop :=
  ∀ n : Note σ, r.MayNote n → ∃ j ∈ jobs, j.MayNote n

/-- The fiber `i` has come from the process `p`, which `k` follows, to a rest of it, and has noted
`l` on the way: whatever the rest has yet to note, with `l` before it, is an account of `p`. -/
inductive Underway (p : Process σ ρ β) (k : β → Process σ ρ (Option α)) (after : After σ ρ)
    (i : Nat) (l : List (Note σ)) (m : Machine ν σ ρ α) : Prop
  | running (q : Process σ ρ β) (body : (i, .process (q.bind k) after) ∈ m.bodies)
    (rest : ∀ l' result, q.Accounts l' result → p.Accounts (l ++ l') result)
  | gathering (jobs : List (Routine ρ)) (waiting : List (Nat × Routine ρ))
    (results : List (Option ρ)) (next : List ρ → Process σ ρ β)
    (body : (i, .gathering waiting results (fun x => (next x).bind k) after) ∈ m.bodies)
    (waits : ∀ w ∈ waiting, IsRestOf σ jobs w.2)
    (runs : ∀ n index r, (n, .job i index r) ∈ m.bodies → IsRestOf σ jobs r)
    (rest : ∀ l' x l'' result, FromJobs jobs l' → (next x).Accounts l'' result →
      p.Accounts (l ++ (l' ++ l'')) result)

variable {p q : Process σ ρ β} {k : β → Process σ ρ (Option α)} {after : After σ ρ} {i : Nat}
  {ns : List (Note σ)} {f : Fiber σ ρ α}

theorem eq_of_mem_bodies (hnodup : m.ids.Nodup) {b b' : Body σ ρ α} (hb : (i, b) ∈ m.bodies)
    (hb' : (i, b') ∈ m.bodies) : b = b' := by
  obtain ⟨f, hf, heq⟩ := List.mem_map.1 hb
  obtain ⟨g, hg, heq'⟩ := List.mem_map.1 hb'
  obtain ⟨rfl, rfl⟩ := Prod.mk.inj heq
  obtain ⟨hid, rfl⟩ := Prod.mk.inj heq'
  rw [eq_of_id hnodup hf hg hid]

/-- A fiber that waits for no pool has no jobs. -/
theorem Nested.no_jobs (h : m.Nested) {b : Body σ ρ α} (hb : (i, b) ∈ m.bodies)
    (hgathering : ¬ b.IsGathering) (n index : Nat) (r : Routine ρ) :
    (n, .job i index r) ∉ m.bodies := by
  intro hjob
  obtain ⟨f, hf, heq⟩ := List.mem_map.1 hjob
  obtain ⟨g, hg, rfl, hparent⟩ := h.exists_parent hf (Prod.mk.inj heq).2
  rw [eq_of_mem_bodies h.nodup (mem_bodies hg) hb] at hparent
  exact hgathering hparent

namespace Underway

theorem keeps (h : m.Underway p k after i ns) (hkeeps : m.Keeps i m') :
    m'.Underway p k after i ns := by
  cases h with
  | running q body rest => exact .running q (hkeeps.body _ body) rest
  | gathering jobs waiting results next body waits runs rest =>
    refine .gathering jobs waiting results next (hkeeps.body _ body) waits (fun n index r hr => ?_)
      rest
    obtain ⟨n', index', r', hr', hle⟩ := hkeeps.jobs n index r hr
    exact fun note hnote => runs n' index' r' hr' note (hle note hnote)

/-- A fiber is put back that is no job. -/
private theorem runs_put {jobs : List (Routine ρ)}
    (runs : ∀ n index r, (n, .job i index r) ∈ m.bodies → IsRestOf σ jobs r)
    (hjob : ¬ f.body.IsJob) (n index : Nat) (r : Routine ρ)
    (hr : (n, .job i index r) ∈ (m.put f).bodies) : IsRestOf σ jobs r := by
  rcases mem_bodies_put hr with heq | ⟨hr, -⟩
  · exact absurd ((Prod.mk.inj heq).2 ▸ trivial) hjob
  · exact runs n index r hr

/-- The fiber opens a pool. -/
theorem openPool (hnested : m.Nested) (hf : f ∈ m.fibers) {limit : Nat} {jobs : List (Routine ρ)}
    {next : List ρ → Process σ ρ β}
    (hbody : f.body = .process (.perform (.pool limit jobs) fun x => (next x).bind k) after)
    (hjobs : jobs ≠ [])
    (rest : ∀ l' result, Process.Accounts (.perform (.pool limit jobs) next) l' result →
      p.Accounts (ns ++ l') result) :
    (m.openPool f limit jobs (fun x => (next x).bind k) after).Underway p k after f.id ns := by
  obtain ⟨waiting, results, extra, hbodies, hwaiting, hextra⟩ :=
    bodies_openPool m f limit hjobs (fun x => (next x).bind k) after
  set g : Fiber σ ρ α :=
    { f with body := .gathering waiting results (fun x => (next x).bind k) after }
  refine .gathering jobs waiting results next ?_ (fun w hw n hn => ⟨w.2, hwaiting w hw, hn⟩)
    (fun n index r hr => ?_) fun l' x l'' result hl' hl'' => rest _ result (.pool hl' x hl'')
  · rw [hbodies]
    exact List.mem_append_left _ (mem_bodies (mem_put (g := g) hf rfl))
  · rw [hbodies] at hr
    rcases List.mem_append.1 hr with hr | hr
    · have hnone : ∀ n index r, (n, .job f.id index r) ∉ m.bodies :=
        hnested.no_jobs (mem_bodies hf) (hbody ▸ id)
      exact runs_put (f := g) (fun n index r hr => absurd hr (hnone n index r)) id n index r hr
    · obtain ⟨index', r', hr', heq⟩ := hextra _ hr
      injection heq with hid hindex hr
      exact fun note hnote => ⟨r', hr', hr ▸ hnote⟩

/-- The fiber takes a step of its process, unless that is done. -/
theorem own (hnested : m.Nested) (hf : f ∈ m.fibers)
    (hbody : f.body = .process (q.bind k) after)
    (rest : ∀ l' result, q.Accounts l' result → p.Accounts (ns ++ l') result)
    (hstepped : m.Stepped f m') : (∃ a, q = .done a) ∨
      m'.Underway p k after f.id (ns ++ Notes.of (f.body.notes f.id m.shared) f.id) := by
  cases q with
  | done a => exact .inl ⟨a, rfl⟩
  | perform effect next =>
    refine .inr ?_
    have hbody : f.body = .process (.perform effect fun x => (next x).bind k) after := hbody
    cases hstepped with
    | goes g hid hstep hfibers =>
      have hmem : (f.id, g.body) ∈ m'.bodies := by
        have hg : g ∈ m'.fibers := hfibers ▸ mem_put hf hid.symm
        exact hid ▸ mem_bodies hg
      rw [hbody] at hstep ⊢
      generalize g.body = b at hstep hmem
      generalize m'.shared = s' at hstep
      cases hstep with
      | act answer =>
        refine .running (next answer) hmem fun l' result hl' => ?_
        rw [Body.notes, Notes.of_map, if_pos rfl, List.append_assoc]
        exact rest _ result (.act answer hl')
      | skip =>
        refine .running (next []) hmem fun l' result hl' => ?_
        rw [show Body.notes f.id m.shared (.process (.perform (.pool _ []) _) after) = [] from rfl,
          Notes.of_nil, List.append_nil]
        exact rest l' result (.pool (fromJobs_nil []) [] hl')
      | update =>
        refine .running (next m.shared) hmem fun l' result hl' => ?_
        have hnotes : Notes.of [(f.id, .looked m.shared)] f.id = [.looked m.shared] := by
          simp [Notes.of]
        rw [Body.notes, hnotes, List.append_assoc]
        exact rest _ result (.update m.shared hl')
    | quits hquits =>
      rw [hbody] at hquits
      cases hquits
    | @opens limit jobs next' after' hbody' hjobs hopen =>
      injection hbody.symm.trans hbody' with hprocess hafter
      injection hprocess with heffect hnext
      subst heffect hafter
      obtain rfl := eq_of_heq hnext
      have hnotes : Notes.of (f.body.notes f.id m.shared) f.id = [] := by rw [hbody]; rfl
      have hlater : ({ m with now := m.dueAt f.wake } : Machine ν σ ρ α).Nested :=
        hnested.of_bodies rfl (Nat.le_refl _)
      rw [hnotes, List.append_nil, hopen]
      exact openPool hlater hf hbody hjobs rest
    | delivers hbody' => cases hbody.symm.trans hbody'

/-- A result is handed to the fiber, which starts its next job, goes on, or still waits. -/
theorem deliver (h : m.Underway p k after i ns) (hnodup : m.ids.Nodup) (index : Nat) (result : ρ) :
    (m.deliver i index result).Underway p k after i ns := by
  have hdelivered := m.deliver_delivered i index result
  generalize m.deliver i index result = m' at hdelivered ⊢
  -- What a fiber is doing that a result is handed to.
  have hbodies : ∀ {g : Fiber σ ρ α} {b : Body σ ρ α}, g ∈ m.fibers → g.id = i →
      (i, b) ∈ m.bodies → b = g.body := fun hg hid hb =>
    eq_of_mem_bodies hnodup hb (hid ▸ mem_bodies hg)
  cases h with
  | running q body rest =>
    cases hdelivered with
    | starts hg hid hbody | gathers hg hid hbody | waits hg hid hbody =>
      exact nomatch (hbodies hg hid body).trans hbody
    | unclaimed => exact .running q body rest
  | gathering jobs waiting results next body waits runs rest =>
    cases hdelivered with
    | @starts g j r waiting' results' next' after' hg hid hbody =>
      subst hid
      injection (hbodies hg rfl body).trans hbody with hwaiting hresults hnext hafter
      subst hwaiting hresults hnext hafter
      set g' : Fiber σ ρ α := { g with
        body := .gathering waiting' (results.set index (some result)) (fun x => (next x).bind k)
          after }
      refine .gathering jobs waiting' (results.set index (some result)) next ?_
        (fun w hw => waits w (List.mem_cons_of_mem _ hw)) (fun n index' r' hr => ?_) rest
      · rw [bodies_spawn]
        exact List.mem_append_left _ (mem_bodies (mem_put (g := g') hg rfl))
      · rw [bodies_spawn] at hr
        rcases List.mem_append.1 hr with hr | hr
        · exact runs_put (f := g') runs id n index' r' hr
        · injection (Prod.mk.inj (List.mem_singleton.1 hr)).2 with _ _ hr
          exact hr ▸ waits (j, r) List.mem_cons_self
    | @gathers g results' next' after' hg hid hbody hall =>
      subst hid
      injection (hbodies hg rfl body).trans hbody with hwaiting hresults hnext hafter
      subst hwaiting hresults hnext hafter
      set values := (results.set index (some result)).filterMap id
      set g' : Fiber σ ρ α := ⟨g.id, m.now, m.fresh, .process ((next values).bind k) after⟩
      refine .running (next values) (mem_bodies (mem_put (g := g') hg rfl)) fun l' result hl' => ?_
      exact rest [] _ l' result (fromJobs_nil jobs) hl'
    | @waits g results' next' after' hg hid hbody hall =>
      subst hid
      injection (hbodies hg rfl body).trans hbody with hwaiting hresults hnext hafter
      subst hwaiting hresults hnext hafter
      set g' : Fiber σ ρ α := { g with
        body := .gathering [] (results.set index (some result)) (fun x => (next x).bind k) after }
      exact .gathering jobs [] (results.set index (some result)) next
        (mem_bodies (mem_put (g := g') hg rfl)) waits (runs_put (f := g') runs id) rest
    | unclaimed => exact .gathering jobs waiting results next body waits runs rest

/-- A job of the fiber takes a step. -/
theorem job (h : m.Underway p k after i ns) (hnested : m.Nested) (hf : f ∈ m.fibers) {index : Nat}
    {r : Routine ρ} (hbody : f.body = .job i index r) (hstepped : m.Stepped f m') :
    m'.Underway p k after i (ns ++ Notes.of (f.body.notes f.id m.shared) i) := by
  have hmem : (f.id, .job i index r) ∈ m.bodies := hbody ▸ mem_bodies hf
  cases h with
  | running q body => exact absurd hmem (hnested.no_jobs body id f.id index r)
  | gathering jobs waiting results next body waits runs rest =>
    have hne : i ≠ f.id := by
      rintro rfl
      cases eq_of_mem_bodies hnested.nodup body hmem
    cases hstepped with
    | goes g hid hstep hfibers =>
      rw [hbody] at hstep ⊢
      generalize hgbody : g.body = b, m'.shared = s' at hstep
      cases hstep with
      | @job _ _ action next' _ answer =>
        have hkeeps : m.Keeps i m' := by
          refine (Keeps.put (g := g) (hid ▸ hne) fun index' r' heq => ?_).trans
            (.of_bodies (bodies_congr hfibers))
          injection hgbody.symm.trans heq with _ hindex hr
          exact ⟨f.id, index, _, hmem, fun n hn => .inr ⟨answer, hr ▸ hn⟩⟩
        have hnow : FromJobs jobs (action.notes : List (Note σ)) := fun n hn =>
          runs f.id index _ hmem n (.inl hn)
        refine keeps (.gathering jobs waiting results next body waits runs
          fun l' x l'' result hl' hl'' => ?_) hkeeps
        have hall := rest (action.notes ++ l') x l'' result
          (List.forall_mem_append.2 ⟨hnow, hl'⟩) hl''
        rw [Body.notes, Notes.of_map, if_pos rfl, List.append_assoc]
        rwa [List.append_assoc] at hall
    | quits hquits =>
      rw [hbody] at hquits
      cases hquits
    | opens hbody' => cases hbody.symm.trans hbody'
    | @delivers parent index' result hbody' hdeliver =>
      injection hbody.symm.trans hbody' with hparent hindex hr
      subst hparent hindex hr
      have hnotes : Notes.of (f.body.notes f.id m.shared) i = [] := by rw [hbody]; rfl
      rw [hnotes, List.append_nil, hdeliver]
      have hlater : m.Keeps i { m with now := m.dueAt f.wake } := .of_bodies rfl
      refine deliver (keeps (.gathering jobs waiting results next body waits runs rest)
        (hlater.trans (.remove hne))) ?_ index result
      exact (hnested.each.remove (n := f.id) fun _ _ _ h => h).nodup

/-- Whatever comes next, the fiber is still underway, unless it was done with its process. -/
theorem comes (h : m.Underway p k after i ns) (hnested : m.Nested) {l : Notes σ}
    (hcomes : m.Comes host l m') :
    (∃ a, (i, .process (k a) after) ∈ m.bodies ∧ p.Accounts ns (some a)) ∨
      m'.Underway p k after i (ns ++ Notes.of l i) := by
  cases hcomes with
  | @begins body wake turn notJob =>
    rw [Notes.of_nil, List.append_nil]
    have hspawn : m.Keeps i (m.spawn body) := .spawn fun _ _ heq => notJob (heq ▸ trivial)
    refine .inr (h.keeps (hspawn.trans (.of_bodies ?_)))
    rw [bodies_spawn]
    exact List.map_append
  | alike alike =>
    rw [Notes.of_nil, List.append_nil]
    exact .inr (h.keeps (.of_bodies alike.bodies_eq))
  | @step f member runnable =>
    have hstepped := m.resume_stepped host runnable
    by_cases hown : f.id = i
    · subst hown
      cases h with
      | running q body rest =>
        have hbody := eq_of_mem_bodies hnested.nodup (mem_bodies member) body
        refine (own hnested member hbody rest hstepped).imp_left ?_
        rintro ⟨a, rfl⟩
        refine ⟨a, body, ?_⟩
        have hdone := rest [] (some a) (.done a)
        rwa [List.append_nil] at hdone
      | gathering jobs waiting results next body =>
        have hbody := eq_of_mem_bodies hnested.nodup (mem_bodies member) body
        rw [Fiber.isRunnable, hbody] at runnable
        exact absurd runnable Bool.false_ne_true
    · by_cases hjob : ∃ index r, f.body = .job i index r
      · obtain ⟨index, r, hbody⟩ := hjob
        exact .inr (h.job hnested member hbody hstepped)
      · have hother : ∀ index r, f.body ≠ .job i index r := fun index r hbody =>
          hjob ⟨index, r, hbody⟩
        rw [Body.of_notes_of_ne (Ne.symm hown) hother, List.append_nil]
        exact .inr (h.keeps (.of_stepped hstepped (Ne.symm hown) hother))

/-- So far the fiber has an account of its process. -/
theorem accounts (h : m.Underway p k after i ns) : p.Accounts ns none := by
  cases h with
  | running q body rest =>
    have hpause := rest [] none (.pause q)
    rwa [List.append_nil] at hpause
  | gathering jobs waiting results next body waits runs rest =>
    have hpause := rest [] [] [] none (fromJobs_nil jobs) (.pause _)
    rwa [List.append_nil, List.append_nil] at hpause

end Underway

/-- What a fiber notes that has come to a process is an account of that process, whatever happens
on the machine, until at some moment the process is done and the fiber goes on. -/
theorem Course.accounts {l : Notes σ} (hcourse : m.Course host l m') (hnested : m.Nested)
    (hbody : (i, .process (p.bind k) after) ∈ m.bodies) :
    p.Accounts (l.of i) none ∨ ∃ l₁ l₂ m₁ a, l = l₁ ++ l₂ ∧ m.Course host l₁ m₁ ∧
      m₁.Course host l₂ m' ∧ (i, .process (k a) after) ∈ m₁.bodies ∧
      p.Accounts (l₁.of i) (some a) := by
  have hall : m'.Underway p k after i (l.of i) ∨ ∃ l₁ l₂ m₁ a, l = l₁ ++ l₂ ∧
      m.Course host l₁ m₁ ∧ m₁.Course host l₂ m' ∧ (i, .process (k a) after) ∈ m₁.bodies ∧
      p.Accounts (l₁.of i) (some a) := by
    induction hcourse with
    | refl => exact .inl (.running p hbody fun _ _ hl => hl)
    | @next l l' m' m'' before comes ih =>
      rcases ih with hunderway | ⟨l₁, l₂, m₁, a, rfl, hfirst, hrest, hdone⟩
      · rcases hunderway.comes (hnested.course before) comes with ⟨a, hdone, haccount⟩ | hunderway
        · exact .inr ⟨l, l', m', a, rfl, before, Course.refl.next comes, hdone, haccount⟩
        · rw [Notes.of_append]
          exact .inl hunderway
      · exact .inr ⟨l₁, l₂ ++ l', m₁, a, List.append_assoc .., hfirst, hrest.next comes, hdone⟩
  exact hall.imp_left Underway.accounts

end Underway

end Machine
end SeriesReplica.Concurrent
