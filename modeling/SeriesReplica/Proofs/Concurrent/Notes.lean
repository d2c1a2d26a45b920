import SeriesReplica.Proofs.Concurrent.Recording
import SeriesReplica.Proofs.Concurrent.Roots

/-! Notes of one process among others: what it has seen of the shared state, and the calls that it
and the jobs of its pools have made. Apart from any machine, a process has accounts of how far it
may have come. On a machine fibers take steps, others begin, and what is noted is kept with the
number of the fiber it belongs to. -/
namespace SeriesReplica.Concurrent
open Time

variable {ν σ ρ α β γ : Type} {K : Client → NodeCall → Prop}

/-- What a process notes. -/
inductive Note (σ : Type) where
  /-- The shared state where it looked at it or changed it, before the change. -/
  | looked (s : σ)
  | asked (client : Client) (call : NodeCall)

/-- Only a call to a node is noted. -/
def Action.notes : Action → List (Note σ)
  | .call client c _ => [.asked client c]
  | .connect .. | .sleep _ | .clock | .log _ => []

/-- A routine may come to a note, if it is answered so. -/
def Routine.MayNote (n : Note σ) : Routine α → Prop
  | .done _ => False
  | .perform action next => n ∈ action.notes ∨ ∃ x, MayNote n (next x)

/-- Notes that jobs side by side may come to. -/
def FromJobs (jobs : List (Routine ρ)) (l : List (Note σ)) : Prop :=
  ∀ n ∈ l, ∃ r ∈ jobs, r.MayNote n

theorem fromJobs_nil (jobs : List (Routine ρ)) : FromJobs jobs ([] : List (Note σ)) :=
  fun _ hn => absurd hn List.not_mem_nil

/-- What a process may have noted when it has come to a result, or so far if there is none. -/
inductive Process.Accounts : Process σ ρ α → List (Note σ) → Option α → Prop
  | pause (p : Process σ ρ α) : Accounts p [] none
  | done (a : α) : Accounts (.done a) [] (some a)
  | act {action next l result} (x : action.Answer) (rest : Accounts (next x) l result) :
    Accounts (.perform (.act action) next) (action.notes ++ l) result
  | pool {limit jobs next l' l result} (calls : FromJobs jobs l') (results : List ρ)
    (rest : Accounts (next results) l result) :
    Accounts (.perform (.pool limit jobs) next) (l' ++ l) result
  | update {change next l result} (s : σ) (rest : Accounts (next s) l result) :
    Accounts (.perform (.update change) next) (.looked s :: l) result

theorem Action.IsOf.of_mem_notes {action : Action} (h : action.IsOf K) {client : Client}
    {call : NodeCall} (hmem : (.asked client call : Note σ) ∈ action.notes) : K client call := by
  cases action with
  | call c x deadline =>
    obtain ⟨rfl, rfl⟩ : client = c ∧ call = x := by simpa [Action.notes] using hmem
    exact h
  | connect | sleep | clock | log => simp [Action.notes] at hmem

theorem Routine.CallsOnly.of_mayNote {r : Routine γ} (h : r.CallsOnly K) {client : Client}
    {call : NodeCall} (hr : r.MayNote (.asked client call : Note σ)) : K client call := by
  induction r with
  | done a => exact hr.elim
  | perform action next ih =>
    rcases hr with hmem | ⟨x, hx⟩
    · exact Action.IsOf.of_mem_notes h.1 hmem
    · exact ih x (h.2 x) hx

namespace Process
variable {p : Process σ ρ α} {f : α → Process σ ρ β} {l : List (Note σ)}

/-- The account of a sequence is one of its first part, as far as that has come, or with its
result, followed by one of the second part. -/
theorem Accounts.of_bind {result : Option β} (h : (p >>= f).Accounts l result) :
    (result = none ∧ p.Accounts l none) ∨
      ∃ a l₁ l₂, l = l₁ ++ l₂ ∧ p.Accounts l₁ (some a) ∧ (f a).Accounts l₂ result := by
  change Accounts (p.bind f) l result at h
  induction p generalizing l with
  | done a => exact .inr ⟨a, [], l, rfl, .done a, h⟩
  | perform effect next ih =>
    cases h with
    | pause => exact .inl ⟨rfl, .pause _⟩
    | act x rest =>
      refine (ih x rest).imp (fun ⟨hnone, hp⟩ => ⟨hnone, .act x hp⟩) ?_
      rintro ⟨a, l₁, l₂, rfl, hp, hf⟩
      exact ⟨a, _, l₂, (List.append_assoc ..).symm, .act x hp, hf⟩
    | pool calls results rest =>
      refine (ih results rest).imp (fun ⟨hnone, hp⟩ => ⟨hnone, .pool calls results hp⟩) ?_
      rintro ⟨a, l₁, l₂, rfl, hp, hf⟩
      exact ⟨a, _, l₂, (List.append_assoc ..).symm, .pool calls results hp, hf⟩
    | update s rest =>
      refine (ih s rest).imp (fun ⟨hnone, hp⟩ => ⟨hnone, .update s hp⟩) ?_
      rintro ⟨a, l₁, l₂, rfl, hp, hf⟩
      exact ⟨a, _, l₂, rfl, .update s hp, hf⟩

/-- A process that makes only calls of a kind has no account of other ones. -/
theorem CallsOnly.accounts {result : Option α} (h : p.CallsOnly K) (hp : p.Accounts l result)
    {client : Client} {call : NodeCall} (hmem : .asked client call ∈ l) : K client call := by
  induction hp with
  | pause | done => cases hmem
  | act x rest ih =>
    rcases List.mem_append.1 hmem with hmem | hmem
    · exact Action.IsOf.of_mem_notes h.1 hmem
    · exact ih (h.2 x) hmem
  | pool calls results rest ih =>
    rcases List.mem_append.1 hmem with hmem | hmem
    · obtain ⟨r, hr, hnote⟩ := calls _ hmem
      exact Routine.CallsOnly.of_mayNote (h.1 r hr) hnote
    · exact ih (h.2 results) hmem
  | update s rest ih =>
    rcases List.mem_cons.1 hmem with heq | hmem
    · cases heq
    · exact ih (h s) hmem

end Process

/-- What has been noted, with the numbers of the fibers. -/
abbrev Notes (σ : Type) := List (Nat × Note σ)

/-- The notes of one fiber. -/
def Notes.of (l : Notes σ) (i : Nat) : List (Note σ) := (l.filter (·.1 = i)).map (·.2)

@[simp] theorem Notes.of_nil (i : Nat) : Notes.of ([] : Notes σ) i = [] := rfl

@[simp] theorem Notes.of_append (l l' : Notes σ) (i : Nat) :
    Notes.of (l ++ l') i = Notes.of l i ++ Notes.of l' i := by
  rw [Notes.of, List.filter_append, List.map_append]
  rfl

@[simp] theorem Notes.of_map (ns : List (Note σ)) (i k : Nat) :
    Notes.of (ns.map fun n => (k, n)) i = if k = i then ns else [] := by
  induction ns with
  | nil => simp
  | cons n ns ih =>
    rw [List.map_cons, ← List.singleton_append, of_append, ih]
    split <;> simp_all [Notes.of]

/-- What a fiber notes when it takes its next step. A job notes for the fiber that waits for it. -/
def Body.notes (i : Nat) (s : σ) : Body σ ρ α → Notes σ
  | .process (.perform (.act action) _) _ => action.notes.map fun n => (i, n)
  | .process (.perform (.update _) _) _ => [(i, .looked s)]
  | .job parent _ (.perform action _) => action.notes.map fun n => (parent, n)
  | _ => []

/-- Neither a fiber itself nor a job of it. -/
theorem Body.of_notes_of_ne {b : Body σ ρ α} {i n : Nat} {s : σ} (hne : i ≠ n)
    (hjob : ∀ index r, b ≠ .job i index r) : Notes.of (b.notes n s) i = [] := by
  match b with
  | .process (.perform (.act action) next) after =>
    rw [notes, Notes.of_map, if_neg (Ne.symm hne)]
  | .process (.perform (.update change) next) after => simp [notes, Notes.of, Ne.symm hne]
  | .job parent index (.perform action next) =>
    have hparent : parent ≠ i := fun heq => hjob index (.perform action next) (heq ▸ rfl)
    rw [notes, Notes.of_map, if_neg hparent]
  | .process (.done _) _ | .process (.perform (.pool _ _) _) _ | .job _ _ (.done _)
  | .gathering .. | .waiting .. => rfl

namespace Machine

/-- What may happen next on a machine, and what is noted then: a fiber takes a step, a process or a
loop begins, or anything else but what the fibers do changes, such as nodes and clocks. -/
inductive Comes (host : Host ν) (m : Machine ν σ ρ α) : Notes σ → Machine ν σ ρ α → Prop
  | step {f : Fiber σ ρ α} (member : f ∈ m.fibers) (runnable : f.isRunnable) :
    Comes host m (f.body.notes f.id m.shared) (m.resume host f)
  | begins {body : Body σ ρ α} (wake : Span) (turn : Nat) (notJob : ¬ body.IsJob)
    (notGathering : ¬ body.IsGathering) : Comes host m []
      { m with fibers := m.fibers ++ [⟨m.fresh, wake, turn, body⟩], fresh := m.fresh + 1 }
  | alike {m' : Machine ν σ ρ α} (alike : m.Alike m') : Comes host m [] m'

/-- What happens on a machine, one thing after another, and all that is noted. -/
inductive Course (host : Host ν) (m : Machine ν σ ρ α) : Notes σ → Machine ν σ ρ α → Prop
  | refl : Course host m [] m
  | next {l l' : Notes σ} {m' m'' : Machine ν σ ρ α} (before : Course host m l m')
    (comes : m'.Comes host l' m'') : Course host m (l ++ l') m''

variable {host : Host ν} {m m' m₁ m₂ : Machine ν σ ρ α} {l l₁ l₂ : Notes σ}

theorem Course.trans (h : m.Course host l₁ m₁) (h' : m₁.Course host l₂ m₂) :
    m.Course host (l₁ ++ l₂) m₂ := by
  induction h' with
  | refl => rwa [List.append_nil]
  | next before comes ih =>
    rw [← List.append_assoc]
    exact ih.next comes

/-- A number of steps by the clock, and what is noted then. -/
def runNoting (host : Host ν) : Nat → Machine ν σ ρ α → Notes σ × Machine ν σ ρ α
  | 0, m => ([], m)
  | n + 1, m =>
    match m.first? with
    | none => ([], m)
    | some f =>
      let (l, m') := runNoting host n (m.resume host f)
      (f.body.notes f.id m.shared ++ l, m')

/-- A run by the clock is a course of its machine. -/
theorem course_runNoting (host : Host ν) (n : Nat) (m : Machine ν σ ρ α) :
    m.Course host (m.runNoting host n).1 (m.runNoting host n).2 := by
  induction n generalizing m with
  | zero => exact .refl
  | succ n ih =>
    rw [runNoting]
    split
    · exact .refl
    · rename_i f hfirst
      obtain ⟨hf, hrun⟩ := first?_eq_some hfirst
      exact (Course.refl.next (.step hf hrun)).trans (ih _)

theorem Nested.comes (h : m.Nested) (hcomes : m.Comes host l m') : m'.Nested := by
  cases hcomes with
  | step member runnable => exact h.stepped member (m.resume_stepped host runnable)
  | @begins body wake turn notJob notGathering =>
    have hspawn : (m.spawn body).Nested := by
      refine h.spawn (fun p => ?_) notGathering
      cases body with
      | job => exact absurd trivial notJob
      | process | gathering | waiting => rfl
    refine hspawn.of_bodies ?_ (Nat.le_refl _)
    simp [bodies, Machine.spawn]
  | alike alike => exact h.alike alike

theorem Nested.course (h : m.Nested) (hcourse : m.Course host l m') : m'.Nested := by
  induction hcourse with
  | refl => exact h
  | next before comes ih => exact ih.comes comes

end Machine
end SeriesReplica.Concurrent
