import SeriesReplica.Proofs.Concurrent.Nesting

/-! Fibers that come later. Each runs a job for another one, so a machine is done as soon as the
fibers are gone that it began with. This is so with every move that a machine may make, also with
loops that tick once more after they are told to stop. -/
namespace SeriesReplica.Concurrent
open Time

variable {ν σ ρ α : Type} {host : Host ν}

/-- Runs a job of a pool. -/
def Body.IsJob : Body σ ρ α → Prop
  | .job .. => True
  | _ => False

theorem Body.IsJob.not_gathering {b : Body σ ρ α} (h : b.IsJob) : ¬ b.IsGathering := by
  cases b with
  | job => exact id
  | process | gathering | waiting => exact h.elim

theorem Body.IsJob.exists {b : Body σ ρ α} (h : b.IsJob) :
    ∃ parent index r, b = .job parent index r := by
  cases b with
  | job parent index r => exact ⟨parent, index, r, rfl⟩
  | process | gathering | waiting => exact h.elim

theorem Body.Step.isJob {stopping : Bool} {b b' : Body σ ρ α} {s s' : σ}
    (h : b.Step stopping s b' s') (hb : b.IsJob) : b'.IsJob := by
  cases h with
  | job => trivial
  | act | skip | update | rest | delay | hello | tick | leave | bye => exact hb.elim

namespace Machine
variable {m m' m₁ : Machine ν σ ρ α} {f : Fiber σ ρ α} {is : List Nat}

/-- What may happen next on a machine. -/
inductive Goes (host : Host ν) (m : Machine ν σ ρ α) : Machine ν σ ρ α → Prop
  /-- A fiber takes a step. -/
  | step {m' : Machine ν σ ρ α} (h : m.Moves host m') : Goes host m m'
  /-- Time passes, and nodes change. -/
  | pass (nodes : ν) (now : Span) (hnow : m.now ≤ now) :
    Goes host m { m with nodes := nodes, now := now }
  /-- A loop that is due begins a tick, though it may be told to stop at the same moment. -/
  | late {f : Fiber σ ρ α} {loop : Loop σ ρ} {due : Span} {started : Bool} (hf : f ∈ m.fibers)
    (hbody : f.body = .waiting loop due started) (hdue : due ≤ m.now) :
    Goes host m { ({ m with stopping := false } : Machine ν σ ρ α).resume host f with
      stopping := m.stopping }

/-- Differ at most in their nodes, their clocks and in what is said to their loops. -/
structure Alike (m m' : Machine ν σ ρ α) : Prop where
  bodies_eq : m'.bodies = m.bodies
  fresh_eq : m'.fresh = m.fresh
  shared_eq : m'.shared = m.shared

theorem Alike.refl (m : Machine ν σ ρ α) : m.Alike m := ⟨rfl, rfl, rfl⟩

theorem alike_stopLoops (m : Machine ν σ ρ α) : m.Alike m.stopLoops :=
  ⟨bodies_stopLoops m, rfl, rfl⟩

/-- Whatever happens, it is at most a step of a fiber. -/
theorem Goes.exists (h : m.Goes host m') :
    ∃ m₁ m₂, m.Alike m₁ ∧ (m₂ = m₁ ∨ m₁.Moves host m₂) ∧ m₂.Alike m' := by
  cases h with
  | step h => exact ⟨m, m', .refl m, .inr h, .refl m'⟩
  | pass nodes now => exact ⟨m, m, .refl m, .inl rfl, rfl, rfl, rfl⟩
  | @late f loop due started hf hbody =>
    refine ⟨{ m with stopping := false }, _, ⟨rfl, rfl, rfl⟩, .inr ⟨f, hf, ?_, rfl⟩, rfl, rfl, rfl⟩
    rw [Fiber.isRunnable, hbody]

theorem Nested.alike (h : m.Nested) (halike : m.Alike m') : m'.Nested :=
  h.of_bodies halike.bodies_eq halike.fresh_eq.ge

theorem Nested.moves (h : m.Nested) (hmoves : m.Moves host m') : m'.Nested := by
  obtain ⟨f, hf, hrun, rfl⟩ := hmoves
  exact h.stepped hf (m.resume_stepped host hrun)

/-- Every fiber is one of the given ones or runs a job. -/
def Rooted (is : List Nat) (m : Machine ν σ ρ α) : Prop := m.Each fun i b => i ∈ is ∨ b.IsJob

namespace Rooted

theorem stable (is : List Nat) (fresh : Nat) :
    Stable (fun i (b : Body σ ρ α) => i ∈ is ∨ b.IsJob) fresh where
  act h _ := h.imp_right False.elim
  pool h _ _ := h.imp_right False.elim
  gathering h _ _ := h.imp_right False.elim
  gathered h _ := h.imp_right False.elim
  job h _ := h
  started _ _ _ _ _ := .inr trivial

theorem alike (h : m.Rooted is) (halike : m.Alike m') : m'.Rooted is :=
  Each.of_bodies h halike.bodies_eq halike.fresh_eq.ge

theorem moves (h : m.Rooted is) (hmoves : m.Moves host m') : m'.Rooted is := by
  obtain ⟨f, hf, hrun, rfl⟩ := hmoves
  cases m.resume_stepped host hrun with
  | goes g hid hstep hfibers hfresh =>
    have hg : g.id ∈ is ∨ g.body.IsJob := hid ▸ (h.holds f hf).imp_right hstep.isJob
    exact (Each.put h (fun _ _ _ hb => hb) hg).congr hfibers hfresh
  | quits hquits hshared hfibers hfresh =>
    exact (Each.remove h fun _ _ _ hb => hb).congr hfibers hfresh.ge
  | opens hbody => exact (Each.resume h host (stable is _) hf (hbody ▸ trivial)).1
  | delivers hbody => exact (Each.resume h host (stable is _) hf (hbody ▸ trivial)).1

/-- Once the given fibers are gone, so are all jobs. -/
theorem fibers_eq_nil (h : m.Rooted is) (hnested : m.Nested) (hgone : ∀ i ∈ is, i ∉ m.ids) :
    m.fibers = [] := by
  have hjob : ∀ f ∈ m.fibers, f.body.IsJob := fun f hf =>
    (h.holds f hf).resolve_left fun hi => hgone _ hi (mem_ids hf)
  refine List.eq_nil_iff_forall_not_mem.2 fun f hf => ?_
  -- The fiber that waits for it can be no job.
  obtain ⟨parent, index, r, hbody⟩ := (hjob f hf).exists
  obtain ⟨g, hg, -, hgathering⟩ := hnested.exists_parent hf hbody
  exact (hjob g hg).not_gathering hgathering

end Rooted

end Machine
end SeriesReplica.Concurrent
