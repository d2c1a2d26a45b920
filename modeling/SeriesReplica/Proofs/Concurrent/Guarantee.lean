import Mathlib.Data.List.Forall2
import Mathlib.Order.Basic
import SeriesReplica.Proofs.Concurrent.Outcome

/-! What routines guarantee side by side. Each keeps an invariant of the nodes at every step and
relies on the others to do the same; what has been brought about only grows, so what holds of the
result of one routine still holds when the others are done. -/
namespace SeriesReplica.Concurrent
open Time

variable {ν σ ρ α β W : Type} [Preorder W] {host : Host ν} {start : Instant}
  {Inv : W → ν → Prop} {Q Q' : α → W → Prop} {w : W}

/-- Whatever happens between its steps, a routine keeps the invariant, and in the end its result
has a property. -/
def Routine.Achieves (host : Host ν) (start : Instant) (Inv : W → ν → Prop) (Q : α → W → Prop) :
    Routine α → W → Prop
  | .done a, w => Q a w
  | .perform action next, w => ∀ v, w ≤ v → ∀ now nodes, Inv v nodes →
    ∃ u, v ≤ u ∧ Inv u (host.answer start now nodes action).2 ∧
      Achieves host start Inv Q (next (host.answer start now nodes action).1.2) u

/-- Wherever a process begins with the invariant, it ends with the invariant, and its result has
a property. -/
def Process.Ensures (host : Host ν) (start : Instant) (Inv : W → ν → Prop) (Q : α → W → Prop)
    (p : Process σ ρ α) (w : W) : Prop :=
  ∀ s a last, Inv w s.nodes → p.Yields host start a last s →
    ∃ u, w ≤ u ∧ Inv u last.nodes ∧ Q a u

namespace Routine

theorem Achieves.mono {r : Routine α} (h : r.Achieves host start Inv Q w)
    (hQ : ∀ a u, w ≤ u → Q a u → Q' a u) : r.Achieves host start Inv Q' w := by
  induction r generalizing w with
  | done a => exact hQ a w le_rfl h
  | perform action next ih =>
    intro v hv now nodes hinv
    obtain ⟨u, hu, hinv', hnext⟩ := h v hv now nodes hinv
    exact ⟨u, hu, hinv', ih _ hnext fun a x hx => hQ a x (hv.trans (hu.trans hx))⟩

/-- What a routine achieves, it also achieves later. -/
theorem Achieves.later {r : Routine α} (h : r.Achieves host start Inv Q w)
    (hQ : ∀ a u v, u ≤ v → Q a u → Q a v) {v : W} (hv : w ≤ v) :
    r.Achieves host start Inv Q v := by
  cases r with
  | done a => exact hQ a w v hv h
  | perform action next => exact fun u hu => h u (hv.trans hu)

theorem Achieves.bind {r : Routine α} {f : α → Routine β} {R : β → W → Prop}
    (h : r.Achieves host start Inv (fun a u => (f a).Achieves host start Inv R u) w) :
    (r >>= f).Achieves host start Inv R w := by
  change Achieves host start Inv R (Program.bind r f) w
  induction r generalizing w with
  | done a => exact h
  | perform action next ih =>
    intro v hv now nodes hinv
    obtain ⟨u, hu, hinv', hnext⟩ := h v hv now nodes hinv
    exact ⟨u, hu, hinv', ih _ hnext⟩

/-- A line in the log changes nothing else. -/
theorem achieves_log {line : Log.Line} {Q : Unit → W → Prop} (h : ∀ u, w ≤ u → Q () u) :
    (log line).Achieves host start Inv Q w :=
  fun v hv _ _ hinv => ⟨v, le_rfl, hinv, h v hv⟩

/-- Sleeping changes nothing. -/
theorem achieves_sleep {d : Span} {Q : Unit → W → Prop} (h : ∀ u, w ≤ u → Q () u) :
    (sleep d).Achieves host start Inv Q w :=
  fun v hv _ _ hinv => ⟨v, le_rfl, hinv, h v hv⟩

theorem achieves_logAll {lines : List Log.Line} {Q : Unit → W → Prop}
    (h : ∀ u, w ≤ u → Q () u) : (logAll lines).Achieves host start Inv Q w := by
  induction lines generalizing w with
  | nil => exact h w le_rfl
  | cons line lines ih =>
    exact Achieves.bind (achieves_log fun u hu => ih fun v hv => h v (hu.trans hv))

end Routine

/-- Jobs side by side achieve together what each of them achieves. -/
theorem Interleaved.achieves {jobs : List (Routine ρ)} {nodes last : ν} {results : List ρ}
    (h : Interleaved host start jobs nodes results last) {Q : Nat → ρ → W → Prop}
    (hQ : ∀ i a u v, u ≤ v → Q i a u → Q i a v)
    (hjobs : ∀ (i : Nat) r, jobs[i]? = some r → r.Achieves host start Inv (Q i) w)
    (hinv : Inv w nodes) :
    ∃ u, w ≤ u ∧ Inv u last ∧ results.length = jobs.length ∧
      ∀ (i : Nat) v, results[i]? = some v → Q i v u := by
  induction h generalizing w with
  | finished results nodes =>
    refine ⟨w, le_rfl, hinv, (List.length_map _).symm, fun i v hv => ?_⟩
    exact hjobs i (.done v) (by rw [List.getElem?_map, hv]; rfl)
  | @step jobs nodes last results i action next now taken rest ih =>
    obtain ⟨u, hu, hinv', hnext⟩ := hjobs i _ taken w le_rfl now nodes hinv
    -- One job has acted; the others have not moved and achieve from `u` on what they did before.
    have hrest : ∀ (k : Nat) r,
        (jobs.set i (next (host.answer start now nodes action).1.2))[k]? = some r →
          r.Achieves host start Inv (Q k) u := by
      intro k r hr
      by_cases hk : i = k
      · subst hk
        rw [List.getElem?_set_self (List.getElem?_eq_some_iff.1 taken).1] at hr
        exact Option.some.inj hr ▸ hnext
      · rw [List.getElem?_set_ne hk] at hr
        exact (hjobs k r hr).later (hQ k) hu
    obtain ⟨x, hx, hlast, hlength, hresults⟩ := ih hrest hinv'
    exact ⟨x, hu.trans hx, hlast, hlength.trans (List.length_set ..), hresults⟩

namespace Process

theorem Ensures.mono {p : Process σ ρ α} (h : p.Ensures host start Inv Q w)
    (hQ : ∀ a u, w ≤ u → Q a u → Q' a u) : p.Ensures host start Inv Q' w := by
  intro s a last hinv hp
  obtain ⟨u, hu, hinv', hq⟩ := h s a last hinv hp
  exact ⟨u, hu, hinv', hQ a u hu hq⟩

/-- What a process ensures with one invariant and what it ensures with another, it ensures with
both. -/
theorem Ensures.both {V : Type} [Preorder V] {Inv' : V → ν → Prop} {R : α → V → Prop} {v : V}
    {p : Process σ ρ α} (h : p.Ensures host start Inv Q w) (h' : p.Ensures host start Inv' R v) :
    p.Ensures host start (fun (x : W × V) nodes => Inv x.1 nodes ∧ Inv' x.2 nodes)
      (fun a x => Q a x.1 ∧ R a x.2) (w, v) := by
  rintro s a last ⟨hinv, hinv'⟩ hp
  obtain ⟨u, hu, hlast, hq⟩ := h s a last hinv hp
  obtain ⟨u', hu', hlast', hr⟩ := h' s a last hinv' hp
  exact ⟨(u, u'), ⟨hu, hu'⟩, ⟨hlast, hlast'⟩, hq, hr⟩

theorem Ensures.bind {p : Process σ ρ α} {f : α → Process σ ρ β} {R : β → W → Prop}
    (h : p.Ensures host start Inv (fun a u => (f a).Ensures host start Inv R u) w) :
    (p >>= f).Ensures host start Inv R w := by
  intro s b last hinv hp
  obtain ⟨a, mid, hp, hf⟩ := yields_bind.1 hp
  obtain ⟨u, hu, hmid, hnext⟩ := h s a mid hinv hp
  obtain ⟨v, hv, hlast, hr⟩ := hnext mid b last hmid hf
  exact ⟨v, hu.trans hv, hlast, hr⟩

theorem ensures_pure {a : α} (h : Q a w) :
    (pure a : Process σ ρ α).Ensures host start Inv Q w := by
  rintro s _ _ hinv ⟨rfl, rfl⟩
  exact ⟨w, le_rfl, hinv, h⟩

theorem ensures_log {line : Log.Line} {Q : Unit → W → Prop} (h : Q () w) :
    (log line : Process σ ρ Unit).Ensures host start Inv Q w := by
  intro s u last hinv hp
  rw [yields_log] at hp
  exact ⟨w, le_rfl, hp ▸ hinv, h⟩

theorem ensures_logAll {lines : List Log.Line} {Q : Unit → W → Prop} (h : Q () w) :
    (logAll lines : Process σ ρ Unit).Ensures host start Inv Q w := by
  intro s u last hinv hp
  rw [yields_logAll] at hp
  exact ⟨w, le_rfl, hp ▸ hinv, h⟩

theorem ensures_clock {Q : Clock → W → Prop} (h : ∀ c, Q c w) :
    (clock : Process σ ρ Clock).Ensures host start Inv Q w := by
  intro s c last hinv hp
  rw [yields_clock] at hp
  exact ⟨w, le_rfl, hp.1 ▸ hinv, h c⟩

/-- A pool of jobs, each of which achieves what it should. -/
theorem ensures_pool {ι : Type} {limit : Nat} {xs : List ι} {job : ι → Routine ρ}
    {P : ι → ρ → W → Prop} {Q : List ρ → W → Prop}
    (hP : ∀ x a u v, u ≤ v → P x a u → P x a v)
    (hjobs : ∀ x ∈ xs, (job x).Achieves host start Inv (P x) w)
    (hQ : ∀ results u, w ≤ u → List.Forall₂ (fun x a => P x a u) xs results → Q results u) :
    (pool limit (xs.map job) : Process σ ρ (List ρ)).Ensures host start Inv Q w := by
  intro s results last hinv hp
  obtain ⟨hpool, -, -⟩ := yields_pool.1 hp
  have hpart : ∀ (i : Nat) r, (xs.map job)[i]? = some r →
      r.Achieves host start Inv (fun a u => ∀ x, xs[i]? = some x → P x a u) w := by
    intro i r hr
    rw [List.getElem?_map] at hr
    obtain ⟨x, hx, rfl⟩ := Option.map_eq_some_iff.1 hr
    refine (hjobs x (List.mem_of_getElem? hx)).mono fun a u _ h y hy => ?_
    rw [hx] at hy
    exact Option.some.inj hy ▸ h
  obtain ⟨u, hu, hlast, hlength, hresults⟩ := hpool.achieves
    (fun i a u v huv h x hx => hP x a u v huv (h x hx)) hpart hinv
  refine ⟨u, hu, hlast, hQ results u hu (List.forall₂_iff_get.2 ⟨?_, fun i hi hj => ?_⟩)⟩
  · rw [hlength, List.length_map]
  · exact hresults i _ (List.getElem?_eq_getElem hj) _ (List.getElem?_eq_getElem hi)

end Process
end SeriesReplica.Concurrent
