import Mathlib.Data.List.Forall2
import SeriesReplica.Proofs.Concurrent.Schedule

/-! Jobs that keep out of each other's way. Where nodes fall into parts and every job of a pool
keeps to a part of its own, each job has the result that it has alone, whatever the order in which
the jobs take their actions, and so a process with such pools always comes out the same. -/
namespace SeriesReplica.Concurrent
open Time

variable {ν σ ρ α β κ τ : Type} {host : Host ν} {begin : Instant}
  {Own : κ → Client → NodeCall → Prop} {part : κ → ν → τ} {k : κ}

/-- Nodes that fall into parts: what a call answers that belongs to a part, how long it takes and
what becomes of the part depends on the part alone, and no other part changes. -/
structure Independent (host : Host ν) (Own : κ → Client → NodeCall → Prop) (part : κ → ν → τ) :
    Prop where
  own : ∀ k c call nodes nodes', Own k c call → part k nodes = part k nodes' →
    (host.call c call nodes).1 = (host.call c call nodes').1 ∧
      part k (host.call c call nodes).2 = part k (host.call c call nodes').2
  others : ∀ k c call nodes l, Own k c call → l ≠ k →
    part l (host.call c call nodes).2 = part l nodes

/-- An action that takes no notice of the time and calls nodes only for what belongs to a part. -/
def Action.BelongsTo (Own : κ → Client → NodeCall → Prop) (k : κ) : Action → Prop
  | .call client c deadline => Own k client c ∧ deadline = none
  | .sleep _ => True
  | .log _ => True
  | .connect .. => False
  | .clock => False

/-- A routine of such actions. -/
def Routine.KeepsTo (Own : κ → Client → NodeCall → Prop) (k : κ) : Routine α → Prop
  | .done _ => True
  | .perform action next => action.BelongsTo Own k ∧ ∀ a, KeepsTo Own k (next a)

theorem Routine.KeepsTo.bind {r : Routine α} {f : α → Routine β} (h : r.KeepsTo Own k)
    (hf : ∀ a, (f a).KeepsTo Own k) : (r >>= f).KeepsTo Own k := by
  change KeepsTo Own k (Program.bind r f)
  induction r with
  | done a => exact hf a
  | perform action next ih => exact ⟨h.1, fun a => ih a (h.2 a)⟩

theorem Routine.keepsTo_log (line : Log.Line) : (Routine.log line).KeepsTo Own k :=
  ⟨trivial, fun _ => trivial⟩

theorem Routine.keepsTo_sleep (d : Span) : (Routine.sleep d).KeepsTo Own k :=
  ⟨trivial, fun _ => trivial⟩

theorem Routine.keepsTo_logAll (lines : List Log.Line) :
    (Routine.logAll lines).KeepsTo Own k := by
  induction lines with
  | nil => trivial
  | cons line lines ih => exact (keepsTo_log line).bind fun _ => ih

namespace Independent

/-- An action is answered alike at any time from nodes that agree in its part. -/
theorem answer_eq (h : Independent host Own part) (begin : Instant) {action : Action}
    (haction : action.BelongsTo Own k) (now now' : Span) {nodes nodes' : ν}
    (hpart : part k nodes = part k nodes') :
    (host.answer begin now nodes action).1 = (host.answer begin now' nodes' action).1 ∧
      part k (host.answer begin now nodes action).2 =
        part k (host.answer begin now' nodes' action).2 := by
  cases action with
  | call client call deadline =>
    obtain ⟨hown, rfl⟩ := haction
    exact h.own k client call nodes nodes' hown hpart
  | sleep d => exact ⟨rfl, hpart⟩
  | log line => exact ⟨rfl, hpart⟩
  | connect node deadline => exact haction.elim
  | clock => exact haction.elim

theorem answer_others (h : Independent host Own part) {action : Action}
    (haction : action.BelongsTo Own k) (now : Span) (nodes : ν) {l : κ} (hl : l ≠ k) :
    part l (host.answer begin now nodes action).2 = part l nodes := by
  cases action with
  | call client call deadline => exact h.others k client call nodes l haction.1 hl
  | sleep d => rfl
  | log line => rfl
  | connect node deadline => exact haction.elim
  | clock => exact haction.elim

/-- A routine that runs alone ends alike from nodes that agree in its part. -/
theorem exec_eq (h : Independent host Own part) {r : Routine α} (hr : r.KeepsTo Own k)
    {s t : ν × Span} (hpart : part k s.1 = part k t.1) :
    (host.exec begin r s).1 = (host.exec begin r t).1 ∧
      part k (host.exec begin r s).2.1 = part k (host.exec begin r t).2.1 := by
  induction r generalizing s t with
  | done a => exact ⟨rfl, hpart⟩
  | perform action next ih =>
    obtain ⟨hanswer, hnext⟩ := h.answer_eq begin hr.1 s.2 t.2 hpart
    have hrest := ih (host.answer begin s.2 s.1 action).1.2 (hr.2 _)
      (s := ((host.answer begin s.2 s.1 action).2, s.2 + (host.answer begin s.2 s.1 action).1.1))
      (t := ((host.answer begin t.2 t.1 action).2, t.2 + (host.answer begin t.2 t.1 action).1.1))
      hnext
    change (host.exec begin (next (host.answer begin s.2 s.1 action).1.2) _).1 =
        (host.exec begin (next (host.answer begin t.2 t.1 action).1.2) _).1 ∧
      part k (host.exec begin (next (host.answer begin s.2 s.1 action).1.2) _).2.1 =
        part k (host.exec begin (next (host.answer begin t.2 t.1 action).1.2) _).2.1
    rw [← hanswer]
    rw [← hanswer] at hrest
    exact hrest

end Independent

/-- Each job of a pool keeps to a part of its own. -/
structure Separate (Own : κ → Client → NodeCall → Prop) (key : Nat → κ)
    (jobs : List (Routine ρ)) : Prop where
  keeps : ∀ (i : Nat) (r : Routine ρ), jobs[i]? = some r → r.KeepsTo Own (key i)
  distinct : ∀ i l, i < jobs.length → l < jobs.length → key i = key l → i = l

variable {jobs : List (Routine ρ)} {key : Nat → κ} {i : Nat} {action : Action}
  {next : action.Answer → Routine ρ}

/-- Jobs are still separate once one of them has taken an action. -/
theorem Separate.set (h : Separate Own key jobs) (taken : jobs[i]? = some (.perform action next))
    (answer : action.Answer) : Separate Own key (jobs.set i (next answer)) := by
  refine ⟨fun l r hr => ?_, by simpa using h.distinct⟩
  by_cases hil : i = l
  · subst hil
    rw [List.getElem?_set_self (List.getElem?_eq_some_iff.1 taken).1] at hr
    exact Option.some.inj hr ▸ (h.keeps i _ taken).2 answer
  · rw [List.getElem?_set_ne hil] at hr
    exact h.keeps l r hr

/-- The job that has acted goes on as it would have alone, and no other job can tell the
difference. -/
private theorem exec_set (hindependent : Independent host Own part)
    (hseparate : Separate Own key jobs) (taken : jobs[i]? = some (.perform action next))
    (now : Span) (nodes : ν) {l : Nat} {r r' : Routine ρ} (hr : jobs[l]? = some r)
    (hr' : (jobs.set i (next (host.answer begin now nodes action).1.2))[l]? = some r') :
    (host.exec begin r' ((host.answer begin now nodes action).2, .zero)).1 =
        (host.exec begin r (nodes, .zero)).1 ∧
      part (key l) (host.exec begin r' ((host.answer begin now nodes action).2, .zero)).2.1 =
        part (key l) (host.exec begin r (nodes, .zero)).2.1 := by
  obtain ⟨haction, hnext⟩ := hseparate.keeps i _ taken
  have hi : i < jobs.length := (List.getElem?_eq_some_iff.1 taken).1
  by_cases hil : i = l
  · subst hil
    obtain rfl := Option.some.inj (taken.symm.trans hr)
    rw [List.getElem?_set_self hi] at hr'
    obtain rfl := Option.some.inj hr'
    obtain ⟨heq, hpart⟩ := hindependent.answer_eq begin haction now .zero
      (Eq.refl (part (key i) nodes))
    rw [heq]
    exact hindependent.exec_eq (hnext _) hpart
  · rw [List.getElem?_set_ne hil] at hr'
    obtain rfl := Option.some.inj (hr.symm.trans hr')
    have hl : l < jobs.length := (List.getElem?_eq_some_iff.1 hr).1
    have hkey : key l ≠ key i := fun heq => hil (hseparate.distinct i l hi hl heq.symm)
    exact hindependent.exec_eq (hseparate.keeps l _ hr)
      (hindependent.answer_others haction now nodes hkey)

/-- Jobs side by side come out as each of them does alone. Its part is left as it leaves it alone,
and a part of no job is not changed. -/
theorem Interleaved.alone {nodes last : ν} {results : List ρ}
    (h : Interleaved host begin jobs nodes results last) (hindependent : Independent host Own part)
    (hseparate : Separate Own key jobs) :
    results = jobs.map (fun r => (host.exec begin r (nodes, .zero)).1) ∧
      (∀ (i : Nat) r, jobs[i]? = some r →
        part (key i) last = part (key i) (host.exec begin r (nodes, .zero)).2.1) ∧
      ∀ l, (∀ i < jobs.length, key i ≠ l) → part l last = part l nodes := by
  induction h with
  | finished results nodes =>
    refine ⟨?_, fun i r hr => ?_, fun l _ => rfl⟩
    · rw [List.map_map]
      exact (List.map_id results).symm
    · rw [List.getElem?_map, Option.map_eq_some_iff] at hr
      obtain ⟨v, -, rfl⟩ := hr
      rfl
  | @step jobs nodes last results i action next now taken rest ih =>
    have hi : i < jobs.length := (List.getElem?_eq_some_iff.1 taken).1
    have hlength : (jobs.set i (next (host.answer begin now nodes action).1.2)).length =
        jobs.length := List.length_set ..
    obtain ⟨hresults, hparts, hrest⟩ := ih (hseparate.set taken _)
    refine ⟨hresults.trans (List.ext_getElem? fun l => ?_), fun l r hr => ?_, fun l hl => ?_⟩
    · rw [List.getElem?_map, List.getElem?_map]
      by_cases hl : l < jobs.length
      · have hr := List.getElem?_eq_getElem hl
        have hr' := List.getElem?_eq_getElem (hlength.symm ▸ hl)
        rw [hr', hr, Option.map_some, Option.map_some]
        exact congrArg some (exec_set hindependent hseparate taken now nodes hr hr').1
      · rw [List.getElem?_eq_none (Nat.not_lt.1 hl),
          List.getElem?_eq_none (hlength.symm ▸ Nat.not_lt.1 hl)]
        rfl
    · have hl := (List.getElem?_eq_some_iff.1 hr).1
      have hr' := List.getElem?_eq_getElem (hlength.symm ▸ hl)
      exact (hparts l _ hr').trans (exec_set hindependent hseparate taken now nodes hr hr').2
    · have hother : l ≠ key i := fun heq => hl i hi heq.symm
      exact (hrest l (hlength.symm ▸ hl)).trans
        (hindependent.answer_others (hseparate.keeps i _ taken).1 now nodes hother)

/-- Two runs of separate jobs from nodes that agree in all parts end alike. -/
theorem Interleaved.agrees {nodes nodes' last last' : ν}
    {results results' : List ρ} (h : Interleaved host begin jobs nodes results last)
    (h' : Interleaved host begin jobs nodes' results' last')
    (hindependent : Independent host Own part) (hseparate : Separate Own key jobs)
    (hnodes : ∀ l, part l nodes = part l nodes') :
    results = results' ∧ ∀ l, part l last = part l last' := by
  obtain ⟨hresults, hparts, hrest⟩ := h.alone hindependent hseparate
  obtain ⟨hresults', hparts', hrest'⟩ := h'.alone hindependent hseparate
  have hexec : ∀ (i : Nat) r, jobs[i]? = some r →
      (host.exec begin r (nodes, .zero)).1 = (host.exec begin r (nodes', .zero)).1 ∧
        part (key i) (host.exec begin r (nodes, .zero)).2.1 =
          part (key i) (host.exec begin r (nodes', .zero)).2.1 :=
    fun i r hr => hindependent.exec_eq (hseparate.keeps i r hr) (hnodes (key i))
  refine ⟨?_, fun l => ?_⟩
  · rw [hresults, hresults']
    refine List.map_congr_left fun r hr => ?_
    obtain ⟨i, hi⟩ := List.getElem?_of_mem hr
    exact (hexec i r hi).1
  · by_cases hl : ∃ i, i < jobs.length ∧ key i = l
    · obtain ⟨i, hi, rfl⟩ := hl
      have hr := List.getElem?_eq_getElem hi
      rw [hparts i _ hr, hparts' i _ hr, (hexec i _ hr).2]
    · have hnone : ∀ i < jobs.length, key i ≠ l := fun i hi heq => hl ⟨i, hi, heq⟩
      rw [hrest l hnone, hrest' l hnone, hnodes]

/-- From nodes that agree in all parts, two processes leave nodes that agree in all parts, and
their results are related. -/
def Process.Agree (host : Host ν) (begin : Instant) (part : κ → ν → τ) (R : α → β → Prop)
    (p : Process σ ρ α) (q : Process σ ρ β) : Prop :=
  ∀ s t a b last last', (∀ l, part l s.nodes = part l t.nodes) →
    p.Yields host begin a last s → q.Yields host begin b last' t →
    R a b ∧ ∀ l, part l last.nodes = part l last'.nodes

namespace Process
variable {α' β' : Type} {R : α → β → Prop} {R' : α' → β' → Prop}

theorem Agree.bind {p : Process σ ρ α} {q : Process σ ρ β} {f : α → Process σ ρ α'}
    {g : β → Process σ ρ β'} (h : p.Agree host begin part R q)
    (hf : ∀ a b, R a b → (f a).Agree host begin part R' (g b)) :
    (p >>= f).Agree host begin part R' (q >>= g) := by
  intro s t a b last last' hparts hp hq
  obtain ⟨x, mid, hp, hf'⟩ := yields_bind.1 hp
  obtain ⟨y, mid', hq, hg'⟩ := yields_bind.1 hq
  obtain ⟨hR, hmid⟩ := h s t x y mid mid' hparts hp hq
  exact hf x y hR mid mid' a b last last' hmid hf' hg'

theorem agree_pure {a : α} {b : β} (h : R a b) :
    (pure a : Process σ ρ α).Agree host begin part R (pure b) := by
  rintro s t _ _ _ _ hparts ⟨rfl, rfl⟩ ⟨rfl, rfl⟩
  exact ⟨h, hparts⟩

/-- Other lines in the log make no difference. -/
theorem agree_log (line line' : Log.Line) :
    (log line : Process σ ρ Unit).Agree host begin part (fun _ _ => True) (log line') := by
  intro s t _ _ last last' hparts hp hq
  rw [yields_log] at hp hq
  exact ⟨trivial, hp ▸ hq ▸ hparts⟩

theorem agree_logAll (lines lines' : List Log.Line) :
    (logAll lines : Process σ ρ Unit).Agree host begin part (fun _ _ => True)
      (logAll lines') := by
  intro s t _ _ last last' hparts hp hq
  rw [yields_logAll] at hp hq
  exact ⟨trivial, hp ▸ hq ▸ hparts⟩

/-- The clock may show different times. -/
theorem agree_clock :
    (clock : Process σ ρ Clock).Agree host begin part (fun _ _ => True) clock := by
  intro s t _ _ last last' hparts hp hq
  rw [yields_clock] at hp hq
  exact ⟨trivial, hp.1 ▸ hq.1 ▸ hparts⟩

/-- However many separate jobs run at a time, their results are the same. -/
theorem agree_pool (hindependent : Independent host Own part)
    (hseparate : Separate Own key jobs) (limit limit' : Nat) :
    (pool limit jobs : Process σ ρ (List ρ)).Agree host begin part Eq (pool limit' jobs) := by
  intro s t a b last last' hparts hp hq
  rw [yields_pool] at hp hq
  exact hp.1.agrees hq.1 hindependent hseparate hparts

end Process

/-- What holds of every end of a machine holds of some machine. -/
theorem Machine.Inevitably.exists {P : Machine ν σ ρ α → Prop} {m : Machine ν σ ρ α}
    (h : m.Inevitably host P) : ∃ m', P m' := by
  induction h with
  | @intro m moves ends ih =>
    by_cases hmoves : ∃ m', m.Moves host m'
    · obtain ⟨m', hm'⟩ := hmoves
      exact ih m' hm'
    · exact ⟨m, ends fun m' hm' => hmoves ⟨m', hm'⟩⟩

end SeriesReplica.Concurrent
