import Mathlib.Data.List.Basic
import SeriesReplica.Proofs.Concurrent.Outcome
import SeriesReplica.Schema.Discovery

/-! What is discovered of a node, whatever it answers. A database that is found keeps its names, and
the name of its default policy is the name of one of its policies. -/
namespace SeriesReplica.Schema
open Concurrent Query

/-- A database under its own names, with a policy of its default's name. -/
structure Database.IsDiscovered (d : Database) : Prop where
  targetName : d.targetName = none
  targetDefaultPolicyName : d.targetDefaultPolicyName = none
  default : ∃ p ∈ d.policies, p.name = d.defaultPolicyName

/-- What is told of a policy apart from its measurements. -/
def Policy.label (p : Policy) : String × Bool := (p.name, p.isDefault)

theorem isDiscovered_ofPolicies (name : String) {ps : List Policy}
    (h : ∃ p ∈ ps, p.isDefault = true) : (Database.ofPolicies name ps).IsDiscovered := by
  obtain ⟨p, hp, hdefault⟩ := h
  obtain ⟨q, hq⟩ := Option.isSome_iff_exists.1
    (List.find?_isSome (p := fun p : Policy => p.isDefault).2 ⟨p, hp, hdefault⟩)
  refine ⟨rfl, rfl, q, List.mem_of_find?_eq_some hq, ?_⟩
  rw [Database.ofPolicies, hq]
  rfl

/-- A database other than the internal one, made of policies with a default among them. -/
def Database.IsListed (d : Database) : Prop :=
  d.name ≠ internalDatabase ∧
    ∃ ps : List Policy, (∃ p ∈ ps, p.isDefault = true) ∧ d = .ofPolicies d.name ps

theorem Database.IsListed.isDiscovered {d : Database} (h : d.IsListed) : d.IsDiscovered := by
  obtain ⟨-, ps, hdefault, heq⟩ := h
  rw [heq]
  exact isDiscovered_ofPolicies d.name hdefault

/-- The first policy marked default gives the default its name, so it is found under it. -/
theorem Database.IsListed.defaultPolicy {d : Database} (h : d.IsListed) :
    d.defaultPolicy?.isSome := by
  obtain ⟨-, ps, ⟨p, hp, hdefault⟩, heq⟩ := h
  obtain ⟨q, hq⟩ := Option.isSome_iff_exists.1
    (List.find?_isSome (p := fun p : Policy => p.isDefault).2 ⟨p, hp, hdefault⟩)
  rw [heq, Database.defaultPolicy?, Database.ofPolicies, hq]
  refine List.find?_isSome.2 ⟨q, List.mem_of_find?_eq_some hq, ?_⟩
  exact Bool.and_eq_true_iff.2 ⟨List.find?_some hq, decide_eq_true rfl⟩

namespace Discovery
open Routine

theorem fillPolicy_label (e : Endpoint) (database : String) (p : Policy) (names : List String) :
    (fillPolicy e database p names).Returns fun q => q.label = p.label := by
  induction names generalizing p with
  | nil => exact returns_pure rfl
  | cons m ms ih =>
    refine (returns_something (fields e database p.name m)).bind fun types _ => ?_
    cases types with
    | ok types =>
      exact ih { p with
        measurements := if types.isEmpty then p.measurements else p.measurements.insert m types }
    | error cause => exact (returns_something _).bind fun _ _ => ih p

theorem fillPolicies_labels (e : Endpoint) (f : Filter) (database : String) (names : List String)
    (ps : List Policy) :
    (fillPolicies e f database names ps).Returns fun qs =>
      qs.map Policy.label = ps.map Policy.label := by
  induction ps with
  | nil => exact returns_pure rfl
  | cons p ps ih =>
    have hrest (q : Policy) (hq : q.label = p.label) : Returns
        (fun qs => qs.map Policy.label = (p :: ps).map Policy.label) (do
          let rest ← fillPolicies e f database names ps
          pure (q :: rest)) :=
      ih.bind fun qs hqs => returns_pure (by rw [List.map_cons, List.map_cons, hq, hqs])
    rw [fillPolicies]
    split
    · exact (fillPolicy_label e database p names).bind hrest
    · exact hrest p rfl

theorem database_isListed (e : Endpoint) (f : Filter) {name : String}
    (hname : name ≠ internalDatabase) :
    (database e f name).Returns fun found => ∀ d, found = some d → d.IsListed := by
  refine (returns_something (policies e name)).bind fun listed _ => ?_
  cases listed with
  | error cause => exact (returns_something _).bind fun _ _ => returns_pure nofun
  | ok ps =>
    dsimp only
    split
    · exact (returns_something _).bind fun _ _ => returns_pure nofun
    · rename_i hcount
      refine (returns_something _).bind fun names _ =>
        (fillPolicies_labels e f name names _).bind fun qs hqs =>
          (returns_something _).bind fun _ _ => returns_pure ?_
      rintro _ ⟨⟩
      -- The one default of the list is kept whatever the filter selects.
      obtain ⟨p, hp, hdefault⟩ := List.countP_pos_iff.1
        (Nat.lt_of_lt_of_eq Nat.zero_lt_one (not_not.1 hcount).symm)
      have hlabel : p.label ∈ qs.map Policy.label := by
        rw [hqs]
        exact List.mem_map_of_mem (List.mem_filter.2 ⟨hp, by rw [hdefault]; rfl⟩)
      obtain ⟨q, hq, hqp⟩ := List.mem_map.1 hlabel
      exact ⟨hname, qs, ⟨q, hq, (congrArg Prod.snd hqp).trans hdefault⟩, rfl⟩

theorem databases_isListed (e : Endpoint) (f : Filter) (names : List String) :
    (databases e f names).Returns fun ds => ∀ d ∈ ds, d.IsListed := by
  induction names with
  | nil => exact returns_pure nofun
  | cons name names ih =>
    rw [databases]
    split
    · exact ih
    · rename_i hname
      split
      · exact (returns_something _).bind fun _ _ => ih
      · refine (database_isListed e f hname).bind fun found hfound =>
          ih.bind fun rest hrest => returns_pure fun d hd => ?_
        rcases List.mem_append.1 hd with hd | hd
        · exact hfound d (Option.mem_toList.1 hd)
        · exact hrest d hd

end Discovery

/-- Whatever a node answers, all that is discovered is made of listed policies. -/
theorem discover_isListed (e : Endpoint) (f : Filter) :
    (discover e f).Returns fun found => ∀ ds, found = .ok ds → ∀ d ∈ ds, d.IsListed := by
  refine (Routine.returns_something _).bind fun listed _ => ?_
  cases listed with
  | error cause => exact Routine.returns_pure nofun
  | ok response =>
    refine (Discovery.databases_isListed e f _).bind fun found hfound => ?_
    apply Routine.returns_pure
    rintro _ ⟨⟩
    exact hfound

/-- Whatever a node answers, all that is discovered keeps its names. -/
theorem discover_isDiscovered (e : Endpoint) (f : Filter) :
    (discover e f).Returns fun found => ∀ ds, found = .ok ds → ∀ d ∈ ds, d.IsDiscovered :=
  (discover_isListed e f).mono fun _ h ds hds d hd => (h ds hds d hd).isDiscovered

end SeriesReplica.Schema
