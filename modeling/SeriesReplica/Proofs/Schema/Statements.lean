import SeriesReplica.Proofs.Concurrent.Recording
import SeriesReplica.Schema.Replication

/-! Which statements are sent to create databases: those of every database that is not left alone
and has a default policy, whatever each is answered. A report without errors counts the databases
and the policies that they create. -/
namespace SeriesReplica.Schema
open Concurrent Time Query

variable {ν α β : Type}

/-- The statements that create a database; there are none where it is left alone or skipped. -/
def Database.statements (d : Database) : List Statement :=
  if d.isInternal then [] else d.defaultPolicy?.elim [] d.creation

/-- The policy that a statement creates: the database and the name. -/
def created? : Statement → Option (String × String)
  | .createPolicy database spec _ => some (database, spec.name)
  | _ => none

section Record
variable {c : Client} {ss t : List Statement}

/-- A record of statements that were sent one after another, the last one first. -/
def asked (c : Client) (ss : List Statement) : List (Client × NodeCall) :=
  (ss.map fun st => (c, NodeCall.query (.ofStatement st))).reverse

theorem asked_append (c : Client) (ss ts : List Statement) :
    asked c (ss ++ ts) = asked c ts ++ asked c ss := by
  rw [asked, List.map_append, List.reverse_append]
  rfl

theorem mem_asked {x : Client × NodeCall} :
    x ∈ asked c ss ↔ ∃ st ∈ ss, x = (c, .query (.ofStatement st)) := by
  simp [asked, eq_comm]

/-- A routine that calls a node with these statements and with nothing else. -/
def Sends (c : Client) (ss : List Statement) (r : Routine α) : Prop :=
  ∀ (ν : Type) (host : Host ν) (start : Instant) (s : (ν × List (Client × NodeCall)) × Span),
    (host.recording.exec start r s).2.1.2 = asked c ss ++ s.1.2

theorem sends_pure (a : α) : Sends c [] (pure a : Routine α) := fun _ _ _ _ => rfl

theorem sends_log (line : Log.Line) : Sends c [] (Routine.log line) := fun _ _ _ _ => rfl

theorem Sends.bind {r : Routine α} {f : α → Routine β} (h : Sends c ss r)
    (hf : ∀ a, Sends c t (f a)) : Sends c (ss ++ t) (r >>= f) := by
  intro ν host start s
  rw [Host.exec_bind, hf _ ν host start, h ν host start, asked_append, List.append_assoc]

theorem sends_execute (e : Endpoint) (st : Statement) :
    Sends e.client [st] (Replication.execute e st) := by
  have hquery : Sends e.client [st] (Routine.query e.client (.ofStatement st) none) :=
    fun _ _ _ _ => rfl
  refine hquery.bind (t := []) fun answer => ?_
  cases answer with
  | ok response => exact (sends_log _).bind fun _ => sends_pure _
  | error cause =>
    dsimp only
    split
    · exact (sends_log _).bind fun _ => sends_pure _
    · exact (sends_log _).bind fun _ => sends_pure _

theorem sends_executeAll (e : Endpoint) (ss : List Statement) :
    Sends e.client ss (Replication.executeAll e ss) := by
  induction ss with
  | nil => exact sends_pure _
  | cons st ss ih =>
    refine (sends_execute e st).bind (t := ss) fun first => ?_
    simpa using ih.bind fun _ => sends_pure _

theorem sends_database (e : Endpoint) (d : Database) :
    Sends e.client d.statements (Replication.database e d) := by
  rw [Replication.database, Database.statements]
  split
  · exact sends_pure _
  · cases d.defaultPolicy? with
    | none => exact (sends_log _).bind fun _ => sends_pure _
    | some default =>
      refine (sends_log _).bind (t := d.creation default) fun _ => ?_
      simpa using (sends_executeAll e (d.creation default)).bind fun _ => sends_pure _

/-- Databases are created by their statements, one database after another. -/
theorem sends_replicate (e : Endpoint) (ds : List Database) :
    Sends e.client (ds.flatMap Database.statements) (replicate e ds) := by
  induction ds with
  | nil => exact sends_pure _
  | cons d ds ih =>
    refine (sends_database e d).bind (t := ds.flatMap Database.statements) fun first => ?_
    simpa using ih.bind fun _ => sends_pure _

end Record

section Places

/-- A database that is copied under another name than that of an internal one. -/
theorem isInternal_eq_false_iff {d : Database} (h : d.name ≠ internalDatabase) :
    d.isInternal = false ↔ d.target ≠ internalDatabase := by
  simp [Database.isInternal, h]

variable {d : Database} {default : Policy} {st : Statement}

/-- A policy is created under the name it has in the copy. -/
theorem exists_created {p : Policy} (hp : p ∈ d.policies) (default : Policy) :
    ∃ st ∈ d.creation default, created? st = some (d.target, d.targetPolicy p) := by
  by_cases hname : p.name = d.defaultPolicyName
  · refine ⟨.createPolicy d.target (default.specNamed d.targetDefaultPolicy) true, ?_, ?_⟩
    · simp [Database.creation]
    · rw [Database.targetPolicy, if_pos hname]
      rfl
  · refine ⟨.createPolicy d.target (p.specNamed p.name) false, ?_, ?_⟩
    · refine List.mem_append_right _ (List.mem_map.2 ⟨p, ?_, rfl⟩)
      exact List.mem_filter.2 ⟨hp, decide_eq_true hname⟩
    · rw [Database.targetPolicy, if_neg hname]
      rfl

/-- Only databases that are not left alone are created. -/
theorem external_of_mem_statements (h : st ∈ d.statements) :
    d.isInternal = false ∧
      ∃ default, d.defaultPolicy? = some default ∧ st ∈ d.creation default := by
  rw [Database.statements] at h
  split at h
  · simp at h
  · rename_i hexternal
    refine ⟨Bool.eq_false_iff.2 hexternal, ?_⟩
    cases hdefault : d.defaultPolicy? with
    | none => simp [hdefault] at h
    | some default => exact ⟨default, rfl, by simpa [hdefault] using h⟩

theorem statements_eq (hexternal : d.isInternal = false)
    (hdefault : d.defaultPolicy? = some default) : d.statements = d.creation default := by
  rw [Database.statements, hexternal, hdefault]
  rfl

end Places

section Counts

/-- How many policies statements create. -/
def creations (ss : List Statement) : Nat := ss.countP (created? · |>.isSome)

theorem creations_append (ss ts : List Statement) :
    creations (ss ++ ts) = creations ss + creations ts := List.countP_append

/-- What a report without errors counts. -/
def Counts (databases policies : Nat) (r : ReplicationReport) : Prop :=
  r.isClean = true → r.databases = databases ∧ r.policies = policies

theorem Counts.append {m n m' n' : Nat} {r s : ReplicationReport} (h : Counts m n r)
    (h' : Counts m' n' s) : Counts (m + m') (n + n') (r.append s) := by
  intro hclean
  have hboth : r.isClean = true ∧ s.isClean = true := by
    simpa [ReplicationReport.isClean, ReplicationReport.append] using hclean
  obtain ⟨hm, hn⟩ := h hboth.1
  obtain ⟨hm', hn'⟩ := h' hboth.2
  exact ⟨by rw [← hm, ← hm']; rfl, by rw [← hn, ← hn']; rfl⟩

theorem execute_counts (e : Endpoint) (st : Statement) :
    (Replication.execute e st).Returns (Counts 0 (creations [st])) := by
  refine (Routine.returns_something _).bind fun answer _ => ?_
  cases answer with
  | ok response =>
    refine (Routine.returns_something _).bind fun _ _ => Routine.returns_pure fun _ => ⟨rfl, ?_⟩
    cases st <;> rfl
  | error cause =>
    dsimp only
    split
    · refine (Routine.returns_something _).bind fun _ _ => Routine.returns_pure fun _ => ⟨rfl, ?_⟩
      cases st <;> rfl
    · exact (Routine.returns_something _).bind fun _ _ => Routine.returns_pure nofun

theorem executeAll_counts (e : Endpoint) (ss : List Statement) :
    (Replication.executeAll e ss).Returns (Counts 0 (creations ss)) := by
  induction ss with
  | nil => exact Routine.returns_pure fun _ => ⟨rfl, rfl⟩
  | cons st ss ih =>
    refine (execute_counts e st).bind fun first hfirst => ih.bind fun rest hrest => ?_
    exact Routine.returns_pure (creations_append [st] ss ▸ hfirst.append hrest)

theorem database_counts (e : Endpoint) (d : Database) :
    (Replication.database e d).Returns
      (Counts (if !d.isInternal then 1 else 0) (creations d.statements)) := by
  rw [Replication.database, Database.statements]
  cases d.isInternal with
  | true => exact Routine.returns_pure fun _ => ⟨rfl, rfl⟩
  | false =>
    cases d.defaultPolicy? with
    | none => exact (Routine.returns_something _).bind fun _ _ => Routine.returns_pure nofun
    | some default =>
      refine (Routine.returns_something _).bind fun _ _ =>
        (executeAll_counts e (d.creation default)).bind fun report h => ?_
      exact Routine.returns_pure fun hclean => ⟨rfl, (h hclean).2⟩

/-- A report without errors counts the databases that are not left alone, and their policies. -/
theorem replicate_counts (e : Endpoint) (ds : List Database) :
    (replicate e ds).Returns
      (Counts (ds.countP fun d => !d.isInternal) (creations (ds.flatMap Database.statements))) := by
  induction ds with
  | nil => exact Routine.returns_pure fun _ => ⟨rfl, rfl⟩
  | cons d ds ih =>
    refine (database_counts e d).bind fun first hfirst => ih.bind fun rest hrest => ?_
    refine Routine.returns_pure ?_
    rw [List.flatMap_cons, creations_append, List.countP_cons, Nat.add_comm]
    exact hfirst.append hrest

end Counts
end SeriesReplica.Schema
