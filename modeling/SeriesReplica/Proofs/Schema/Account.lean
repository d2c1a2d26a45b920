import SeriesReplica.Proofs.Concurrent.Conversation
import SeriesReplica.Proofs.Schema.Statements

/-! The account that a replication gives of itself. It sends the statements of its databases one
after another, whatever each is answered, and its report counts and complains of just what the
answers say: statements that succeeded or found what they were to create count as done, the others
are its errors, along with the databases that have no default policy. -/
namespace SeriesReplica.Schema
open Concurrent Time Query

/-- A statement and how it was answered. -/
structure Answered where
  statement : Statement
  reply : Except Node.Error Response

namespace Answered

/-- The exchange with a node in which it was. -/
def exchange (c : Client) (a : Answered) : Exchange :=
  ⟨c, .query (.ofStatement a.statement), a.reply⟩

/-- Whether a policy was created or was there already. -/
def createsPolicy (a : Answered) : Bool :=
  (created? a.statement).isSome && match a.reply with
    | .ok _ => true
    | .error cause => cause.isAlreadyExists

/-- The error of a statement that failed otherwise. -/
def complaint? (a : Answered) : Option String :=
  match a.reply with
  | .ok _ => none
  | .error cause =>
    if cause.isAlreadyExists then none else some (a.statement.text ++ ": " ++ cause.message)

end Answered

/-- The account of statements that were sent for one database. -/
def tally (as : List Answered) : ReplicationReport :=
  ⟨0, as.countP Answered.createsPolicy, as.filterMap Answered.complaint?⟩

/-- Whether statements are sent for a database. -/
def Database.isSent (d : Database) : Bool := !d.isInternal && d.defaultPolicy?.isSome

/-- The errors that concern a database, given how its statements were answered. -/
def Database.complaints (d : Database) (as : List Answered) : List String :=
  if d.isInternal then []
  else
    match d.defaultPolicy? with
    | none => ["database " ++ d.name ++ " has no default retention policy, skipping"]
    | some _ => as.filterMap Answered.complaint?

/-- The account of a replication, given for each database how its statements were answered. -/
def account (parts : List (Database × List Answered)) : ReplicationReport where
  databases := parts.countP fun part => part.1.isSent
  policies := (parts.flatMap Prod.snd).countP Answered.createsPolicy
  errors := parts.flatMap fun part => part.1.complaints part.2

theorem tally_cons (a : Answered) (as : List Answered) :
    tally (a :: as) = (tally [a]).append (tally as) := by
  simp only [tally, ReplicationReport.append, ReplicationReport.mk.injEq]
  rw [← List.singleton_append, List.countP_append, List.filterMap_append]
  exact ⟨trivial, rfl, rfl⟩

theorem account_cons (part : Database × List Answered) (parts : List (Database × List Answered)) :
    account (part :: parts) = (account [part]).append (account parts) := by
  simp only [account, ReplicationReport.append, ReplicationReport.mk.injEq]
  refine ⟨?_, ?_, ?_⟩
  · rw [← List.singleton_append, List.countP_append]
  · rw [← List.singleton_append, List.flatMap_append, List.countP_append]
  · rw [← List.singleton_append, List.flatMap_append]

/-- A database that is left alone. -/
theorem account_internal {d : Database} (h : d.isInternal = true) : account [(d, [])] = .empty := by
  simp [account, Database.isSent, Database.complaints, h, ReplicationReport.empty]

/-- A database that is skipped. -/
theorem account_skipped {d : Database} (h : d.isInternal = false)
    (hdefault : d.defaultPolicy? = none) :
    account [(d, [])] =
      ⟨0, 0, ["database " ++ d.name ++ " has no default retention policy, skipping"]⟩ := by
  simp [account, Database.isSent, Database.complaints, h, hdefault]

/-- A database that is created. -/
theorem account_sent {d : Database} {default : Policy} (h : d.isInternal = false)
    (hdefault : d.defaultPolicy? = some default) (as : List Answered) :
    account [(d, as)] = { tally as with databases := 1 } := by
  simp [account, Database.isSent, Database.complaints, h, hdefault, tally]

/-- What is logged of a statement. -/
private def notice (e : Endpoint) (a : Answered) : Log.Line :=
  match a.reply with
  | .ok _ => Log.debug ("[" ++ e.name ++ "] " ++ a.statement.text)
  | .error cause =>
    if cause.isAlreadyExists then
      Log.debug ("[" ++ e.name ++ "] " ++ a.statement.text ++ " (already exists)")
    else Log.error ("[" ++ e.name ++ "] " ++ a.statement.text ++ " failed: " ++ cause.message)

/-- A statement is sent, what became of it is logged, and the account of it is given. -/
theorem execute_eq (e : Endpoint) (st : Statement) :
    ∃ line : Except Node.Error Response → Log.Line, Replication.execute e st =
      Routine.query e.client (.ofStatement st) none >>= fun reply =>
        Routine.log (line reply) >>= fun _ => pure (tally [⟨st, reply⟩]) := by
  refine ⟨fun reply => notice e ⟨st, reply⟩, ?_⟩
  rw [Replication.execute]
  refine congrArg (Routine.query e.client (.ofStatement st) none >>= ·) (funext fun reply => ?_)
  cases reply with
  | ok response => cases st <;> rfl
  | error cause =>
    cases hexists : cause.isAlreadyExists with
    | true =>
      cases st <;>
        simp [notice, tally, Answered.createsPolicy, Answered.complaint?, created?, hexists] <;> rfl
    | false => simp [notice, tally, Answered.createsPolicy, Answered.complaint?, hexists]

section Talks
variable {e : Endpoint} {report : ReplicationReport} {xs : List Exchange}

theorem execute_talks {st : Statement} (h : (Replication.execute e st).Talks report xs) :
    ∃ reply, xs = [Answered.exchange e.client ⟨st, reply⟩] ∧ report = tally [⟨st, reply⟩] := by
  obtain ⟨line, heq⟩ := execute_eq e st
  rw [heq] at h
  obtain ⟨reply, ys, zs, rfl, hquery, hrest⟩ := Routine.talks_bind.1 h
  obtain ⟨_, us, vs, rfl, hlog, rfl, rfl⟩ := Routine.talks_bind.1 hrest
  rw [Routine.talks_query.1 hquery, Routine.talks_log.1 hlog]
  exact ⟨reply, rfl, rfl⟩

/-- Statements are sent one after another, and the report is the account of them. -/
theorem executeAll_talks {ss : List Statement}
    (h : (Replication.executeAll e ss).Talks report xs) :
    ∃ as : List Answered, as.map Answered.statement = ss ∧
      xs = as.map (Answered.exchange e.client) ∧ report = tally as := by
  induction ss generalizing report xs with
  | nil =>
    obtain ⟨rfl, rfl⟩ := Routine.talks_pure.1 h
    exact ⟨[], rfl, rfl, rfl⟩
  | cons st ss ih =>
    obtain ⟨first, ys, zs, rfl, hfirst, hrest⟩ := Routine.talks_bind.1 h
    obtain ⟨rest, us, vs, rfl, hlater, rfl, rfl⟩ := Routine.talks_bind.1 hrest
    obtain ⟨reply, rfl, rfl⟩ := execute_talks hfirst
    obtain ⟨as, rfl, rfl, rfl⟩ := ih hlater
    refine ⟨⟨st, reply⟩ :: as, rfl, ?_, (tally_cons _ _).symm⟩
    rw [List.append_nil]
    rfl

theorem database_talks {d : Database} (h : (Replication.database e d).Talks report xs) :
    ∃ as : List Answered, as.map Answered.statement = d.statements ∧
      xs = as.map (Answered.exchange e.client) ∧ report = account [(d, as)] := by
  rw [Replication.database] at h
  rw [Database.statements]
  cases hinternal : d.isInternal with
  | true =>
    rw [hinternal, if_pos rfl] at h
    obtain ⟨rfl, rfl⟩ := Routine.talks_pure.1 h
    exact ⟨[], rfl, rfl, (account_internal hinternal).symm⟩
  | false =>
    rw [hinternal, if_neg Bool.false_ne_true] at h
    cases hdefault : d.defaultPolicy? with
    | none =>
      rw [hdefault] at h
      obtain ⟨_, us, vs, rfl, hlog, rfl, rfl⟩ := Routine.talks_bind.1 h
      rw [Routine.talks_log.1 hlog]
      exact ⟨[], rfl, rfl, (account_skipped hinternal hdefault).symm⟩
    | some default =>
      rw [hdefault] at h
      obtain ⟨_, us, vs, rfl, hlog, hsent⟩ := Routine.talks_bind.1 h
      obtain ⟨told, ys, zs, rfl, hall, rfl, rfl⟩ := Routine.talks_bind.1 hsent
      obtain ⟨as, has, rfl, rfl⟩ := executeAll_talks hall
      rw [Routine.talks_log.1 hlog, List.append_nil]
      exact ⟨as, has, rfl, (account_sent hinternal hdefault as).symm⟩

/-- A replication sends the statements of its databases, one database after another, and its report
is the account of them. -/
theorem replicate_talks {ds : List Database} (h : (replicate e ds).Talks report xs) :
    ∃ parts : List (Database × List Answered), parts.map Prod.fst = ds ∧
      (∀ part ∈ parts, part.2.map Answered.statement = part.1.statements) ∧
      xs = (parts.flatMap Prod.snd).map (Answered.exchange e.client) ∧
      report = account parts := by
  induction ds generalizing report xs with
  | nil =>
    obtain ⟨rfl, rfl⟩ := Routine.talks_pure.1 h
    exact ⟨[], rfl, by simp, rfl, rfl⟩
  | cons d ds ih =>
    obtain ⟨first, ys, zs, rfl, hfirst, hrest⟩ := Routine.talks_bind.1 h
    obtain ⟨rest, us, vs, rfl, hlater, rfl, rfl⟩ := Routine.talks_bind.1 hrest
    obtain ⟨as, has, rfl, rfl⟩ := database_talks hfirst
    obtain ⟨parts, rfl, hparts, rfl, rfl⟩ := ih hlater
    refine ⟨(d, as) :: parts, rfl, ?_, ?_, (account_cons _ _).symm⟩
    · intro part hpart
      rcases List.mem_cons.1 hpart with rfl | hpart
      · exact has
      · exact hparts part hpart
    · rw [List.append_nil, List.flatMap_cons, List.map_append]

end Talks

/-- The calls of a conversation about statements. -/
private theorem map_call_exchange (c : Client) (as : List Answered) :
    (as.map (Answered.exchange c)).map (fun x => (x.client, x.call)) =
      (as.map Answered.statement).map fun st => (c, .query (.ofStatement st)) := by
  rw [List.map_map, List.map_map]
  rfl

/-- The statements of all parts are those of their databases. -/
private theorem map_statement_flatMap {parts : List (Database × List Answered)}
    (h : ∀ part ∈ parts, part.2.map Answered.statement = part.1.statements) :
    (parts.flatMap Prod.snd).map Answered.statement =
      (parts.map Prod.fst).flatMap Database.statements := by
  rw [List.map_flatMap, List.flatMap_map]
  exact List.flatMap_congr h

/-- Whatever nodes answer and however long that takes, a replication ends with a report. The
statements it sends are those of its databases, in order, whatever each is answered. The report
counts the databases for which statements are sent, and the statements creating a policy that
succeeded or found it there; its errors are those of the statements that failed otherwise and of the
databases that are neither left alone nor have a default policy, in order. -/
theorem replication_is_accounted {ν σ ρ : Type} (host : Host ν) (start : Instant) (nodes : ν)
    (shared : σ) (e : Endpoint) (ds : List Database) :
    let launched : Machine ν σ ρ ReplicationReport :=
      (Machine.initial start nodes shared).launch (Process.ofRoutine (replicate e ds))
    (launched.Inevitably host fun m => m.fibers = [] ∧ ∃ report, m.answer? 0 = some report) ∧
      ∀ es m, Machine.Traced host launched es m → m.fibers = [] →
        (es.map fun x => (x.exchange.client, x.exchange.call)) =
          (ds.flatMap Database.statements).map (fun st => (e.client, .query (.ofStatement st))) ∧
        ∃ (report : ReplicationReport) (parts : List (Database × List Answered)),
          m.answer? 0 = some report ∧ parts.map Prod.fst = ds ∧
          (∀ part ∈ parts, part.2.map Answered.statement = part.1.statements) ∧
          es.map Event.exchange = (parts.flatMap Prod.snd).map (Answered.exchange e.client) ∧
          report.databases = ds.countP Database.isSent ∧
          report.policies = (parts.flatMap Prod.snd).countP Answered.createsPolicy ∧
          report.errors = parts.flatMap fun part => part.1.complaints part.2 := by
  intro launched
  constructor
  · refine (Machine.launch_inevitably host start nodes shared _).mono ?_
    rintro m ⟨report, -, -, hfibers, hanswers, -⟩
    refine ⟨hfibers, report, ?_⟩
    rw [Machine.answer?, hanswers]
    rfl
  · intro es m htraced hfibers
    obtain ⟨report, hanswer, htalks⟩ := htraced.converses.at_end hfibers
    obtain ⟨parts, hparts, hstatements, hexchanges, hreport⟩ := replicate_talks htalks
    refine ⟨?_, report, parts, hanswer, hparts, hstatements, hexchanges, ?_, ?_, ?_⟩
    · have hcalls := map_call_exchange e.client (parts.flatMap Prod.snd)
      rw [← hexchanges, List.map_map, map_statement_flatMap hstatements, hparts] at hcalls
      exact hcalls
    · rw [hreport, ← hparts, List.countP_map]
      rfl
    · rw [hreport, account]
    · rw [hreport, account]

/-- A database that a server keeps for itself, without any policies. -/
private def bareInternal : Database := .ofPolicies internalDatabase []

/-- A database that is left alone is no error, though it has no default policy. -/
theorem bare_internal_is_no_error :
    bareInternal.defaultPolicy? = none ∧
      ∀ (host : Host Unit) (e : Endpoint),
        (host.exec .epoch (replicate e [bareInternal]) ((), .zero)).1.errors = [] := by
  exact ⟨rfl, fun host e => rfl⟩

end SeriesReplica.Schema
