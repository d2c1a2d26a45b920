import SeriesReplica.Proofs.Concurrent.Trace
import SeriesReplica.Sync.Transfer

/-! The exchanges of a transfer. It reads until a read succeeds, and only then it writes, batch by
batch, each until its write succeeds and none after one that was given up. -/
namespace SeriesReplica.Sync
open Time Concurrent Query Schema

/-- The attempts at a call, of which there are at most so many: all but the last one have failed,
and if the last one has, too, there could be no more. -/
def Tries (total : Nat) (client : Client) (call : NodeCall) (reply : Except Node.Error call.Reply)
    (xs : List Exchange) : Prop :=
  ∃ errors : List Node.Error,
    xs = errors.map (fun e => ⟨client, call, .error e⟩) ++ [⟨client, call, reply⟩] ∧
      errors.length < total ∧ ((∃ e, reply = .error e) → errors.length + 1 = total)

namespace TransferContext

/-- What a transfer writes once it has read. -/
def batches (ctx : TransferContext) (measurement : String) (types : FieldTypes)
    (response : Response) : List Batch :=
  let points := (response.series.map (decode measurement types)).flatMap (·.1)
  if points.isEmpty then []
  else Batch.split ⟨ctx.destinationDatabase, ctx.destinationPolicy, points⟩ ctx.maxPoints

/-- The exchanges by which batches are written, with the number of points that have been, and
whether a batch was given up: each batch comes after the one before has been written. -/
inductive Writes (ctx : TransferContext) : List Batch → Nat → Bool → List Exchange → Prop where
  | done : Writes ctx [] 0 false []
  | gaveUp {b : Batch} {bs : List Batch} {e : Node.Error} {xs : List Exchange}
    (write : Tries ctx.retry.total ctx.destination (.write b) (.error e) xs) :
    Writes ctx (b :: bs) 0 true xs
  | next {b : Batch} {bs : List Batch} {points : Nat} {failed : Bool} {xs ys : List Exchange}
    (write : Tries ctx.retry.total ctx.destination (.write b) (.ok ()) xs)
    (rest : Writes ctx bs points failed ys) :
    Writes ctx (b :: bs) (b.points.length + points) failed (xs ++ ys)

/-- The exchanges by which a measurement has been moved within a window, and what came of it: a
read, and after a read that has succeeded the writes of what was read. -/
inductive Moved (ctx : TransferContext) (w : Window) (measurement : String) (types : FieldTypes) :
    Outcome → List Exchange → Prop where
  | unread {e : Node.Error} {xs : List Exchange}
    (read : Tries ctx.retry.total ctx.source (.query (ctx.select measurement w)) (.error e) xs) :
    Moved ctx w measurement types ⟨0, true, false⟩ xs
  | read {response : Response} {points : Nat} {failed : Bool} {xs ys : List Exchange}
    (read : Tries ctx.retry.total ctx.source (.query (ctx.select measurement w)) (.ok response) xs)
    (writes : ctx.Writes (ctx.batches measurement types response) points failed ys) :
    Moved ctx w measurement types ⟨points, false, failed⟩ (xs ++ ys)

end TransferContext

section Retry
variable {client : Client} {c : NodeCall} {result : Except Node.Error c.Reply} {xs : List Exchange}

/-- The routine of a single call. -/
abbrev calling (client : Client) (c : NodeCall) : Routine (Except Node.Error c.Reply) :=
  .ofOp (Action.call client c none)

private theorem talks_calling (h : (calling client c).Talks result xs) :
    xs = [⟨client, c, result⟩] := by
  obtain ⟨_, _, rfl, rfl, rfl⟩ := h
  rfl

private theorem talks_succeed {what : String} {made : Nat} {value : c.Reply}
    (h : (RetryPolicy.attempt.succeed what made value : Routine (Except Node.Error c.Reply)).Talks
      result xs) : result = .ok value ∧ xs = [] := by
  rw [RetryPolicy.attempt.succeed] at h
  split at h
  · obtain ⟨_, ys, zs, rfl, hlog, rfl, rfl⟩ := Routine.talks_bind.1 h
    exact ⟨rfl, by rw [Routine.talks_log.1 hlog, List.append_nil]⟩
  · exact ⟨h.1.symm, h.2⟩

private theorem attempt_talks (p : RetryPolicy) (what : String) (message : Node.Error → String)
    {made left : Nat}
    (h : (p.attempt what message (calling client c) made left).Talks result xs) :
    ∃ errors : List Node.Error,
      xs = errors.map (fun e => ⟨client, c, .error e⟩) ++ [⟨client, c, result⟩] ∧
        errors.length ≤ left ∧ ((∃ e, result = .error e) → errors.length = left) := by
  induction left generalizing made xs with
  | zero =>
    rw [RetryPolicy.attempt] at h
    obtain ⟨reply, ys, zs, rfl, hcall, hrest⟩ := Routine.talks_bind.1 h
    obtain rfl := talks_calling hcall
    cases reply with
    | ok value =>
      obtain ⟨rfl, rfl⟩ := talks_succeed hrest
      exact ⟨[], rfl, Nat.le_refl 0, fun _ => rfl⟩
    | error e =>
      obtain ⟨rfl, rfl⟩ := Routine.talks_pure.1 hrest
      exact ⟨[], rfl, Nat.le_refl 0, fun _ => rfl⟩
  | succ left ih =>
    rw [RetryPolicy.attempt] at h
    obtain ⟨reply, ys, zs, rfl, hcall, hrest⟩ := Routine.talks_bind.1 h
    obtain rfl := talks_calling hcall
    cases reply with
    | ok value =>
      obtain ⟨rfl, rfl⟩ := talks_succeed hrest
      exact ⟨[], rfl, Nat.zero_le _, fun ⟨e, he⟩ => nomatch he⟩
    | error e =>
      obtain ⟨_, us, vs, rfl, hlog, hslept⟩ := Routine.talks_bind.1 hrest
      obtain ⟨_, us', vs', rfl, hsleep, hagain⟩ := Routine.talks_bind.1 hslept
      obtain rfl := Routine.talks_log.1 hlog
      obtain rfl := Routine.talks_sleep.1 hsleep
      obtain ⟨errors, rfl, hlength, hlast⟩ := ih hagain
      exact ⟨e :: errors, rfl, Nat.succ_le_succ hlength, fun he => congrArg (· + 1) (hlast he)⟩

/-- A call that is repeated is attempted until it succeeds or the attempts are used up. -/
theorem run_talks (p : RetryPolicy) (what : String) (message : Node.Error → String)
    (h : (p.run what message (calling client c)).Talks result xs) :
    Tries p.total client c result xs := by
  obtain ⟨errors, rfl, hlength, hlast⟩ := attempt_talks p what message h
  have hpos : 0 < p.total := Nat.le_max_right _ _
  exact ⟨errors, rfl, by omega, fun he => by have := hlast he; omega⟩

end Retry

section Transfer
variable {ctx : TransferContext} {w : Window} {o : Outcome} {xs : List Exchange}

theorem writeAll_talks {what : String} {written : Nat} {bs : List Batch}
    (h : (ctx.writeAll what w written bs).Talks o xs) :
    ∃ points failed, o = ⟨written + points, false, failed⟩ ∧ ctx.Writes bs points failed xs := by
  induction bs generalizing written xs with
  | nil =>
    obtain ⟨rfl, rfl⟩ := Routine.talks_pure.1 h
    exact ⟨0, false, rfl, .done⟩
  | cons b bs ih =>
    rw [TransferContext.writeAll] at h
    obtain ⟨result, ys, zs, rfl, hwrite, hrest⟩ := Routine.talks_bind.1 h
    have htries : Tries ctx.retry.total ctx.destination (.write b) result ys :=
      run_talks ctx.retry what _ hwrite
    cases result with
    | ok _ =>
      obtain ⟨points, failed, rfl, hwrites⟩ := ih hrest
      exact ⟨_, failed, by rw [Nat.add_assoc], .next htries hwrites⟩
    | error e =>
      obtain ⟨_, us, vs, rfl, hlog, rfl, rfl⟩ := Routine.talks_bind.1 hrest
      rw [Routine.talks_log.1 hlog, List.append_nil, List.append_nil]
      exact ⟨0, true, rfl, .gaveUp htries⟩

/-- Whatever calls are answered, a transfer keeps to its order. -/
theorem transfer_talks {measurement : String} {types : FieldTypes}
    (h : (ctx.transfer w measurement types).Talks o xs) : ctx.Moved w measurement types o xs := by
  rw [TransferContext.transfer] at h
  obtain ⟨result, ys, zs, rfl, hread, hrest⟩ := Routine.talks_bind.1 h
  have htries : Tries ctx.retry.total ctx.source (.query (ctx.select measurement w)) result ys :=
    run_talks ctx.retry _ _ hread
  cases result with
  | error e =>
    obtain ⟨_, us, vs, rfl, hlog, rfl, rfl⟩ := Routine.talks_bind.1 hrest
    rw [Routine.talks_log.1 hlog, List.append_nil, List.append_nil]
    exact .unread htries
  | ok response =>
    obtain ⟨_, us, vs, rfl, hlog, hmove⟩ := Routine.talks_bind.1 hrest
    obtain rfl := Routine.talks_logAll.1 hlog
    rw [List.nil_append]
    dsimp only at hmove
    split at hmove
    case isTrue hnone =>
      obtain ⟨rfl, rfl⟩ := Routine.talks_pure.1 hmove
      refine .read htries ?_
      rw [TransferContext.batches, if_pos hnone]
      exact .done
    case isFalse hsome =>
      obtain ⟨points, failed, rfl, hwrites⟩ := writeAll_talks hmove
      rw [Nat.zero_add]
      refine .read htries ?_
      rw [TransferContext.batches, if_neg hsome]
      exact hwrites

end Transfer
end SeriesReplica.Sync
