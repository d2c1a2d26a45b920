import SeriesReplica.Proofs.Sync.Consistent

/-! Failures that are used up. If every call that fails uses up one of the failures ahead of its
node, and there are fewer of these than attempts, no read and no write of a transfer is given up,
whichever workers come upon the failures: each of its own failed attempts has used up one. -/
namespace SeriesReplica.Sync
open Time Concurrent Node Point Query Schema

/-- How many more reads and writes fail, fewer of each than there are attempts. -/
structure Ahead (attempts : Nat) where
  reads : Nat
  writes : Nat
  reads_lt : reads < attempts
  writes_lt : writes < attempts

namespace Ahead

/-- Failures are only used up. -/
instance {n : Nat} : Preorder (Ahead n) where
  le a b := b.reads ≤ a.reads ∧ b.writes ≤ a.writes
  le_refl _ := ⟨Nat.le_refl _, Nat.le_refl _⟩
  le_trans _ _ _ h h' := ⟨Nat.le_trans h'.1 h.1, Nat.le_trans h'.2 h.2⟩

theorem antitone_reads {n : Nat} : Antitone (@Ahead.reads n) := fun _ _ h => h.1

theorem antitone_writes {n : Nat} : Antitone (@Ahead.writes n) := fun _ _ h => h.2

end Ahead

variable {σ ν : Type} {host : Host ν} {start : Instant} {ctx : TransferContext} {source : Store}
  {fields : RowKey → Fields} {Takes : Point → Prop}

/-- What a transfer relies on to succeed. A read answers the rows of the source, and a write of
points that the destination takes is done, unless a failure is ahead; a call that fails uses it
up. -/
structure Absorbing (host : Host ν) (start : Instant) (ctx : TransferContext) (source : Store)
    (Takes : Point → Prop) (Inv : Ahead ctx.retry.total → ν → Prop) : Prop where
  read : ∀ a now nodes measurement w, Inv a nodes →
    let answered := host.answer start now nodes
      (.call ctx.source (.query (ctx.select measurement w)) none)
    ∃ b, a ≤ b ∧ Inv b answered.2 ∧
      (answered.1.2 = .ok (source.selectWindow (some ctx.sourceDatabase) ctx.sourcePolicy
          measurement w.start w.stop) ∨
        (∃ e, answered.1.2 = .error e) ∧ b.reads < a.reads)
  write : ∀ a now nodes ps, Inv a nodes → (∀ p ∈ ps, Takes p) →
    let answered := host.answer start now nodes
      (.call ctx.destination (.write ⟨ctx.destinationDatabase, ctx.destinationPolicy, ps⟩) none)
    ∃ b, a ≤ b ∧ Inv b answered.2 ∧
      (answered.1.2 = .ok () ∨ (∃ e, answered.1.2 = .error e) ∧ b.writes < a.writes)

section Transfer
variable {Inv : Ahead ctx.retry.total → ν → Prop}

theorem read_succeeds (h : Absorbing host start ctx source Takes Inv) (what measurement : String)
    (w : Window) (a : Ahead ctx.retry.total) :
    (ctx.retry.run what Node.Error.message (Routine.query ctx.source (ctx.select measurement w)
      none)).Achieves host start Inv (fun result _ => result = .ok (source.selectWindow
        (some ctx.sourceDatabase) ctx.sourcePolicy measurement w.start w.stop)) a := by
  refine run_succeeds ctx.retry what _ Ahead.antitone_reads (fun b _ => ?_) a.reads_lt
  intro c hc now nodes hinv
  obtain ⟨d, hd, hinv', hanswer⟩ := h.read c now nodes measurement w hinv
  refine ⟨d, hd, hinv', hanswer.imp_right fun hfailed => ?_⟩
  exact ⟨hfailed.1, Nat.lt_of_lt_of_le hfailed.2 hc.1⟩

theorem write_succeeds (h : Absorbing host start ctx source Takes Inv) (what : String)
    {ps : List Point} (hps : ∀ p ∈ ps, Takes p) (a : Ahead ctx.retry.total) :
    (ctx.retry.run what Node.Error.message (Routine.write ctx.destination
      ⟨ctx.destinationDatabase, ctx.destinationPolicy, ps⟩)).Achieves host start Inv
      (fun result _ => result = .ok ()) a := by
  refine run_succeeds ctx.retry what _ Ahead.antitone_writes (fun b _ => ?_) a.writes_lt
  intro c hc now nodes hinv
  obtain ⟨d, hd, hinv', hanswer⟩ := h.write c now nodes ps hinv hps
  refine ⟨d, hd, hinv', hanswer.imp_right fun hfailed => ?_⟩
  exact ⟨hfailed.1, Nat.lt_of_lt_of_le hfailed.2 hc.2⟩

theorem writeAll_succeeds (h : Absorbing host start ctx source Takes Inv) (what : String)
    (w : Window) (written : Nat) {bs : List Batch}
    (hbs : ∀ b ∈ bs, b.database = ctx.destinationDatabase ∧ b.policy = ctx.destinationPolicy)
    (hps : ∀ p ∈ bs.flatMap (·.points), Takes p) (a : Ahead ctx.retry.total) :
    (ctx.writeAll what w written bs).Achieves host start Inv
      (fun o _ => (o.readFailed || o.writeFailed) = false) a := by
  induction bs generalizing written a with
  | nil => exact rfl
  | cons b bs ih =>
    obtain ⟨database, policy, ps⟩ := b
    obtain ⟨rfl, rfl⟩ := hbs _ List.mem_cons_self
    rw [List.flatMap_cons] at hps
    rw [TransferContext.writeAll]
    refine Routine.Achieves.bind ((write_succeeds h what
      (fun p hp => hps p (List.mem_append_left _ hp)) a).mono fun result b _ hresult => ?_)
    subst hresult
    exact ih _ (fun c hc => hbs c (List.mem_cons_of_mem _ hc))
      (fun p hp => hps p (List.mem_append_right _ hp)) b

theorem transfer_succeeds (h : Absorbing host start ctx source Takes Inv) {measurement : String}
    {types : FieldTypes}
    (hdecoded : DecodedFrom fields source ctx.sourceDatabase ctx.sourcePolicy measurement types)
    {w : Window}
    (htakes : ∀ p, p.fields = fields (.ofPoint p) → Due fields measurement w (.ofPoint p) →
      Takes p) (a : Ahead ctx.retry.total) :
    (ctx.transfer w measurement types).Achieves host start Inv
      (fun o _ => (o.readFailed || o.writeFailed) = false) a := by
  obtain ⟨-, hpoints, hdue⟩ := selected_points hdecoded w
  rw [TransferContext.transfer]
  refine Routine.Achieves.bind ((read_succeeds h _ measurement w a).mono
    fun result b _ hresult => ?_)
  subst hresult
  refine Routine.Achieves.bind (Routine.achieves_logAll fun c _ => ?_)
  dsimp only
  split
  · exact rfl
  · refine writeAll_succeeds h _ w 0 (fun b hb => Batch.place_of_mem_split hb) (fun p hp => ?_) c
    rw [Batch.flatMap_split] at hp
    exact htakes p (hpoints p hp) ((hdue _).1 ⟨p, hp, rfl⟩)

end Transfer

section Chunks
variable {s : Settings} {j : Job} {first past : Int} {Inv : Ahead s.retry.total → ν → Prop}

/-- No chunk fails. -/
theorem syncChunk_succeeds (h : Absorbing host start (j.context s) source Takes Inv)
    (hdecodes : Decodes j source fields Takes first past) (pass : Pass) {w : Window}
    (hw : first ≤ w.first ∧ w.past ≤ past) (a : Ahead s.retry.total) :
    (syncChunk s j pass w : Process σ Outcome ChunkReport).Ensures host start Inv
      (fun c _ => c.isBad = false) a := by
  rw [syncChunk]
  refine Process.Ensures.bind (Process.ensures_clock fun started => ?_)
  have htransfer : ∀ x ∈ j.measurements, ((j.context s).transfer w x.1 x.2).Achieves host start Inv
      (fun o _ => (o.readFailed || o.writeFailed) = false) a := by
    refine fun x hx => transfer_succeeds h (hdecodes.decoded x.1 x.2 hx) ?_ a
    rintro p hp ⟨-, ⟨hlo, hhi⟩, hne⟩
    exact hdecodes.takes p hp (hp ▸ hne) (hw.1.trans hlo) (lt_of_lt_of_le hhi hw.2)
  refine Process.Ensures.bind (Process.ensures_pool (fun _ _ _ _ _ ho => ho) htransfer
    fun outcomes b _ houtcomes => ?_)
  refine Process.Ensures.bind (Process.ensures_clock fun ended => ?_)
  refine Process.Ensures.bind (Process.ensures_log ?_)
  refine Process.ensures_pure ?_
  rw [isBad_ofOutcomes, List.any_eq_false]
  intro o ho
  obtain ⟨-, -, hfine⟩ := exists_left houtcomes ho
  simpa using hfine

end Chunks
end SeriesReplica.Sync
