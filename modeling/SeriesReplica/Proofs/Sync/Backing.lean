import SeriesReplica.Proofs.Node.Reachable
import SeriesReplica.Proofs.Node.Serving
import SeriesReplica.Proofs.Sync.Account

/-! Syncing between memory nodes. At every moment the destination is what it was before, with
decoded rows of the source written over it. -/
namespace SeriesReplica.Sync
open Time Concurrent Node Point Query Schema

namespace Job

/-- The type that a job decodes a field with. -/
def type? (j : Job) (measurement field : String) : Option FieldType :=
  j.sourcePolicy.measurements[measurement]?.bind (·[field]?)

/-- What a job decodes of a row of its source. -/
def decoded (j : Job) (source : Store) (k : RowKey) : Fields :=
  match j.sourcePolicy.measurements[k.measurement]?,
    source.row? j.sourceDatabase j.sourcePolicy.name k with
  | some types, some row => decodedFields types k.timestamp row
  | _, _ => ∅

theorem decoded_eq {j : Job} {source : Store} {k : RowKey} {types : FieldTypes} {row : Fields}
    (htypes : j.sourcePolicy.measurements[k.measurement]? = some types)
    (hrow : source.row? j.sourceDatabase j.sourcePolicy.name k = some row) :
    j.decoded source k = decodedFields types k.timestamp row := by
  rw [decoded, htypes, hrow]

/-- Something is decoded only of a row that is there, by types that are known. -/
theorem exists_of_decoded {j : Job} {source : Store} {k : RowKey}
    (h : (j.decoded source k).isEmpty = false) :
    ∃ types row, j.sourcePolicy.measurements[k.measurement]? = some types ∧
      source.row? j.sourceDatabase j.sourcePolicy.name k = some row := by
  rw [decoded] at h
  split at h
  case h_1 types row htypes hrow => exact ⟨types, row, htypes, hrow⟩
  case h_2 => simp at h

/-- The rows from `first` up to but not including `past` of which a job decodes something. -/
def Planned (j : Job) (source : Store) (first past : Int) (k : RowKey) : Prop :=
  (first ≤ k.timestamp.toInt ∧ k.timestamp.toInt < past) ∧ (j.decoded source k).isEmpty = false

/-- What a job reads of a row of its source, which may have a field that is keyed as the time. -/
def readout (j : Job) (source : Store) (k : RowKey) : Fields :=
  match j.sourcePolicy.measurements[k.measurement]?,
    source.row? j.sourceDatabase j.sourcePolicy.name k with
  | some types, some row => readFields types k.timestamp row
  | _, _ => ∅

theorem mem_measurements {j : Job} {name : String} {types : FieldTypes} :
    (name, types) ∈ j.measurements ↔ j.sourcePolicy.measurements[name]? = some types :=
  Std.ExtTreeMap.mem_toList_iff_getElem?_eq_some

end Job

/-- Rows from `first` up to but not including `past` that have fields. -/
def InRange (fields : RowKey → Fields) (first past : Int) (k : RowKey) : Prop :=
  (first ≤ k.timestamp.toInt ∧ k.timestamp.toInt < past) ∧ (fields k).isEmpty = false

/-- The points of such rows. -/
def Moves (fields : RowKey → Fields) (first past : Int) (p : Point) : Prop :=
  p.fields = fields (.ofPoint p) ∧ InRange fields first past (.ofPoint p)

/-- The nodes while a job copies the fields of rows from `first` up to but not including `past`:
the source holds what it did, and the destination what it did with the rows of `U` written over
it. -/
structure CopyingBy (j : Job) (fields : RowKey → Fields) (source destination : Store)
    (first past : Int) (faulty : Prop) (U : Finset RowKey) (net : Network) : Prop where
  reads : ∃ n, net.node? j.source.client = some (.memory n) ∧ n.store = source ∧
    (¬ faulty → n.IsHealthy)
  writes : ∃ n, net.node? j.destination.client = some (.memory n) ∧
    destination.Overlaid j.destinationDatabase j.destinationPolicy fields U n.store ∧
    (¬ faulty → n.IsHealthy)
  planned : ∀ k ∈ U, InRange fields first past k

/-- The nodes while a job copies what it decodes. -/
abbrev Copying (j : Job) (source destination : Store) (first past : Int) (faulty : Prop)
    (U : Finset RowKey) (net : Network) : Prop :=
  CopyingBy j (j.decoded source) source destination first past faulty U net

/-- A job between stores that copies the fields of rows: those that its measurements read, which
the destination takes. -/
structure Job.Carries (j : Job) (fields : RowKey → Fields) (source destination : Store) :
    Prop where
  apart : j.source.client ≠ j.destination.client
  named : j.destinationPolicy ≠ ""
  agrees : ∀ p, destination.policy? j.destinationDatabase j.destinationPolicy = some p →
    ∀ m f t t', p.type? m f = some t → j.type? m f = some t' → t = t'
  decoded : ∀ name types, (name, types) ∈ j.measurements →
    DecodedFrom fields source j.sourceDatabase j.sourcePolicy.name name types
  known : ∀ k, (fields k).isEmpty = false → ∃ types, (k.measurement, types) ∈ j.measurements
  typed : ∀ k (f : String) v, (fields k)[f]? = some v → j.type? k.measurement f = some v.type

/-- What is assumed of a job between stores. -/
structure Job.Fits (j : Job) (source destination : Store) : Prop where
  apart : j.source.client ≠ j.destination.client
  named : j.destinationPolicy ≠ ""
  sound : source.Sound
  no_time : ∀ name types m, (name, types) ∈ j.measurements →
    source.measurement? j.sourceDatabase j.sourcePolicy.name name = some m →
    m.types["time"]? = none
  agrees : ∀ p, destination.policy? j.destinationDatabase j.destinationPolicy = some p →
    ∀ m f t t', p.type? m f = some t → j.type? m f = some t' → t = t'

variable {ν : Type} {host : Host ν} {start : Instant} {network : ν → Network} {faulty : Prop}
  {j : Job} {source destination : Store}

/-- A job carries what it reads. -/
theorem Job.readout_carries (hapart : j.source.client ≠ j.destination.client)
    (hnamed : j.destinationPolicy ≠ "") (hsound : source.Sound)
    (hagrees : ∀ p, destination.policy? j.destinationDatabase j.destinationPolicy = some p →
      ∀ m f t t', p.type? m f = some t → j.type? m f = some t' → t = t') :
    j.Carries (j.readout source) source destination where
  apart := hapart
  named := hnamed
  agrees := hagrees
  decoded name types hmem := by
    refine ⟨fun k hk => ?_, fun m hm => (hsound.measurement hm).declares⟩
    subst hk
    rw [Job.readout, Job.mem_measurements.1 hmem]
    cases source.row? j.sourceDatabase j.sourcePolicy.name k <;> rfl
  known k hk := by
    rw [Job.readout] at hk
    split at hk
    case h_1 types row htypes hrow => exact ⟨types, Job.mem_measurements.2 htypes⟩
    case h_2 => simp at hk
  typed k f v hv := by
    rw [Job.readout] at hv
    split at hv
    case h_1 types row htypes hrow =>
      rw [Job.type?, htypes, Option.bind_some]
      exact type_of_readFields hv
    case h_2 => simp at hv

theorem Job.Fits.decoded_eq_readout (h : j.Fits source destination) :
    j.decoded source = j.readout source := by
  funext k
  rw [Job.decoded, Job.readout]
  split
  case h_2 => rfl
  case h_1 types row htypes hrow =>
    refine (readFields_eq ?_).symm
    rw [Store.row?_eq_measurement, Option.bind_eq_some_iff] at hrow
    obtain ⟨m, hm, hrow⟩ := hrow
    have htime := h.no_time _ types m (Job.mem_measurements.2 htypes) hm
    cases hvalue : row["time"]? with
    | none => rfl
    | some v =>
      rw [(h.sound.measurement hm).declares _ _ row "time" v hrow hvalue] at htime
      cases htime

theorem Job.Fits.carries (h : j.Fits source destination) :
    j.Carries (j.decoded source) source destination := by
  rw [h.decoded_eq_readout]
  exact Job.readout_carries h.apart h.named h.sound h.agrees

variable {fields : RowKey → Fields}

theorem Job.Carries.decodes (h : j.Carries fields source destination) (first past : Int) :
    Decodes j source fields (Moves fields first past) first past where
  decoded := h.decoded
  known := h.known
  takes _ hfields hne hfirst hpast := ⟨hfields, ⟨hfirst, hpast⟩, hfields ▸ hne⟩

theorem Job.Fits.decodes (h : j.Fits source destination) (first past : Int) :
    Decodes j source (j.decoded source) (Moves (j.decoded source) first past) first past :=
  h.carries.decodes first past

namespace CopyingBy
variable {first past : Int} {U : Finset RowKey} {net : Network}

/-- A window read leaves the source as it is; it fails or answers the rows of the source. -/
theorem query (h : CopyingBy j fields source destination first past faulty U net)
    (hapart : j.source.client ≠ j.destination.client) {r : Request} {policy measurement : String}
    {lo hi : Instant} (hr : r.statement = .selectWindow policy measurement lo hi) :
    CopyingBy j fields source destination first past faulty U
        (net.call j.source.client (.query r)).2 ∧
      ((faulty ∧ ∃ e, (net.call j.source.client (.query r)).1.2 = .error e) ∨
        (net.call j.source.client (.query r)).1.2 =
          .ok (source.selectWindow r.database policy measurement lo hi)) := by
  obtain ⟨⟨n, hn, hstore, hhealthy⟩, ⟨d, hd, hoverlaid, hdhealthy⟩, hplanned⟩ := h
  obtain ⟨hsame, hreply, hwell⟩ := n.query_window hr
  rw [Network.call_memory hn]
  refine ⟨⟨⟨_, Network.node?_put_self hn _, hsame.trans hstore, fun hf => ?_⟩, ⟨d, ?_, hoverlaid,
    hdhealthy⟩, hplanned⟩, ?_⟩
  · exact (hwell (hhealthy hf)).1.symm ▸ hhealthy hf
  · rw [Network.node?_put_ne hapart, hd]
  · by_cases hf : faulty
    · exact hreply.imp (fun he => ⟨hf, he⟩) fun hok => hstore ▸ hok
    · exact .inr (hstore ▸ (hwell (hhealthy hf)).2)

/-- The store of the destination takes a batch of planned rows. -/
theorem takes (h : CopyingBy j fields source destination first past faulty U net)
    (hcarries : j.Carries fields source destination) {d : MemoryNode}
    (hd : net.node? j.destination.client = some (.memory d)) {ps : List Point}
    (hps : ∀ p ∈ ps, Moves fields first past p) :
    ∃ after, d.store.write ⟨j.destinationDatabase, j.destinationPolicy, ps⟩ = (after, .ok ()) ∧
      destination.Overlaid j.destinationDatabase j.destinationPolicy fields
        (U ∪ (ps.map .ofPoint).toFinset) after := by
  obtain ⟨d', hd', hoverlaid, -⟩ := h.writes
  obtain rfl : d' = d := by simpa [hd] using hd'.symm
  have htyped : ∀ p, destination.policy? j.destinationDatabase j.destinationPolicy = some p →
      p.Typed fields := fun p hp => ⟨j.type?, hcarries.typed, hcarries.agrees p hp⟩
  exact hoverlaid.write hcarries.named htyped
    fun p hp => ⟨(hps p hp).1, (hps p hp).1 ▸ (hps p hp).2.2⟩

/-- A batch of planned rows is written, or the write fails and nothing has changed. -/
theorem write (h : CopyingBy j fields source destination first past faulty U net)
    (hcarries : j.Carries fields source destination) {ps : List Point}
    (hps : ∀ p ∈ ps, Moves fields first past p) :
    let b : Batch := ⟨j.destinationDatabase, j.destinationPolicy, ps⟩
    (CopyingBy j fields source destination first past faulty U
        (net.call j.destination.client (.write b)).2 ∧ faulty ∧
        ∃ e, (net.call j.destination.client (.write b)).1.2 = .error e) ∨
      (CopyingBy j fields source destination first past faulty (U ∪ (ps.map .ofPoint).toFinset)
        (net.call j.destination.client (.write b)).2 ∧
        (net.call j.destination.client (.write b)).1.2 = .ok ()) := by
  intro b
  obtain ⟨d, hd, hoverlaid, hdhealthy⟩ := h.writes
  obtain ⟨after, hwrite, hafter⟩ := h.takes hcarries hd hps
  obtain ⟨⟨n, hn, hstore, hhealthy⟩, -, hplanned⟩ := h
  have hreads : ∀ d', ∃ n, (net.put j.destination.client d').node? j.source.client =
      some (.memory n) ∧ n.store = source ∧ (¬ faulty → n.IsHealthy) := fun d' =>
    ⟨n, (Network.node?_put_ne hcarries.apart.symm d').trans hn, hstore, hhealthy⟩
  have hkeys : ∀ k ∈ U ∪ (ps.map .ofPoint).toFinset, InRange fields first past k := by
    intro k hk
    rcases Finset.mem_union.1 hk with hk | hk
    · exact hplanned k hk
    · obtain ⟨p, hp, rfl⟩ := List.mem_map.1 (List.mem_toFinset.1 hk)
      exact (hps p hp).2
  obtain ⟨hcases, hwell⟩ := d.write_cases b
  rw [Network.call_memory hd]
  have hdone (hs : (d.write b).2.store = (d.store.write b).1)
      (hr : (d.write b).1 = MemoryNode.refused (d.store.write b).2)
      (hh : ¬ faulty → (d.write b).2.IsHealthy) :
      CopyingBy j fields source destination first past faulty (U ∪ (ps.map .ofPoint).toFinset)
        (net.put j.destination.client (.memory (d.call (.write b)).2)) ∧
        (d.call (.write b)).1 = .ok () := by
    rw [hwrite] at hs hr
    exact ⟨⟨hreads _, ⟨_, Network.node?_put_self hd _, hs.symm ▸ hafter, hh⟩, hkeys⟩, hr⟩
  by_cases hf : faulty
  · rcases hcases with ⟨hs, he⟩ | ⟨hs, hr⟩
    · exact .inl ⟨⟨hreads _, ⟨_, Network.node?_put_self hd _, hs.symm ▸ hoverlaid,
        fun hn => absurd hf hn⟩, hplanned⟩, hf, he⟩
    · exact .inr (hdone hs hr fun hn => absurd hf hn)
  · obtain ⟨hh, hs, hr⟩ := hwell (hdhealthy hf)
    exact .inr (hdone hs hr fun _ => hh)

end CopyingBy

/-- Memory nodes back the transfers of a job. -/
theorem Job.Carries.backed (h : j.Carries fields source destination)
    (hserving : Serving host network faulty) (s : Settings) (first past : Int) :
    Backed host start (j.context s) source (Moves fields first past)
      (fun U nodes => CopyingBy j fields source destination first past faulty U (network nodes))
      faulty where
  read U now nodes measurement w hcopying := by
    change CopyingBy j fields source destination first past faulty U
      (network (host.call j.source.client _ nodes).2) ∧ _
    rcases hserving.call j.source.client (.query ((j.context s).select measurement w)) nodes with
      ⟨hf, hsame, he⟩ | ⟨hnext, hreply⟩
    · exact ⟨hsame ▸ hcopying, .inl ⟨hf, he⟩⟩
    · obtain ⟨hcopying, hanswer⟩ := hcopying.query h.apart (r := (j.context s).select measurement w)
        rfl
      exact ⟨hnext ▸ hcopying, hreply ▸ hanswer⟩
  write U now nodes ps hcopying hps := by
    change (CopyingBy j fields source destination first past faulty U
      (network (host.call j.destination.client _ nodes).2) ∧ _) ∨ _
    rcases hserving.call j.destination.client (.write ⟨j.destinationDatabase,
      j.destinationPolicy, ps⟩) nodes with ⟨hf, hsame, he⟩ | ⟨hnext, hreply⟩
    · exact .inl ⟨hsame ▸ hcopying, hf, he⟩
    · rcases hcopying.write h hps with ⟨hcopying, hf, e, he⟩ | ⟨hcopying, hok⟩
      · exact .inl ⟨hnext ▸ hcopying, hf, e, hreply.trans he⟩
      · exact .inr ⟨hnext.symm ▸ hcopying, hreply.trans hok⟩

theorem Job.Fits.backed (h : j.Fits source destination) (hserving : Serving host network faulty)
    (s : Settings) (first past : Int) :
    Backed host start (j.context s) source (Moves (j.decoded source) first past)
      (fun U nodes => Copying j source destination first past faulty U (network nodes)) faulty :=
  h.carries.backed hserving s first past

end SeriesReplica.Sync
