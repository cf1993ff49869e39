import BulkLoad.Proofs.Step.Progress
import BulkLoad.Proofs.Step.Pump

/-!
The loop over the rows hands on the records of the rows that the input's schema takes, in their
order, and stops where it is told to.
-/

namespace BulkLoad.Step

open Host (Delivery Exchange Follows Parcel Port Runs Trace asked)
open Sink.Session (Handed)

/-- The rows that come before the source ends or fails. -/
def arrivals : List (Except Fault Row) → List Row
  | .ok row :: rest => row :: arrivals rest
  | _ => []

theorem arrivals_map_ok (rows : List Row) : arrivals (rows.map .ok) = rows := by
  induction rows with
  | nil => rfl
  | cons row rows ih => rw [List.map_cons, arrivals, ih]

/-- Those of the rows that the schema takes. -/
def accepted (input : Schema) (rows : List Row) : List Row :=
  rows.filter fun row => (input.check row).toBool

/-- A row that has a record is encoded in place of what the buffer holds. -/
theorem encodeInto_ok {encoder : Option Encoder} {row : Row}
    (h : ∀ x, encoder = some x → ∃ record, x.record row = .ok record) (buffer : Bytes)
    (port : Port) :
    ∃ filled, encodeInto encoder row buffer = (.ok (), filled) ∧
      Encoders.parcelOf port encoder row =
        encoder.toList.map fun _ => ⟨port, filled, true, true⟩ := by
  cases encoder with
  | none => exact ⟨buffer, rfl, rfl⟩
  | some x =>
    obtain ⟨record, hx⟩ := h x rfl
    have hfilled := x.fill_appended row []
    rw [hx] at hfilled
    exact ⟨record, hfilled.of_ok, Encoders.parcelOf_some hx⟩

namespace Targets

/-- The encoders of the targets. -/
def encoders (t : Targets) : Encoders := ⟨t.file.map (·.encoder), t.loader.map (·.encoder)⟩

/-- The records in the buffers, on their way to the targets. -/
def planned (t : Targets) (b : Buffers) : List Parcel :=
  (t.file.toList.map fun _ => ⟨.file, b.file, true, true⟩) ++
    t.loader.toList.map fun _ => ⟨.channel, b.loader, true, true⟩

theorem Alike.encoders {t t' : Targets} (h : t.Alike t') : t'.encoders = t.encoders := by
  unfold Targets.encoders
  rw [h.file, h.encoder]

variable {t t' : Targets} {b : Buffers} {τ : Trace} {r : Except (Interruption true) Unit}

theorem encode_ok {row : Row} (h : t.encoders.Takes row) (b : Buffers) :
    ∃ b', t.encode row b = (.ok (), b') ∧ t.planned b' = t.encoders.parcels row := by
  obtain ⟨file, hfile, hfileParcels⟩ := encodeInto_ok h.file b.file .file
  obtain ⟨loader, hloader, hloaderParcels⟩ := encodeInto_ok h.loader b.loader .channel
  refine ⟨⟨file, loader⟩, ?_, ?_⟩
  · have hfile' : encodeInto (t.file.map (·.encoder)) row b.file = (.ok (), file) := hfile
    have hloader' : encodeInto (t.loader.map (·.encoder)) row b.loader = (.ok (), loader) := hloader
    rw [encode, hfile', hloader']
  · rw [Encoders.parcels, hfileParcels, hloaderParcels, planned, encoders]
    cases t.file <;> cases t.loader <;> rfl

/-- A row is encoded for every target if the input's schema takes it; if not, that is a fault of the
row alone. -/
theorem accept_cases {input : Schema} {row : Row}
    (h : input.check row = .ok () → t.encoders.Takes row) (b : Buffers) :
    (input.check row = .ok () ∧ ∃ b', t.accept input row b = (.ok (), b') ∧
      t.planned b' = t.encoders.parcels row) ∨
    ∃ e fault, input.check row = .error e ∧ t.accept input row b = (.error fault, b) ∧
      fault.scope = .row := by
  unfold accept
  rcases input.check_cases row with hok | ⟨e, he⟩
  · obtain ⟨b', hb', hplanned⟩ := encode_ok (h hok) b
    exact .inl ⟨hok, b', by rw [hok]; simp only [hb']; rfl, hplanned⟩
  · exact .inr ⟨e, _, he, by rw [he], rfl⟩

/-- A row that is encoded is one that the schema takes, and the buffers hold its records. -/
theorem accept_ok {input : Schema} {row : Row} {b' : Buffers}
    (h : input.check row = .ok () → t.encoders.Takes row)
    (ha : t.accept input row b = (.ok (), b')) :
    input.check row = .ok () ∧ t.planned b' = t.encoders.parcels row := by
  rcases t.accept_cases h b with ⟨hcheck, b'', hok, hplanned⟩ | ⟨e, fault, -, herror, -⟩
  · rw [hok] at ha
    cases ha
    exact ⟨hcheck, hplanned⟩
  · rw [herror] at ha
    cases ha

/-- A row that is not encoded is one that the schema does not take. -/
theorem accept_error {input : Schema} {row : Row} {fault : Fault} {b' : Buffers}
    (h : input.check row = .ok () → t.encoders.Takes row)
    (ha : t.accept input row b = (.error fault, b')) :
    (∃ e, input.check row = .error e) ∧ fault.scope = .row := by
  rcases t.accept_cases h b with ⟨-, b'', hok, -⟩ | ⟨e, fault', he, herror, hscope⟩
  · rw [hok] at ha
    cases ha
  · rw [herror] at ha
    cases ha
    exact ⟨⟨e, he⟩, hscope⟩

/-- The record of a row for the file. -/
theorem writeFile_follows {record : Bytes} (h : Runs (t.writeFile record) τ r) (ho : t.Open) :
    Follows (t.file.toList.map fun _ => ⟨.file, record, true, true⟩) τ.parcels ∧
      (τ.parcels = (t.file.toList.map fun _ => ⟨.file, record, true, true⟩) ↔ r = .ok ()) := by
  rcases writeFile_cases h ho with ⟨hf, rfl, rfl⟩ | ⟨f, handle, hf, hh, ⟨rfl, rfl⟩ | ⟨d, rfl, rfl⟩⟩
  · rw [hf]
    exact ⟨.nil _, by simp⟩
  · rw [hf]
    exact ⟨.nil _, by simp⟩
  · rw [hf]
    have hparcels : Trace.parcels [asked false, ⟨.append true handle record, d⟩] =
        [⟨.file, record, true, d.isDone⟩] := rfl
    rw [hparcels]
    cases d with
    | done => exact ⟨.refl _, by simp [outcomeOf, Delivery.isDone]⟩
    | refused message => exact ⟨.cut _ _, by simp [outcomeOf, Delivery.isDone]⟩
    | stopped allowed => exact ⟨.cut _ _, by simp [outcomeOf, Delivery.isDone]⟩

/-- The record of a row for the loader. -/
theorem writeLoader_follows {record : Bytes} (h : Runs (t.writeLoader record) τ (r, t'))
    (ho : t.Open) :
    Follows (t.loader.toList.map fun _ => ⟨.channel, record, true, true⟩) τ.parcels ∧
      (τ.parcels = (t.loader.toList.map fun _ => ⟨.channel, record, true, true⟩) ↔
        r = .ok ()) := by
  rcases writeLoader_cases h ho with ⟨hl, rfl, rfl, rfl⟩ | ⟨l, hl, ⟨rfl, rfl, rfl⟩ |
    ⟨x, d, rest, rfl, hx, hw⟩⟩
  · rw [hl]
    exact ⟨.nil _, by simp⟩
  · rw [hl]
    exact ⟨.nil _, by simp⟩
  · rw [hl]
    have hparcels : rest.parcels = [] →
        Trace.parcels (asked false :: x :: rest) = [⟨.channel, record, true, d.isDone⟩] := by
      intro hrest
      rw [Trace.parcels_asked, Trace.parcels, List.filterMap_cons, hx.parcel?]
      exact congrArg _ hrest
    cases hw with
    | done =>
      rw [hparcels rfl]
      exact ⟨.refl _, by simp [Delivery.isDone]⟩
    | failed message f rest removed calm =>
      rw [hparcels removed.still.parcels]
      exact ⟨.cut _ _, by simp [Delivery.isDone]⟩
    | stopped d incomplete rest mild consumer writer =>
      rw [hparcels (Trace.still_of_notable_eq_nil mild).parcels, incomplete]
      exact ⟨.cut _ _, by simp⟩

/-- The records of a row are handed on in order, and all of them exactly when the row is written. -/
theorem write_follows (h : Runs (t.write b) τ (r, t')) (ho : t.Open) :
    Follows (t.planned b) τ.parcels ∧ (τ.parcels = t.planned b ↔ r = .ok ()) := by
  obtain ⟨τ₁, τ₂, w, rfl, h₁, h₂⟩ := Host.runs_bind_iff.1 h
  obtain ⟨hfollows₁, hwhole₁⟩ := writeFile_follows h₁ ho
  cases w with
  | error i =>
    obtain ⟨rfl, hv⟩ := Host.runs_pure_iff.1 h₂
    cases hv
    rw [List.append_nil]
    refine ⟨hfollows₁.append_right _, iff_of_false (fun heq => ?_) nofun⟩
    -- Nothing was handed to the loader: if that was all there was, the file had come through.
    have hlength := hfollows₁.length_le
    rw [heq, planned, List.length_append] at hlength
    have hnone : t.loader.toList.map (fun _ => (⟨.channel, b.loader, true, true⟩ : Parcel)) = [] :=
      List.length_eq_zero_iff.1 (by omega)
    rw [planned, hnone, List.append_nil] at heq
    cases hwhole₁.1 heq
  | ok u =>
    have h₃ : Runs (t.writeLoader b.loader) τ₂ (r, t') := h₂
    obtain ⟨hfollows₂, hwhole₂⟩ := writeLoader_follows h₃ ho
    rw [Trace.parcels_append, hwhole₁.2 rfl, planned]
    exact ⟨hfollows₂.append_left _, by rw [List.append_cancel_left_eq, hwhole₂]⟩

/-- Writing a row heeds a request to stop. -/
theorem writeFile_heeded {record : Bytes} (h : Runs (t.writeFile record) τ r) (ho : t.Open) :
    τ.Heeded (r = .error (.stopped rfl)) := by
  rcases writeFile_cases h ho with ⟨-, rfl, -⟩ | ⟨f, handle, -, -, ⟨rfl, rfl⟩ | ⟨d, rfl, rfl⟩⟩
  · exact Trace.calm_nil.heeded .nil
  · exact ⟨.free rfl .nil, List.pairwise_singleton _ _, fun _ => rfl⟩
  · refine ⟨.guarded .nil, ?_, fun hcalm => ?_⟩
    · exact (Trace.calm_singleton.2 rfl).heeds_append (List.pairwise_singleton _ _)
    · cases d with
      | stopped allowed => rfl
      | done =>
        exact absurd (Trace.calm_cons.2 ⟨rfl, Trace.calm_singleton.2 rfl⟩) hcalm
      | refused message =>
        exact absurd (Trace.calm_cons.2 ⟨rfl, Trace.calm_singleton.2 rfl⟩) hcalm

theorem writeLoader_heeded {record : Bytes} (h : Runs (t.writeLoader record) τ (r, t'))
    (ho : t.Open) : τ.Heeded (r = .error (.stopped rfl)) := by
  have hgo : Trace.Calm [asked false] := Trace.calm_singleton.2 rfl
  rcases writeLoader_cases h ho with ⟨-, rfl, -, -⟩ | ⟨l, -, ⟨rfl, rfl, -⟩ |
    ⟨x, d, rest, rfl, hx, hw⟩⟩
  · exact Trace.calm_nil.heeded .nil
  · exact ⟨.free rfl .nil, List.pairwise_singleton _ _, fun _ => rfl⟩
  · have hstill : rest.Still := by
      cases hw with
      | done => exact Trace.still_nil
      | failed message f rest removed calm => exact removed.still
      | stopped d incomplete rest mild => exact Trace.still_of_notable_eq_nil mild
    have hheeds : Trace.Heeds ([x] ++ rest) :=
      Trace.Heeds.append_still (List.pairwise_singleton _ _) hstill
    refine ⟨.guarded hstill.rowless.guarded, hgo.heeds_append hheeds, fun hcalm => ?_⟩
    cases hw with
    | done =>
      exact absurd (Trace.calm_cons.2 ⟨rfl, Trace.calm_singleton.2 hx.tellsStop⟩) hcalm
    | failed message f rest removed calm =>
      exact absurd (Trace.calm_cons.2 ⟨rfl, Trace.calm_cons.2 ⟨hx.tellsStop, calm⟩⟩) hcalm
    | stopped => rfl

theorem write_heeded (h : Runs (t.write b) τ (r, t')) (ho : t.Open) :
    τ.Heeded (r = .error (.stopped rfl)) := by
  obtain ⟨τ₁, τ₂, w, rfl, h₁, h₂⟩ := Host.runs_bind_iff.1 h
  have hfile := writeFile_heeded h₁ ho
  cases w with
  | error i =>
    obtain ⟨rfl, hv⟩ := Host.runs_pure_iff.1 h₂
    cases hv
    rwa [List.append_nil]
  | ok u => exact hfile.append nofun (writeLoader_heeded h₂ ho)

end Targets

theorem accepted_cons {input : Schema} {row : Row} (rows : List Row)
    (h : input.check row = .ok ()) : accepted input (row :: rows) = row :: accepted input rows := by
  rw [accepted, List.filter_cons_of_pos (by rw [h]; rfl), accepted]

theorem accepted_cons_error {input : Schema} {row : Row} {e : SchemaError} (rows : List Row)
    (h : input.check row = .error e) : accepted input (row :: rows) = accepted input rows := by
  rw [accepted, List.filter_cons_of_neg (by rw [h]; nofun), accepted]

variable {policy : Policy} {input : Schema} {items : List (Except Fault Row)} {counts : Counts}
  {b : Buffers} {t : Targets} {τ : Trace} {p : Pumped}

theorem parcels_nextRow {a : Host.Pause true} (h : Runs nextRow τ a) : τ.parcels = [] := by
  rcases nextRow_cases h with ⟨-, rfl⟩ | ⟨-, rfl | rfl⟩ <;> rfl

@[simp] theorem parcels_turn : Trace.parcels turn = [] := rfl

/-- The loop hands on the records of the accepted rows in order, and counts those rows of which
every record came through. -/
theorem Pumps.progress (h : Pumps policy input items counts b t τ p) (ho : t.Open)
    (ht : ∀ row, input.check row = .ok () → t.encoders.Takes row) :
    ∃ n, Progress t.encoders (accepted input (arrivals items)) τ.parcels n ∧
      p.counts.written = counts.written + n := by
  induction h with
  | stopped wait =>
    rw [parcels_nextRow wait]
    exact ⟨0, .idle _, rfl⟩
  | drained => exact ⟨0, .idle _, rfl⟩
  | source => exact ⟨0, .idle _, rfl⟩
  | rejected => exact ⟨0, .idle _, rfl⟩
  | @skipped row rest counts b b' t fault τ p refused goes _ ih =>
    obtain ⟨n, hprogress, hwritten⟩ := ih ho ht
    rw [Trace.parcels_append, parcels_turn, List.nil_append]
    obtain ⟨⟨e, he⟩, -⟩ := Targets.accept_error (ht row) refused
    rw [arrivals, accepted_cons_error _ he]
    exact ⟨n, hprogress, hwritten⟩
  | @unwritten row rest counts b b' t t' τ i taken write =>
    obtain ⟨hfollows, hwhole⟩ := Targets.write_follows write ho
    rw [Trace.parcels_append, parcels_turn, List.nil_append]
    obtain ⟨hcheck, hplanned⟩ := Targets.accept_ok (ht row) taken
    rw [hplanned] at hfollows hwhole
    refine ⟨0, ?_, rfl⟩
    rw [arrivals, accepted_cons _ hcheck]
    exact .within hfollows fun heq => by cases hwhole.1 heq
  | @written row rest counts b b' t t' τ τ' p taken write _ ih =>
    obtain ⟨-, hwhole⟩ := Targets.write_follows write ho
    have halike := (Targets.write_alike write).encoders
    obtain ⟨n, hprogress, hwritten⟩ := ih (Targets.write_open write ho) (by rwa [halike])
    rw [Trace.parcels_append, Trace.parcels_append, parcels_turn, List.nil_append, hwhole.2 rfl]
    obtain ⟨hcheck, hplanned⟩ := Targets.accept_ok (ht row) taken
    rw [hplanned, arrivals, accepted_cons _ hcheck]
    rw [halike] at hprogress
    refine ⟨n + 1, .through hprogress, ?_⟩
    rw [hwritten, Counts.withWritten_written]
    omega

theorem heeded_turn {stops : Prop} : Trace.Heeded turn stops :=
  (Trace.calm_cons.2 ⟨rfl, Trace.calm_singleton.2 rfl⟩).heeded (.guarded .nil)

/-- The loop heeds a request to stop. -/
theorem Pumps.heeded (h : Pumps policy input items counts b t τ p) (ho : t.Open) :
    τ.Heeded (p.outcome = .error (.stopped rfl)) := by
  have hturn : Trace.Heeded turn False := heeded_turn
  induction h with
  | stopped wait =>
    rcases nextRow_cases wait with ⟨hp, -⟩ | ⟨-, rfl | rfl⟩
    · cases hp
    · exact ⟨.free rfl .nil, List.pairwise_singleton _ _, fun _ => rfl⟩
    · exact ⟨.guarded .nil, (Trace.calm_singleton.2 rfl).heeds_append
        (List.pairwise_singleton _ _), fun _ => rfl⟩
  | drained => exact heeded_turn
  | source => exact heeded_turn
  | rejected => exact heeded_turn
  | skipped _ _ _ ih => exact hturn.append id (ih ho)
  | unwritten _ write =>
    refine hturn.append id ((Targets.write_heeded write ho).imp fun hi => ?_)
    cases hi
    rfl
  | written _ write _ ih =>
    exact hturn.append id
      ((Targets.write_heeded write ho).append nofun (ih (Targets.write_open write ho)))

end BulkLoad.Step
