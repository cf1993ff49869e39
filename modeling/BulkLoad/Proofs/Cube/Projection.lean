import BulkLoad.Proofs.Cube.RoundTrip
import BulkLoad.Proofs.Step.Negotiation

/-!
Cubes of projected rows. The record of a row under a projection is the plain record of the cells
that the projection takes, and these are admitted by the fields of the target.
-/

namespace BulkLoad

/-- The cells of a row that a projection takes, in the order of its columns. -/
def Projection.cells (p : Projection) (row : Row) : Row := p.sources.map fun i => row.getD i .null

namespace Projection.Aligned

variable {input : Schema} {p : Projection} {row : Row}

/-- Every column takes a cell of the row. -/
theorem map_some_cells (hp : p.Aligned input) (hrow : input.check row = .ok ()) :
    (p.cells row).map some = p.sources.map (row[·]?) := by
  rw [cells, List.map_map]
  refine List.map_congr_left fun i hi => ?_
  obtain ⟨n, hn⟩ := List.getElem?_of_mem hi
  obtain ⟨hlt, rfl⟩ := List.getElem?_eq_some_iff.1 hn
  obtain ⟨hlength, hget⟩ := List.forall₂_iff_get.1 hp
  obtain ⟨g, hg, -⟩ := hget n hlt (by omega)
  exact (Schema.cell_at hrow hg).1.symm

/-- The cells may stand in the fields of the target. -/
theorem admits_cells (hp : p.Aligned input) (hrow : input.check row = .ok ()) :
    List.Forall₂ Field.Admits p.target.fields (p.cells row) := by
  rw [cells, List.forall₂_map_right_iff]
  refine (hp.imp fun i f => ?_).flip
  rintro ⟨g, hg, hkind⟩
  exact (Schema.cell_at hrow hg).2.alike hkind

/-- The columns find these cells, each in its place. -/
theorem columns_cells (hp : p.Aligned input) (hrow : input.check row = .ok ()) :
    List.Forall₂ (fun c cell => c.cell row = .ok cell) p.columns (p.cells row) := by
  unfold Projection.Aligned at hp
  unfold Projection.columns Projection.cells
  generalize p.target.fields = fields at hp ⊢
  generalize p.sources = sources at hp ⊢
  induction hp with
  | nil => exact .nil
  | cons h _ ih =>
    obtain ⟨g, hg, hkind⟩ := h
    obtain ⟨hcell, hadmits⟩ := Schema.cell_at hrow hg
    exact .cons (Column.cell_eq_ok hcell (hadmits.alike hkind)) ih

/-- The record of a row is that of its cells. -/
theorem record_cube (hp : p.Aligned input) (hrow : input.check row = .ok ()) :
    (Encoder.ofProjection p).record row = .ok (Cube.recordOf (p.cells row)) := by
  have hcells : p.columns.mapM (fun c => (c.cell row).map Cube.putCell) =
      .ok ((p.cells row).map Cube.putCell) := by
    rw [mapM_eq_ok_iff, List.forall₂_map_right_iff]
    exact (hp.columns_cells hrow).imp fun c cell hc => by rw [hc]; rfl
  have hrecord : (Encoder.ofProjection p).record row = Cube.putRecord p.columns row := rfl
  rw [hrecord, Cube.putRecord_eq, Cube.putBody, hcells]
  rfl

end Projection.Aligned

namespace Cube

/-- A cube of the rows of a projection reads back as the target and the cells of each row. -/
theorem read_projected {input : Schema} {p : Projection} (hp : p.Aligned input)
    (hs : Fits p.target) {rows : List Row} (hrows : ∀ row ∈ rows, input.check row = .ok ())
    (hbody : ∀ row ∈ rows, (bodyOf (p.cells row)).length < 2 ^ 32) :
    ∃ back : List Row,
      read (putHeader p.target ++ (rows.map fun row => recordOf (p.cells row)).flatten) 0 =
        .ok ⟨p.target, back.map .ok⟩ ∧
      List.Forall₂ (List.Forall₂ Cell.Same) (rows.map p.cells) back := by
  have hrecords : (rows.map fun row => recordOf (p.cells row)).flatten =
      (rows.map p.cells).flatMap recordOf := by
    rw [List.flatMap_map]
    rfl
  refine ⟨(rows.map p.cells).map (List.map Cell.settled), ?_, same_settled_rows _⟩
  rw [hrecords, read_putHeader hs, items_records]
  · simp only [List.map_map, Function.comp_def]
  · exact List.forall_mem_map.2 fun row hrow => hp.admits_cells (hrows row hrow)
  · exact List.forall_mem_map.2 hbody

end Cube
end BulkLoad
