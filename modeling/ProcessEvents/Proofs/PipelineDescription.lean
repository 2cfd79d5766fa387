import ProcessEvents.EventRequest
import ProcessEvents.Proofs.Json.ReadBack

/-
  The record in the description of a pipeline can be read
  back, whatever its texts are. It is what ties a pipeline to
  a deployment, so that a deployment finds the pipelines that
  have been created for it.

  Key theorems include:
    * `PipelineDescription.readsBack`
    * `PipelineDescription.parse?_toText`
-/

namespace ProcessEvents

theorem GenericSource.readsBack
    (s : GenericSource) :
    GenericSource.codec.ReadsBack 1 s := by
  apply Codec.ReadsBack.record (by decide) (by decide) rfl
  exact .pair (.text _ _) (.pair (.text _ _) (.text _ _))

namespace PipelineDescription

theorem readsBack
    (d : PipelineDescription) :
    codec.ReadsBack 2 d := by
  apply Codec.ReadsBack.record (by decide) (by decide) rfl
  refine
    .pair (.text _ _) <| .pair (.text _ _) <| .pair (.text _ _) <|
    .pair (.text _ _) <| .pair (.text _ _) <| .pair (.text _ _) <|
    .pair (.text _ _) <| .pair (.text _ _) <| .pair (.text _ _) <|
    .pair (.text _ _) <| .pair (.text _ _) <| .pair (.text _ _) <|
    .pair (.optional _ rfl ?_) (.flag _ _)
  exact fun s _ => s.readsBack

/- A record is read back from the description that it is kept as. -/
theorem parse?_toText
    (d : PipelineDescription) :
    parse? d.toText = some d := by
  have hReads := d.readsBack
  have hFree : Json.readFree? d.toText = Json.normal? (codec.encode d) :=
    Json.readFree?_toText hReads.plain hReads.literal
      (Nat.le_trans hReads.depth_le (by decide))
  have hNormal := Json.normal?_isSome hReads.plain
  rcases Option.isSome_iff_exists.mp hNormal with ⟨j, hJson⟩
  have hDecode := hReads.decode j hJson
  rw [parse?, hFree, hJson]
  -- the normal form of an object is an object again
  simp only [codec, Codec.record, Json.normal?, Option.map_eq_some_iff] at hJson
  rcases hJson with ⟨members, -, rfl⟩
  exact hDecode

end PipelineDescription

end ProcessEvents
