import ProcessEvents.PipelineTable
import ProcessEvents.Proofs.FlowEngine

/-
  This file shows that a table of pipelines is a flow engine
  that does what is expected of one: as long as new pipelines
  can be numbered, each of them has an id of its own.

  Key definitions include:
    * `PipelineTable.Numbered`
    * `NumberedPipelines`
    * `NumberedPipelines.engine`

  Key theorems include:
    * `NumberedPipelines.lawful`
    * `NumberedPipelines.updatesOne`
    * `NumberedPipelines.allOrNothing`
    * `NumberedPipelines.ready`
-/

namespace ProcessEvents

/- Pipelines that are replaced under their id have the ids that they had. -/
theorem PipelineRow.map_id_replace
    (rows : List PipelineRow)
    (id : Uuid)
    (owner : String)
    (token : BearerToken)
    (request : PipelineRequest) :
    (rows.map fun r =>
      if r.id = id then { id, owner, token, request } else r).map (·.id) =
      rows.map (·.id) := by
  rw [List.map_map]
  apply List.map_congr_left
  intro r _
  rw [Function.comp_apply]
  by_cases hSame : r.id = id
  · rw [if_pos hSame]
    exact hSame.symm
  · rw [if_neg hSame]

------------------------------------------------------------
-- Numbered pipelines
------------------------------------------------------------

namespace PipelineTable

/- No id stands twice, and none is behind those that have been given. -/
structure Numbered
    (t : PipelineTable) : Prop where
  distinct : (t.rows.map (·.id)).Nodup
  given : ∀ r ∈ t.rows, r.id.bits.toNat ≤ t.created

variable {t : PipelineTable}

/- The number of the next pipeline is not too large for an id. -/
def HasRoom
    (t : PipelineTable) : Prop :=
  (Uuid.ofNat (t.created + 1)).bits.toNat = t.created + 1

instance (t : PipelineTable) :
    Decidable t.HasRoom :=
  inferInstanceAs (Decidable (_ = _))

/- The next id is new, as long as it has not come round. -/
theorem Numbered.notMem_next
    (hTable : t.Numbered)
    (hRoom : t.HasRoom) :
    Uuid.ofNat (t.created + 1) ∉ t.rows.map (·.id) := by
  intro hMem
  rcases List.mem_map.mp hMem with ⟨r, hRow, hId⟩
  have hGiven := hTable.given r hRow
  rw [hId, hRoom] at hGiven
  exact Nat.not_succ_le_self _ hGiven

theorem Numbered.create
    (hTable : t.Numbered)
    (hRoom : t.HasRoom)
    (token : BearerToken)
    (owner : String)
    (request : PipelineRequest) :
    (t.create token owner request).2.Numbered where
  distinct := by
    rw [PipelineTable.create, List.map_append, List.nodup_append]
    refine ⟨hTable.distinct, List.nodup_singleton _, ?_⟩
    rintro id hOld id' hNew rfl
    rw [List.map_singleton, List.mem_singleton] at hNew
    subst hNew
    exact hTable.notMem_next hRoom hOld
  given r hRow := by
    rcases List.mem_append.mp hRow with hOld | hNew
    · exact Nat.le_succ_of_le (hTable.given r hOld)
    · rw [List.mem_singleton.mp hNew]
      exact Nat.le_of_eq hRoom

/- A row takes the place of the one with its id. -/
theorem update?_eq_some
    {token : BearerToken} {owner : String} {request : PipelineRequest}
    {p : Pipeline} {t' : PipelineTable}
    (hUpdate : t.update? token owner request = some (p, t')) :
    ∃ id,
      Uuid.parse? request.id = some id ∧
        t' =
          { t with
            rows := t.rows.map fun r =>
              if r.id = id then { id, owner, token, request } else r } := by
  rw [update?] at hUpdate
  rcases Option.bind_eq_some_iff.mp hUpdate with ⟨id, hParse, hRest⟩
  rcases Option.bind_eq_some_iff.mp hRest with ⟨_, -, hRow⟩
  cases hRow
  exact ⟨id, hParse, rfl⟩

theorem Numbered.update
    (hTable : t.Numbered)
    {token : BearerToken} {owner : String} {request : PipelineRequest}
    {p : Pipeline} {t' : PipelineTable}
    (hUpdate : t.update? token owner request = some (p, t')) :
    t'.Numbered := by
  rcases update?_eq_some hUpdate with ⟨id, -, rfl⟩
  have hIds := PipelineRow.map_id_replace t.rows id owner token request
  constructor
  · rw [hIds]
    exact hTable.distinct
  · intro r' hRow
    -- the ids are the same, and so is the largest of them
    have hMem := List.mem_map_of_mem (f := PipelineRow.id) hRow
    rw [hIds] at hMem
    rcases List.mem_map.mp hMem with ⟨r, hOld, hId⟩
    rw [← hId]
    exact hTable.given r hOld

theorem remove?_eq_some
    {text : String} {t' : PipelineTable}
    (hRemove : t.remove? text = some t') :
    ∃ id,
      Uuid.parse? text = some id ∧
        t' = { t with rows := t.rows.filter fun r => r.id ≠ id } := by
  rw [remove?] at hRemove
  rcases Option.bind_eq_some_iff.mp hRemove with ⟨id, hParse, hRest⟩
  rcases Option.bind_eq_some_iff.mp hRest with ⟨_, -, hRows⟩
  cases hRows
  exact ⟨id, hParse, rfl⟩

theorem Numbered.remove
    (hTable : t.Numbered)
    {text : String} {t' : PipelineTable}
    (hRemove : t.remove? text = some t') :
    t'.Numbered := by
  rcases remove?_eq_some hRemove with ⟨id, -, rfl⟩
  constructor
  · exact hTable.distinct.sublist ((List.filter_sublist).map _)
  · intro r hRow
    exact hTable.given r (List.mem_of_mem_filter hRow)

/- A pipeline that is there is found by its id. -/
theorem guard_has
    {r : PipelineRow}
    (hRow : r ∈ t.rows) :
    (guard (t.has r.id = true) : Option Unit) = some () :=
  if_pos (List.any_eq_true.mpr ⟨r, hRow, decide_eq_true rfl⟩)

end PipelineTable

------------------------------------------------------------
-- The engine
------------------------------------------------------------

/- A table in which all pipelines are numbered. -/
structure NumberedPipelines where
  table : PipelineTable
  numbered : table.Numbered

namespace NumberedPipelines

def running
    (s : NumberedPipelines) : RunningPipelines :=
  { rows := s.table.rows, distinct := s.numbered.distinct }

/- Why the engine does not do what it is asked for. -/
def refusal
    (status : Http.Status) : RequestError :=
  .unexpectedStatus status ""

/- Every flow has one operator. A call fails if its pipeline is not there. -/
def engine : FlowEngine NumberedPipelines where
  flowInputs _ flowId := return [{ id := flowId ++ "-node" }]
  create token owner request s :=
    if hRoom : s.table.HasRoom then
      let created := s.table.create token owner request
      (.ok created.1, ⟨created.2, s.numbered.create hRoom token owner request⟩)
    else (.error (refusal .internalServerError), s)
  update token owner request s :=
    match hUpdate : s.table.update? token owner request with
    | some (p, t) => (.ok p, ⟨t, s.numbered.update hUpdate⟩)
    | none => (.error (refusal .notFound), s)
  remove _ id s :=
    match hRemove : s.table.remove? id with
    | some t => (.ok (), ⟨t, s.numbered.remove hRemove⟩)
    | none => (.error (refusal .notFound), s)
  list owner := .read fun s => s.table.ofOwner owner

theorem update_rows
    {token : BearerToken} {owner : String} {request : PipelineRequest}
    {id : Uuid}
    (hId : request.id = id.toText)
    {s s' : NumberedPipelines} {p : Pipeline}
    (hRun : engine.update token owner request s = (.ok p, s')) :
    s'.table.rows =
      s.table.rows.map fun r =>
        if r.id = id then { id, owner, token, request } else r := by
  simp only [engine] at hRun
  split at hRun
  · rename_i p' t hUpdate
    cases hRun
    rcases PipelineTable.update?_eq_some hUpdate with ⟨id', hParse, rfl⟩
    rw [hId, Uuid.parse?_toText] at hParse
    cases hParse
    rfl
  · cases hRun

/- A pipeline that is there can be updated. -/
theorem update_of_mem
    {s : NumberedPipelines} {r : PipelineRow}
    (hRow : r ∈ s.table.rows)
    (token : BearerToken) (owner : String) {request : PipelineRequest}
    (hId : request.id = r.id.toText) :
    ∃ p s', engine.update token owner request s = (.ok p, s') := by
  have hUpdate : ∃ u, s.table.update? token owner request = some u := by
    rw [PipelineTable.update?, hId, Uuid.parse?_toText]
    change ∃ u,
      ((guard (s.table.has r.id = true) : Option Unit).bind
        fun _ => some _) = some u
    rw [PipelineTable.guard_has hRow]
    exact ⟨_, rfl⟩
  simp only [engine]
  split
  · exact ⟨_, _, rfl⟩
  · rename_i hNone
    rcases hUpdate with ⟨u, hSome⟩
    rw [hNone] at hSome
    cases hSome

/- A pipeline that is there can be removed. -/
theorem remove_of_mem
    {s : NumberedPipelines} {r : PipelineRow}
    (hRow : r ∈ s.table.rows)
    (owner : String) :
    ∃ s', engine.remove owner r.id.toText s = (.ok (), s') := by
  have hRemove : ∃ t, s.table.remove? r.id.toText = some t := by
    rw [PipelineTable.remove?, Uuid.parse?_toText]
    change ∃ t,
      ((guard (s.table.has r.id = true) : Option Unit).bind
        fun _ => some _) = some t
    rw [PipelineTable.guard_has hRow]
    exact ⟨_, rfl⟩
  simp only [engine]
  split
  · exact ⟨_, rfl⟩
  · rename_i hNone
    rcases hRemove with ⟨t, hSome⟩
    rw [hNone] at hSome
    cases hSome

theorem lawful :
    engine.Lawful running where
  flowInputs _ _ _ := rfl
  list _ _ := rfl
  list_ok {owner s s' ps} hRun p := by
    cases hRun
    simp only [PipelineTable.ofOwner, List.mem_map, List.mem_filter,
      decide_eq_true_eq, running]
    constructor
    · rintro ⟨r, ⟨hRow, hOwner⟩, hListed⟩
      exact ⟨r, hRow, hOwner, hListed⟩
    · rintro ⟨r, hRow, hOwner, hListed⟩
      exact ⟨r, ⟨hRow, hOwner⟩, hListed⟩
  create_ok {token owner request s s' p} hRun := by
    simp only [engine] at hRun
    split at hRun
    · cases hRun
      rfl
    · cases hRun
  update_ok hId hRun := update_rows hId hRun
  remove_ok {owner id s s'} hRun := by
    simp only [engine] at hRun
    split at hRun
    · rename_i t hRemove
      cases hRun
      rcases PipelineTable.remove?_eq_some hRemove with ⟨id', hParse, rfl⟩
      rw [Uuid.parse?_toText] at hParse
      cases hParse
      rfl
    · cases hRun

theorem updatesOne :
    engine.UpdatesOne running := by
  intro token owner request id s r hId hOther hRow
  rcases hRun : engine.update token owner request s with ⟨e | p, s'⟩
  · simp only [engine] at hRun
    split at hRun
    · cases hRun
    · cases hRun
      exact hRow
  · have hRows := update_rows hId hRun
    change r ∈ s'.table.rows
    rw [hRows, List.mem_map]
    exact ⟨r, hRow, if_neg hOther⟩

theorem allOrNothing :
    engine.AllOrNothing running where
  create token owner request s := by
    rcases hRun : engine.create token owner request s with ⟨e | p, s'⟩
    · simp only [engine] at hRun
      split at hRun
      · cases hRun
      · cases hRun
        exact Or.inl rfl
    · exact Or.inr ⟨p.id, lawful.create_ok hRun⟩
  remove owner id s := by
    rcases hRun : engine.remove owner id.toText s with ⟨e | _, s'⟩
    · simp only [engine] at hRun
      split at hRun
      · cases hRun
      · cases hRun
        exact Or.inl rfl
    · exact Or.inr (lawful.remove_ok hRun)

theorem ready :
    engine.Ready running where
  list _ s := ⟨_, s, rfl⟩
  update token owner _ _ _ hRow hId := update_of_mem hRow token owner hId
  remove owner _ _ hRow := remove_of_mem hRow owner

end NumberedPipelines

end ProcessEvents
