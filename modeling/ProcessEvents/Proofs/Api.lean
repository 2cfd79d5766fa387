import ProcessEvents.Api
import ProcessEvents.Proofs.Dispatcher

/-
  A request over HTTP makes the dispatcher perform at most
  one task, the one that an admin asks for. Such a task is
  always for a deployment with an id: a submission without
  one is turned down, and the path of a removal ends in one.

  Key definitions include:
    * `DeploymentTask.IsRequestedBy`

  Key theorems include:
    * `Percent.decodeText?_ne_nil`
    * `DeploymentTask.IsRequestedBy.deploymentId_ne_empty`
    * `Api.respond_closed`
    * `Api.handle_closed`
-/

namespace ProcessEvents

variable {σ : Type} {P : Action.Property σ}

------------------------------------------------------------
-- Decoded texts
------------------------------------------------------------

namespace Utf8

/- One more byte ends a character or a gap, unless more are to come. -/
theorem advance_cases
    (p : Pending)
    (b : UInt8) :
    (advance p b).1 ≠ [] ∨ ∃ q, advance p b = ([], some q) := by
  unfold advance
  by_cases hBounds : p.low ≤ b.toNat ∧ b.toNat ≤ p.high
  · rw [if_pos hBounds]
    by_cases hLast : p.missing ≤ 1
    · exact Or.inl (by simp [hLast])
    · exact Or.inr ⟨_, if_neg hLast⟩
  · rw [if_neg hBounds]
    exact Or.inl (List.cons_ne_nil _ _)

/- A character that has been started ends in one or in a gap. -/
theorem unitsFrom_some_ne_nil
    (p : Pending)
    (bytes : List UInt8) :
    unitsFrom (some p) bytes ≠ [] := by
  induction bytes generalizing p with
  | nil => exact List.cons_ne_nil _ _
  | cons b rest ih =>
      change (advance p b).1 ++ unitsFrom (advance p b).2 rest ≠ []
      rcases advance_cases p b with hOut | ⟨q, hPending⟩
      · exact List.append_ne_nil_of_left_ne_nil hOut _
      · rw [hPending]
        exact ih q

theorem units_ne_nil
    {bytes : List UInt8}
    (hBytes : bytes ≠ []) :
    units bytes ≠ [] := by
  cases bytes with
  | nil => exact absurd rfl hBytes
  | cons b rest =>
      unfold units unitsFrom begin
      cases start b.toNat with
      | char c => exact List.cons_ne_nil _ _
      | pending p => exact unitsFrom_some_ne_nil p rest
      | invalid => exact List.cons_ne_nil _ _

/- Bytes that encode a text encode an empty one only if there are none. -/
theorem decode?_ne_nil
    {bytes : List UInt8} {cs : List Char}
    (hBytes : bytes ≠ [])
    (hDecode : decode? bytes = some cs) :
    cs ≠ [] := by
  have hUnits := units_ne_nil hBytes
  unfold decode? at hDecode
  cases hList : units bytes with
  | nil => exact absurd hList hUnits
  | cons unit rest =>
      rw [hList, List.mapM_cons] at hDecode
      simp only [Option.bind_eq_bind, Option.bind_eq_some_iff, Option.pure_def,
        Option.some.injEq] at hDecode
      rcases hDecode with ⟨c, -, more, -, rfl⟩
      exact List.cons_ne_nil c more

end Utf8

namespace Percent

theorem decode_ne_nil
    {cs : List Char}
    (hChars : cs ≠ []) :
    decode cs ≠ [] := by
  unfold decode
  split
  · split
    · exact List.cons_ne_nil _ _
    · exact List.cons_ne_nil _ _
  · exact List.cons_ne_nil _ _
  · exact absurd rfl hChars

/- Something stays something when it is decoded. -/
theorem decodeText?_ne_nil
    {cs text : List Char}
    (hChars : cs ≠ [])
    (hDecode : decodeText? cs = some text) :
    text ≠ [] :=
  Utf8.decode?_ne_nil (decode_ne_nil hChars) hDecode

end Percent

------------------------------------------------------------
-- Tasks
------------------------------------------------------------

namespace DeploymentTask

/- The task that a request asks for, as far as it is done. -/
inductive IsRequestedBy (r : Http.Request) : DeploymentTask → Prop
  | put {claims : Claims} {d : OwnedDeployment}
      (hMethod : r.method = "PUT")
      (hRoute : Route.ofPath? r.path = some .deployments)
      (hAdmin : Api.requireAdmin r = .ok claims)
      (hSubmission : Api.submission r = .ok d) :
      IsRequestedBy r (deploy d.owner d.deployment)
  | delete {claims : Claims} {userId deploymentId : List Char}
      {owner id : String}
      (hMethod : r.method = "DELETE")
      (hRoute : Route.ofPath? r.path = some (.deployment userId deploymentId))
      (hOwner : Api.parameter "userid" userId = .ok owner)
      (hId : Api.parameter "deplid" deploymentId = .ok id)
      (hAdmin : Api.requireAdmin r = .ok claims) :
      IsRequestedBy r (remove owner id)

end DeploymentTask

theorem Route.deploymentId_ne_nil
    {path : String} {userId deploymentId : List Char}
    (hRoute : Route.ofPath? path = some (.deployment userId deploymentId)) :
    deploymentId ≠ [] := by
  unfold Route.ofPath? Route.ofParts? at hRoute
  split at hRoute
  · split at hRoute <;> cases hRoute
  · split at hRoute <;> cases hRoute
  · split at hRoute
    · rename_i hParts
      cases hRoute
      exact hParts.2
    · cases hRoute
  · cases hRoute

theorem Api.submission_id_ne_empty
    {r : Http.Request} {d : OwnedDeployment}
    (hSubmission : Api.submission r = .ok d) :
    d.deployment.id ≠ "" := by
  unfold Api.submission at hSubmission
  split at hSubmission
  · cases hSubmission
  · split at hSubmission
    · cases hSubmission
    · rename_i hId
      split at hSubmission
      · cases hSubmission
      · cases hSubmission
        exact fun hEmpty => hId (beq_iff_eq.mpr hEmpty)

/- The texts of a path are not empty once they are decoded. -/
theorem Api.parameter_ne_empty
    {name : String} {encoded : List Char} {text : String}
    (hEncoded : encoded ≠ [])
    (hParameter : Api.parameter name encoded = .ok text) :
    text ≠ "" := by
  unfold Api.parameter at hParameter
  split at hParameter
  · rename_i cs hDecode
    cases hParameter
    intro hEmpty
    exact Percent.decodeText?_ne_nil hEncoded hDecode
      (String.ofList_eq_empty_iff.mp hEmpty)
  · cases hParameter

/- Over HTTP there is no task without the id of a deployment. -/
theorem DeploymentTask.IsRequestedBy.deploymentId_ne_empty
    {r : Http.Request} {task : DeploymentTask}
    (hTask : task.IsRequestedBy r) :
    task.deploymentId ≠ "" := by
  cases hTask with
  | put _ _ _ hSubmission => exact Api.submission_id_ne_empty hSubmission
  | delete _ hRoute _ hId _ =>
      exact Api.parameter_ne_empty (Route.deploymentId_ne_nil hRoute) hId

------------------------------------------------------------
-- Requests
------------------------------------------------------------

namespace Api

variable {api : Api σ} {now : Instant} {r : Http.Request}

/- What is done for a route is a task, or a question to the handlers. -/
theorem respond_closed
    (hP : Action.Closed P)
    (hEvent :
      ∀ k ∈ api.dispatcher.handlers, ∀ token id, P (k.checkEvent token id))
    (hStates :
      ∀ k ∈ api.dispatcher.handlers, ∀ token ids, P (k.eventStates token ids))
    (hTasks :
      ∀ task : DeploymentTask, task.IsRequestedBy r →
        P (api.dispatcher.perform task))
    {route : Route}
    (hRoute : Route.ofPath? r.path = some route)
    (hMethod : route.accepts r.method = true) :
    P (api.respond now r route) := by
  cases route with
  | index => exact hP.pure _
  | readiness => exact hP.pure _
  | liveness => exact hP.pure _
  | health => exact hP.pure _
  | deployments =>
      have hPut : r.method = "PUT" := by
        simpa [Route.accepts, Route.method] using hMethod
      apply hP.bind_ofExcept
      intro claims hAdmin
      apply hP.bind_ofExcept
      intro d hSubmission
      apply hP.bind
      · exact hP.mapError _ (hTasks _ (.put hPut hRoute hAdmin hSubmission))
      · intro _
        exact hP.pure _
  | deployment userId deploymentId =>
      have hDelete : r.method = "DELETE" := by
        simpa [Route.accepts, Route.method] using hMethod
      apply hP.bind_ofExcept
      intro owner hOwner
      apply hP.bind_ofExcept
      intro id hId
      apply hP.bind_ofExcept
      intro claims hAdmin
      apply hP.bind
      · exact hP.mapError _
          (hTasks _ (.delete hDelete hRoute hOwner hId hAdmin))
      · intro _
        exact hP.pure _
  | event eventId =>
      apply hP.bind_ofExcept
      intro id _
      apply hP.bind
      · exact hP.mapError _
          (Dispatcher.checkEvent_closed hP fun k hk => hEvent k hk _ _)
      · intro _
        exact hP.pure _
  | eventStates =>
      apply hP.bind_ofExcept
      intro ids _
      dsimp only
      split
      · exact hP.bind (hP.pure _) fun _ => hP.pure _
      · apply hP.bind
        · exact
            hP.mapError _
              (Dispatcher.eventStates_closed hP fun k hk => hStates k hk _ _)
        · intro _
          exact hP.pure _

/- A request is answered and counted. -/
theorem handle_closed
    (hP : Action.Closed P)
    (hCount :
      ∀ c n, P (api.dispatcher.counters.count c n : Action σ Empty Unit))
    (hEvent :
      ∀ k ∈ api.dispatcher.handlers, ∀ token id, P (k.checkEvent token id))
    (hStates :
      ∀ k ∈ api.dispatcher.handlers, ∀ token ids, P (k.eventStates token ids))
    (hTasks :
      ∀ task : DeploymentTask, task.IsRequestedBy r →
        P (api.dispatcher.perform task)) :
    P (api.handle now r) := by
  have hAnswer : P (api.answer now r) := by
    unfold Api.answer
    dsimp only
    split
    · exact hP.pure _
    · split
      · exact hP.pure _
      · rename_i route hRoute
        by_cases hMethod : route.accepts r.method = true
        · rw [if_pos hMethod]
          have hRespond : P (api.respond now r route) :=
            respond_closed hP hEvent hStates hTasks hRoute hMethod
          apply hP.bind (hP.attempt hRespond)
          intro result
          cases result with
          | error e => exact hP.pure _
          | ok response => exact hP.pure _
        · rw [if_neg hMethod]
          exact hP.pure _
  apply hP.bind hAnswer
  intro response
  apply hP.bind (hCount _ _)
  intro _
  exact hP.pure _

end Api

end ProcessEvents
