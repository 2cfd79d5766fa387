import ProcessEvents.Client.Network
import ProcessEvents.Collaborator

/-
  This file defines the client of the analytics platform: the
  flow engine, the flow parser and the pipeline repository,
  which lists pipelines page by page.

  Key definitions include:
    * `AnalyticsPlatform`
    * `AnalyticsPlatform.page`
    * `AnalyticsPlatform.listFrom?`
    * `AnalyticsPlatform.engine`
-/

namespace ProcessEvents

open Client

variable {σ : Type}

structure AnalyticsPlatform (σ : Type) where
  network : Network σ
  engineUrl : String
  parserUrl : String
  repositoryUrl : String

namespace AnalyticsPlatform

------------------------------------------------------------
-- Pipelines
------------------------------------------------------------

/- The operators of a flow. -/
def flowInputs
    (p : AnalyticsPlatform σ)
    (userId flowId : String) : Action σ RequestError (List FlowCell) := do
  let url ← .ofExcept (resource p.parserUrl ["flow", "getinputs", flowId])
  p.network.fetch (.list FlowCell.codec)
    { method := "GET", url, headers := [userHeader userId] }

/- Submit a pipeline, to create or to replace one. -/
def submit
    (p : AnalyticsPlatform σ)
    (method : String)
    (token : BearerToken)
    (userId : String)
    (request : PipelineRequest) : Action σ RequestError Pipeline := do
  let url ← .ofExcept (resource p.engineUrl ["pipeline"])
  p.network.fetch Pipeline.codec
    { method, url
      headers := [tokenHeader token.text, userHeader userId]
      payload := .json (PipelineRequest.codec.encode request) }

/- Remove a pipeline. -/
def remove
    (p : AnalyticsPlatform σ)
    (userId pipelineId : String) : Action σ RequestError Unit := do
  let url ← .ofExcept (resource p.engineUrl ["pipeline", pipelineId])
  let answer ← p.network.request
    { method := "DELETE", url, headers := [userHeader userId] }
  let _ ← .ofExcept answer.checked

------------------------------------------------------------
-- Listings
------------------------------------------------------------

/- Number of pipelines on a full page. -/
def pageSize : Nat :=
  500

/- The pipelines of a user after an offset, up to a full page. -/
def page
    (p : AnalyticsPlatform σ)
    (userId : String)
    (offset : Nat) : Action σ RequestError (List Pipeline) := do
  let url ← .ofExcept (resource p.repositoryUrl ["pipeline"])
  let url := url.withQuery
    [("limit", Text.decimal pageSize), ("offset", Text.decimal offset)]
  p.network.fetch (.list Pipeline.codec)
    { method := "GET", url, headers := [userHeader userId] }

/-
  The pipelines listed so far and all that follow them. A
  page that is not full is the last one. Nothing comes out
  where full pages follow without end.
-/
def listFrom?
    (p : AnalyticsPlatform σ)
    (userId : String)
    (listed : List Pipeline)
    (s : σ) : Option (Except RequestError (List Pipeline) × σ) :=
  match p.page userId listed.length s with
  | (.error e, s') => some (.error e, s')
  | (.ok more, s') =>
    if more.length < pageSize then some (.ok (listed ++ more), s')
    else (listFrom? p userId (s := s')) (listed ++ more)
partial_fixpoint

/- What is done for one page, and for those that follow it. -/
theorem listFrom?_eq
    (p : AnalyticsPlatform σ) (userId : String) (listed : List Pipeline)
    (s : σ) :
    p.listFrom? userId listed s =
      match p.page userId listed.length s with
      | (.error e, s') => some (.error e, s')
      | (.ok more, s') =>
        if more.length < pageSize then some (.ok (listed ++ more), s')
        else p.listFrom? userId (listed ++ more) s' := by
  rw [listFrom?]

/- All pipelines of a user. -/
def list
    (p : AnalyticsPlatform σ)
    (userId : String) : Action σ RequestError (List Pipeline) :=
  fun s =>
    (p.listFrom? userId [] s).getD (.error (.transport .endlessListing), s)

/- The platform as a flow engine. -/
def engine
    (p : AnalyticsPlatform σ) : FlowEngine σ where
  flowInputs := p.flowInputs
  create := p.submit "POST"
  update := p.submit "PUT"
  remove := p.remove
  list := p.list

end AnalyticsPlatform

end ProcessEvents
