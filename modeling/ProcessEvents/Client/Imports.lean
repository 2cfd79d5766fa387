import ProcessEvents.Client.Network
import ProcessEvents.Collaborator

/-
  This file defines the client of the services that run and
  describe imports.

  Key definitions include:
    * `ImportServices`
    * `ImportServices.directory`
-/

namespace ProcessEvents

open Client

variable {σ α : Type}

structure ImportServices (σ : Type) where
  network : Network σ
  deployUrl : String
  repositoryUrl : String

namespace ImportServices

/- Ask for a resource as a user sees it. -/
def get
    (s : ImportServices σ)
    (c : Codec α)
    (base userId : String)
    (segments : List String) : Action σ RequestError α := do
  let url ← .ofExcept (resource base segments)
  s.network.fetch c { method := "GET", url, headers := [userHeader userId] }

/- The services as a directory. -/
def directory
    (s : ImportServices σ) : ImportDirectory σ where
  importInstance userId id :=
    s.get Import.codec s.deployUrl userId ["instances", id]
  importType userId id :=
    s.get ImportType.codec s.repositoryUrl userId ["import-types", id]

end ImportServices

end ProcessEvents
