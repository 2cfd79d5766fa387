import ProcessEvents.Deployment
import ProcessEvents.Device

/-
  This file defines the messages that are exchanged about
  deployments and device groups.

  Key definitions include:
    * `CommandHeader`
    * `DeploymentCommand`
    * `DeviceGroupCommand`
    * `DoneNotification`
    * `CommandTopic`
-/

namespace ProcessEvents

------------------------------------------------------------
-- Verbs
------------------------------------------------------------

namespace Verb

def put : String :=
  "PUT"

def delete : String :=
  "DELETE"

def rights : String :=
  "RIGHTS"

end Verb

------------------------------------------------------------
-- Commands
------------------------------------------------------------

/- The part of a deployment command that all versions share. -/
structure CommandHeader where
  command : String := ""
  id : String := ""
  version : Int := 0
  owner : String := ""
  deriving DecidableEq, Repr, Inhabited

def CommandHeader.codec : Codec CommandHeader :=
  .record
    (.pair (.text "command") <|
     .pair (.text "id") <|
     .pair (.field "version" .int64 0) <|
     .text "owner")
    (fun (command, id, version, owner) => { command, id, version, owner })
    (fun h => (h.command, h.id, h.version, h.owner))

/- A command about one deployment. -/
structure DeploymentCommand where
  command : String := ""
  id : String := ""
  version : Int := 0
  owner : String := ""
  deployment : Option Deployment := none
  deriving Repr, Inhabited

def DeploymentCommand.codec : Codec DeploymentCommand :=
  .record
    (.pair (.text "command") <|
     .pair (.text "id") <|
     .pair (.field "version" .int64 0) <|
     .pair (.text "owner") <|
     .optional "deployment" Deployment.codec)
    (fun (command, id, version, owner, deployment) =>
      { command, id, version, owner, deployment })
    (fun c => (c.command, c.id, c.version, c.owner, c.deployment))

/- A command about one device group. -/
structure DeviceGroupCommand where
  command : String := ""
  id : String := ""
  owner : String := ""
  deviceGroup : DeviceGroup := {}
  deriving DecidableEq, Repr, Inhabited

def DeviceGroupCommand.codec : Codec DeviceGroupCommand :=
  .record
    (.pair (.text "command") <|
     .pair (.text "id") <|
     .pair (.text "owner") <|
     .field "device_group" DeviceGroup.codec {})
    (fun (command, id, owner, deviceGroup) =>
      { command, id, owner, deviceGroup })
    (fun c => (c.command, c.id, c.owner, c.deviceGroup))

------------------------------------------------------------
-- Notifications
------------------------------------------------------------

/- Sent once every handler has deployed a process. -/
structure DoneNotification where
  command : String
  id : String
  handler : String
  deriving DecidableEq, Repr

def DoneNotification.codec : Codec DoneNotification :=
  .record
    (.pair (.required "command" .string) <|
     .pair (.required "id" .string) <|
     .required "handler" .string)
    (fun (command, id, handler) => { command, id, handler })
    (fun n => (n.command, n.id, n.handler))

------------------------------------------------------------
-- Topics
------------------------------------------------------------

/- The two topics that commands arrive on. -/
inductive CommandTopic where
  | deployment
  | deviceGroup
  deriving DecidableEq, Repr

/- Name of a topic where commands are counted. -/
def CommandTopic.label : CommandTopic → String
  | .deployment => "deployment"
  | .deviceGroup => "device_group"

end ProcessEvents
