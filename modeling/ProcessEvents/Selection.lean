import ProcessEvents.Json.Codec

/-
  This file defines what an event of a process reads its
  values from: the selection made for it, and the kind of
  source that the selection points at.

  Key definitions include:
    * `FilterCriteria`
    * `GenericSource`
    * `PathOption`
    * `Selection`
    * `SourceKind`
    * `Selection.kind`
-/

namespace ProcessEvents

------------------------------------------------------------
-- Parts of a selection
------------------------------------------------------------

/- What the value of an event has to be. -/
structure FilterCriteria where
  characteristicId : Option String := none
  functionId : Option String := none
  deviceClassId : Option String := none
  aspectId : Option String := none
  deriving DecidableEq, Repr, Inhabited

def FilterCriteria.codec : Codec FilterCriteria :=
  .record
    (.pair (.optional "characteristic_id" .string) <|
     .pair (.optional "function_id" .string) <|
     .pair (.optional "device_class_id" .string) <|
     .optional "aspect_id" .string)
    (fun (characteristicId, functionId, deviceClassId, aspectId) =>
      { characteristicId, functionId, deviceClassId, aspectId })
    (fun c => (c.characteristicId, c.functionId, c.deviceClassId, c.aspectId))

/- A source that is passed through as it is given. -/
structure GenericSource where
  filterType : String := ""
  filterIds : String := ""
  topic : String := ""
  deriving DecidableEq, Repr, Inhabited

def GenericSource.codec : Codec GenericSource :=
  .record
    (.pair (.text "filter_type") <|
     .pair (.text "filter_ids") <|
     .text "topic")
    (fun (filterType, filterIds, topic) => { filterType, filterIds, topic })
    (fun s => (s.filterType, s.filterIds, s.topic))

/- A path within the values of a source. -/
structure PathOption where
  path : String := ""
  characteristicId : String := ""
  functionId : String := ""
  isVoid : Bool := false
  extra : Dict Json := .empty
  deriving Repr, Inhabited

def PathOption.codec : Codec PathOption :=
  .openRecord
    (.pair (.text "path") <|
     .pair (.text "characteristicId") <|
     .pair (.text "functionId") <|
     .flag "isVoid")
    (fun (path, characteristicId, functionId, isVoid) extra =>
      { path, characteristicId, functionId, isVoid, extra })
    (fun p => ((p.path, p.characteristicId, p.functionId, p.isVoid), p.extra))

------------------------------------------------------------
-- Selections
------------------------------------------------------------

/- The selection made for an event. -/
structure Selection where
  filterCriteria : FilterCriteria := {}
  deviceId : Option String := none
  serviceId : Option String := none
  deviceGroupId : Option String := none
  importId : Option String := none
  genericSource : Option GenericSource := none
  path : Option PathOption := none
  extra : Dict Json := .empty
  deriving Repr, Inhabited

def Selection.codec : Codec Selection :=
  .openRecord
    (.pair (.field "filter_criteria" FilterCriteria.codec {}) <|
     .pair (.optional "selected_device_id" .string) <|
     .pair (.optional "selected_service_id" .string) <|
     .pair (.optional "selected_device_group_id" .string) <|
     .pair (.present "selected_import_id" .string) <|
     .pair (.present "selected_generic_event_source" GenericSource.codec) <|
     .present "selected_path" PathOption.codec)
    (fun (filterCriteria, deviceId, serviceId, deviceGroupId, importId,
        genericSource, path) extra =>
      { filterCriteria, deviceId, serviceId, deviceGroupId, importId,
        genericSource, path, extra })
    (fun s =>
      ((s.filterCriteria, s.deviceId, s.serviceId, s.deviceGroupId, s.importId,
        s.genericSource, s.path), s.extra))

------------------------------------------------------------
-- Source kinds
------------------------------------------------------------

/- The kind of source that a selection points at. -/
inductive SourceKind where
  | deviceGroup (groupId : String)
  | deviceWithService (deviceId serviceId : String)
  | deviceWithoutService (deviceId : String)
  | importInstance (importId : String)
  | generic (source : GenericSource)
  deriving DecidableEq, Repr

/- A text unless it is missing or empty. -/
def nonEmpty?
    (text : Option String) : Option String :=
  text.filter (· ≠ "")

/-
  The source of a selection. A group comes before a device,
  a device before an import, an import before a generic
  source. Empty ids of groups and services do not count.
-/
def Selection.kind
    (s : Selection) : Option SourceKind :=
  match nonEmpty? s.deviceGroupId, s.deviceId, s.importId, s.genericSource with
  | some groupId, _, _, _ => some (.deviceGroup groupId)
  | none, some deviceId, _, _ =>
    match nonEmpty? s.serviceId with
    | some serviceId => some (.deviceWithService deviceId serviceId)
    | none => some (.deviceWithoutService deviceId)
  | none, none, some importId, _ => some (.importInstance importId)
  | none, none, none, some source => some (.generic source)
  | none, none, none, none => none

end ProcessEvents
