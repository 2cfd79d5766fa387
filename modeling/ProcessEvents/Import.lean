import ProcessEvents.Json.Codec

/-
  This file defines imports of external data: the running
  instances, whose values are published on a topic of their
  own, and the types that describe these values.

  Key definitions include:
    * `Import`
    * `ImportVariable`
    * `ImportType`
-/

namespace ProcessEvents

/- A running import. -/
structure Import where
  id : String := ""
  name : String := ""
  importTypeId : String := ""
  image : String := ""
  topic : String := ""
  restart : Option Bool := none
  deriving DecidableEq, Repr, Inhabited

def Import.codec : Codec Import :=
  .record
    (.pair (.text "id") <|
     .pair (.text "name") <|
     .pair (.text "import_type_id") <|
     .pair (.text "image") <|
     .pair (.text "kafka_topic") <|
     .optional "restart" .bool)
    (fun (id, name, importTypeId, image, topic, restart) =>
      { id, name, importTypeId, image, topic, restart })
    (fun i => (i.id, i.name, i.importTypeId, i.image, i.topic, i.restart))

/- A variable within the values of an import. -/
structure ImportVariable where
  name : String := ""
  variableType : String := ""
  characteristicId : String := ""
  subVariables : List ImportVariable := []
  useAsTag : Bool := false
  functionId : String := ""
  aspectId : String := ""
  deriving Repr, Inhabited

namespace ImportVariable

mutual

/- How deep the variables are nested. -/
def depth : ImportVariable → Nat
  | ⟨_, _, _, subs, _, _, _⟩ => depthList subs + 1

def depthList : List ImportVariable → Nat
  | [] => 0
  | v :: rest => max (depth v) (depthList rest)

end

/- The codec of variables up to a depth of nesting. -/
def codecTo : Nat → Codec ImportVariable
  | 0 => ⟨fun _ => none, fun _ => .unreadable⟩
  | depth + 1 =>
    .record
      (.pair (.text "name") <|
       .pair (.text "type") <|
       .pair (.text "characteristic_id") <|
       .pair (.items "sub_content_variables" (codecTo depth)) <|
       .pair (.flag "use_as_tag") <|
       .pair (.text "function_id") <|
       .text "aspect_id")
      (fun (name, variableType, characteristicId, subVariables, useAsTag,
          functionId, aspectId) =>
        { name, variableType, characteristicId, subVariables, useAsTag,
          functionId, aspectId })
      (fun v =>
        (v.name, v.variableType, v.characteristicId, v.subVariables, v.useAsTag,
          v.functionId, v.aspectId))

/- The codec of variables, which are nested no deeper than their text. -/
def codec : Codec ImportVariable where
  decode j := (codecTo (j.depth + 1)).decode j
  encode v := (codecTo v.depth).encode v

end ImportVariable

/- What a kind of import delivers. -/
structure ImportType where
  id : String := ""
  name : String := ""
  description : String := ""
  image : String := ""
  defaultRestart : Bool := false
  output : ImportVariable := {}
  owner : String := ""
  deriving Repr, Inhabited

def ImportType.codec : Codec ImportType :=
  .record
    (.pair (.text "id") <|
     .pair (.text "name") <|
     .pair (.text "description") <|
     .pair (.text "image") <|
     .pair (.flag "default_restart") <|
     .pair (.field "output" ImportVariable.codec {}) <|
     .text "owner")
    (fun (id, name, description, image, defaultRestart, output, owner) =>
      { id, name, description, image, defaultRestart, output, owner })
    (fun t =>
      (t.id, t.name, t.description, t.image, t.defaultRestart, t.output,
        t.owner))

end ProcessEvents
