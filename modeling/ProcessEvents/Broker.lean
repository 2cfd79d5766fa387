import ProcessEvents.Config
import ProcessEvents.TopicPattern

/-
  This file defines how the topics of the message broker are
  read, as far as the settings decide it.

  Key definitions include:
    * `BrokerFault`
    * `OffsetReset`
    * `OffsetReset.parse?`
    * `isSubscribable`
    * `Subscription`
    * `Subscription.ofConfig`
-/

namespace ProcessEvents

/- Why the broker cannot be used. -/
inductive BrokerFault where
  | nullCharacter
  | unknownOffsetReset (text : String)
  | emptyGroup
  | badPattern (topic : String)
  | unreachable
  deriving DecidableEq, Repr

def BrokerFault.message : BrokerFault → String
  | .nullCharacter => "a setting holds a null character"
  | .unknownOffsetReset text => "unknown offset reset " ++ text
  | .emptyGroup => "the consumer group has no name"
  | .badPattern topic => "the topic is no pattern: " ++ topic
  | .unreachable => "the broker cannot be reached"

------------------------------------------------------------
-- Offsets
------------------------------------------------------------

/- Where reading begins if no offset has been stored. -/
inductive OffsetReset where
  | earliest
  | latest
  | failing
  deriving DecidableEq, Repr

namespace OffsetReset

/- The words for it, in lower case. -/
def words : List (String × OffsetReset) :=
  [("smallest", earliest), ("earliest", earliest), ("beginning", earliest),
    ("largest", latest), ("latest", latest), ("end", latest),
    ("error", failing)]

end OffsetReset

/- A setting without blanks at its start. -/
def brokerSetting
    (text : String) : List Char :=
  text.toList.dropWhile fun c => ('\t' ≤ c && c ≤ '\r') || c == ' '

/-
  The word of a setting, in whatever case. Blanks may come
  before the word only; blanks alone stand for the latest
  offset, whereas nothing at all is no setting.
-/
def OffsetReset.parse?
    (text : String) : Option OffsetReset :=
  if text.isEmpty then none
  else
    match brokerSetting text with
    | [] => some latest
    | cs => words.lookup (String.ofList (cs.map Char.toLower))

------------------------------------------------------------
-- Topics
------------------------------------------------------------

/-
  Whether a topic can be subscribed to. A topic that begins
  with a caret stands for all topics that match a pattern.
-/
def isSubscribable
    (topic : String) : Bool :=
  match topic.toList with
  | '^' :: _ => TopicPattern.isWellFormed topic
  | _ => true

------------------------------------------------------------
-- Subscriptions
------------------------------------------------------------

/- A topic as it is read by a group of consumers. -/
structure Subscription where
  topic : NonEmptyText
  group : List Char
  offsetReset : OffsetReset
  deriving DecidableEq, Repr

/- Whether a setting can be handed over: it holds no null character. -/
def isBrokerSetting
    (text : String) : Bool :=
  !text.toList.contains '\x00'

/-
  The subscription to a topic; its group must have a name,
  and the topic must be a name or a well-formed pattern.
-/
def Subscription.ofConfig
    (b : BrokerConfig)
    (c : ConsumerConfig)
    (topic : NonEmptyText) : Except BrokerFault Subscription :=
  if !isBrokerSetting b.hosts || !isBrokerSetting c.group then
    .error .nullCharacter
  else
    match OffsetReset.parse? c.offsetReset, brokerSetting c.group with
    | none, _ => .error (.unknownOffsetReset c.offsetReset)
    | some _, [] => .error .emptyGroup
    | some offsetReset, group =>
      if isSubscribable topic.text then .ok { topic, group, offsetReset }
      else .error (.badPattern topic.text)

end ProcessEvents
