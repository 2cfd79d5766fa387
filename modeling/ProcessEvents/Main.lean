import ProcessEvents.EventService

/-
  This file defines the program that checks the settings in
  its environment. It prints the address, the topics and the
  components of the service, or the first setting at fault.

  Key definitions include:
    * `EventService.summary`
    * `checkSettings`
    * `main`
-/

namespace ProcessEvents

variable {σ : Type}

/- A topic and the component that answers for it, as one line. -/
def CommandConsumer.summary
    (c : CommandConsumer) : String :=
  c.commands.label ++ ": " ++ c.subscription.topic.text ++
    " (" ++ c.liveness.component ++ ")"

/- The topics of some settings, as one line each. -/
def EventService.summary
    (c : Config) : Except BrokerFault (List String) :=
  (EventService.commandTopics c).mapM fun t =>
    (·.summary) <$> EventService.consumer c t.1 t.2

/- The environment of the program. -/
def currentEnvironment : IO Environment := do
  let values ← Config.variableNames.mapM fun name => do
    return (name, ← IO.getEnv name)
  return fun name => (values.lookup name).join

/- Print the lines of a summary, or what is at fault. -/
def report : Except String (List String) → IO UInt32
  | .error message => do
    IO.eprintln message
    return 1
  | .ok lines => do
    lines.forM IO.println
    return 0

/- Check the settings of the environment. -/
def checkSettings : IO UInt32 := do
  match Config.read (← currentEnvironment) with
  | .error e => report (.error e.message)
  | .ok c =>
    report
      (((EventService.summary c).mapError BrokerFault.message).map
        fun lines => ("address: " ++ c.bind) :: lines)

end ProcessEvents

def main : IO UInt32 :=
  ProcessEvents.checkSettings
