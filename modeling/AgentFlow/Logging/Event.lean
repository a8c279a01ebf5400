import AgentFlow.Settings.Basic

/-!
# Log events

What the compiler notes while it works: the name of the part that notes it, how important it is, and
a message.
-/

namespace AgentFlow

structure LogEvent where
  logger : Text
  level : LogLevel
  message : Text

end AgentFlow
