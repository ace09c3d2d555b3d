import BeanMetrics.CommandLine.Basic
import BeanMetrics.Config.Document

/-!
The configuration under a command line: what is said on the command line goes before what is in the
file, and that before the defaults. The file has to be valid without the command line, and the
result has to be valid too.
-/

namespace BeanMetrics
namespace CommandLine

/-- The configuration with everything replaced that the command line gives. -/
def override (line : CommandLine) (c : Config) : Config :=
  { c with
    server := { c.server with
      listen := line.listen.getD c.server.listen
      logFormat := line.logFormat.getD c.server.logFormat }
    agent := { c.agent with
      url := line.agentUrl.getD c.agent.url
      username := line.username.or c.agent.username
      password := line.password.or c.agent.password
      timeoutMillis := line.agentTimeout.getD c.agent.timeoutMillis } }

/-- The configuration to run with, given the contents of the configuration file, if it is there. -/
def resolve (line : CommandLine) (file : Option String) : Except ConfigError Config := do
  let config := line.override (← Config.loadOrDefault file)
  match config.validate with
  | .ok _ => return config
  | .error fault => throw (.invalid fault)

end CommandLine
end BeanMetrics
