import BeanMetrics.Collection.Telemetry
import BeanMetrics.CommandLine.Arguments
import BeanMetrics.CommandLine.Override
import BeanMetrics.Config.Redacted

/-!
The command line. It settles the configuration from the arguments, the environment and the file, and
prints it when asked to validate it. Otherwise it says where the service would listen; opening
sockets is left to whatever embeds the library.
-/

namespace BeanMetrics
namespace Main

def usage : String :=
  "Usage: bean-metrics [OPTIONS]\n\n" ++
  "  -c, --config <FILE>          Path to configuration file\n" ++
  "      --listen <ADDRESS>       Listen address as [host:]port\n" ++
  "      --jolokia-url <URL>      Jolokia agent URL\n" ++
  "      --jolokia-timeout <MS>   Jolokia HTTP timeout in milliseconds\n" ++
  "      --username <USERNAME>    Jolokia authentication username\n" ++
  "      --password <PASSWORD>    Jolokia authentication password\n" ++
  "      --validate               Print the resolved configuration and exit\n" ++
  "  -l, --log-level <LEVEL>      trace, debug, info, warn or error\n" ++
  "      --log-format <FORMAT>    text or json\n" ++
  "  -h, --help                   Print help\n" ++
  "  -V, --version                Print version\n"

def faultText : CommandFault → String
  | .unknownArgument => "unknown argument"
  | .invalidValue => "invalid or missing value"
  | .notANumber => "value is not a number"
  | .givenTwice => "argument given twice"
  | .unexpectedValue => "flag with a value"
  | .helpWanted => usage
  | .versionWanted => version ++ "\n"

/-- The contents of a file, none if there is no such file. -/
def contentsOf (path : String) : IO (Except ConfigError (Option String)) :=
  try
    return .ok (some (← IO.FS.readFile path))
  catch
    | .noFileOrDirectory .. => return .ok none
    | _ => return .error .unreadable

def fail (text : String) (code : UInt32) : IO UInt32 := do
  IO.eprintln ("Error: " ++ text)
  return code

def carryOut (line : CommandLine) : IO UInt32 := do
  match (← contentsOf line.configPath).bind line.resolve with
  | .error e => fail e.message 1
  | .ok config =>
    if line.validate then
      IO.print config.redactedYaml
      return 0
    else match config.listenAddress with
      | .error fault => fail (ConfigError.invalid fault).message 1
      | .ok address =>
        IO.println ("Metrics would be served on " ++ address.text ++ config.server.metricsPath)
        return 0

def run (arguments : List String) : IO UInt32 := do
  let environment ← Parameter.all.mapM fun p => do
    return (p.environmentName, ← IO.getEnv p.environmentName)
  match CommandLine.ofArguments arguments fun name => (environment.lookup name).join with
  | .ok line => carryOut line
  | .error .helpWanted => IO.print (faultText .helpWanted); return 0
  | .error .versionWanted => IO.print (faultText .versionWanted); return 0
  | .error fault => fail (faultText fault) 2

end Main
end BeanMetrics

def main (arguments : List String) : IO UInt32 := BeanMetrics.Main.run arguments
