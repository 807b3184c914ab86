import CredentialGateway.CommandLine.Startup
import CredentialGateway.Config.Reload

/-! A process while it serves: what it logs when it begins, when the watched file changes, and when a signal ends it. -/

namespace CredentialGateway.CommandLine

open Log

inductive Signal
  | interrupt
  | terminate
  deriving DecidableEq, Repr

def Signal.message : Signal → String
  | interrupt => "Received Ctrl+C"
  | terminate => "Received SIGTERM"

def serverTarget : String := "service_proxy::http::server"

def watcherTarget : String := "service_proxy::config::watcher"

namespace Serving

def beginning (s : Serving) : List Record :=
  record .info "Listening for connections" [("address", .text s.address.text)] ::
    (s.watched.map fun path =>
      ⟨.info, watcherTarget, "Config watcher started", [("path", .text (Text.quoted path))]⟩).toList ++
    [⟨.info, serverTarget, "HTTP server starting",
      [("address", .text s.address.text), ("services", .number s.config.services.length)]⟩]

/-- What is logged when settings were changed that take effect only after a restart. -/
def restartRecords (f : Config.ReloadFilter) (loaded : Config) : List Record :=
  if f.needsRestart loaded then
    [⟨.warn, watcherTarget, "Listener or proxy settings changed; restart to apply them", []⟩]
  else []

def reloadRecords (path : String) (f : Config.ReloadFilter) (file : Config.File) : List Record :=
  match Config.load file, (f.reload file).1 with
  | .error e, _ =>
    [⟨.error, watcherTarget, "Config reload rejected, keeping current service table",
      [("path", .text (Text.quoted path)), ("error", .text e.message)]⟩]
  | .ok loaded, .changed update =>
    restartRecords f loaded ++
      [⟨.info, watcherTarget, "Service table changed",
        [("before", .number f.current.services.length), ("after", .number update.services.length)]⟩,
        ⟨.info, serverTarget, "Configuration reloaded, proxy cache cleared",
          [("services", .number update.services.length)]⟩]
  | .ok loaded, _ =>
    restartRecords f loaded ++ [⟨.debug, watcherTarget, "Config file touched, service table unchanged", []⟩]

def ending (signal : Signal) : List Record :=
  [⟨.info, "service_proxy::lifecycle::signals", signal.message, []⟩,
    ⟨.info, serverTarget, "Shutdown signal received, draining connections", []⟩,
    ⟨.info, serverTarget, "HTTP server stopped", []⟩, record .info "Shutdown complete" []]

end Serving

def Launch.startThenSignal (m : Machine) (args : List String) (signal : Signal) : Launch :=
  let p := start m args
  match p.stage with
  | .serving s => { p with log := p.log ++ s.beginning ++ Serving.ending signal }
  | _ => p

end CredentialGateway.CommandLine
