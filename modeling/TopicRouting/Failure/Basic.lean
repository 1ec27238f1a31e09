import TopicRouting.Diagnostics.Command
import TopicRouting.Settings.Error

set_option autoImplicit false

namespace TopicRouting

inductive FileError where
  | notFound
  | isDirectory
  | notDirectory
  | alreadyExists
  | nameTooLong
  | nulInName
  | notUnicode
  | stated (reason : String)
deriving DecidableEq, Repr

def FileError.message : FileError → String
  | .notFound => "No such file or directory (os error 2)"
  | .isDirectory => "Is a directory (os error 21)"
  | .notDirectory => "Not a directory (os error 20)"
  | .alreadyExists => "File exists (os error 17)"
  | .nameTooLong => "File name too long (os error 36)"
  | .nulInName => "file name contained an unexpected NUL byte"
  | .notUnicode => "stream did not contain valid UTF-8"
  | .stated reason => reason

inductive RouterError where
  | settings (error : SettingsError)
  | route (error : RouteError)
  | diagnostic (error : DiagnosticError)
  | file (error : FileError)
  | serialization
  | tomlRead
  | tomlWrite
  | custom (message : String)
deriving DecidableEq, Repr

def RouterError.message : RouterError → String
  | .settings error => "Configuration error: " ++ error.message
  | .route error => "Routing error: " ++ error.message
  | .diagnostic error => "Diagnostic error: " ++ error.message
  | .file error => "IO error: " ++ error.message
  | .serialization => "Serialization error"
  | .tomlRead => "TOML parse error"
  | .tomlWrite => "TOML serialization error"
  | .custom message => message

def RouterError.routeError? : RouterError → Option RouteError
  | .route error | .diagnostic (.route error) => some error
  | _ => none

inductive Component where
  | configuration
  | routingTable
  | diagnostics
  | routeFile
  | driver
deriving DecidableEq, Repr

def Component.name : Component → String
  | .configuration => "configuration"
  | .routingTable => "routing table"
  | .diagnostics => "diagnostics"
  | .routeFile => "route file"
  | .driver => "driver"

def RouterError.component : RouterError → Component
  | .settings _ => .configuration
  | .route _ => .routingTable
  | .diagnostic _ => .diagnostics
  | .tomlRead => .routeFile
  | .file _ | .serialization | .tomlWrite | .custom _ => .driver

end TopicRouting
