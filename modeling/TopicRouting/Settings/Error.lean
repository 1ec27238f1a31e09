import TopicRouting.Text.Quoted

set_option autoImplicit false

namespace TopicRouting

inductive SettingsFault where
  | unsupportedExtension (path : String)
  | malformedDocument
  | unsuitableValue
  | stated (reason : String)
deriving DecidableEq, Repr

def SettingsFault.message : SettingsFault → String
  | .unsupportedExtension path => "Unsupported file extension for: " ++ Quoted.text path
  | .malformedDocument => "malformed document"
  | .unsuitableValue => "unsuitable value"
  | .stated reason => reason

inductive InvalidSetting where
  | literalMarker (marker : Char)
  | logLevel (level : String)
  | verboseLogLevel (level : String)
  | stated (reason : String)
deriving DecidableEq, Repr

def InvalidSetting.message : InvalidSetting → String
  | .literalMarker marker => "Invalid literal marker: " ++ Quoted.character marker
  | .logLevel level => "Invalid log level: " ++ level
  | .verboseLogLevel level => "Invalid verbose log level: " ++ level
  | .stated reason => reason

inductive SettingsError where
  | fileNotFound (path : String)
  | parse (fault : SettingsFault)
  | validation (setting : InvalidSetting)
  | outOfRange (key bounds : String)
deriving DecidableEq, Repr

def SettingsError.message : SettingsError → String
  | .fileNotFound path => "Configuration file not found: " ++ path
  | .parse fault => "Failed to parse configuration file: " ++ fault.message
  | .validation setting => "Configuration validation error: " ++ setting.message
  | .outOfRange key bounds =>
    "Configuration value " ++ key ++ " is out of valid range: " ++ bounds

end TopicRouting
