namespace TracerSettings

inductive Level where
  | info
  | warn
  | error
  deriving DecidableEq, Repr

inductive Diagnostic where
  /-- A broader setting is shadowed by a more specific one. -/
  | overridden (setting overriding value : String)
  | overriddenDeprecated (setting overriding value : String)
  | deprecatedConverted (deprecated oldValue newSetting newValue : String)
  | ignoredSetting (setting because : String)
  /-- An explicit value is replaced by one derived from another setting. -/
  | ignoredOverride (setting value used reason : String)
  | unrecognizedValue (setting value : String)
  | invalidValue (setting value reason : String)
  | outOfRange (setting value range default : String)
  | unreadableFile (setting path reason : String)
  | unsupportedStrategy (setting value : String)
  | missingCredential (setting credential : String)
  deriving DecidableEq, Repr

namespace Diagnostic

def level : Diagnostic → Level
  | .ignoredOverride .. => .info
  | .unreadableFile .. => .error
  | _ => .warn

def setting : Diagnostic → String
  | .overridden setting _ _ => setting
  | .overriddenDeprecated setting _ _ => setting
  | .deprecatedConverted deprecated _ _ _ => deprecated
  | .ignoredSetting setting _ => setting
  | .ignoredOverride setting _ _ _ => setting
  | .unrecognizedValue setting _ => setting
  | .invalidValue setting _ _ => setting
  | .outOfRange setting _ _ _ => setting
  | .unreadableFile setting _ _ => setting
  | .unsupportedStrategy setting _ => setting
  | .missingCredential setting _ => setting

def message : Diagnostic → String
  | .overridden setting overriding value =>
      "Setting " ++ setting ++ " is overridden by setting " ++ overriding ++ " with value " ++
        value ++ "."
  | .overriddenDeprecated setting overriding value =>
      "Setting " ++ setting ++ " is deprecated and overridden by setting " ++ overriding ++
        " with value " ++ value ++ "."
  | .deprecatedConverted deprecated oldValue newSetting newValue =>
      "Setting " ++ deprecated ++ " is deprecated and the value " ++ oldValue ++
        " has been converted to " ++ newValue ++ " for setting " ++ newSetting ++ "."
  | .ignoredSetting setting because =>
      "Setting " ++ setting ++ " ignored since " ++ because ++ " is enabled."
  | .ignoredOverride setting value used reason =>
      "Setting " ++ setting ++ " is set to " ++ value ++ ", but " ++ reason ++ ". Using " ++
        used ++ "."
  | .unrecognizedValue setting value =>
      "Cannot recognize config string value " ++ value ++ " for setting " ++ setting
  | .invalidValue setting value reason =>
      "Invalid value '" ++ value ++ "' for setting " ++ setting ++ ": " ++ reason
  | .outOfRange setting value range default =>
      "Invalid " ++ setting ++ ": " ++ value ++ ". The value must be in range " ++ range ++
        "; using the default of " ++ default
  | .unreadableFile setting path reason =>
      "Cannot read " ++ setting ++ " from file " ++ path ++ ", skipping. Exception " ++ reason
  | .unsupportedStrategy setting value =>
      "*** you are using an unsupported " ++ setting ++ " " ++ value ++
        " - this can impact correctness of traces"
  | .missingCredential setting credential =>
      setting ++ " activated but no " ++ credential ++
        " provided. Uploading will likely fail"

end Diagnostic

def bracketed (items : List String) : String := "[" ++ ", ".intercalate items ++ "]"

end TracerSettings
