import ODataAdapter.Error

/-!
Why the command fails, as the line that it ends with.
-/

namespace ODataAdapter

inductive CommandError
  | adapt (error : AdaptError)
  | configUnread (reason : String)
  | config (path : String) (fault : ConfigFault)
  | fileUnread (path reason : String)
  | optionsMalformed (path : String)
  | payloadMalformed
  | mapWithoutTarget (argument : String)
  | urlWithoutEntity

def CommandError.message : CommandError → String
  | adapt error => error.message
  | configUnread reason =>
      "Failed to load configuration: IO error: " ++ reason ++ ": " ++ reason
  | config path fault =>
      "Failed to load configuration: Configuration error: " ++ path ++ ": " ++ fault.message
  | fileUnread path reason => "Failed to read " ++ path ++ ": " ++ reason
  | optionsMalformed path => "Invalid query options JSON in " ++ path
  | payloadMalformed => "Backend payload is not valid JSON"
  | mapWithoutTarget argument => "Invalid --map '" ++ argument ++ "', expected FROM=TO"
  | urlWithoutEntity => "--url needs --entity to name the backend entity set"

end ODataAdapter
