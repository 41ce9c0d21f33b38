import Conform.Compile.Basic
import Conform.Resolver.Basic
import Conform.Run.Response

/-!
# Results of runs

A run ends at one of its stages. What is said about it, whether it counts as a success, and what it
carries follow from where it ended.

## Main definitions

- `RunEnd` — how a run ends
- `RunEnd.outcome`, `RunEnd.message`, `RunEnd.success` — what is said about it
- `RunResult` — an end with the time that the run took
- `RunResult.toFields` — its layout
-/

namespace Conform

/-- How a run ends. -/
inductive RunEnd
  /-- No address was given; the wording is another one for stored schemas. -/
  | noEndpoint (stored : Bool)
  | badBody (body : Text) (failure : Json.Failure)
  | noResponse
  | notSent (detail : Text)
  | unexpected (error : Raised)
  | unknownVersion (response : Response) (name : Text)
  | uncompiled (response : Response) (report : CompileReport)
  | validated (response : Response) (issues : List Issue)

namespace RunEnd

/-- The name of the stage at which a run ended. -/
def outcome : RunEnd → Text
  | .noEndpoint _ => "invalid_endpoint"
  | .badBody _ _ => "body_parse_error"
  | .noResponse => "no_response"
  | .notSent _ => "setup_error"
  | .unexpected _ => "internal_error"
  | .unknownVersion _ _ => "unknown_version"
  | .uncompiled _ _ => "compile_error"
  | .validated _ _ => "validated"

/-- What is said about the end of a run. -/
def message : RunEnd → Text
  | .noEndpoint false => "No endpoint URL specified"
  | .noEndpoint true => "No endpoint URL specified for this schema"
  | .badBody body failure => "Invalid JSON in request body: " ++ failure.message body
  | .noResponse => "API request failed: no response received from server"
  | .notSent detail => if detail.isEmpty then "Request could not be sent" else detail
  | .unexpected error => "Unexpected error: " ++ error.message
  | .unknownVersion _ name => unknownVersionMessage name
  | .uncompiled _ report => report.text
  | .validated _ issues =>
    if issues.isEmpty then "Schema test passed"
    else "Schema test failed: " ++ Text.ofNat issues.length ++ " error(s)"

/-- Whether the response was checked against the schema, whatever came out. -/
def success : RunEnd → Bool
  | .validated _ _ => true
  | _ => false

/-- The response, if one came. -/
def response? : RunEnd → Option Response
  | .unknownVersion r _ => some r
  | .uncompiled r _ => some r
  | .validated r _ => some r
  | _ => none

/-- The violations that were found, if the response was checked. -/
def issues? : RunEnd → Option (List Issue)
  | .validated _ issues => some issues
  | _ => none

/-- Whether the response was checked and fits the schema. -/
def isValid (e : RunEnd) : Bool := (e.issues?.map List.isEmpty).getD false

/-- Whether a body was usable: for the other ends it was never read, or could not be. -/
def keepsBody : RunEnd → Bool
  | .noEndpoint _ => false
  | .badBody _ _ => false
  | _ => true

end RunEnd

/-- The key of a place as a value. -/
def Key.value : Key → Value
  | .field name => .text name
  | .index n => .int (Int.ofNat n)

/-- The fields of a violation. -/
def Issue.toFields (i : Issue) : List (Text × Value) :=
  Fields.named [("path", .array (i.path.map Key.value)), ("message", .text i.message)]

/-- Violations as the result of a validation. -/
def validationFields (issues : List Issue) : List (Text × Value) :=
  Fields.named [("isValid", .bool issues.isEmpty),
    ("errors", .array (issues.map fun i => .object i.toFields))]

/-- The fields of a response. -/
def Response.toFields (r : Response) : List (Text × Value) :=
  Fields.named [("responseStatus", .int (Int.ofNat r.status)),
    ("responseStatusText", .text r.statusText),
    ("responseHeaders", .object (r.headers.map fun (k, v) => (k, .text v))),
    ("data", r.data)]

/-- How a run ended, and how many milliseconds it took. -/
structure RunResult where
  ending : RunEnd
  duration : Int := 0

/-- The fields of a result. -/
def RunResult.toFields (r : RunResult) : List (Text × Value) :=
  Fields.named [("success", .bool r.ending.success), ("message", .text r.ending.message),
      ("outcome", .text r.ending.outcome)]
    ++ (r.ending.response?.map Response.toFields).getD []
    ++ Fields.named (((r.ending.issues?.map fun issues =>
      [("validationResult", Value.object (validationFields issues))]).getD [])
        ++ [("durationMs", .int r.duration)])

end Conform
