import IngestionEngine.Systems.Json

/-!
# Requests and responses of the router
-/

namespace IngestionEngine.Router

open Systems

/-- The body of a response. -/
inductive Body where
  /-- A value that `json.NewEncoder(w).Encode` writes. -/
  | json (value : Json)
  /-- The text that `http.Error` writes. -/
  | text (value : String)

/-- What a handler writes. -/
structure Response where
  /-- The status code. -/
  status : Nat
  /-- The headers that the handler sets. -/
  headers : List (String × String)
  /-- The body. -/
  body : Body

/-- A response with a JSON body. -/
def Response.json (status : Nat) (body : Json) (headers : List (String × String)) : Response where
  status := status
  headers := ("Content-Type", "application/json") :: headers
  body := .json body

/-- `http.Error` -/
def Response.error (message : String) (status : Nat) : Response where
  status := status
  headers := [("Content-Type", "text/plain; charset=utf-8"), ("X-Content-Type-Options", "nosniff")]
  body := .text message

end IngestionEngine.Router
