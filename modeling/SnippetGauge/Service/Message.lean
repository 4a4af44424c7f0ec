import SnippetGauge.Encoding
import SnippetGauge.Json.Value
import SnippetGauge.Settings
import SnippetGauge.Text.Search

set_option autoImplicit false

namespace SnippetGauge.Service

open Text Encoding

/-- Header names are in small letters; the path is without the query. -/
structure Request where
  method : String
  path : Text
  query : Option Text
  headers : List (String × Text)
  body : Bytes
  deriving DecidableEq, Repr

def Request.ofTarget (method : String) (target : Text) (headers : List (String × Text))
    (body : Bytes) : Request :=
  let (path, query) := splitAtFirst '?' target
  ⟨method, path, query, headers, body⟩

def Request.header? (request : Request) (name : String) : Option Text :=
  (request.headers.find? (·.1 == name)).map (·.2)

inductive Content where
  | json (value : Json)
  | text (value : Text)
  | file (bytes : Bytes)
  | generated

structure Response where
  status : Nat
  headers : List (String × Text)
  content : Content

namespace Response

def header? (response : Response) (name : String) : Option Text :=
  (response.headers.find? (·.1 == name)).map (·.2)

def withHeaders (response : Response) (more : List (String × Text)) : Response :=
  { response with headers := response.headers ++ more }

def ofJson (status : Nat) (value : Json) : Response :=
  ⟨status, [("content-type", "application/json".toList)], .json value⟩

def ofText (status : Nat) (text : String) : Response :=
  ⟨status, [("content-type", "text/plain; charset=utf-8".toList)], .text text.toList⟩

def html (content : Content) : Response :=
  ⟨200, [("content-type", "text/html; charset=utf-8".toList)], content⟩

def ofError (status : Nat) (message : String) : Response :=
  ofJson status (.obj [("success", .bool false), ("error", .str message)])

end Response

structure LogRecord where
  level : LogLevel
  message : Text
  deriving DecidableEq, Repr

structure Crash where
  kind : String
  message : Text
  deriving DecidableEq, Repr

def Crash.logged (crash : Crash) : Text :=
  crash.kind.toList ++ ": ".toList ++ crash.message.take 200

end SnippetGauge.Service
