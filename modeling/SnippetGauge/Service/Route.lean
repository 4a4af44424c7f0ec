import SnippetGauge.Service.Endpoint

set_option autoImplicit false

namespace SnippetGauge.Service

open Text

abbrev Handler := Context → Request → Outcome

def routes (settings : Settings) : List (String × Endpoint) :=
  [("/openapi.json", .schema)] ++
    (if settings.debug then
      [("/docs", .docs), ("/docs/oauth2-redirect", .docs), ("/redoc", .redoc)] else []) ++
    [("/", .root), ("/api/analyze", .analyze), ("/api/v1/analyze", .analyze),
      ("/analyze", .analyze), ("/api/v1/health", .health), ("/api/v1/metrics", .metrics),
      ("/health", .health), ("/metrics", .metrics)]

def endpoint? (settings : Settings) (path : Text) : Option Endpoint :=
  ((routes settings).find? (·.1.toList == path)).map (·.2)

def otherSlash (path : Text) : Text :=
  if path.getLast? == some '/' then (path.reverse.dropWhile (· == '/')).reverse else path ++ ['/']

def isUrlChar (c : Char) : Bool :=
  isLetter c || isDigit c || "_.-~:/%#?=@[]!$&'()*+,;".toList.contains c

def percentByte (byte : UInt8) : Text := '%' :: (hexDigits 2 byte.toNat).map Char.toUpper

def quoteUrl (url : Text) : Text :=
  url.flatMap fun c =>
    if isUrlChar c then [c] else (String.singleton c).toUTF8.data.toList.flatMap percentByte

def isPortSuffix : Text → Bool
  | [] => true
  | ':' :: digits => digits.all isDigit
  | _ => false

def isHostNameChar (c : Char) : Bool :=
  isLetter c || isDigit c || "-._~!$&'()*+,;=%".toList.contains c

def isAddressChar (c : Char) : Bool := isDigit c || "abcdefABCDEF:.".toList.contains c

def isHost : Text → Bool
  | '[' :: rest =>
    match splitAtFirst ']' rest with
    | (address, some port) =>
      !address.isEmpty && address.all isAddressChar && isPortSuffix port
    | (_, none) => false
  | text =>
    let name := text.takeWhile isHostNameChar
    !name.isEmpty && isPortSuffix (text.drop name.length)

def hostOf (request : Request) : Text :=
  match (request.header? "host").filter isHost with
  | some host => host
  | none => "testserver".toList

def location (request : Request) (path : Text) : Text :=
  quoteUrl ("http://".toList ++ hostOf request ++ path ++
    match request.query with
    | some [] | none => []
    | some query => '?' :: query)

def redirect (request : Request) (path : Text) : Response :=
  ⟨307, [("location", location request path)], .text []⟩

def notAllowed (endpoint : Endpoint) : Response :=
  (Response.ofError 405 "Method Not Allowed").withHeaders
    [("allow", (", ".intercalate endpoint.methods).toList)]

def unmatched (settings : Settings) (request : Request) : Response :=
  -- The root has no other form.
  if request.path != ['/'] && (endpoint? settings (otherSlash request.path)).isSome then
    redirect request (otherSlash request.path)
  else .ofError 404 "Not Found"

def route : Handler := fun context request =>
  match endpoint? context.site.settings request.path with
  | none => .plain (unmatched context.site.settings request)
  | some endpoint =>
    if endpoint.methods.contains request.method then endpoint.handle context request
    else .plain (notAllowed endpoint)

end SnippetGauge.Service
