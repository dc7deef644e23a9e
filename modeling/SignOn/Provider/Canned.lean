import SignOn.Exchange
import SignOn.Json.Bytes
import SignOn.Provider.ContentType

/-!
A provider for trials, which gives answers that were made before. What the library that speaks HTTP
makes of a request and of an answer is imitated as far as trials have come across it; nothing that
is proved of the program depends on it.
-/

namespace SignOn.Canned

inductive Answer where
  | response (status : Int) (headers : Reply.Headers) (body : List UInt8)
  | unreachable (reason : String)

def jsonException : Json.Defect → HttpException
  | .notJson => .value "ValueError"
  | .tooDeep => .other "RecursionError"
  | .loneSurrogate => .other "UnicodeEncodeError"

def responseOf (status : Int) (headers : Reply.Headers) (body : List UInt8) : HttpResponse where
  status := status
  text := (ContentType.bodyText headers body).mapError fun fault => .other fault.name
  json := (Json.readBytes body).mapError jsonException

/-- What the library makes of an answer from an address. An answer is built from texts first, which
fails for header fields that hold more than ASCII. -/
def arrived (address : Address) : Answer → Except HttpException HttpResponse
  | .unreachable reason => .error (.http "ConnectError" reason)
  | .response status headers body =>
    if ! Reply.isReadable headers then .error (.value "UnicodeEncodeError")
    else
      match Reply.unpack headers body with
      | .error fault => .error (.http "DecodingError" fault.message)
      | .ok body =>
        if ! address.isAbsolute then .error (.value "ValueError")
        else
          match Reply.misdirection? status headers with
          | some (.unreadable fault) =>
            .error (.http "RemoteProtocolError"
              ("Invalid URL in location header: " ++ fault.message ++ "."))
          | some .homeless => .error (.other "InvalidURL")
          | none => .ok (responseOf status headers body)

def addressed (request : ProviderRequest) (address : Address) : ProviderRequest :=
  let headers := match address.authorization? with
    | none => request.headers
    | some value => request.headers.filter (·.1 != "authorization") ++ [("authorization", value)]
  { request with url := address.text, headers }

def sent (request : ProviderRequest) : List ProviderRequest :=
  match Address.parse request.url with
  | .error _ => []
  | .ok address =>
    if Reply.isReadable request.headers then [addressed request address.target] else []

/-- What comes of a request, after those before it have used up an answer each. When no answer is
left, the provider knows nothing of the page. -/
def respond (answers : List Answer) (earlier : List ProviderRequest) (request : ProviderRequest) :
    Except HttpException HttpResponse :=
  match Address.parse request.url with
  | .error _ => .error (.other "InvalidURL")
  | .ok address =>
    if ! Reply.isReadable request.headers then .error (.value "UnicodeEncodeError")
    else
      arrived address
        ((answers[(earlier.flatMap sent).length]?).getD (.response 404 [] []))

def provider (answers : List Answer) : Provider := { respond := respond answers }

end SignOn.Canned
