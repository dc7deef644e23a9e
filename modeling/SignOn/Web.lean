import SignOn.Session
import SignOn.Url

/-!
One request and the response to it. Parameters and headers are what the user agent sent; a header
is found by its name in any letter case, the first of several.
-/

namespace SignOn

structure Request where
  parameters : Entries String := []
  headers : List (String × String) := []
  origin : Origin := ⟨"http", "localhost", 80⟩

namespace Request

def parameter? (request : Request) (name : String) : Option String :=
  request.parameters.get? name

def header? (request : Request) (name : String) : Option String :=
  (request.headers.find? fun header => Text.lower header.1 == Text.lower name).map (·.2)

def isScripted (request : Request) : Bool :=
  request.header? "X-Requested-With" == some "XMLHttpRequest"

def withParameter (request : Request) (name value : String) : Request :=
  { request with parameters := request.parameters.put name value }

def withoutParameter (request : Request) (name : String) : Request :=
  { request with parameters := request.parameters.remove name }

end Request

structure Response where
  status : Int := 0
  headers : Entries String := []
  content : String := ""

namespace Response

def setStatus (response : Response) (status : Int) : Response := { response with status }

def setHeader (response : Response) (name value : String) : Response :=
  { response with headers := response.headers.put name value }

def write (response : Response) (content : String) : Response :=
  { response with content := response.content ++ content }

end Response

end SignOn
