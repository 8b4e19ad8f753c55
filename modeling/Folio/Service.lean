import Folio.Exchange
import Folio.Jobs.Worker
import Folio.Text.Percent

namespace Folio

structure Request where
  method : String
  /-- With an optional query, which means nothing. -/
  path : String
  contentType : Option String
  body : String

inductive Body where
  | json (text : List Char)
  | text (text : String)

structure Response where
  status : Nat
  body : Body

namespace Request

/-- The percent sign, the plus sign and the slash would change what the path says. -/
def keepsMeaning (byte : UInt8) : Bool :=
  byte == 0x25 || byte == 0x2B || byte == 0x2F

/-- The segments of the path, their escapes replaced as far as they do not matter for routing. -/
def segments (r : Request) : List String :=
  let path := r.path.toList.takeWhile fun c => c != '?' && c != '#'
  (Text.cutAt '/' (Text.unescaped keepsMeaning (String.ofList path)).toList).map String.ofList

/-- What may stand in the parts of a media type. -/
def isTokenChar (c : Char) : Bool :=
  c.isAlphanum || "!#$%&'*+-.^_|~".toList.contains c || c == '\x60'

/-- Where the reading of the parameters of a media type stands. -/
inductive ParameterState where
  /-- Before a name; spaces are allowed here. -/
  | between
  | name
  | valueStart
  | value
  | quotedStart
  | quoted
  | afterQuoted

/-- The state behind one more character, if it is allowed there. -/
def ParameterState.next? : ParameterState → Char → Option ParameterState
  | between, c => if c = ' ' then some between else if isTokenChar c then some name else none
  | name, c => if c = '=' then some valueStart else if isTokenChar c then some name else none
  | valueStart, c =>
    if c = '"' then some quotedStart else if isTokenChar c then some value else none
  | value, c => if c = ';' then some between else if isTokenChar c then some value else none
  | quotedStart, c => if ' ' ≤ c ∧ c ≤ '~' then some quoted else none
  | quoted, c =>
    if c = '"' then some afterQuoted else if ' ' ≤ c ∧ c ≤ '~' then some quoted else none
  | afterQuoted, c =>
    if c = ';' then some between else if c = ' ' then some afterQuoted else none

/-- Whether the parameters may end here. -/
def ParameterState.isFinal : ParameterState → Bool
  | name | quotedStart | quoted => false
  | _ => true

def parametersFit (cs : List Char) : Bool :=
  (cs.foldlM ParameterState.next? .between).any ParameterState.isFinal

/-- The subtype of a well-formed media type, its suffix included. -/
def subtype? (contentType : String) : Option (List Char) :=
  let cs := contentType.toList.map Char.toLower
  match cs.takeWhile isTokenChar, cs.dropWhile isTokenChar with
  | _ :: _, '/' :: rest =>
    let sub := rest.takeWhile isTokenChar
    match rest.dropWhile isTokenChar with
    | [] => some sub
    | ';' :: parameters => if !sub.isEmpty && parametersFit parameters then some sub else none
    | _ => none
  | _, _ => none

/-- The parts of a subtype before and behind its last plus sign. -/
def splitSuffix (sub : List Char) : List Char × List Char :=
  if sub.tail.contains '+' then
    let suffix := (sub.reverse.takeWhile (· != '+')).reverse
    (sub.take (sub.length - suffix.length - 1), suffix)
  else (sub, [])

def isJson (r : Request) : Bool :=
  match (r.contentType.bind subtype?).map splitSuffix with
  | none => false
  | some (main, suffix) => main == "json".toList || suffix == "json".toList

/-- What a request asks for. -/
inductive Task where
  | generate
  | status (job : String)
  | validate (template : String)
  | preview (template : String)

def parameter (segment : String) : Option String :=
  if segment.isEmpty then none else some (Text.unescaped (fun _ => false) segment)

def task? (r : Request) : Option Task :=
  match r.method, r.segments with
  | "POST", ["", "api", "reports", "generate"] => some .generate
  | "GET", ["", "api", "reports", "status", job] => (parameter job).map .status
  | "GET", ["", "api", "reports", "validate", name] => (parameter name).map .validate
  | "GET", ["", "api", "reports", "preview", name] => (parameter name).map .preview
  | _, _ => none

end Request

namespace Response
open Json

def ok (text : List Char) : Response := ⟨200, .json text⟩

def badRequest : Response := ⟨400, .text ""⟩

def noSuchPath : Response := ⟨404, .text ""⟩

def noSuchJob : Response := ⟨404, .text "Job ID not found"⟩

def statusOf : ReportError → Nat
  | .notFound _ => 404
  | .invalid _ _ => 422
  | .notRendered _ => 422
  | .dataAccess _ => 503
  | .notGenerated _ _ => 500

def ofError (e : ReportError) : Response :=
  ⟨statusOf e, .text e.message⟩

def ofDefects (name : String) (defects : List Defect) : Response :=
  ok (writeObject [("template", writeString name), ("valid", writeBool defects.isEmpty),
    ("errors", writeArray (defects.map fun d => writeString d.message))])

end Response

/-- The service between two requests. -/
structure Service where
  engine : Engine
  database : Store.Database
  disk : Disk
  jobs : Jobs.System

namespace Service
open Json

/-- Schedules a job under a new id and lets it come to its end. -/
def schedule (s : Service) (now : DateTime) (job template : String) : Service :=
  let generation := s.engine.generate s.database s.disk now template
  { s with
    disk := generation.disk
    jobs := s.jobs.runJob job template (.returned generation.result) }

/-- Answers a request; `job` is the id that a new job gets. -/
def respond (s : Service) (now : DateTime) (job : String) (r : Request) : Response × Service :=
  match r.task? with
  | none => (.noSuchPath, s)
  | some .generate =>
    if r.isJson then
      match readAll ReportRequest.shape.read r.body.toList with
      | .ok request =>
        (.ok (writeObject [("job_id", writeString job)]), s.schedule now job request.templateName)
      | .error _ => (.badRequest, s)
    else (.badRequest, s)
  | some (.status job) =>
    match s.jobs.board.status? job with
    | some status => (.ok status.toJson, s)
    | none => (.noSuchJob, s)
  | some (.validate name) =>
    match Engine.validateTemplate s.database name with
    | .ok defects => (.ofDefects name defects, s)
    | .error e => (.ofError e, s)
  | some (.preview name) =>
    match s.engine.preview s.database name with
    | .ok document => (.ok (documentJson document), s)
    | .error e => (.ofError e, s)

end Service

end Folio
