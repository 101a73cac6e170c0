import Opaleye.Http.WorkThread
import Opaleye.Lib.Ptree
import Opaleye.Sensors.ThermalZone

/-!
# The request handlers

`opaleye/http_req_jpeg.cpp`, `opaleye/http_req_jsonrpc.cpp` and
`opaleye/http_req_callback_sensors.cpp`.  A handler throws before it writes
anything, or it writes a whole response and finishes the request, so it is a
function into `Except`: the texts it writes, or what it throws.  The handler of
the sensors may also run into undefined behaviour, which is a `Fault`.

A byte is a character.  The parameters of a request are C strings, and all that
`http_req_util::load` reads are set, `HTTPS` apart: `FCGX_GetParam` does not
return a null pointer for them.  Taken from outside are the image callback, the
JSON-RPC server, the sensor readings as a stream prints them, how
`linux_thermal_zone::sample` is left, boost's JSON writer, and `gmtime_r` of the
time of the call.
-/

namespace Opaleye.Http

open Text Opaleye.Sensors.LinuxThermalZone

/-! ### What a handler throws -/

def badRequest (msg : String) : Exception := .httpException 400 msg.toList

def notFoundError (msg : String) : Exception := .httpException 404 msg.toList

def methodNotAllowed (msg : String) : Exception := .httpException 405 msg.toList

def internalServerError (msg : String) : Exception := .httpException 500 msg.toList

def serviceUnavailable (msg : String) : Exception := .httpException 503 msg.toList

/-- What ends a handler before it has written anything. -/
inductive Fault
  | throws (e : Exception)
  | undefined
  deriving DecidableEq, Repr

/-! ### Methods and dates -/

/-- `http_common::REQUEST_METHOD` -/
inductive RequestMethod
  | get | head | post | put | delete | connect | options | trace | patch | invalid
  deriving DecidableEq, Repr

/-- `REQUEST_METHOD_STR` -/
def requestMethodStr : List (String × RequestMethod) :=
  [("GET", .get), ("HEAD", .head), ("POST", .post), ("PUT", .put), ("DELETE", .delete),
   ("CONNECT", .connect), ("OPTIONS", .options), ("TRACE", .trace), ("PATCH", .patch)]

/-- `strcasecmp(a, b) == 0` in the C locale. -/
def caseEq (a b : List Char) : Bool := a.map Char.toLower = b.map Char.toLower

/-- `http_common::parse_req_method` -/
def parseReqMethod (reqMethod : List Char) : RequestMethod :=
  if reqMethod.length ≠ 0 then
    match requestMethodStr.find? (fun str => caseEq str.1.toList reqMethod) with
    | some str => str.2
    | none => .invalid
  else .invalid

/-- The fields of a `struct tm` that a date has; `gmtime_r` keeps the day of the
week and the month in their tables. -/
structure Tm where
  wday : Fin 7
  mday : Int
  mon : Fin 12
  year : Int
  hour : Int
  min : Int
  sec : Int

def dayStr (d : Fin 7) : String := ["Sun", "Mon", "Tue", "Wed", "Thu", "Fri", "Sat"].get d

def monthStr (m : Fin 12) : String :=
  ["Jan", "Feb", "Mar", "Apr", "May", "Jun", "Jul", "Aug", "Sep", "Oct", "Nov", "Dec"].get m

/-- `"%s, %d %s %d %02d:%02d:%02d GMT"` -/
def httpDate (tm : Tm) : List Char :=
  (dayStr tm.wday).toList ++ ", ".toList ++ printInt tm.mday ++ " ".toList
    ++ (monthStr tm.mon).toList ++ " ".toList ++ printInt (tm.year + 1900) ++ " ".toList
    ++ printIntPad 2 tm.hour ++ ":".toList ++ printIntPad 2 tm.min ++ ":".toList
    ++ printIntPad 2 tm.sec ++ " GMT".toList

/-- `http_util::time_to_httpdate` into 40 characters, given what `gmtime_r`
returned. -/
def timeToHttpdate (gmtime : Option Tm) : Option (List Char) :=
  match gmtime with
  | none => none
  | some tm => if (httpDate tm).length < 40 then some (httpDate tm) else none

/-! ### The request -/

/-- A request as a handler sees it: its parameters, its body, and `gmtime_r` of
the time at which it is handled. -/
structure Params where
  requestMethod : List Char
  documentUri : List Char
  contentLength : List Char
  contentType : List Char
  body : List Char
  gmtime : Option Tm

/-- A document with the date of the call. -/
def datedPage (contentType : String) (timeStr payload : List Char) : List (List Char) :=
  ["Content-Type: ".toList ++ contentType.toList ++ "\r\n".toList,
   "Content-Length: ".toList ++ printSize payload.length ++ "\r\n".toList,
   "Cache-Control: max-age=0, no-store\r\n".toList,
   "Last-Modified: ".toList ++ timeStr ++ "\r\n".toList,
   "\r\n".toList,
   payload]

/-! ### `http_req_jpeg` -/

/-- `http_req_jpeg::handle`, given the frame that the image callback leaves in
the buffer. -/
def httpReqJpeg (frameBuf : List Char) (req : Params) : Except Exception (List (List Char)) :=
  if parseReqMethod req.requestMethod ≠ .get then .error (badRequest "Only GET is accepted")
  else if frameBuf ≠ [] then
    match timeToHttpdate req.gmtime with
    | none => .error (internalServerError "Could not get Last-Modified timestamp")
    | some timeStr => .ok (datedPage "image/jpeg" timeStr frameBuf)
  else .ok ["Status: 500 Internal Error\r\n".toList]

/-! ### `http_req_jsonrpc` -/

/-- `jsonrpc::Server::HandleRequest`: it throws, or it returns formatted data or
a null pointer. -/
abbrev JsonrpcServer := List Char → Except (List Char) (Option (List Char))

def maxReqLen : Int := 16 * 1024

def jsonrpcPage (status : String) (length payload : List Char) : List (List Char) :=
  ["Content-Type: application/json\r\n".toList,
   "Content-Length: ".toList ++ length ++ "\r\n".toList,
   "Status: ".toList ++ status.toList ++ "\r\n".toList,
   "Cache-Control: max-age=0, no-store\r\n".toList,
   "\r\n".toList,
   payload]

def serverError : List Char :=
  "\x7b\"jsonrpc\": \"2.0\", \"error\": \x7b\"code\": -32000, \"message\": \"Server Error\"\x7d, \"id\": null\x7d".toList

/-- The response to what the server returned. -/
def jsonrpcResponse : Option (List Char) → List (List Char)
  | some data =>
    if data.length = 0 then jsonrpcPage "204 No Response" "0".toList []
    else jsonrpcPage "200 OK" (printSize data.length) data
  | none => jsonrpcPage "500 Internal Error" (printSize serverError.length) serverError

/-- `http_req_jsonrpc::handle` -/
def httpReqJsonrpc (server : JsonrpcServer) (req : Params) : Except Exception (List (List Char)) :=
  if parseReqMethod req.requestMethod ≠ .post then .error (badRequest "Only POST is accepted")
  else
    match sscanf [.conv readInt] req.contentLength with
    | [reqLen] =>
      if reqLen < 0 ∨ reqLen > maxReqLen then .error (badRequest "CONTENT_LENGTH is invalid")
      else if req.contentType.length = 0 then .error (badRequest "CONTENT_TYPE is invalid")
      else if req.contentType.take 16 ≠ "application/json".toList then
        .error (badRequest "CONTENT_TYPE is invalid")
      else if ((req.body.take reqLen.toNat).length : Int) ≠ reqLen then
        .error (internalServerError "Read did not return expected length")
      else
        match server (req.body.take reqLen.toNat) with
        | .error _ => .error (internalServerError "Error handling jsonrpc request")
        | .ok result => .ok (jsonrpcResponse result)
    | _ => .error (badRequest "Could not parse CONTENT_LENGTH")

/-! ### `http_req_callback_sensors` -/

/-- What a URI of the sensor API names. -/
inductive Route
  | types
  | type (sensortype : List Char)
  | sensors (sensortype : List Char)
  | sensor (sensortype sensorid : List Char)
  deriving DecidableEq, Repr

def isWord (c : Char) : Bool := c.isAlphanum || c == '_'

/-- `(?<hassensors>/sensors(?<hasid>/(?<sensorid>\d+))?)?` up to the end. -/
def matchSensors (sensortype : List Char) (s : List Char) : Option Route :=
  if s = [] then some (.type sensortype)
  else
    match s.dropPrefix? "/sensors".toList with
    | none => none
    | some rest =>
      match rest with
      | [] => some (.sensors sensortype)
      | '/' :: ds => if ds ≠ [] ∧ ds.all Char.isDigit then some (.sensor sensortype ds) else none
      | _ => none

/-- The match against `sensor_uri_regex`, up to the end of the text. -/
def matchUri (uri : List Char) : Option Route :=
  match uri.dropPrefix? "/api/v1/sensor_types".toList with
  | none => none
  | some rest =>
    match rest with
    | [] => some .types
    | '/' :: s =>
      if s.takeWhile isWord = [] then none
      else matchSensors (s.takeWhile isWord) (s.dropWhile isWord)
    | _ => none

/-- `boost::property_tree::ptree` -/
abbrev Document := Ptree (List Char) (List Char)

/-- `put(key, text)` for each key in turn, with `put_child` for a subtree. -/
def object (fields : List (String × Document)) : Document :=
  .node [] (fields.map (fun f => (f.1.toList, f.2)))

def textNode (s : List Char) : Document := .node s []

/-- What the sensors read, and `Ptree_util::ptree_to_json_str`. -/
structure Sensors where
  baroData : List Char
  tempData : List Char
  /-- how `linux_thermal_zone::sample` is left -/
  sampleExit : SampleExit
  /-- the text of what it throws -/
  sampleWhat : List Char
  ptreeToJsonStr : Document → List Char

/-- One sample of a sensor. -/
def sensorData (value : List Char) (unit name : String) : Document :=
  object
    [("sample", object
       [("value", textNode value), ("unit", textNode unit.toList),
        ("timestamp", textNode "0".toList)]),
     ("name", textNode name.toList),
     ("location", textNode "external".toList)]

/-- The sensors of one type. -/
def sensorList (name : String) : Document :=
  object [("sensors", object
    [("", object [("name", textNode name.toList), ("id", textNode "0".toList)])])]

def sensorTypes : Document :=
  object [("sensor_types", object
    [("", object [("type", textNode "pressure".toList)]),
     ("", object [("type", textNode "temperature".toList)])])]

/-- The second temperature: `response_str` stays empty when `sample` returns, whatever it
returns. -/
def boardResponse (s : Sensors) : Except Fault (List Char) :=
  match s.sampleExit with
  | .returned _ => .ok []
  | .threw => .error (.throws (.stdException s.sampleWhat))
  | .undefined => .error .undefined

/-- `response_str` -/
def sensorResponse (s : Sensors) : Route → Except Fault (List Char)
  | .sensor sensortype sensorid =>
    if sensortype = "pressure".toList then
      if sensorid = "0".toList then
        .ok (s.ptreeToJsonStr (sensorData s.baroData "mbar" "pressure-0"))
      else .error (.throws (notFoundError "sensorid does not exist"))
    else if sensortype = "temperature".toList then
      if sensorid = "0".toList then
        .ok (s.ptreeToJsonStr (sensorData s.tempData "degC" "temperature-0"))
      else if sensorid = "1".toList then boardResponse s
      else .error (.throws (notFoundError "sensorid does not exist"))
    else .error (.throws (notFoundError "sensortype does not exist"))
  | .sensors sensortype =>
    if sensortype = "pressure".toList then .ok (s.ptreeToJsonStr (sensorList "pressure-0"))
    else if sensortype = "temperature".toList then .ok (s.ptreeToJsonStr (sensorList "temperature-0"))
    else .error (.throws (notFoundError "Not Found"))
  | .type _ => .error (.throws (methodNotAllowed "Method Not Allowed"))
  | .types => .ok (s.ptreeToJsonStr sensorTypes)

/-- `http_req_callback_sensors::handle` -/
def httpReqCallbackSensors (s : Sensors) (req : Params) : Except Fault (List (List Char)) :=
  if parseReqMethod req.requestMethod ≠ .get then
    .error (.throws (methodNotAllowed "Only GET is accepted"))
  else
    match matchUri req.documentUri with
    | none => .error (.throws (notFoundError "Not Found"))
    | some route =>
      match sensorResponse s route with
      | .error e => .error e
      | .ok responseStr =>
        match timeToHttpdate req.gmtime with
        | none => .error (.throws (internalServerError "Could not get Last-Modified timestamp"))
        | some timeStr =>
          if responseStr = [] then .error (.throws (serviceUnavailable "Service Unavailable"))
          else .ok (datedPage "application/json" timeStr responseStr)

end Opaleye.Http
