import TopicGateway.Broker.Topology
import TopicGateway.Gateway.Field
import TopicGateway.Http.Form

/-! Requests to publish. Each route turns a request into a message that is ready to be sent, or
refuses it. Nothing here touches the broker: what is drawn at random or read from the clock comes in
as `Draws`. -/

namespace TopicGateway.Gateway

open Message

inductive Route where
  | backtest
  | strategyUpload
  | dataRequest
  | fileUpload
  | custom
  deriving DecidableEq

def Route.path : Route → String
  | .backtest => "/api/backtest"
  | .strategyUpload => "/api/strategy/upload"
  | .dataRequest => "/api/data/request"
  | .fileUpload => "/api/file/upload"
  | .custom => "/api/message/custom"

def Route.all : List Route := [.backtest, .strategyUpload, .dataRequest, .fileUpload, .custom]

def Route.ofPath? (path : String) : Option Route :=
  Route.all.find? (·.path = path)

def Route.what : Route → String
  | .backtest => "backtest request"
  | .strategyUpload => "strategy upload"
  | .dataRequest => "data request"
  | .fileUpload => "file upload"
  | .custom => "custom message"

structure Draws where
  /-- Used where a strategy comes without an identifier. -/
  strategyId : Uuid
  stamp : Stamp
  uploadTime : Time.Instant
  /-- The time of sending in seconds since 1970. -/
  sentAt : Int
  /-- The time of answering. -/
  now : Time.Instant

/-- A message that is ready to be sent, with the body of the answer to its success. -/
structure Prepared where
  routingKey : String
  envelope : Envelope
  answer : Json

variable (defaults : Defaults) (draws : Draws)

def prepareBacktest (r : Http.Request) : Except Refusal Prepared := do
  let o ← readObject r
  requireFields o ["strategy_id", "start_date", "end_date", "initial_capital", "instruments"]
  let strategyId ← stringField o "strategy_id"
  let startDate ← stringField o "start_date"
  let endDate ← stringField o "end_date"
  let initialCapital ← numberField o "initial_capital"
  let instruments ← stringsField o "instruments"
  let envelope := Template.backtest defaults draws.stamp
    { strategyId, startDate, endDate, initialCapital, instruments }
  return {
    routingKey := Kind.backtest.messageType
    envelope := envelope
    answer := .object [
      ("message", .string "backtest request sent"),
      ("message_id", .string envelope.messageId.text),
      ("correlation_id", .string envelope.correlationId)] }

def defaultName (strategyId : String) : String := "Strategy_" ++ strategyId

def strategyFromForm (form : Http.Form) : Except Refusal StrategyRequest :=
  match form.file with
  | none => .error .missingFile
  | some file =>
    match Text.Utf8.decode? file.content with
    | none => .error (.invalidField "file" "strategy file is not valid UTF-8")
    | some code =>
      let strategyId := (form.field "strategy_id").getD draws.strategyId.text
      let fallback := if file.fileName = "" then defaultName strategyId else file.fileName
      .ok {
        strategyId := strategyId
        name := (form.field "strategy_name").getD fallback
        code := code
        version := form.field "version" }

def strategyFromObject (o : Json.Object) : Except Refusal StrategyRequest := do
  requireFields o ["code"]
  let strategyId := (← optionalString o "strategy_id").getD draws.strategyId.text
  let name := (← optionalString o "strategy_name").getD (defaultName strategyId)
  let code ← stringField o "code"
  let version ← optionalString o "version"
  return { strategyId, name, code, version }

def readForm (r : Http.Request) : Except Refusal Http.Form :=
  (Http.Form.read bodyLimit r).mapError fun fault => .malformedBody fault.message

def prepareStrategy (r : Http.Request) : Except Refusal Prepared := do
  let request ← match r.bodyKind with
    | .multipart => do strategyFromForm draws (← readForm r)
    | .json => do strategyFromObject draws (← readObject r)
    | .other => .error .unsupportedFormat
  let envelope := Template.strategyUpload defaults draws.stamp request
  return {
    routingKey := Kind.strategyUpload.messageType
    envelope := envelope
    answer := .object [
      ("message", .string "strategy uploaded"),
      ("strategy_id", .string request.strategyId),
      ("message_id", .string envelope.messageId.text)] }

def prepareData (r : Http.Request) : Except Refusal Prepared := do
  let o ← readObject r
  requireFields o ["instrument_id", "start_date", "end_date"]
  let instrumentId ← stringField o "instrument_id"
  let startDate ← stringField o "start_date"
  let endDate ← stringField o "end_date"
  let frequency ← optionalString o "frequency"
  let envelope := Template.dataRequest defaults draws.stamp
    { instrumentId, startDate, endDate, frequency }
  return {
    routingKey := Kind.dataRequest.messageType
    envelope := envelope
    answer := .object [
      ("message", .string "data request sent"),
      ("message_id", .string envelope.messageId.text)] }

def fileFromForm (form : Http.Form) : Except Refusal FileRequest :=
  match form.file with
  | none => .error .missingFile
  | some file =>
    if file.fileName = "" then .error .noFileSelected
    else
      .ok {
        fileName := file.fileName
        fileContent := Base64.text file.content
        fileType := form.field "file_type"
        relatedId := form.field "related_id" }

def fileFromObject (o : Json.Object) : Except Refusal FileRequest := do
  requireFields o ["file_name", "file_content"]
  let fileName ← stringField o "file_name"
  if fileName = "" then throw .noFileSelected
  let fileContent ← stringField o "file_content"
  let fileType ← optionalString o "file_type"
  let relatedId ← optionalString o "related_id"
  return { fileName, fileContent, fileType, relatedId }

def prepareFile (r : Http.Request) : Except Refusal Prepared := do
  let request ← match r.bodyKind with
    | .multipart => do fileFromForm (← readForm r)
    | .json => do fileFromObject (← readObject r)
    | .other => .error .missingFile
  let file ←
    (Template.filePayload defaults draws.uploadTime request).mapError Refusal.template
  let envelope := Template.ofKind draws.stamp .fileUpload (.fileUpload file)
  return {
    routingKey := Kind.fileUpload.messageType
    envelope := envelope
    answer := .object [
      ("message", .string "file uploaded"),
      ("file_name", .string file.fileName),
      ("file_size", .number (sizeNumber file.fileSize)),
      ("message_id", .string envelope.messageId.text)] }

def prepareCustom (r : Http.Request) : Except Refusal Prepared := do
  let o ← readObject r
  requireFields o ["routing_key", "payload"]
  let routingKey ← stringField o "routing_key"
  if Text.blank routingKey then throw (.invalidField "routing_key" "must not be empty")
  let messageType ← optionalString o "message_type"
  let correlationId ← optionalString o "correlation_id"
  let payload := ((o.get? "payload").getD .null).value
  let envelope := Template.custom draws.stamp messageType payload correlationId
  return {
    routingKey := routingKey
    envelope := envelope
    answer := .object [
      ("message", .string "custom message sent"),
      ("message_id", .string envelope.messageId.text),
      ("routing_key", .string routingKey),
      ("correlation_id", .string envelope.correlationId)] }

def Route.prepare : Route → Http.Request → Except Refusal Prepared
  | .backtest => prepareBacktest defaults draws
  | .strategyUpload => prepareStrategy defaults draws
  | .dataRequest => prepareData defaults draws
  | .fileUpload => prepareFile defaults draws
  | .custom => prepareCustom draws

end TopicGateway.Gateway
