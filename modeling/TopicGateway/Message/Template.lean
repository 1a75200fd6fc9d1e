import TopicGateway.Base64
import TopicGateway.Message.Envelope

/-! Message templates. Each template fills a payload from what the caller supplies and from the
defaults, and puts it into a new envelope. Execution and risk settings always come from the
defaults. -/

namespace TopicGateway.Message

structure BacktestRequest where
  strategyId : String
  startDate : String
  endDate : String
  initialCapital : Json.Number
  instruments : List String

structure StrategyRequest where
  strategyId : String
  name : String
  code : String
  version : Option String

structure DataQuery where
  instrumentId : String
  startDate : String
  endDate : String
  frequency : Option String

structure FileRequest where
  fileName : String
  /-- The content in base64. -/
  fileContent : String
  fileType : Option String
  relatedId : Option String

namespace Template

variable (defaults : Defaults) (stamp : Stamp)

/-- An envelope under the fixed message type of its payload's kind. -/
def ofKind (kind : Kind) (payload : Payload) : Envelope :=
  Envelope.build stamp kind.messageType payload none

def backtest (r : BacktestRequest) : Envelope :=
  ofKind stamp .backtest (.backtest {
    strategyId := r.strategyId
    startDate := r.startDate
    endDate := r.endDate
    initialCapital := r.initialCapital
    instruments := r.instruments
    execution := defaults.execution
    risk := defaults.risk })

def strategyUpload (r : StrategyRequest) : Envelope :=
  ofKind stamp .strategyUpload (.strategyUpload {
    strategyId := r.strategyId
    name := r.name
    version := r.version.getD defaults.strategy.version
    code := r.code
    parameters := .empty
    tags := defaults.strategy.tags })

def dataRequest (r : DataQuery) : Envelope :=
  ofKind stamp .dataRequest (.dataRequest {
    instrumentId := r.instrumentId
    startDate := r.startDate
    endDate := r.endDate
    frequency := r.frequency.getD defaults.frequency })

/-- The payload of an uploaded file; its size is that of the decoded content. -/
def filePayload (uploadTime : Time.Instant) (r : FileRequest) : Except Base64.Fault FileUpload :=
  match Base64.decodeText r.fileContent with
  | .error e => .error e
  | .ok content =>
    .ok {
      fileName := r.fileName
      fileContent := r.fileContent
      fileType := r.fileType.getD defaults.fileType
      fileSize := UInt64.ofNat content.length
      relatedId := r.relatedId
      uploadTime := uploadTime }

def fileUpload (uploadTime : Time.Instant) (r : FileRequest) : Except Base64.Fault Envelope :=
  (filePayload defaults uploadTime r).map fun p => ofKind stamp .fileUpload (.fileUpload p)

def customType : String := "custom"

/-- Any payload under any message type; a blank type counts as none. -/
def custom (messageType : Option String) (payload : Json.Value) (correlationId : Option String) :
    Envelope :=
  Envelope.build stamp ((Text.nonBlank messageType).getD customType) (.custom payload)
    correlationId

def faultMessage (e : Base64.Fault) : String :=
  "file_content is not valid base64: " ++ e.message

end Template

end TopicGateway.Message
