import TopicGateway.Proofs.Gateway.Field
import TopicGateway.Proofs.Gateway.Sending

/-! What an accepted request has sent and answered, route by route. Each route is opened once here: for
what it has read of the body, and for its message and its answer. The later facts about these are case
distinctions on `Ready`, or start from what was read; none of them opens the routes again. -/
namespace TopicGateway.Gateway

open Message
open Broker (Memory Topology)

/-- The message that each route makes of a request, and what it answers. -/
inductive Ready (defaults : Defaults) (draws : Draws) (r : Http.Request) : Route → Prepared → Prop
  | backtest (q : BacktestRequest) : Ready defaults draws r .backtest {
      routingKey := Kind.backtest.messageType
      envelope := Template.backtest defaults draws.stamp q
      answer := .object [
        ("message", .string "backtest request sent"),
        ("message_id", .string draws.stamp.messageId.text),
        ("correlation_id",
          .string (Template.backtest defaults draws.stamp q).correlationId)] }
  | strategyUpload (q : StrategyRequest) : Ready defaults draws r .strategyUpload {
      routingKey := Kind.strategyUpload.messageType
      envelope := Template.strategyUpload defaults draws.stamp q
      answer := .object [
        ("message", .string "strategy uploaded"),
        ("strategy_id", .string q.strategyId),
        ("message_id", .string draws.stamp.messageId.text)] }
  | dataRequest (q : DataQuery) : Ready defaults draws r .dataRequest {
      routingKey := Kind.dataRequest.messageType
      envelope := Template.dataRequest defaults draws.stamp q
      answer := .object [
        ("message", .string "data request sent"),
        ("message_id", .string draws.stamp.messageId.text)] }
  | fileUpload {q : FileRequest} (file : FileUpload)
      (filled : Template.filePayload defaults draws.uploadTime q = .ok file) :
      Ready defaults draws r .fileUpload {
      routingKey := Kind.fileUpload.messageType
      envelope := Template.ofKind draws.stamp .fileUpload (.fileUpload file)
      answer := .object [
        ("message", .string "file uploaded"),
        ("file_name", .string file.fileName),
        ("file_size", .number (sizeNumber file.fileSize)),
        ("message_id", .string draws.stamp.messageId.text)] }
  | custom {j payload : Json} (key : String) (type correlation : Option String)
      (written : Json.read r.body.data.toList = .ok j)
      (member : j.member? "payload" = some payload) : Ready defaults draws r .custom {
      routingKey := key
      envelope := Template.custom draws.stamp type payload.value correlation
      answer := .object [
        ("message", .string "custom message sent"),
        ("message_id", .string draws.stamp.messageId.text),
        ("routing_key", .string key),
        ("correlation_id",
          .string (Template.custom draws.stamp type payload.value correlation).correlationId)] }

section Routes

variable {defaults : Defaults} {draws : Draws} {r : Http.Request} {p : Prepared}

theorem prepareBacktest_eq_ok (ready : prepareBacktest defaults draws r = .ok p) :
    ∃ q : BacktestRequest, saidText? r "strategy_id" = some q.strategyId ∧
      saidText? r "start_date" = some q.startDate ∧ saidText? r "end_date" = some q.endDate ∧
      said? r "initial_capital" = some (.number q.initialCapital) ∧
      p.envelope = Template.backtest defaults draws.stamp q ∧ Ready defaults draws r .backtest p := by
  obtain ⟨o, object, ready⟩ := bind_eq_ok ready
  obtain ⟨_, _, ready⟩ := bind_eq_ok ready
  obtain ⟨strategyId, id_read, ready⟩ := bind_eq_ok ready
  obtain ⟨startDate, start_read, ready⟩ := bind_eq_ok ready
  obtain ⟨endDate, end_read, ready⟩ := bind_eq_ok ready
  obtain ⟨capital, capital_read, ready⟩ := bind_eq_ok ready
  obtain ⟨instruments, _, ready⟩ := bind_eq_ok ready
  cases ready
  exact ⟨⟨strategyId, startDate, endDate, capital, instruments⟩,
    saidText?_of_stringField object id_read, saidText?_of_stringField object start_read,
    saidText?_of_stringField object end_read, said?_of_numberField object capital_read, rfl,
    .backtest _⟩

theorem prepareStrategy_eq_ok (ready : prepareStrategy defaults draws r = .ok p) :
    ∃ q : StrategyRequest,
      ((r.bodyKind = .multipart ∧
          ∃ form, readForm r = .ok form ∧ strategyFromForm draws form = .ok q) ∨
        (r.bodyKind = .json ∧ ∃ o, readObject r = .ok o ∧ strategyFromObject draws o = .ok q)) ∧
      p = {
        routingKey := Kind.strategyUpload.messageType
        envelope := Template.strategyUpload defaults draws.stamp q
        answer := .object [
          ("message", .string "strategy uploaded"),
          ("strategy_id", .string q.strategyId),
          ("message_id", .string draws.stamp.messageId.text)] } := by
  unfold prepareStrategy at ready
  dsimp only at ready
  split at ready
  · next kind =>
    obtain ⟨form, read, ready⟩ := bind_eq_ok ready
    obtain ⟨q, taken, ready⟩ := bind_eq_ok ready
    cases ready
    exact ⟨q, .inl ⟨kind, form, read, taken⟩, rfl⟩
  · next kind =>
    obtain ⟨o, read, ready⟩ := bind_eq_ok ready
    obtain ⟨q, taken, ready⟩ := bind_eq_ok ready
    cases ready
    exact ⟨q, .inr ⟨kind, o, read, taken⟩, rfl⟩
  · cases ready

theorem prepareData_eq_ok (ready : prepareData defaults draws r = .ok p) :
    ∃ q : DataQuery, saidText? r "instrument_id" = some q.instrumentId ∧
      saidText? r "start_date" = some q.startDate ∧ saidText? r "end_date" = some q.endDate ∧
      saidText? r "frequency" = q.frequency ∧
      p.envelope = Template.dataRequest defaults draws.stamp q ∧
      Ready defaults draws r .dataRequest p := by
  obtain ⟨o, object, ready⟩ := bind_eq_ok ready
  obtain ⟨_, _, ready⟩ := bind_eq_ok ready
  obtain ⟨instrumentId, id_read, ready⟩ := bind_eq_ok ready
  obtain ⟨startDate, start_read, ready⟩ := bind_eq_ok ready
  obtain ⟨endDate, end_read, ready⟩ := bind_eq_ok ready
  obtain ⟨frequency, frequency_read, ready⟩ := bind_eq_ok ready
  cases ready
  exact ⟨⟨instrumentId, startDate, endDate, frequency⟩, saidText?_of_stringField object id_read,
    saidText?_of_stringField object start_read, saidText?_of_stringField object end_read,
    saidText?_of_optionalString object frequency_read, rfl, .dataRequest _⟩

theorem prepareFile_eq_ok (ready : prepareFile defaults draws r = .ok p) :
    ∃ (q : FileRequest) (file : FileUpload),
      (r.bodyKind = .json → ∃ o, readObject r = .ok o ∧ fileFromObject o = .ok q) ∧
      Template.filePayload defaults draws.uploadTime q = .ok file ∧
      p.envelope = Template.ofKind draws.stamp .fileUpload (.fileUpload file) ∧
      Ready defaults draws r .fileUpload p := by
  unfold prepareFile at ready
  dsimp only at ready
  split at ready
  · next kind =>
    obtain ⟨form, _, ready⟩ := bind_eq_ok ready
    obtain ⟨q, _, ready⟩ := bind_eq_ok ready
    obtain ⟨file, filled, ready⟩ := bind_eq_ok ready
    cases ready
    have filled := mapError_eq_ok filled
    exact ⟨q, file, fun json => absurd (kind.symm.trans json) nofun, filled, rfl,
      .fileUpload file filled⟩
  · obtain ⟨o, object, ready⟩ := bind_eq_ok ready
    obtain ⟨q, taken, ready⟩ := bind_eq_ok ready
    obtain ⟨file, filled, ready⟩ := bind_eq_ok ready
    cases ready
    have filled := mapError_eq_ok filled
    exact ⟨q, file, fun _ => ⟨o, object, taken⟩, filled, rfl, .fileUpload file filled⟩
  · cases ready

theorem prepareCustom_eq_ok (ready : prepareCustom draws r = .ok p) :
    saidText? r "routing_key" = some p.routingKey ∧
    ∃ payload, said? r "payload" = some payload ∧
      p.envelope = Template.custom draws.stamp (saidText? r "message_type") payload.value
        (saidText? r "correlation_id") ∧
      ∀ defaults, Ready defaults draws r .custom p := by
  obtain ⟨o, object, ready⟩ := bind_eq_ok ready
  obtain ⟨_, present, ready⟩ := bind_eq_ok ready
  obtain ⟨key, key_read, ready⟩ := bind_eq_ok ready
  dsimp only at ready
  split at ready
  · cases ready
  obtain ⟨type, type_read, ready⟩ := bind_eq_ok ready
  obtain ⟨correlation, correlation_read, ready⟩ := bind_eq_ok ready
  obtain ⟨found, given⟩ := requireFields_eq_ok present "payload" (by decide)
  have looked := given
  rw [get?_of_readObject object] at looked
  obtain ⟨payload, said, rfl⟩ := Option.map_eq_some_iff.1 looked
  obtain ⟨j, written, member⟩ := said?_eq_some said
  -- What is kept of the payload has the value that the payload has in the body.
  have value : ((o.get? "payload").getD .null).value = payload.value := by
    rw [given, Option.getD_some, Json.value_canonical]
  rw [value] at ready
  cases ready
  rw [saidText?_of_optionalString object type_read,
    saidText?_of_optionalString object correlation_read]
  exact ⟨saidText?_of_stringField object key_read, payload, said, rfl,
    fun _ => .custom key type correlation written member⟩

theorem ready_of_prepare {route : Route} (ready : route.prepare defaults draws r = .ok p) :
    Ready defaults draws r route p := by
  cases route with
  | backtest =>
    obtain ⟨_, _, _, _, _, _, made⟩ := prepareBacktest_eq_ok ready
    exact made
  | strategyUpload =>
    obtain ⟨q, _, rfl⟩ := prepareStrategy_eq_ok ready
    exact .strategyUpload q
  | dataRequest =>
    obtain ⟨_, _, _, _, _, _, made⟩ := prepareData_eq_ok ready
    exact made
  | fileUpload =>
    obtain ⟨_, _, _, _, _, made⟩ := prepareFile_eq_ok ready
    exact made
  | custom =>
    obtain ⟨_, _, _, _, made⟩ := prepareCustom_eq_ok ready
    exact made defaults

end Routes

section Requests

variable {s : Settings} {topology : Topology} {draws : Draws} {r : Http.Request} {broker : Memory}

/-- An accepted request made a message, which the broker now holds behind the others. -/
theorem accepted_cases (accepted : Accepted r (serve s topology draws r broker).1) :
    ∃ route p, Route.ofPath? r.route = some route ∧ Ready s.defaults draws r route p ∧
      serve s topology draws r broker =
        (jsonAnswer 200 p.answer, broker.delivered topology (outgoing draws p)) := by
  obtain ⟨route, p, path, prepared, answered, went⟩ := accepted_sent accepted
  exact ⟨route, p, path, ready_of_prepare prepared,
    Prod.ext answered (Memory.delivered_of_publishFresh went)⟩

end Requests

end TopicGateway.Gateway
