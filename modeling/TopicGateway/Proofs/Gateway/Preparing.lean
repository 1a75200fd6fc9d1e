import TopicGateway.Gateway.Route

/-! What can go wrong before a message is ready. Reading a request and filling a template only ever
refuse what the caller sent: no route refuses a request as a failure of its own. -/
namespace TopicGateway.Gateway

/-- Whatever is refused here is the caller's fault. -/
def CallerFaults {α : Type} (x : Except Refusal α) : Prop :=
  ∀ refusal, x = .error refusal → refusal.status = 400

section Closure

variable {α β : Type} {x : Except Refusal α}

theorem callerFaults_ok (a : α) : CallerFaults (.ok a) := by
  intro refusal impossible
  cases impossible

theorem callerFaults_error {refusal : Refusal} (status : refusal.status = 400) :
    CallerFaults (.error refusal : Except Refusal α) := by
  intro given eq
  cases eq
  exact status

theorem callerFaults_bind {f : α → Except Refusal β} (first : CallerFaults x)
    (rest : ∀ a, CallerFaults (f a)) : CallerFaults (x >>= f) := by
  cases x with
  | error refusal => exact callerFaults_error (first refusal rfl)
  | ok a => exact rest a

theorem callerFaults_map (f : α → β) (first : CallerFaults x) : CallerFaults (x.map f) := by
  cases x with
  | error refusal => exact callerFaults_error (first refusal rfl)
  | ok a => exact callerFaults_ok (f a)

theorem callerFaults_mapError {ε : Type} {f : ε → Refusal} (status : ∀ e, (f e).status = 400)
    (y : Except ε α) : CallerFaults (y.mapError f) := by
  cases y with
  | error e => exact callerFaults_error (status e)
  | ok a => exact callerFaults_ok a

end Closure

theorem readObject_faults (r : Http.Request) : CallerFaults (readObject r) := by
  unfold readObject parseObject
  split
  · exact callerFaults_error rfl
  · split
    · exact callerFaults_error rfl
    · split
      · exact callerFaults_ok _
      · exact callerFaults_error rfl

theorem readForm_faults (r : Http.Request) : CallerFaults (readForm r) :=
  callerFaults_mapError (fun _ => rfl) _

variable (o : Json.Object) (name : String)

theorem requireFields_faults (names : List String) : CallerFaults (requireFields o names) := by
  unfold requireFields
  split
  · exact callerFaults_error rfl
  · exact callerFaults_ok _

theorem textOf_faults (j : Json) : CallerFaults (textOf name j) := by
  unfold textOf
  split
  · exact callerFaults_ok _
  · exact callerFaults_error rfl

theorem stringField_faults : CallerFaults (stringField o name) := by
  unfold stringField
  split
  · exact callerFaults_error rfl
  · exact textOf_faults name _

theorem optionalString_faults : CallerFaults (optionalString o name) := by
  unfold optionalString
  split
  · exact callerFaults_ok _
  · exact callerFaults_ok _
  · exact callerFaults_map some (textOf_faults name _)

theorem numberField_faults : CallerFaults (numberField o name) := by
  unfold numberField
  split
  · exact callerFaults_error rfl
  · exact callerFaults_ok _
  · exact callerFaults_error rfl

theorem textsOf_faults (items : List Json) : CallerFaults (textsOf name items) := by
  induction items with
  | nil => exact callerFaults_ok _
  | cons j items ih =>
    cases j with
    | string s => exact callerFaults_map (s :: ·) ih
    | null | bool _ | number _ | array _ | object _ => exact callerFaults_error rfl

theorem stringsField_faults : CallerFaults (stringsField o name) := by
  unfold stringsField
  split
  · exact callerFaults_error rfl
  · exact textsOf_faults name _
  · exact callerFaults_error rfl

variable (defaults : Message.Defaults) (draws : Draws) (r : Http.Request)

theorem prepareBacktest_faults : CallerFaults (prepareBacktest defaults draws r) := by
  refine callerFaults_bind (readObject_faults r) fun o => ?_
  refine callerFaults_bind (requireFields_faults o _) fun _ => ?_
  refine callerFaults_bind (stringField_faults o _) fun _ => ?_
  refine callerFaults_bind (stringField_faults o _) fun _ => ?_
  refine callerFaults_bind (stringField_faults o _) fun _ => ?_
  refine callerFaults_bind (numberField_faults o _) fun _ => ?_
  exact callerFaults_bind (stringsField_faults o _) fun _ => callerFaults_ok _

theorem strategyFromForm_faults (form : Http.Form) :
    CallerFaults (strategyFromForm draws form) := by
  unfold strategyFromForm
  split
  · exact callerFaults_error rfl
  · split
    · exact callerFaults_error rfl
    · exact callerFaults_ok _

theorem strategyFromObject_faults : CallerFaults (strategyFromObject draws o) := by
  refine callerFaults_bind (requireFields_faults o _) fun _ => ?_
  refine callerFaults_bind (optionalString_faults o _) fun _ => ?_
  refine callerFaults_bind (optionalString_faults o _) fun _ => ?_
  refine callerFaults_bind (stringField_faults o _) fun _ => ?_
  exact callerFaults_bind (optionalString_faults o _) fun _ => callerFaults_ok _

theorem prepareStrategy_faults : CallerFaults (prepareStrategy defaults draws r) := by
  unfold prepareStrategy
  dsimp only
  split
  · refine callerFaults_bind (readForm_faults r) fun form => ?_
    exact callerFaults_bind (strategyFromForm_faults draws form) fun _ => callerFaults_ok _
  · refine callerFaults_bind (readObject_faults r) fun o => ?_
    exact callerFaults_bind (strategyFromObject_faults o draws) fun _ => callerFaults_ok _
  · exact callerFaults_error rfl

theorem prepareData_faults : CallerFaults (prepareData defaults draws r) := by
  refine callerFaults_bind (readObject_faults r) fun o => ?_
  refine callerFaults_bind (requireFields_faults o _) fun _ => ?_
  refine callerFaults_bind (stringField_faults o _) fun _ => ?_
  refine callerFaults_bind (stringField_faults o _) fun _ => ?_
  refine callerFaults_bind (stringField_faults o _) fun _ => ?_
  exact callerFaults_bind (optionalString_faults o _) fun _ => callerFaults_ok _

theorem fileFromForm_faults (form : Http.Form) : CallerFaults (fileFromForm form) := by
  unfold fileFromForm
  split
  · exact callerFaults_error rfl
  · split
    · exact callerFaults_error rfl
    · exact callerFaults_ok _

theorem fileFromObject_faults : CallerFaults (fileFromObject o) := by
  refine callerFaults_bind (requireFields_faults o _) fun _ => ?_
  refine callerFaults_bind (stringField_faults o _) fun fileName => ?_
  dsimp only
  split
  · exact callerFaults_error rfl
  · refine callerFaults_bind (stringField_faults o _) fun _ => ?_
    refine callerFaults_bind (optionalString_faults o _) fun _ => ?_
    exact callerFaults_bind (optionalString_faults o _) fun _ => callerFaults_ok _

theorem prepareFile_faults : CallerFaults (prepareFile defaults draws r) := by
  have filled (request : Message.FileRequest) : CallerFaults
      ((Message.Template.filePayload defaults draws.uploadTime request).mapError
        Refusal.template) := callerFaults_mapError (fun _ => rfl) _
  unfold prepareFile
  dsimp only
  split
  · refine callerFaults_bind (readForm_faults r) fun form => ?_
    refine callerFaults_bind (fileFromForm_faults form) fun request => ?_
    exact callerFaults_bind (filled request) fun _ => callerFaults_ok _
  · refine callerFaults_bind (readObject_faults r) fun o => ?_
    refine callerFaults_bind (fileFromObject_faults o) fun request => ?_
    exact callerFaults_bind (filled request) fun _ => callerFaults_ok _
  · exact callerFaults_error rfl

theorem prepareCustom_faults : CallerFaults (prepareCustom draws r) := by
  refine callerFaults_bind (readObject_faults r) fun o => ?_
  refine callerFaults_bind (requireFields_faults o _) fun _ => ?_
  refine callerFaults_bind (stringField_faults o _) fun _ => ?_
  dsimp only
  split
  · exact callerFaults_error rfl
  · refine callerFaults_bind (optionalString_faults o _) fun _ => ?_
    exact callerFaults_bind (optionalString_faults o _) fun _ => callerFaults_ok _

/-- A request that no message is made of is answered as the caller's fault. -/
theorem prepare_faults (route : Route) : CallerFaults (route.prepare defaults draws r) := by
  cases route with
  | backtest => exact prepareBacktest_faults defaults draws r
  | strategyUpload => exact prepareStrategy_faults defaults draws r
  | dataRequest => exact prepareData_faults defaults draws r
  | fileUpload => exact prepareFile_faults defaults draws r
  | custom => exact prepareCustom_faults draws r

end TopicGateway.Gateway
