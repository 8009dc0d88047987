import AttributePrinter.Proofs.Cutting
import AttributePrinter.Proofs.Failing

/-!
# What a failed run tells

The report of a failure names its stage and ends with the innermost cause, word for word. Between
the two there is at most one more message, which says the innermost cause again; what it says again
is cut unless messages are wanted as they are. The paths and names in a message may be any bytes,
and so may be what a message ends with before the cut.
-/

namespace AttributePrinter

section Ends

theorem toList_getLast?_append {tail : String} {c : Char} (last : tail.toList.getLast? = some c)
    (front : String) : (front ++ tail).toList.getLast? = some c := by
  rw [String.toList_append, List.getLast?_append, last, Option.some_or]

theorem SystemError.HasCode.message_ends {error : SystemError} (h : error.HasCode) :
    error.message.toList.getLast? = some ')' := by
  cases error with
  | code n => exact toList_getLast?_append (by decide : ")".toList.getLast? = some ')') _
  | kind | custom | nothingTaken => cases h

theorem Setting.Error.message_ends (error : Setting.Error) :
    error.message.toList.getLast? = some ')' :=
  toList_getLast?_append
    (by decide : " in `GETXATTR_` environment variable(s)".toList.getLast? = some ')') _

end Ends

/-- The path as messages show it, without the colons at its end. -/
def Invocation.clippedPath (target : Invocation) : String :=
  String.ofList ((Text.ofBytes target.path).rdropWhile (· = ':'))

namespace Program

def oneCause (head root : String) : String :=
  "Error: " ++ head ++ "\n\nCaused by this error:\n  1: " ++ root ++ "\n\n"

/-- Either the whole message above the root is shown, or what is left of it, with a mark and a note
on marks. -/
def twoCauses (raw : Bool) (head whole cut root : String) : String :=
  "Error: " ++ head ++ "\n\nCaused by these errors (recent errors listed first):\n  1: " ++
    (if raw then whole else cut ++ " *") ++ "\n  2: " ++ root ++ "\n" ++
    (if raw then "" else String.ofList Report.note) ++ "\n"

/-- What standard error shows of a failure. -/
def Failure.told (raw : Bool) : Failure → String
  | .config (.invalid error) =>
    twoCauses raw "failed to load config" ("Failed to set configuration: " ++ error.message)
      "Failed to set configuration" error.message
  | .config error => oneCause "failed to load config" error.message
  | .arguments missing => oneCause "invalid arguments" missing.missingMessage
  | .output error =>
    twoCauses raw "failed to print attribute"
      ("could not write attribute value to output: " ++ error.cause.message)
      "could not write attribute value to output" error.cause.message
  | .unavailable (.system target cause) =>
    let asked := "could not get extended file attribute " ++ target.shownName ++ " of "
    twoCauses raw "attribute unavailable" (asked ++ target.shownPath ++ ": " ++ cause.message)
      (asked ++ target.clippedPath) cause.message
  | .unavailable error => oneCause "attribute unavailable" error.message

theorem Failure.plain_head (why : Failure) : Report.Plain why.head.toList := by
  cases why with
  | config => exact (by decide : Report.Plain "failed to load config".toList)
  | arguments => exact (by decide : Report.Plain "invalid arguments".toList)
  | output => exact (by decide : Report.Plain "failed to print attribute".toList)
  | unavailable => exact (by decide : Report.Plain "attribute unavailable".toList)

theorem Failure.head_ne_nil (why : Failure) : why.head.toList ≠ [] := by
  cases why with
  | config => exact (by decide : "failed to load config".toList ≠ [])
  | arguments => exact (by decide : "invalid arguments".toList ≠ [])
  | output => exact (by decide : "failed to print attribute".toList ≠ [])
  | unavailable => exact (by decide : "attribute unavailable".toList ≠ [])

/-- A head is too short to say a cause that stands alone. -/
theorem Failure.head_shorter {why : Failure} {root : String} (causes : why.causes = [root]) :
    why.head.toList.length < root.toList.length := by
  have config : "failed to load config".toList.length = 21 := by decide
  have unavailable : "attribute unavailable".toList.length = 21 := by decide
  cases why with
  | config error =>
    cases error with
    | invalid error => cases causes
    | zeroCapacity =>
      obtain rfl := List.singleton_injective causes
      decide
    | capacityTooLarge capacity =>
      obtain rfl := List.singleton_injective causes
      have hstart : "Buffer capacity of ".toList.length = 19 := by decide
      have hmiddle : " bytes exceeds the ".toList.length = 19 := by decide
      change _ < ("Buffer capacity of " ++ toString capacity ++ " bytes exceeds the " ++
        toString greatestCapacity ++ " byte attribute size limit").toList.length
      simp only [head, String.toList_append, List.length_append]
      omega
  | arguments missing =>
    obtain rfl := List.singleton_injective causes
    cases missing <;> decide
  | output error => cases causes
  | unavailable error =>
    cases error with
    | missing target =>
      obtain rfl := List.singleton_injective causes
      have hstart : "attribute ".toList.length = 10 := by decide
      have hmiddle : " is not set on ".toList.length = 15 := by decide
      change _ < ("attribute " ++ target.shownName ++ " is not set on " ++
        target.shownPath).toList.length
      simp only [head, String.toList_append, List.length_append]
      omega
    | system target cause => cases causes
    | tooLarge target length capacity =>
      obtain rfl := List.singleton_injective causes
      have hback : "only holds ".toList.length = 11 := by decide
      have hmiddle : " bytes but the buffer ".toList.length = 22 := by decide
      change _ < ("attribute " ++ target.shownName ++ " of " ++ target.shownPath ++ " is " ++
        toString length ++ " bytes but the buffer " ++
          ("only holds " ++ toString capacity)).toList.length
      simp only [head, String.toList_append, List.length_append]
      omega

theorem Ending.report_failure (why : Failure) (raw : Bool) (notice : Notice) :
    (Ending.failure why).report raw notice =
      "Error: ".toList ++ Report.render raw why.head.toList (why.causes.map String.toList) ++
        ['\n'] := rfl

section Render

variable {why : Failure} {root : String}

theorem report_of_one (causes : why.causes = [root])
    (shorter : why.head.toList.length < root.toList.length) (raw : Bool) (notice : Notice) :
    (Ending.failure why).report raw notice = (oneCause why.head root).toList := by
  have ending : "\n\n".toList = ['\n'] ++ ['\n'] := by decide
  rw [Ending.report_failure, causes, List.map_cons, List.map_nil,
    Report.render_of_one raw why.plain_head why.head_ne_nil shorter, Report.lines_of_one, oneCause]
  simp only [String.toList_append, ending, List.append_assoc]

theorem report_of_two {whole cut : String} {lead : Text} (causes : why.causes = [whole, root])
    (hwhole : whole.toList = lead ++ ": ".toList ++ root.toList)
    (hcut : cut.toList = Report.dropColons lead) (left : Report.dropColons lead ≠ [])
    (shorter : why.head.toList.length < lead.length) (last : root.toList.getLast? = some ')')
    (raw : Bool) (notice : Notice) :
    (Ending.failure why).report raw notice = (twoCauses raw why.head whole cut root).toList := by
  have newline : "\n".toList = ['\n'] := by decide
  have nothing : "".toList = [] := by decide
  rw [Ending.report_failure, causes, List.map_cons, List.map_cons, List.map_nil, twoCauses]
  cases raw with
  | true =>
    have hrender : Report.render true why.head.toList [whole.toList, root.toList] =
      Report.lines why.head.toList [whole.toList, root.toList] := rfl
    rw [hrender, Report.lines_of_two]
    simp only [if_true, String.toList_append, newline, nothing, List.append_assoc, List.nil_append]
  | false =>
    rw [hwhole, Report.render_of_two why.plain_head why.head_ne_nil left shorter last (by decide),
      Report.lines_of_two]
    simp only [Bool.false_eq_true, if_false, String.toList_append, newline, hcut,
      String.toList_ofList, List.append_assoc]

end Render

/-- The error of the system that a failure comes from. -/
def Failure.systemCause? : Failure → Option SystemError
  | .output error => some error.cause
  | .unavailable error => error.cause?
  | _ => none

theorem Failure.report_eq_told {why : Failure}
    (coded : ∀ cause, why.systemCause? = some cause → cause.HasCode) (raw : Bool)
    (notice : Notice) : (Ending.failure why).report raw notice = (why.told raw).toList := by
  cases why with
  | config error =>
    cases error with
    | invalid error =>
      have hstart : "Failed to set configuration: ".toList =
        "Failed to set configuration".toList ++ ": ".toList := by decide
      have hwhole : ("Failed to set configuration: " ++ error.message).toList =
          "Failed to set configuration".toList ++ ": ".toList ++ error.message.toList := by
        rw [String.toList_append, hstart]
      have shorter : "failed to load config".toList.length <
          "Failed to set configuration".toList.length := by decide
      refine report_of_two rfl hwhole (by decide) (by decide) ?_ error.message_ends raw notice
      exact shorter
    | zeroCapacity => exact report_of_one rfl (head_shorter rfl) raw notice
    | capacityTooLarge capacity => exact report_of_one rfl (head_shorter rfl) raw notice
  | arguments missing => exact report_of_one rfl (head_shorter rfl) raw notice
  | output error =>
    have hstart : "could not write attribute value to output: ".toList =
      "could not write attribute value to output".toList ++ ": ".toList := by decide
    have hwhole : ("could not write attribute value to output: " ++ error.cause.message).toList =
        "could not write attribute value to output".toList ++ ": ".toList ++
          error.cause.message.toList := by
      rw [String.toList_append, hstart]
    have shorter : "failed to print attribute".toList.length <
        "could not write attribute value to output".toList.length := by decide
    refine report_of_two rfl hwhole (by decide) (by decide) ?_ (coded _ rfl).message_ends raw notice
    exact shorter
  | unavailable error =>
    cases error with
    | missing target => exact report_of_one rfl (head_shorter rfl) raw notice
    | system target cause =>
      let asked := "could not get extended file attribute " ++ target.shownName ++ " of "
      have kept : Report.dropColons asked.toList = asked.toList :=
        Report.dropColons_of_last
          (toList_getLast?_append (by decide : " of ".toList.getLast? = some ' ') _) (by decide)
      have hcut : (asked ++ target.clippedPath).toList =
          Report.dropColons (asked.toList ++ Text.ofBytes target.path) := by
        rw [Report.dropColons_append kept, String.toList_append, Invocation.clippedPath,
          String.toList_ofList, Report.dropColons_eq]
      have hwhole : (asked ++ target.shownPath ++ ": " ++ cause.message).toList =
          asked.toList ++ Text.ofBytes target.path ++ ": ".toList ++ cause.message.toList := by
        simp only [String.toList_append, Invocation.shownPath, String.toList_ofList]
      have shorter : "attribute unavailable".toList.length <
          (asked.toList ++ Text.ofBytes target.path).length := by
        have hhead : "attribute unavailable".toList.length = 21 := by decide
        have hstart : "could not get extended file attribute ".toList.length = 38 := by decide
        simp only [asked, String.toList_append, List.length_append]
        omega
      have left : Report.dropColons (asked.toList ++ Text.ofBytes target.path) ≠ [] := by
        have askedLeft : asked.toList ≠ [] := by
          simp [asked]
        rw [Report.dropColons_append kept]
        exact List.append_ne_nil_of_left_ne_nil askedLeft _
      refine report_of_two rfl hwhole hcut left ?_ (coded cause rfl).message_ends raw notice
      exact shorter
    | tooLarge target length capacity => exact report_of_one rfl (head_shorter rfl) raw notice

/-- What a run writes to standard error, as long as no events are asked for. -/
def standardError (notice : Notice) (start : Start) : Text :=
  (run start).ending.report (wantsRawMessages start.environment) notice

/-- The other start is alike in all that a run looks at until it fails so. -/
def Failure.AgreesUpTo (why : Failure) (start other : Start) : Prop :=
  match why with
  | .config _ => other.environment = start.environment
  | .arguments _ => other.environment = start.environment ∧ other.arguments = start.arguments
  | .output _ =>
    wantsRawMessages other.environment = wantsRawMessages start.environment ∧
      (Config.load other.environment).map Config.capacity =
        (Config.load start.environment).map Config.capacity ∧
      other.arguments = start.arguments ∧ other.source = start.source ∧
      other.stdout = start.stdout
  | .unavailable _ =>
    other.environment = start.environment ∧ other.arguments = start.arguments ∧
      other.source = start.source

theorem wantsRawMessages_iff {environment : Setting.Environment} :
    wantsRawMessages environment = true ↔
      environment.value? (asciiBytes "SNAFU_RAW_ERROR_MESSAGES") = some (asciiBytes "1") :=
  decide_eq_true_iff

theorem Ending.code_eq_one_iff (ending : Ending) :
    ending.code = 1 ↔ ∃ why, ending = .failure why := by
  cases ending <;> simp [Ending.code]

variable {files : Files} {arguments : List Bytes} {environment : Setting.Environment}
  {stdout : Stdout} {why : Failure}

theorem Fails.hasCode (h : Fails files arguments environment stdout why) :
    ∀ cause, why.systemCause? = some cause → cause.HasCode := by
  intro cause hcause
  cases h with
  | config | noPath | noName => cases hcause
  | output =>
    cases hcause
    rfl
  | @unavailable config path name extra error load enough answers policy =>
    cases error with
    | missing | tooLarge => cases hcause
    | system target cause =>
      cases hcause
      obtain ⟨rfl, -⟩ := answers.of_error rfl
      exact files.hasCode (answers.system_iff.mp rfl)

/-- Later stages do not matter. -/
theorem Fails.ending_of_agree (h : Fails files arguments environment stdout why) {other : Start}
    (agree : why.AgreesUpTo ⟨files.source, arguments, environment, stdout⟩ other) :
    (run other).ending = .failure why ∧
      wantsRawMessages other.environment = wantsRawMessages environment := by
  obtain ⟨source, arguments', environment', stdout'⟩ := other
  cases h with
  | config load =>
    obtain rfl : environment' = environment := agree
    simp only [run, load, and_self]
  | noPath load nothing =>
    obtain ⟨rfl, rfl⟩ : environment' = environment ∧ arguments' = arguments := agree
    subst nothing
    simp only [run, load, and_true]
    rfl
  | noName load single =>
    obtain ⟨rfl, rfl⟩ : environment' = environment ∧ arguments' = arguments := agree
    subst single
    simp only [run, load, and_true]
    rfl
  | @output config path name value extra length load enough answers nonempty full =>
    obtain ⟨hraw, hcapacity, rfl, rfl, rfl⟩ :
      wantsRawMessages environment' = wantsRawMessages environment ∧
        (Config.load environment').map Config.capacity =
          (Config.load environment).map Config.capacity ∧
        arguments' = arguments ∧ source = files.source ∧ stdout' = stdout := agree
    rw [load] at hcapacity
    cases load' : Config.load environment' with
    | error failure =>
      rw [load'] at hcapacity
      cases hcapacity
    | ok config' =>
      rw [load'] at hcapacity
      have same : config'.capacity = config.capacity := Except.ok.inj hcapacity
      rw [← same] at answers
      exact ⟨Fails.ending (.output load' enough answers nonempty full), hraw⟩
  | unavailable load enough answers policy =>
    obtain ⟨rfl, rfl, rfl⟩ :
      environment' = environment ∧ arguments' = arguments ∧ source = files.source := agree
    exact ⟨Fails.ending (.unavailable load enough answers policy), rfl⟩

/-- A run ends with code one exactly if one of its stages fails, and the first that does is told.
Errors of settings, of the system and of the output are told with two causes and all others with
one; the innermost is told word for word. The message above it is told in full if messages are
wanted as they are, and otherwise cut and marked, with a note. What comes after the failing stage
makes no difference. -/
theorem first_failure_told (files : Files) (arguments : List Bytes)
    (environment : Setting.Environment) (stdout : Stdout) (notice : Notice) :
    let start : Start := ⟨files.source, arguments, environment, stdout⟩
    let rawMessages := environment.value? (asciiBytes "SNAFU_RAW_ERROR_MESSAGES")
    let standardError := standardError notice
    ((run start).ending.code = 1 ↔ ∃ why, Fails files arguments environment stdout why) ∧
    ∀ why, Fails files arguments environment stdout why →
      (run start).ending = .failure why ∧
      (rawMessages ≠ some (asciiBytes "1") → standardError start = (why.told false).toList) ∧
      (rawMessages = some (asciiBytes "1") → standardError start = (why.told true).toList) ∧
      ∀ other, why.AgreesUpTo start other →
        (run other).ending = .failure why ∧ standardError other = standardError start := by
  intro start rawMessages standardError
  constructor
  · simp only [Ending.code_eq_one_iff, start, run_ending_eq_failure_iff]
  · intro why fails
    have hending : (run start).ending = .failure why := fails.ending
    have htold : standardError start =
        (why.told (wantsRawMessages environment)).toList := by
      change (run start).ending.report _ notice = _
      rw [hending, Failure.report_eq_told fails.hasCode]
    refine ⟨hending, ?_, ?_, ?_⟩
    · intro unwanted
      rw [htold, Bool.eq_false_iff.mpr (mt wantsRawMessages_iff.mp unwanted)]
    · intro wanted
      rw [htold, wantsRawMessages_iff.mpr wanted]
    · intro other agree
      obtain ⟨hother, hraw⟩ := fails.ending_of_agree agree
      refine ⟨hother, ?_⟩
      change (run other).ending.report _ notice = (run start).ending.report _ notice
      rw [hother, hraw, hending]

end Program

end AttributePrinter
