import JobGate.Proofs.Envelopes
import JobGate.Report

/-!
Folding a report into the backend's reply. A reply that decodes takes any report: what the report
speaks of is written in front, and every other member keeps its value and its place among the
others (`Report.amend_merges`). With an empty report the reply stays the same document up to the
order of its members and the members that it lacked, so passing it on unread agrees with folding
(`Report.Merges.perm_of_isEmpty`). Errors are not merged as warnings are: those that validators
found take the place of the backend's (`Report.errors_kept_iff`).
-/
namespace JobGate

/-- The members of a reply that a report may change, with what stands for those that are absent. -/
def Route.reported : Route → Members
  | .register | .plan => [("Warnings", .string "")]
  | .validate => [("Warnings", .string ""), ("ValidationErrors", .null), ("Error", .string "")]

/-- The body decodes as a reply on the route. -/
def Route.Reads (route : Route) (body : Bytes) : Prop :=
  match route with
  | .register | .plan => ∃ reply, decodeBytes JobReply.decoder body = .ok reply
  | .validate => ∃ reply, decodeBytes ValidationReply.decoder body = .ok reply

namespace Route

/-- The routes that block a job take the same kind of reply. -/
theorem reported_of_blocks {route : Route} (blocks : route ≠ .validate) :
    route.reported = [("Warnings", .string "")] := by
  cases route with
  | register => rfl
  | plan => rfl
  | validate => exact absurd rfl blocks

theorem reads_of_blocks {route : Route} (blocks : route ≠ .validate) {body : Bytes} :
    route.Reads body ↔ ∃ reply, decodeBytes JobReply.decoder body = .ok reply := by
  cases route with
  | register => exact Iff.rfl
  | plan => exact Iff.rfl
  | validate => exact absurd rfl blocks

end Route

namespace Report

/-- The members of a reply with the report folded in, against those that were given. -/
structure Merges (report : Report) (given result : Members) : Prop where
  once : result.keys.Nodup
  /-- All that the report does not speak of stays, in its order. -/
  frame : result.without report.route.reported.keys = given.without report.route.reported.keys
  gains : ∀ key ∈ result.keys, key ∈ given.keys ∨ key ∈ report.route.reported.keys
  warnings : ∃ text, (given.get? "Warnings").getD (.string "") = .string text ∧
    result.get? "Warnings" = some (.string (combinedWarnings text report.warnings))
  /-- Without errors to report the backend's stay. -/
  unchanged : report.route = .validate → report.validation = none →
    result.get? "ValidationErrors" = some ((given.get? "ValidationErrors").getD .null) ∧
      result.get? "Error" = some ((given.get? "Error").getD (.string ""))
  validation : ∀ causes, report.route = .validate → report.validation = some causes →
    result.get? "ValidationErrors" = some (Json.ofStrings causes.list) ∧
      result.get? "Error" = some (.string causes.text)

/-- What is written in front of the members that a report does not speak of. -/
theorem merges_front {report : Report} {given : Members} (front : Members)
    (once : given.keys.Nodup)
    (named : front.keys = report.route.reported.keys)
    (warnings : ∃ text, (given.get? "Warnings").getD (.string "") = .string text ∧
      front.get? "Warnings" = some (.string (combinedWarnings text report.warnings)))
    (unchanged : report.route = .validate → report.validation = none →
      front.get? "ValidationErrors" = some ((given.get? "ValidationErrors").getD .null) ∧
        front.get? "Error" = some ((given.get? "Error").getD (.string "")))
    (validation : ∀ causes, report.route = .validate → report.validation = some causes →
      front.get? "ValidationErrors" = some (Json.ofStrings causes.list) ∧
        front.get? "Error" = some (.string causes.text)) :
    report.Merges given (front ++ given.without front.keys) := by
  have distinct : front.keys.Nodup := by
    rw [named]
    cases report.route <;> decide
  have infront {key : String} {value : Json} (found : front.get? key = some value) :
      Members.get? key (front ++ given.without front.keys) = some value := by
    rw [Members.get?_append, found]
    rfl
  constructor
  · exact Members.nodup_keys_front distinct once
  · rw [← named]
    exact Members.without_front front given
  · intro key written
    rw [Members.keys, List.map_append, List.mem_append] at written
    rcases written with declared | kept
    · exact .inr (named ▸ declared)
    · exact .inl ((Members.mem_keys_without _ _ _).mp kept).2
  · obtain ⟨text, upstream, merged⟩ := warnings
    exact ⟨text, upstream, infront merged⟩
  · intro validates clean
    exact ⟨infront (unchanged validates clean).1, infront (unchanged validates clean).2⟩
  · intro causes validates found
    obtain ⟨errors, error⟩ := validation causes validates found
    exact ⟨infront errors, infront error⟩

theorem merges_jobReply {report : Report} {given : Members} {reply : JobReply}
    (blocks : report.route ≠ .validate) (once : given.keys.Nodup)
    (warnings : (given.get? "Warnings").getD (.string "") = .string reply.warnings)
    (rest : reply.rest = given.without ["Warnings"]) :
    ∃ result : Members, (report.amendJobReply reply).toJson = .object result ∧
      report.Merges given result := by
  refine ⟨_, ?_, merges_front
    [("Warnings", .string (combinedWarnings reply.warnings report.warnings))] once
    (by rw [Route.reported_of_blocks blocks]; rfl) ⟨reply.warnings, warnings, rfl⟩
    (fun validates => absurd validates blocks) (fun _ validates => absurd validates blocks)⟩
  simp [amendJobReply, JobReply.toJson, rest, Members.keys]

theorem merges_validationReply {report : Report} {given : Members} {reply : ValidationReply}
    (validates : report.route = .validate) (once : given.keys.Nodup)
    (warnings : (given.get? "Warnings").getD (.string "") = .string reply.warnings)
    (errors : (given.get? "ValidationErrors").getD .null =
      (reply.validationErrors.map Json.ofStrings).getD .null)
    (error : (given.get? "Error").getD (.string "") = .string reply.error)
    (rest : reply.rest = given.without ["Warnings", "ValidationErrors", "Error"]) :
    ∃ result : Members, (report.amendValidationReply reply).toJson = .object result ∧
      report.Merges given result := by
  rcases found : report.validation with _ | causes
  · refine ⟨_, ?_, merges_front
      [("Warnings", .string (combinedWarnings reply.warnings report.warnings)),
        ("ValidationErrors", (reply.validationErrors.map Json.ofStrings).getD .null),
        ("Error", .string reply.error)] once
      (by rw [validates]; rfl) ⟨reply.warnings, warnings, rfl⟩ ?_ ?_⟩
    · simp [amendValidationReply, ValidationReply.toJson, found, rest, Members.keys]
    · intro _ _
      rw [errors, error]
      exact ⟨rfl, rfl⟩
    · simp [found]
  · refine ⟨_, ?_, merges_front
      [("Warnings", .string (combinedWarnings reply.warnings report.warnings)),
        ("ValidationErrors", Json.ofStrings causes.list), ("Error", .string causes.text)] once
      (by rw [validates]; rfl) ⟨reply.warnings, warnings, rfl⟩ ?_ ?_⟩
    · simp [amendValidationReply, ValidationReply.toJson, found, rest, Members.keys]
    · simp [found]
    · intro other _ same
      obtain rfl : causes = other := Option.some.inj (found.symm.trans same)
      exact ⟨rfl, rfl⟩

theorem amend_jobReply {report : Report} (blocks : report.route ≠ .validate) (body : Bytes) :
    report.amend body = (decodeBytes JobReply.decoder body).map fun reply =>
      (report.amendJobReply reply).toJson := by
  cases named : report.route with
  | register => simp [amend, named]
  | plan => simp [amend, named]
  | validate => exact absurd named blocks

theorem amend_validationReply {report : Report} (validates : report.route = .validate)
    (body : Bytes) :
    report.amend body = (decodeBytes ValidationReply.decoder body).map fun reply =>
      (report.amendValidationReply reply).toJson := by
  simp [amend, validates]

/-- A reply that decodes takes any report. -/
theorem amend_merges {report : Report} {body : Bytes} (reads : report.route.Reads body) :
    ∃ given result : Members, decodeBytes Decoder.json body = .ok (.object given) ∧
      given.keys.Nodup ∧ report.amend body = .ok (.object result) ∧
      report.Merges given result := by
  by_cases validates : report.route = .validate
  · rw [validates] at reads
    obtain ⟨reply, decoded⟩ := reads
    obtain ⟨given, read, once, warnings, errors, error, rest⟩ :=
      ValidationReply.decodeBytes_validationReply decoded
    obtain ⟨result, written, merges⟩ :=
      merges_validationReply validates once warnings errors error rest
    refine ⟨given, result, read, once, ?_, merges⟩
    rw [amend_validationReply validates, decoded, Except.map, written]
  · obtain ⟨reply, decoded⟩ := (Route.reads_of_blocks validates).mp reads
    obtain ⟨given, read, once, warnings, rest⟩ := JobReply.decodeBytes_jobReply decoded
    obtain ⟨result, written, merges⟩ := merges_jobReply validates once warnings rest
    refine ⟨given, result, read, once, ?_, merges⟩
    rw [amend_jobReply validates, decoded, Except.map, written]

/-- With an empty report a reply keeps what it has and gets what it lacks. -/
theorem Merges.get?_of_isEmpty {report : Report} {given result : Members}
    (merges : report.Merges given result) (empty : report.isEmpty = true) (key : String) :
    result.get? key = (given.get? key).or (report.route.reported.get? key) := by
  obtain ⟨silent, clean⟩ : report.warnings = [] ∧ report.validation = none := by
    simpa [isEmpty] using empty
  have warnings : result.get? "Warnings" = some ((given.get? "Warnings").getD (.string "")) := by
    obtain ⟨text, upstream, merged⟩ := merges.warnings
    rw [merged, upstream, silent]
    rfl
  by_cases reported : key ∈ report.route.reported.keys
  · by_cases validates : report.route = .validate
    · obtain ⟨errors, error⟩ := merges.unchanged validates clean
      rw [validates] at reported ⊢
      obtain rfl | rfl | rfl : key = "Warnings" ∨ key = "ValidationErrors" ∨ key = "Error" := by
        simpa [Route.reported, Members.keys] using reported
      · simp [warnings, Route.reported, Members.get?]
      · simp [errors, Route.reported, Members.get?]
      · simp [error, Route.reported, Members.get?]
    · rw [Route.reported_of_blocks validates] at reported ⊢
      obtain rfl : key = "Warnings" := by simpa [Members.keys] using reported
      simp [warnings, Members.get?]
  · have framed := congrArg (Members.get? key) merges.frame
    rw [Members.get?_without, Members.get?_without, if_neg reported, if_neg reported] at framed
    rw [framed, (Members.get?_eq_none_iff key _).mpr reported, Option.or_none]

/-- With an empty report the document stays the same up to the order of its members, but for the
    members that a report may change, which are there afterwards. -/
theorem Merges.perm_of_isEmpty {report : Report} {given result : Members}
    (merges : report.Merges given result) (once : given.keys.Nodup)
    (empty : report.isEmpty = true) :
    result.Perm (given ++ report.route.reported.without given.keys) := by
  have distinct : report.route.reported.keys.Nodup := by cases report.route <;> decide
  refine Members.perm_of_get? merges.once ?_ fun key => ?_
  · rw [Members.keys, List.map_append]
    refine once.append (Members.nodup_keys_without distinct _) ?_
    intro key there lacked
    exact ((Members.mem_keys_without _ _ _).mp lacked).1 there
  · rw [merges.get?_of_isEmpty empty, Members.get?_append, Members.get?_without]
    by_cases there : key ∈ given.keys
    · obtain ⟨value, found⟩ := Option.ne_none_iff_exists'.mp
        (mt (Members.get?_eq_none_iff key given).mp (not_not_intro there))
      simp [found]
    · simp [there]

/-- A reply that decodes can be folded into, and the text that it becomes is that of an object with
    the reply's other members as they were. With an empty report it stays the same document. -/
theorem fold_merges {report : Report} {body : Bytes} (reads : report.route.Reads body) :
    ∃ given result : Members, decodeBytes Decoder.json body = .ok (.object given) ∧
      report.fold body = .ok (Json.object result).bytes ∧ report.Merges given result ∧
      (report.isEmpty = true →
        result.Perm (given ++ report.route.reported.without given.keys)) := by
  obtain ⟨given, result, read, once, amended, merges⟩ := amend_merges reads
  refine ⟨given, result, read, ?_, merges, merges.perm_of_isEmpty once⟩
  rw [fold, amended]
  rfl

/-- A reply to a validation: a key stands twice, and the errors are absent. -/
def validationText : Bytes :=
  Utf8.encode "\x7b\"Z\":1,\"Warnings\":\"w0\",\"DriverConfigValidated\":true,\"Z\":[2]\x7d"

/-- A report of a warning and two errors. -/
def twoErrors : Report := ⟨.validate, ["w1"], some ⟨["bad policy", "no owner"]⟩⟩

theorem two_errors_folded :
    Route.validate.Reads validationText ∧
      (∃ given result : Members, decodeBytes Decoder.json validationText = .ok (.object given) ∧
        twoErrors.fold validationText = .ok (Json.object result).bytes ∧
        twoErrors.Merges given result) ∧
      ∃ given result : Members, decodeBytes Decoder.json validationText = .ok (.object given) ∧
        Report.fold ⟨.validate, [], none⟩ validationText = .ok (Json.object result).bytes ∧
        result.Perm (given ++ Route.validate.reported.without given.keys) := by
  have reads : Route.validate.Reads validationText :=
    ⟨⟨"w0", none, "", [("Z", .array [Json.ofInt 2]), ("DriverConfigValidated", .bool true)]⟩,
      by decide +kernel⟩
  obtain ⟨given, result, read, folded, merges, -⟩ :=
    fold_merges (show twoErrors.route.Reads validationText from reads)
  obtain ⟨same, kept, readSame, foldedSame, -, perm⟩ :=
    fold_merges (show (Report.mk .validate [] none).route.Reads validationText from reads)
  exact ⟨reads, ⟨given, result, read, folded, merges⟩, same, kept, readSame, foldedSame, perm rfl⟩

/-- The members list the errors that the backend gave and those that validators found, each in their
    order, and say what the backend said. -/
def KeepsErrors (result : Members) (reply : ValidationReply) (causes : Causes) : Prop :=
  ∃ listed said, result.get? "ValidationErrors" = some (Json.ofStrings listed) ∧
    result.get? "Error" = some (.string said) ∧
    (reply.validationErrors.getD []).Sublist listed ∧ causes.list.Sublist listed ∧
    (reply.error ≠ "" → reply.error.toList <:+: said.toList)

/-- Errors that validators found take the place of those that the backend gave, so these are kept
    only where the others hold them anyway. -/
theorem errors_kept_iff {report : Report} {causes : Causes} {body : Bytes}
    {reply : ValidationReply} (validates : report.route = .validate)
    (found : report.validation = some causes)
    (decoded : decodeBytes ValidationReply.decoder body = .ok reply) :
    ∃ result : Members, report.amend body = .ok (.object result) ∧
      report.fold body = .ok (Json.object result).bytes ∧
      result.get? "ValidationErrors" = some (Json.ofStrings causes.list) ∧
      result.get? "Error" = some (.string causes.text) ∧
      (KeepsErrors result reply causes ↔
        (reply.validationErrors.getD []).Sublist causes.list ∧
          (reply.error ≠ "" → reply.error.toList <:+: causes.text.toList)) := by
  have reads : report.route.Reads body := by
    rw [validates]
    exact ⟨reply, decoded⟩
  obtain ⟨given, result, _, _, amended, merges⟩ := amend_merges reads
  obtain ⟨errors, error⟩ := merges.validation causes validates found
  refine ⟨result, amended, by rw [fold, amended]; rfl, errors, error, ?_, ?_⟩
  · rintro ⟨listed, said, lists, spoken, kept, _, heard⟩
    obtain rfl : causes.list = listed :=
      ofStrings_injective (Option.some.inj (errors.symm.trans lists))
    obtain rfl : causes.text = said := Json.string.inj (Option.some.inj (error.symm.trans spoken))
    exact ⟨kept, heard⟩
  · rintro ⟨kept, heard⟩
    exact ⟨causes.list, causes.text, errors, error, kept, List.Sublist.refl _, heard⟩

/-- A validation that the backend objects to. -/
def objectionText : Bytes :=
  Utf8.encode "\x7b\"ValidationErrors\":[\"driver missing\"],\"Error\":\"driver missing\"\x7d"

def badPolicy : Report := ⟨.validate, [], some ⟨["bad policy"]⟩⟩

def objection : ValidationReply := ⟨"", some ["driver missing"], "driver missing", []⟩

theorem backend_errors_lost :
    decodeBytes ValidationReply.decoder objectionText = .ok objection ∧
      ∃ result : Members, badPolicy.amend objectionText = .ok (.object result) ∧
        ¬ KeepsErrors result objection ⟨["bad policy"]⟩ := by
  refine ⟨by decide +kernel, [("Warnings", .string ""),
    ("ValidationErrors", Json.ofStrings ["bad policy"]),
    ("Error", .string "1 error occurred:\n\t* bad policy\n\n")], by decide +kernel, ?_⟩
  rintro ⟨listed, said, lists, _, kept, _⟩
  have same : Json.ofStrings ["bad policy"] = Json.ofStrings listed := by
    simpa [Members.get?, Json.ofStrings] using lists
  obtain rfl := ofStrings_injective same
  simp [objection] at kept

theorem objection_replaced :
    badPolicy.route = .validate ∧ badPolicy.validation = some ⟨["bad policy"]⟩ ∧
      decodeBytes ValidationReply.decoder objectionText = .ok objection ∧
      ∃ result : Members, badPolicy.fold objectionText = .ok (Json.object result).bytes ∧
        result.get? "ValidationErrors" = some (Json.ofStrings ["bad policy"]) ∧
        ¬ KeepsErrors result objection ⟨["bad policy"]⟩ := by
  have decoded : decodeBytes ValidationReply.decoder objectionText = .ok objection := by
    decide +kernel
  obtain ⟨result, _, folded, errors, _, kept⟩ :=
    errors_kept_iff (show badPolicy.route = .validate from rfl) rfl decoded
  refine ⟨rfl, rfl, decoded, result, folded, errors, fun keeps => ?_⟩
  obtain ⟨listed, _⟩ := kept.mp keeps
  simp [objection] at listed

end Report
end JobGate
