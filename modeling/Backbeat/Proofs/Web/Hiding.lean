import Backbeat.Web.Error

/-!
# What clients are not told

An error is a failure or a plain text, with a chain of causes, to which any number of contexts may
have been added.  The failure under the contexts and the first one of the chain are the same,
unless a plain text has a failure among its causes.

The main statement is that an error is answered with the failure under its contexts, and that of an
internal one a client is told no more than its reason and details: neither its message nor its
causes nor its contexts make any difference.
-/

namespace Backbeat

namespace Report

/-- A failure with any causes or a plain text without a failure among its causes, and what becomes
of them in contexts. -/
inductive IsWrapped : Report → Prop
  | failure (failure : Failure) (causes : List Link) : IsWrapped ⟨.failure failure, causes⟩
  | plain (text : String) {causes : List Link}
    (unfailed : ∀ failure, Link.failure failure ∉ causes) : IsWrapped ⟨.plain text, causes⟩
  | inContext {report : Report} (wrapped : IsWrapped report) (text : String) :
    IsWrapped (report.inContext text)

variable {report : Report}

theorem IsWrapped.inContexts (wrapped : report.IsWrapped) (texts : List String) :
    (report.inContexts texts).IsWrapped := by
  induction texts generalizing report with
  | nil => exact wrapped
  | cons text rest ih => exact ih (wrapped.inContext text)

theorem firstFailure?_eq_none {links : List Link}
    (unfailed : ∀ failure, Link.failure failure ∉ links) : firstFailure? links = none := by
  rw [firstFailure?, List.findSome?_eq_none_iff]
  intro link listed
  cases link with
  | failure failure => exact absurd listed (unfailed failure)
  | _ => rfl

/-- The first failure of the chain is the one under the contexts. -/
theorem IsWrapped.firstFailure?_eq (wrapped : report.IsWrapped) :
    firstFailure? report.links = (underContexts report.links).map Prod.fst := by
  induction wrapped with
  | failure failure causes => rfl
  | @plain text causes unfailed =>
    have none_behind : firstFailure? causes = none := firstFailure?_eq_none unfailed
    exact none_behind
  | inContext wrapped text ih => exact ih

/-- The failure that a report comes to has a message of its own, or that of the whole report. -/
theorem failure?_normalized (report : Report) :
    report.normalized.failure? =
      some (((underContexts report.links).map Prod.fst).getD report.general) := by
  rw [normalized]
  cases underContexts report.links <;> rfl

/-- What a client is shown is the failure that the report comes to, made safe. -/
theorem IsWrapped.shown_eq (wrapped : report.IsWrapped) :
    ∃ told, report.normalized.failure? = some told ∧ report.shown = told.sanitized := by
  refine ⟨_, report.failure?_normalized, ?_⟩
  rw [shown, wrapped.firstFailure?_eq]

/-- A failure with any causes is shown as it is without them. -/
theorem shown_of_failure? {failure : Failure} (headed : report.failure? = some failure) :
    report.shown = failure.sanitized := by
  obtain ⟨outer, causes⟩ := report
  cases outer with
  | failure head =>
    cases headed
    rfl
  | _ => cases headed

end Report

namespace Failure

/-- Of an internal failure no more is seen than its reason and its details. -/
theorem sanitized_eq_of_general {left right : Failure} (internal : left.kind = .general)
    (kind : left.kind = right.kind) (reason : left.reason = right.reason)
    (details : left.details = right.details) : left.sanitized = right.sanitized := by
  have both : right.kind = .general := kind ▸ internal
  have general : FailureKind.general.isInternal = true := rfl
  simp only [sanitized, internal, both, reason, details, general, if_true]

/-- What is seen of every internal failure of the store, the feed and the repository. -/
def unexplained : Failure :=
  { kind := .general, message := internalMessage, reason := some "Internal" }

theorem sanitized_eq_unexplained {failure : Failure} (internal : failure.kind = .general)
    (reason : failure.reason = some "Internal") (details : failure.details = none) :
    failure.sanitized = unexplained :=
  (sanitized_eq_of_general internal internal reason details : _ = unexplained.sanitized)

end Failure

/-! ## Errors of the store, the feed and the repository -/

/-- The report is one of an internal failure. -/
def Report.IsInternal (report : Report) : Prop :=
  ∃ failure, report.failure? = some failure ∧ failure.kind = .general

theorem MediaError.failure?_report (error : MediaError) :
    error.report.failure? = some error.failure := by
  rw [report]
  split <;> rfl

theorem MediaError.shown_of_internal {error : MediaError} (internal : error.report.IsInternal) :
    error.report.shown = .unexplained := by
  obtain ⟨failure, headed, general⟩ := internal
  rw [Report.shown_of_failure? headed]
  cases headed.symm.trans error.failure?_report
  have reason : error.reason = "Internal" := by
    cases error with
    | backend cause => rfl
    | stream fault => rfl
    | _ => cases general
  exact Failure.sanitized_eq_unexplained general (congrArg some reason) rfl

theorem FeedError.shown_of_internal {error : FeedError} (internal : error.report.IsInternal) :
    error.report.shown = .unexplained := by
  obtain ⟨failure, headed, general⟩ := internal
  rw [Report.shown_of_failure? headed]
  cases error with
  | backend cause =>
    cases headed
    exact Failure.sanitized_eq_unexplained rfl rfl rfl
  | _ =>
    cases headed
    cases general

theorem RepositoryError.shown_of_internal {error : RepositoryError}
    (internal : error.report.IsInternal) : error.report.shown = .unexplained := by
  obtain ⟨failure, headed, general⟩ := internal
  rw [Report.shown_of_failure? headed]
  cases error with
  | notFound what =>
    cases headed
    cases general
  | _ =>
    cases headed
    exact Failure.sanitized_eq_unexplained rfl rfl rfl

/-! ## Responses -/

namespace Web

open Report (IsWrapped)

/-- An error is answered with the failure that it comes to, made safe.  Internal ones with the same
reason and details are answered alike, and those of store, feed and repository all alike. -/
theorem internals_hidden :
    (∀ report : Report, report.IsWrapped →
      ∃ told, report.normalized.failure? = some told ∧
        (Response.ofFailure report.shown).status = told.sanitized.kind.code ∧
        (Response.ofFailure report.shown).body = told.sanitized.toJson.render.toUTF8) ∧
    (∀ left right : Report, left.IsWrapped → right.IsWrapped →
      ∀ told other, left.normalized.failure? = some told → right.normalized.failure? = some other →
        told.kind = .general → told.kind = other.kind → told.reason = other.reason →
        told.details = other.details →
        Response.ofFailure left.shown = Response.ofFailure right.shown) ∧
    (∀ error : MediaError, error.report.IsInternal →
      (WebError.media error).response = .ofFailure .unexplained) ∧
    (∀ error : FeedError, error.report.IsInternal →
      (WebError.feed error).response = .ofFailure .unexplained) ∧
    (∀ error : RepositoryError, error.report.IsInternal →
      (WebError.repository error).response = .ofFailure .unexplained) := by
  refine ⟨?_, ?_, ?_, ?_, ?_⟩
  · intro report wrapped
    obtain ⟨told, normal, shown⟩ := wrapped.shown_eq
    refine ⟨told, normal, ?_, ?_⟩
    · rw [shown]
      rfl
    · rw [shown]
      rfl
  · intro left right leftWrapped rightWrapped told other tells tellsOther internal kind reason
      details
    obtain ⟨_, normal, shown⟩ := leftWrapped.shown_eq
    cases tells.symm.trans normal
    obtain ⟨_, normal, shownOther⟩ := rightWrapped.shown_eq
    cases tellsOther.symm.trans normal
    rw [shown, shownOther, Failure.sanitized_eq_of_general internal kind reason details]
  · intro error internal
    exact congrArg Response.ofFailure (MediaError.shown_of_internal internal)
  · intro error internal
    exact congrArg Response.ofFailure (FeedError.shown_of_internal internal)
  · intro error internal
    exact congrArg Response.ofFailure (RepositoryError.shown_of_internal internal)

/-- A connection that is refused. -/
def refusedConnection : Failure :=
  { kind := .general, message := "redis at 10.0.0.3 refused connection", reason := some "Internal" }

/-- With its cause and in two contexts it is answered as a full disk is. -/
theorem internals_hidden_refusal :
    Response.ofFailure ((Report.causedBy refusedConnection (.ofText "reset by peer")).inContexts
        ["reading the history", "choosing a beat"]).shown =
      Response.ofFailure
        (Report.ofFailure { refusedConnection with message := "the disk is full" }).shown ∧
    (Response.ofFailure
        ((Report.ofText "out of memory").inContext "choosing a beat").shown).status =
      500 ∧
    (WebError.media (.backend "10.0.0.3 timed out")).response = .ofFailure .unexplained ∧
    (WebError.feed (.backend "10.0.0.4 timed out")).response = .ofFailure .unexplained ∧
    (WebError.repository (.catalog .noList)).response = .ofFailure .unexplained := by
  obtain ⟨answered, alike, media, feed, repository⟩ := internals_hidden
  have plain : ((Report.ofText "out of memory").inContext "choosing a beat").IsWrapped :=
    .inContext (.plain _ fun _ => List.not_mem_nil) _
  obtain ⟨told, normal, status, -⟩ := answered _ plain
  refine ⟨?_, ?_, ?_, ?_, ?_⟩
  · exact alike _ _ ((IsWrapped.failure refusedConnection _).inContexts _) (.failure _ _) _ _ rfl
      rfl
      rfl rfl rfl rfl
  · cases normal
    exact status
  · exact media _ ⟨_, rfl, rfl⟩
  · exact feed _ ⟨_, rfl, rfl⟩
  · exact repository _ ⟨_, rfl, rfl⟩

end Web

end Backbeat
