import Backbeat.History.Request

/-!
# Histories as plain lists

What a keeper of histories is to answer when one request comes after the other, said without the
means by which a keeper works: every user has a list of items, the latest first, and a request
concerns the list of its user only.
-/

namespace Backbeat

/-- Make calls one after the other, and note how each of them ends. -/
def HistoryRequest.callAll {σ : Type} [SeenHistory σ] (requests : List HistoryRequest) :
    Action σ FeedError (List (Except FeedError HistoryAnswer)) :=
  Action.each (fun request => request.call.attempt) requests

/-- A list for every user, and how often a push may be tried. -/
structure PlainHistory where
  items : String → List String := fun _ => []
  retryBudget : Nat

namespace PlainHistory

def setItems (history : PlainHistory) (user : String) (items : List String) : PlainHistory :=
  { history with items := fun other => if user = other then items else history.items other }

/-- The answer to a request, and the histories after it. -/
def answer (history : PlainHistory) :
    HistoryRequest → Except FeedError HistoryAnswer × PlainHistory
  | .seen user => (.ok (.items (history.items user)), history)
  | .push user item bound =>
    if bound = 0 then (.error (.invalid .noRoom), history)
    else if history.retryBudget = 0 then (.error (.retriesExceeded 0), history)
    else (.ok .done, history.setItems user ((item :: history.items user).take bound))
  | .clear user => (.ok .done, history.setItems user [])

/-- The answers to requests that come one after the other, and the histories after them. -/
def answers (history : PlainHistory) :
    List HistoryRequest → List (Except FeedError HistoryAnswer) × PlainHistory
  | [] => ([], history)
  | request :: later =>
    let (first, after) := history.answer request
    let (others, last) := after.answers later
    (first :: others, last)

theorem answers_cons (history : PlainHistory) (request : HistoryRequest)
    (later : List HistoryRequest) :
    history.answers (request :: later) =
      ((history.answer request).1 :: ((history.answer request).2.answers later).1,
        ((history.answer request).2.answers later).2) := rfl

@[simp]
theorem items_setItems (history : PlainHistory) (user other : String) (items : List String) :
    (history.setItems user items).items other =
      if user = other then items else history.items other := rfl

/-! ## Whom a request concerns -/

theorem retryBudget_answer (history : PlainHistory) (request : HistoryRequest) :
    (history.answer request).2.retryBudget = history.retryBudget := by
  cases request with
  | seen user => rfl
  | clear user => rfl
  | push user item bound =>
    rw [answer]
    split
    · rfl
    · split <;> rfl

/-- A request leaves the lists of other users as they are. -/
theorem items_answer_of_ne (history : PlainHistory) {request : HistoryRequest} {other : String}
    (different : request.user ≠ other) :
    (history.answer request).2.items other = history.items other := by
  cases request with
  | seen user => rfl
  | clear user => exact if_neg different
  | push user item bound =>
    rw [answer]
    split
    · rfl
    · split
      · rfl
      · exact if_neg different

/-- Of all lists, a request takes account of the one of its user only. -/
theorem answer_congr {history other : PlainHistory} {request : HistoryRequest}
    (budget : history.retryBudget = other.retryBudget)
    (items : history.items request.user = other.items request.user) :
    (history.answer request).1 = (other.answer request).1 ∧
      (history.answer request).2.items request.user =
        (other.answer request).2.items request.user := by
  cases request with
  | seen user =>
    have same : history.items user = other.items user := items
    exact ⟨by rw [answer, answer, same], same⟩
  | clear user => exact ⟨rfl, by simp [answer, HistoryRequest.user]⟩
  | push user item bound =>
    have same : history.items user = other.items user := items
    rw [answer, answer, budget, same]
    split
    · exact ⟨rfl, same⟩
    · split
      · exact ⟨rfl, same⟩
      · exact ⟨rfl, by simp [HistoryRequest.user]⟩

/-- The answers among many that a user gets. -/
def answersOf (user : String) (requests : List HistoryRequest)
    (answers : List (Except FeedError HistoryAnswer)) : List (Except FeedError HistoryAnswer) :=
  ((requests.zip answers).filter (·.1.user = user)).map Prod.snd

/-- A user gets the answers, and is left with the list, that the requests of this user alone
would come to. -/
theorem answers_alone (user : String) (requests : List HistoryRequest)
    {history other : PlainHistory} (budget : history.retryBudget = other.retryBudget)
    (items : history.items user = other.items user) :
    answersOf user requests (history.answers requests).1 =
        (other.answers (requests.filter (·.user = user))).1 ∧
      (history.answers requests).2.items user =
        (other.answers (requests.filter (·.user = user))).2.items user := by
  induction requests generalizing history other with
  | nil => exact ⟨rfl, items⟩
  | cons request later ih =>
    rw [answers_cons]
    by_cases own : request.user = user
    · subst own
      obtain ⟨first, left⟩ := answer_congr budget items
      have budgets : (history.answer request).2.retryBudget =
          (other.answer request).2.retryBudget := by
        rwa [retryBudget_answer, retryBudget_answer]
      obtain ⟨others, last⟩ := ih budgets left
      rw [List.filter_cons_of_pos (by simp), answers_cons, ← others, ← first]
      exact ⟨by simp [answersOf], last⟩
    · have left : (history.answer request).2.items user = other.items user :=
        (history.items_answer_of_ne own).trans items
      have budgets : (history.answer request).2.retryBudget = other.retryBudget := by
        rwa [retryBudget_answer]
      obtain ⟨others, last⟩ := ih budgets left
      rw [List.filter_cons_of_neg (by simpa using own), ← others]
      exact ⟨by simp [answersOf, own], last⟩

end PlainHistory

end Backbeat
