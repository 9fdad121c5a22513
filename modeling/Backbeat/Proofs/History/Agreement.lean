import Backbeat.History.Plain
import Backbeat.Proofs.History.Memory
import Backbeat.Proofs.History.Redis.Alone

/-!
# Keepers of histories agree

A keeper mirrors plain histories when it answers every request as they do and then mirrors the
histories after it.  Histories in memory and histories in Redis both do, so that nobody who makes
one request after the other can tell them apart.
-/

namespace Backbeat

open HistoryRequest (callAll)

section Mirroring

variable {σ : Type} [SeenHistory σ] {related : PlainHistory → σ → Prop}

/-- A keeper answers every request as the plain histories do that it is related to, and is then
related to the histories after it. -/
def Mirrors (related : PlainHistory → σ → Prop) : Prop :=
  ∀ (plain : PlainHistory) (history : σ) (request : HistoryRequest), related plain history →
    ∃ after, request.call.run history = .ok ((plain.answer request).1, after) ∧
      related (plain.answer request).2 after

theorem Mirrors.run_callAll (mirrors : Mirrors related) (requests : List HistoryRequest)
    {plain : PlainHistory} {history : σ} (held : related plain history) :
    ∃ after, (callAll requests).run history = .ok (.ok (plain.answers requests).1, after) ∧
      related (plain.answers requests).2 after := by
  induction requests generalizing plain history with
  | nil => exact ⟨history, rfl, held⟩
  | cons request later ih =>
    obtain ⟨middle, first, kept⟩ := mirrors plain history request held
    obtain ⟨after, others, last⟩ := ih kept
    refine ⟨after, ?_, last⟩
    exact (Action.run_bind_of_ok (Action.run_attempt first)).trans (Action.run_bind_of_ok others)

/-- A push is answered as it should be if it checks the bound before all else, and if its first
attempt then commits. -/
theorem run_call_push {plain : PlainHistory} {history : σ} {user item : String} {bound : Nat}
    {next : Unit → Action σ FeedError Unit} {attempt : Action σ FeedError Attempt}
    (checks : SeenHistory.push user item bound = checkBound bound >>= next)
    (tries : (next ()).run history = (retry plain.retryBudget fun _ => attempt).run history)
    (held : related plain history)
    (commits : bound ≠ 0 → ∃ after, attempt.run history = .ok (.ok .committed, after) ∧
      related (plain.setItems user ((item :: plain.items user).take bound)) after) :
    ∃ after, (HistoryRequest.push user item bound).call.run history =
        .ok ((plain.answer (.push user item bound)).1, after) ∧
      related (plain.answer (.push user item bound)).2 after := by
  rw [PlainHistory.answer, HistoryRequest.call, checks, checkBound]
  by_cases none : bound = 0
  · rw [if_pos none, if_pos none]
    exact ⟨history, rfl, held⟩
  · rw [if_neg none, if_neg none]
    cases budget : plain.retryBudget with
    | zero =>
      rw [budget] at tries
      exact ⟨history, Action.run_bind_of_error (tries.trans rfl), held⟩
    | succ left =>
      rw [budget] at tries
      obtain ⟨after, committed, kept⟩ := commits none
      exact ⟨after, Action.run_bind_of_ok (tries.trans (Action.run_bind_of_ok committed)), kept⟩

end Mirroring

/-- What is kept of a list with one more item at its head. -/
theorem cons_take_pred (item : String) (items : List String) {bound : Nat} (room : bound ≠ 0) :
    item :: items.take (bound - 1) = (item :: items).take bound := by
  rcases Nat.exists_eq_succ_of_ne_zero room with ⟨more, rfl⟩
  exact List.take_succ_cons.symm

namespace MemoryHistory

variable {plain : PlainHistory} {history after : MemoryHistory}

/-- The histories in memory are the plain ones. -/
structure Shows (plain : PlainHistory) (history : MemoryHistory) : Prop where
  items_eq : history.items = plain.items
  budget_eq : history.retryBudget = plain.retryBudget

theorem Shows.setItems (same : Shows plain history) {user : String} {items : List String}
    (own : after.items user = items)
    (others : ∀ other, user ≠ other → after.items other = history.items other)
    (budget : after.retryBudget = history.retryBudget) :
    Shows (plain.setItems user items) after where
  items_eq := by
    funext other
    rw [PlainHistory.items_setItems]
    split
    · next here => exact here ▸ own
    · next different => rw [others other different, same.items_eq]
  budget_eq := budget.trans same.budget_eq

theorem mirrors_shows : Mirrors Shows := by
  intro plain history request same
  cases request with
  | seen user =>
    refine ⟨history, ?_, same⟩
    rw [PlainHistory.answer, ← same.items_eq]
    exact Action.run_bind_of_ok (run_seen history user)
  | clear user =>
    refine ⟨history.clear user, Action.run_bind_of_ok (run_clear history user), ?_⟩
    exact same.setItems (items_clear history user)
      (fun _ different => items_clear_of_ne history different) (retryBudget_clear history user)
  | push user item bound =>
    refine run_call_push rfl (by rw [← same.budget_eq]; rfl) same fun room => ?_
    refine ⟨_, run_tryPush history user item bound, ?_⟩
    refine same.setItems ?_ (fun _ different => items_write_of_ne history _ different) rfl
    rw [items_afterPush, same.items_eq, evict_eq_cons_take]
    exact cons_take_pred item _ room

end MemoryHistory

namespace RedisHistory

open Redis (Host View)

variable {σ : Type} {view : View σ} {url : String} {plain : PlainHistory}
  {history after : RedisHistory σ}

/-- The histories in Redis are the plain ones, and the shared connection is ready. -/
structure Shows (view : View σ) (url : String) (plain : PlainHistory)
    (history : RedisHistory σ) : Prop where
  ready : Ready view url history.shared history
  list_eq : ∀ user, view.list history.server (history.key user) = plain.items user
  budget_eq : history.retryBudget = plain.retryBudget

theorem Remains.key_eq {shared : Nat} (remains : Remains view url shared history after) :
    after.key = history.key := by
  funext user
  exact congrArg (· ++ user) remains.keyStart_eq

theorem key_eq_iff (history : RedisHistory σ) (user other : String) :
    history.key user = history.key other ↔ user = other :=
  ⟨keyStart_append_cancel, fun same => same ▸ rfl⟩

theorem Shows.of_list_eq (same : Shows view url plain history)
    (remains : Remains view url history.shared history after)
    (lists : view.list after.server = view.list history.server) : Shows view url plain after where
  ready := remains.shared_eq ▸ remains.ready
  list_eq user := by rw [lists, remains.key_eq, same.list_eq]
  budget_eq := remains.budget_eq.trans same.budget_eq

theorem Shows.setItems (same : Shows view url plain history)
    (remains : Remains view url history.shared history after) {user : String}
    {items : List String}
    (lists : view.list after.server =
      Function.update (view.list history.server) (history.key user) items) :
    Shows view url (plain.setItems user items) after where
  ready := remains.shared_eq ▸ remains.ready
  list_eq other := by
    rw [lists, remains.key_eq, Function.update_apply, same.list_eq, PlainHistory.items_setItems]
    simp only [history.key_eq_iff, eq_comm]
  budget_eq := remains.budget_eq.trans same.budget_eq

variable [Host σ]

theorem mirrors_shows (lawful : view.Lawful url) : Mirrors (Shows view url) := by
  intro plain history request same
  cases request with
  | seen user =>
    obtain ⟨after, seen, remains, lists⟩ := run_seen lawful same.ready user
    refine ⟨after, ?_, same.of_list_eq remains lists⟩
    rw [PlainHistory.answer, ← same.list_eq]
    exact Action.run_bind_of_ok seen
  | clear user =>
    obtain ⟨after, cleared, remains, lists⟩ := run_clear lawful same.ready user
    exact ⟨after, Action.run_bind_of_ok cleared, same.setItems remains lists⟩
  | push user item bound =>
    refine run_call_push rfl (by rw [← same.budget_eq]; rfl) same fun room => ?_
    obtain ⟨after, committed, pushed⟩ := run_tryPush lawful same.ready (history.key user) item
      (Nat.one_le_iff_ne_zero.mpr room)
    refine ⟨after, committed, same.setItems pushed.toRemains ?_⟩
    rw [← cons_take_pred item _ room, ← same.list_eq]
    exact pushed.list_eq

/-- Connecting to a lawful host that is empty succeeds, whatever the keys start with. -/
theorem shows_of_connect (lawful : view.Lawful url) {server : σ} (sound : view.Sound server)
    (empty : ∀ key, view.list server key = []) :
    ∃ connected : RedisHistory σ, connect server url = .ok connected ∧
      ∀ keyStart budget, Shows view url { retryBudget := budget }
        { connected with keyStart, retryBudget := budget } := by
  obtain ⟨connected, connects, ready, lists⟩ := connect_of_lawful lawful sound
  refine ⟨connected, connects, fun keyStart budget => ⟨⟨ready.sound, ready.url_eq, ready.idle⟩, ?_,
    rfl⟩⟩
  intro user
  exact (congrFun lists (keyStart ++ user)).trans (empty (keyStart ++ user))

end RedisHistory

/-! ## Both keepers -/

/-- Histories in memory and histories in a lawful Redis host that is empty at first agree.
Connecting to the host succeeds.  Then, with the same budget, and under keys that start in any way,
requests that come one after the other are answered alike, namely as plain lists answer them, and
both keepers are left with these lists.  A user gets the answers, and is left with the list, that
the requests of this user alone would come to. -/
theorem memory_and_redis_agree {σ : Type} [Redis.Host σ] {view : Redis.View σ} {url : String}
    (lawful : view.Lawful url) {server : σ} (sound : view.Sound server)
    (empty : ∀ key, view.list server key = []) :
    ∃ connected : RedisHistory σ, RedisHistory.connect server url = .ok connected ∧
      ∀ (budget : Nat) (keyStart : String) (requests : List HistoryRequest),
        ∃ answers plain memory redis,
          PlainHistory.answers { retryBudget := budget } requests = (answers, plain) ∧
          (callAll requests).run ({ retryBudget := budget } : MemoryHistory) =
            .ok (.ok answers, memory) ∧
          (callAll requests).run { connected with keyStart, retryBudget := budget } =
            .ok (.ok answers, redis) ∧
          ∀ user, memory.items user = plain.items user ∧
            view.list redis.server (redis.key user) = plain.items user ∧
            ∃ alone,
              PlainHistory.answers { retryBudget := budget } (requests.filter (·.user = user)) =
                (PlainHistory.answersOf user requests answers, alone) ∧
              alone.items user = plain.items user := by
  obtain ⟨connected, connects, shows⟩ := RedisHistory.shows_of_connect lawful sound empty
  refine ⟨connected, connects, fun budget keyStart requests => ?_⟩
  have remembered : MemoryHistory.Shows { retryBudget := budget } { retryBudget := budget } :=
    ⟨rfl, rfl⟩
  obtain ⟨memory, in_memory, shown⟩ := MemoryHistory.mirrors_shows.run_callAll requests remembered
  obtain ⟨redis, in_redis, shown_there⟩ :=
    (RedisHistory.mirrors_shows lawful).run_callAll requests (shows keyStart budget)
  refine ⟨_, _, memory, redis, rfl, in_memory, in_redis, fun user => ?_⟩
  obtain ⟨own, left⟩ := @PlainHistory.answers_alone user requests { retryBudget := budget }
    { retryBudget := budget } rfl rfl
  refine ⟨congrFun shown.items_eq user, shown_there.list_eq user, _, ?_, left.symm⟩
  exact Prod.ext own.symm rfl

/-- The bound falls below the length of a list, and then leaves no room; one list is cleared. -/
def shrinkingRequests : List HistoryRequest :=
  [.push "ann" "a" 3, .push "ann" "b" 3, .push "bob" "c" 1, .push "ann" "d" 1, .push "ann" "e" 0,
    .seen "ann", .clear "bob", .seen "bob"]

theorem memory_and_redis_agree_shrinking :
    ∃ memory redis,
      (callAll shrinkingRequests).run ({ retryBudget := 7 } : MemoryHistory) =
        .ok (.ok [.ok .done, .ok .done, .ok .done, .ok .done, .error (.invalid .noRoom),
          .ok (.items ["d"]), .ok .done, .ok (.items [])], memory) ∧
      (callAll shrinkingRequests).run { RedisHistory.fresh with keyStart := "seen:" } =
        .ok (.ok [.ok .done, .ok .done, .ok .done, .ok .done, .error (.invalid .noRoom),
          .ok (.items ["d"]), .ok .done, .ok (.items [])], redis) := by
  obtain ⟨connected, connects, agree⟩ := memory_and_redis_agree
    (Redis.Server.lawful ({} : Redis.Server).address) RedisHistory.calm_new fun _ => rfl
  have fresh : RedisHistory.connect ({} : Redis.Server) ({} : Redis.Server).address =
    .ok RedisHistory.fresh := rfl
  cases fresh.symm.trans connects
  obtain ⟨answers, plain, memory, redis, answered, in_memory, in_redis, -⟩ :=
    agree 7 "seen:" shrinkingRequests
  cases answered
  exact ⟨memory, redis, in_memory, in_redis⟩

end Backbeat
