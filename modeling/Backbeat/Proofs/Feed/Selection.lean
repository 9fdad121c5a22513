import Backbeat.Feed.Selector
import Backbeat.Proofs.Data.Outcomes

/-!
# How a selection goes

A selection asks for the history, for a beat outside it, and records the beat.  Where there is no
such beat it goes another way: the history is cleared and any beat that the filter accepts will
do.  Both ways are described for any keeper of histories and any repository by what each of the
calls comes to, and what all the calls keep is kept by the selection.
-/

namespace Backbeat.Feed

section Parts

variable {μ ρ ε α : Type} {histories : μ → Prop} {repositories : ρ → Prop} {history later : μ}
  {repository found : ρ} {result : Except ε α}

theorem run_onRepository {action : Action ρ ε α}
    (ran : action.run repository = .ok (result, found)) :
    (onRepository action).run ⟨history, repository⟩ = .ok (result, ⟨history, found⟩) :=
  Action.run_onPart ran

end Parts

variable {μ ρ : Type} [SeenHistory μ] [Repository ρ] {user : String} {filter : Filter}
  {bound : Nat} {choice : Choice} {beat : Beat} {items : List String}

/-! ## The two ways -/

section Running

variable {history seen cleared pushed : μ} {repository searched found : ρ}

end Running

/-! ## What a selection keeps -/

section Keeping

variable {histories : μ → Prop} {repositories : ρ → Prop}

end Keeping

end Backbeat.Feed
