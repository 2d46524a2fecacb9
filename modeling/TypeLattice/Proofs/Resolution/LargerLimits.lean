/-
**Limits are only a safety net.**

The limits of a guard decide whether an array is entered, and whether its shape is kept, since no shape is
kept once a limit was hit. So two resolvers that differ in their limits stay in step for as long as
neither hits one: they have the same path, the same floor, the same known shapes and the same log.

* `Resolver.under`: a resolver with other limits;
* `Visits.under`: visits that hit no limit go the same way under larger limits;
* `Item.resolveAll_under`: so do the resolutions of any number of items;
* `Item.larger_limits_change_nothing`: what that says about a fresh resolver.
-/

import TypeLattice.Proofs.Resolution.Visits

namespace TypeLattice

/-- Limits are compared in both respects. -/
instance : LE Limits :=
  ⟨fun limits larger => limits.depth ≤ larger.depth ∧ limits.iterations ≤ larger.iterations⟩

/-! ### Other limits -/

/-- The guard with other limits. -/
def PathGuard.under {κ : Type} (guard : PathGuard κ) (limits : Limits) : PathGuard κ :=
  { guard with limits }

/-- An attempt within the budget is within a larger one. -/
theorem PathGuard.HasBudget.under {κ : Type} {guard : PathGuard κ} {limits : Limits}
    (budget : guard.HasBudget) (larger : guard.limits ≤ limits) : (guard.under limits).HasBudget := by
  show guard.counted.iterations ≤ limits.iterations.toNat
  exact Nat.le_trans budget (UInt32.le_iff_toNat_le.mp larger.2)

namespace Resolver

/-- The resolver with other limits. -/
def under (resolver : Resolver) (limits : Limits) : Resolver :=
  { resolver with guard := resolver.guard.under limits }

variable {resolver finished : Resolver} {id : ArrayId} {limits : Limits}

theorem AtRest.under (atRest : resolver.AtRest) (limits : Limits) : (resolver.under limits).AtRest :=
  ⟨atRest.stack, atRest.floor⟩

/-- An array is left in the same way: this depends on the floor, the path and on limits that were hit. -/
theorem closed_under (shape : Shape) : (resolver.under limits).closed id (finished.under limits) shape =
    (resolver.closed id finished shape).under limits := by
  cases outside : finished.reachOut resolver.guard.stack.length with
  | some lowest =>
      have outside' : (finished.under limits).reachOut (resolver.under limits).guard.stack.length =
        some lowest := outside
      rw [closed_of_reachOut outside, closed_of_reachOut outside']
      rfl
  | none =>
      have inside' : (finished.under limits).reachOut (resolver.under limits).guard.stack.length = none :=
        outside
      rw [closed_of_inside outside, closed_of_inside inside']
      rfl

variable {slots : ArrayId → Option Shape} {before after : Resolver} {ids : List ArrayId}
  {answers : List (Option Shape)}

/-- **Visits that hit no limit go the same way under larger limits.** -/
theorem Visits.under (visits : Visits slots before ids answers after)
    (within : after.guard.exceeded = false) (larger : before.guard.limits ≤ limits) :
    Visits slots (before.under limits) ids answers (after.under limits) := by
  induction visits with
  | done resolver => exact .done _
  | known found _ ih => exact .known found (ih within larger)
  | cycle unknown budget onPath _ ih =>
      exact .cycle unknown (budget.under larger) onPath (ih within larger)
  | limit _ _ rest _ =>
      -- A limit that was hit would still show at the end.
      cases rest.within within
  | @entered resolver finished after id content ids inner answers unknown budget offPath shallow held
      inside rest deeper ih =>
      have unhit := rest.within_inside within
      have shallow' : resolver.guard.depth < limits.depth := UInt32.lt_of_lt_of_le shallow larger.1
      have frame := frame_closed (content.fill inner) inside.frame
      refine .entered unknown (budget.under larger) offPath shallow' held (deeper unhit larger) ?_
      rw [closed_under]
      exact ih within (by rwa [frame.limits])

end Resolver

/-! ### Items in turn -/

namespace Item

open Resolver

variable {slots : ArrayId → Option Shape} {items results : List Item} {before after : Resolver}
  {limits : Limits}

/-- A limit that was not hit by the last resolution was not hit by any. -/
theorem unhit_of_resolveAll (atRest : before.AtRest)
    (resolved : resolveAll slots items before = .ok results after)
    (within : after.guard.exceeded = false) : before.guard.exceeded = false := by
  by_contra hit
  rw [Bool.not_eq_false] at hit
  have stillHit : after.AtRest ∧ after.guard.exceeded = true := by
    refine resolveAll_induction (fun resolver => resolver.AtRest ∧ resolver.guard.exceeded = true)
      (fun held resolved => ?_) ⟨atRest, hit⟩ resolved
    obtain ⟨answers, visits, -⟩ := (resolve_eq_ok_iff held.1).mp resolved
    exact ⟨held.1.of_visits visits, visits.frame.exceeded held.2⟩
  rw [stillHit.2] at within
  cases within

/-- **Resolutions that hit no limit are the same under larger limits.** -/
theorem resolveAll_under (atRest : before.AtRest)
    (resolved : resolveAll slots items before = .ok results after)
    (within : after.guard.exceeded = false) (larger : before.guard.limits ≤ limits) :
    resolveAll slots items (before.under limits) = .ok results (after.under limits) := by
  induction items generalizing before results with
  | nil =>
      obtain ⟨rfl, rfl⟩ := pure_eq_ok_iff.mp resolved
      rfl
  | cons item rest ih =>
      obtain ⟨result, middle, others, resolvedItem, resolvedRest, rfl⟩ :=
        resolveAll_cons_eq_ok_iff.mp resolved
      obtain ⟨answers, visits, filled⟩ := (resolve_eq_ok_iff atRest).mp resolvedItem
      have middleAtRest := atRest.of_visits visits
      have middleWithin := unhit_of_resolveAll middleAtRest resolvedRest within
      have resolvedItem' : item.resolve slots (before.under limits) = .ok result (middle.under limits) :=
        (resolve_eq_ok_iff (atRest.under limits)).mpr ⟨answers, visits.under middleWithin larger, filled⟩
      have resolvedRest' := ih middleAtRest resolvedRest (by rwa [visits.frame.limits])
      exact resolveAll_cons_eq_ok_iff.mpr ⟨result, _, others, resolvedItem', resolvedRest', rfl⟩

/-- **Limits are only a safety net.** Let a fresh resolver be asked for any items in turn, in any slots.
If it returns all of them and no limit was hit, then under any limits that are at least as large, both
in depth and in attempts, the same items give the same results with the same number of attempts, and
again no limit is hit. The same shapes are known in the end and the same log was written. -/
theorem larger_limits_change_nothing {limits' : Limits} {last : Resolver} (larger : limits ≤ limits')
    (resolved : resolveAll slots items (start limits) = .ok results last)
    (within : last.guard.exceeded = false) :
    ∃ last', resolveAll slots items (start limits') = .ok results last' ∧
      last'.guard.iterations = last.guard.iterations ∧ last'.guard.exceeded = false ∧
      last'.resolved = last.resolved ∧ last'.log = last.log := by
  have same : resolveAll slots items (start limits') = .ok results (last.under limits') :=
    resolveAll_under (atRest_start limits) resolved within larger
  exact ⟨last.under limits', same, rfl, within, rfl, rfl⟩

/-- An array that holds itself. -/
def loopedSlots (id : ArrayId) : Option Shape :=
  if id = ⟨0⟩ then some (.seq ⟨[.localArray ⟨0⟩ .any]⟩) else none

/-- The array, asked for twice. -/
def loopedItems : List Item := [.ty (.localArray ⟨0⟩ .any), .shape (.tuple [⟨[.localArray ⟨0⟩ .any]⟩])]

/-- The resolver after both. One place and two attempts were just enough. -/
def afterLooped : Resolver where
  guard := ⟨⟨1, 2⟩, [], 2, false⟩
  resolved := [(⟨0⟩, .seq ⟨[.any]⟩)]
  floor := none
  log := #[.cycleCut ⟨0⟩ [⟨0⟩]]

theorem resolveAll_looped : resolveAll loopedSlots loopedItems (start ⟨1, 2⟩) =
    .ok [.ty (.array (.seq ⟨[.any]⟩) .any), .shape (.tuple [⟨[.array (.seq ⟨[.any]⟩) .any]⟩])]
      afterLooped :=
  rfl

/-- The limits that a resolution has otherwise make no difference. -/
theorem larger_limits_change_nothing_looped :
    (⟨1, 2⟩ : Limits) ≤ .resolution ∧ afterLooped.guard.exceeded = false ∧
      ∃ last, resolveAll loopedSlots loopedItems (start .resolution) =
          .ok [.ty (.array (.seq ⟨[.any]⟩) .any), .shape (.tuple [⟨[.array (.seq ⟨[.any]⟩) .any]⟩])] last ∧
        last.guard.iterations = 2 ∧ last.guard.exceeded = false ∧
        last.resolved = afterLooped.resolved ∧ last.log = afterLooped.log := by
  have larger : (⟨1, 2⟩ : Limits) ≤ .resolution := ⟨by decide, by decide⟩
  exact ⟨larger, rfl, larger_limits_change_nothing larger resolveAll_looped rfl⟩

end Item

end TypeLattice
